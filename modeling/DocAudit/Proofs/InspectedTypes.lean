import DocAudit.Java.Grammar
import DocAudit.Proofs.DeclarationNesting
import DocAudit.Rule.TypeDoc
import Mathlib.Data.List.Basic

set_option autoImplicit false

namespace DocAudit

def Declaration.isNamedType : Declaration → Bool
  | .type decl => decl.kind ≠ .anonymousBody
  | _ => false

namespace Nesting

def isInspected (nesting : Nesting) : Bool :=
  nesting.decl.isNamedType && nesting.around.all Declaration.isNamedType

def type? : Nesting → Option (List TypeDecl × TypeDecl)
  | ⟨around, .type decl⟩ => some (around.filterMap Declaration.type?, decl)
  | _ => none

def inspected (nestings : List Nesting) : List (List TypeDecl × TypeDecl) :=
  (nestings.filter isInspected).filterMap type?

theorem inspected_append (nestings later : List Nesting) :
    inspected (nestings ++ later) = inspected nestings ++ inspected later := by
  simp [inspected]

theorem suffix_of_inner {around : List Declaration} {decl : Declaration} {nestings : List Nesting}
    (inner : ∀ nesting ∈ nestings, decl :: around <:+ nesting.around) :
    ∀ nesting ∈ (⟨around, decl⟩ : Nesting) :: nestings, around <:+ nesting.around :=
  List.forall_mem_cons.mpr ⟨List.suffix_refl around, fun nesting member =>
    (List.suffix_cons decl around).trans (inner nesting member)⟩

-- What stands around a declaration stands around all that it holds.
theorem suffix_induction : DeclarationInduction
    (fun types => ∀ around, ∀ nesting ∈ ofTypes around types, around <:+ nesting.around)
    (fun members => ∀ around, ∀ nesting ∈ ofMembers around members, around <:+ nesting.around)
    (fun statements => ∀ around, ∀ nesting ∈ ofStatements around statements,
      around <:+ nesting.around) where
  noTypes around := by simp [ofTypes]
  addType decl rest inner later around := by
    rw [ofTypes, ofType_eq]
    exact List.forall_mem_append.mpr ⟨suffix_of_inner (inner (.type decl :: around)), later around⟩
  noMembers around := by simp [ofMembers]
  addMethod decl rest inner later around := by
    rw [ofMembers, ofMember, ofMethod_eq]
    refine List.forall_mem_append.mpr ⟨suffix_of_inner ?_, later around⟩
    exact MethodDecl.statements_induction (by simp [ofStatements])
      fun body present => inner body present (.method decl :: around)
  addStaticInit line body rest inner later around := by
    rw [ofMembers, ofMember_staticInit]
    exact List.forall_mem_append.mpr
      ⟨suffix_of_inner (inner (.staticInit line body :: around)), later around⟩
  addMemberType decl rest inner later around := by
    rw [ofMembers, ofMember, ofType_eq]
    exact List.forall_mem_append.mpr ⟨suffix_of_inner (inner (.type decl :: around)), later around⟩
  noStatements around := by simp [ofStatements]
  addStatement statement rest inner later around := by
    rw [ofStatements_cons]
    exact List.forall_mem_append.mpr ⟨inner around, later around⟩

-- A method or a static initializer, or a class without a name: nothing in it is looked at.
theorem inspected_of_unnamed {around : List Declaration} {decl : Declaration}
    {nestings : List Nesting} (unnamed : decl.isNamedType = false)
    (below : ∀ nesting ∈ nestings, decl :: around <:+ nesting.around) :
    inspected (⟨around, decl⟩ :: nestings) = [] := by
  have none : nestings.filter isInspected = [] := by
    refine List.filter_eq_nil_iff.mpr fun nesting member inspected => ?_
    obtain ⟨inner, made⟩ := below nesting member
    have all := (Bool.and_eq_true_iff.mp inspected).2
    simp [← made, unnamed] at all
  simp [inspected, isInspected, unnamed, none]

end Nesting

namespace TypeDoc

namespace Walk

theorem report_report (walk : Walk) (first second : List Note) :
    (walk.report first).report second = walk.report (first ++ second) := by
  simp [report, List.append_assoc]

theorem report_nil (walk : Walk) : walk.report [] = walk := by
  simp [report]

-- The walk is inside of some declarations, all of them types that it enters.
structure Inside (walk : Walk) (around : List Declaration) : Prop where
  enclosing : walk.enclosing = around.filterMap Declaration.type?
  named : around.all Declaration.isNamedType = true

theorem Inside.report {walk : Walk} {around : List Declaration} (inside : walk.Inside around)
    (notes : List Note) : (walk.report notes).Inside around :=
  ⟨inside.enclosing, inside.named⟩

end Walk

variable (rule : TypeDoc) (comments : CommentIndex)

def notesAmong (nestings : List Nesting) : List Note :=
  (Nesting.inspected nestings).flatMap fun found => rule.checkType comments found.1 found.2

theorem notesAmong_append (nestings later : List Nesting) :
    rule.notesAmong comments (nestings ++ later) =
      rule.notesAmong comments nestings ++ rule.notesAmong comments later := by
  rw [notesAmong, Nesting.inspected_append, List.flatMap_append]
  rfl

theorem notesAmong_of_unnamed {around : List Declaration} {decl : Declaration}
    {nestings : List Nesting} (unnamed : decl.isNamedType = false)
    (below : ∀ nesting ∈ nestings, decl :: around <:+ nesting.around) :
    rule.notesAmong comments (⟨around, decl⟩ :: nestings) = [] := by
  rw [notesAmong, Nesting.inspected_of_unnamed unnamed below, List.flatMap_nil]

theorem visitType_report {walk : Walk} {around : List Declaration} {decl : TypeDecl}
    (inner : ∀ walk : Walk, ∀ around, walk.Inside around →
      rule.visitMembers comments walk decl.members =
        walk.report (rule.notesAmong comments (Nesting.ofMembers around decl.members)))
    (inside : walk.Inside around) : rule.visitType comments walk decl =
      walk.report (rule.notesAmong comments (Nesting.ofType around decl)) := by
  rw [Nesting.ofType_eq]
  by_cases anonymous : decl.kind = .anonymousBody
  next =>
    have skipped : rule.visitType comments walk decl = walk := by
      obtain ⟨⟩ := decl
      rw [visitType, if_pos anonymous]
    rw [skipped, notesAmong_of_unnamed rule comments (by simp [Declaration.isNamedType, anonymous])
      (Nesting.suffix_induction.ofMembers decl.members _), Walk.report_nil]
  next =>
    have entered : ((walk.report (rule.checkType comments walk.enclosing decl)).enter decl).Inside
        (.type decl :: around) := by
      refine ⟨congrArg (decl :: ·) inside.enclosing, ?_⟩
      simp [Declaration.isNamedType, anonymous, inside.named]
    have visited : rule.visitType comments walk decl = (rule.visitMembers comments
        ((walk.report (rule.checkType comments walk.enclosing decl)).enter decl)
          decl.members).leave := by
      obtain ⟨⟩ := decl
      rw [visitType, if_neg anonymous]
    have reported : rule.notesAmong comments (⟨around, .type decl⟩ ::
        Nesting.ofMembers (.type decl :: around) decl.members) =
          rule.checkType comments walk.enclosing decl ++
            rule.notesAmong comments (Nesting.ofMembers (.type decl :: around) decl.members) := by
      have inspected : Nesting.isInspected ⟨around, .type decl⟩ = true := by
        simp [Nesting.isInspected, Declaration.isNamedType, anonymous, inside.named]
      simp [notesAmong, Nesting.inspected, inspected, Nesting.type?, inside.enclosing]
    rw [visited, inner _ _ entered, reported, ← Walk.report_report]
    rfl

theorem visit_induction : DeclarationInduction
    (fun types => ∀ walk : Walk, ∀ around, walk.Inside around →
      types.foldl (rule.visitType comments) walk =
        walk.report (rule.notesAmong comments (Nesting.ofTypes around types)))
    (fun members => ∀ walk : Walk, ∀ around, walk.Inside around →
      rule.visitMembers comments walk members =
        walk.report (rule.notesAmong comments (Nesting.ofMembers around members)))
    (fun _ => True) where
  noTypes walk around inside := by
    rw [Nesting.ofTypes]
    exact (Walk.report_nil walk).symm
  addType decl rest inner later walk around inside := by
    rw [List.foldl_cons, rule.visitType_report comments inner inside,
      later _ around (inside.report _), Walk.report_report, Nesting.ofTypes, notesAmong_append]
  noMembers walk around inside := by
    rw [visitMembers, Nesting.ofMembers]
    exact (Walk.report_nil walk).symm
  addMethod decl rest inner later walk around inside := by
    rw [visitMembers, later walk around inside, Nesting.ofMembers, notesAmong_append,
      Nesting.ofMember, Nesting.ofMethod_eq, notesAmong_of_unnamed rule comments rfl
        (Nesting.suffix_induction.ofStatements decl.statements _), List.nil_append]
  addStaticInit line body rest inner later walk around inside := by
    rw [visitMembers, later walk around inside, Nesting.ofMembers, notesAmong_append,
      Nesting.ofMember_staticInit, notesAmong_of_unnamed rule comments rfl
        (Nesting.suffix_induction.ofStatements body.statements _), List.nil_append]
  addMemberType decl rest inner later walk around inside := by
    rw [visitMembers, rule.visitType_report comments inner inside,
      later _ around (inside.report _), Walk.report_report, Nesting.ofMembers, notesAmong_append,
      Nesting.ofMember]
  noStatements := trivial
  addStatement _ _ _ _ := trivial

theorem notes_eq (unit : CompilationUnit) (content : List Char) :
    rule.notes unit content = rule.notesAmong (.ofUnit unit content) unit.nestings := by
  have visited := (rule.visit_induction (.ofUnit unit content)).ofTypes unit.types .start []
    ⟨rfl, rfl⟩
  rw [notes, visited, Walk.report]
  rfl

end TypeDoc

namespace Java

def Node.isHidden : List Node → Bool
  | [] => false
  | node :: above =>
    match node.form with
    | .method _ | .staticInit => true
    | .classBody => !above.head?.any isTypeDecl || isHidden above
    | _ => isHidden above

variable (source : Array Char)

theorem initBlock_isSome {nodes : List Node} {block : Node} (member : block ∈ nodes)
    (isPart : block.isPart = true) (isBlock : block.form = .block) :
    ∃ body, initBlock source nodes = some body := by
  have found : (nodes.find? fun node => node.isPart && node.form = .block).isSome = true := by
    rw [List.find?_isSome]
    exact ⟨block, member, by simp [isPart, isBlock]⟩
  obtain ⟨first, chosen⟩ := Option.isSome_iff_exists.mp found
  exact ⟨blockAt source first, by rw [initBlock_eq, chosen, Option.map_some]⟩

-- Along what is open, a chain has the declarations that its forms tell.
theorem Node.Chain.named {tree node : Node} {above : List Node}
    (upward : Node.Chain tree (node :: above)) (isOpen : Node.isOpen (node :: above) = true) :
    (declarationsOf source above).all Declaration.isNamedType = !Node.isHidden above := by
  induction above generalizing node with
  | nil => rfl
  | cons parent above ih =>
    cases upward with
    | step member allowed outer =>
      obtain ⟨led, isOpen⟩ := Bool.and_eq_true_iff.mp isOpen
      have later := ih outer isOpen
      obtain ⟨label, children⟩ := parent
      rw [declarationsOf, List.all_append, later, Node.isHidden]
      cases form : label.form with
      | method kind => simp [declarationOf?, Node.form, Node.label, form, Declaration.isNamedType]
      | staticInit =>
        -- What a static initializer leads to is its block, so there is one.
        rw [Node.leadsTo, Node.form, Node.label, form] at led
        obtain ⟨isPart, isBlock⟩ := Bool.and_eq_true_iff.mp led
        obtain ⟨body, found⟩ := initBlock_isSome source member isPart (of_decide_eq_true isBlock)
        have found : initBlock source children = some body := found
        simp [declarationOf?, Node.form, Node.label, form, found, Declaration.isNamedType]
      | typeDecl kind =>
        have named := Form.ofKind_named form
        simp [declarationOf?, Node.form, Node.label, form, Declaration.isNamedType, typeDeclOf,
          named]
      | classBody =>
        by_cases owned : above.head?.any Node.isTypeDecl = true
        · simp [declarationOf?, Node.form, Node.label, form, owned]
        · simp [declarationOf?, Node.form, Node.label, form, owned, Declaration.isNamedType,
            anonymousOf]
      | _ => simp [declarationOf?, Node.form, Node.label, form]

def Spot.type? (spot : Spot) : Option (List TypeDecl × TypeDecl) :=
  match spot.node.form with
  | .typeDecl kind =>
    some (spot.enclosing source,
      typeDeclOf source kind spot.node (bodyMembers source spot.node.children))
  | _ => none

def Spot.isInspected (spot : Spot) : Bool :=
  spot.node.isTypeDecl && spot.isReached && !Node.isHidden spot.above

theorem Spot.nesting?_inspected {tree : Node} {spot : Spot}
    (upward : Node.Chain tree (spot.node :: spot.above)) :
    (if spot.isReached then (spot.nesting? source).bind fun nesting =>
        if nesting.isInspected then nesting.type? else none
      else none) = if spot.isInspected then spot.type? source else none := by
  by_cases reached : spot.isReached = true
  next =>
    have named := upward.named source reached
    obtain ⟨address, above, label, children⟩ := spot
    rw [if_pos reached, isInspected, reached, Bool.and_true]
    cases form : label.form with
    | typeDecl kind =>
      have known : kind ≠ .anonymousBody := Form.ofKind_named form
      have inspected : Nesting.isInspected ⟨declarationsOf source above, .type (typeDeclOf source
          kind (.mk label children) (bodyMembers source children))⟩ = !Node.isHidden above := by
        rw [Nesting.isInspected, named, Declaration.isNamedType, typeDeclOf, decide_eq_true known,
          Bool.true_and]
      simp only [nesting?, declarationOf?, form, Option.map_some, Option.bind_some, inspected,
        Node.isTypeDecl, Node.form, Node.label, type?]
      rfl
    | classBody =>
      simp only [nesting?, declarationOf?, form, type?, Node.form, Node.label]
      split <;> split <;> rfl
    | staticInit =>
      simp only [nesting?, declarationOf?, form, type?, Node.form, Node.label]
      cases initBlock source children <;> simp [Nesting.type?]
    | _ => simp [nesting?, declarationOf?, form, type?, Node.form, Node.label, Nesting.type?]
  next => simp [isInspected, reached]

theorem inspected_spots {tree : Node} {spots : List Spot}
    (upward : ∀ spot ∈ spots, Node.Chain tree (spot.node :: spot.above)) :
    Nesting.inspected ((spots.filter Spot.isReached).filterMap (Spot.nesting? source)) =
      (spots.filter Spot.isInspected).filterMap (Spot.type? source) := by
  rw [Nesting.inspected, List.filterMap_filter, List.filterMap_filter, List.filterMap_filter,
    List.filterMap_filterMap]
  refine List.filterMap_congr fun spot member => ?_
  rw [← Spot.nesting?_inspected source (upward spot member)]
  split <;> rfl

end Java

namespace TypeDoc

theorem check_inspected [Java.Parser] {file : SourceFile} {tree : Java.Node}
    {unit : CompilationUnit} (parsed : Java.Parser.parse? file.content = some tree)
    (grammatical : tree.Grammatical)
    (accepted : CompilationUnit.ofJava? file.content = some unit) (rule : TypeDoc) :
    ∃ spots, Java.Spot.Ordered spots ∧
      (∀ spot, spot ∈ spots ↔ tree.nodeAt? spot.address = some (spot.above, spot.node) ∧
        spot.node.isTypeDecl = true ∧ spot.isReached = true ∧
          Java.Node.isHidden spot.above = false) ∧
      rule.check file unit = .ok (((spots.filterMap (Java.Spot.type? file.content.toArray)).flatMap
        fun found => rule.checkType (.ofUnit unit file.content) found.1 found.2).map
          (rule.reporter.finding file)) := by
  have nestings := CompilationUnit.ofTree_nestings file.content grammatical
  rw [← CompilationUnit.ofJava?_eq parsed accepted] at nestings
  refine ⟨tree.spots.filter Java.Spot.isInspected, tree.spots_ordered.filter _, fun spot => ?_, ?_⟩
  next =>
    rw [List.mem_filter, Java.Spot.isInspected, Bool.and_eq_true, Bool.and_eq_true, and_assoc,
      Bool.not_eq_true']
    exact and_congr_left' (tree.mem_spots_iff spot.address spot.above spot.node)
  next =>
    rw [check, notes_eq, notesAmong, nestings, Java.inspected_spots _ grammatical.chain]

-- Of two local classes the one in the method is hidden.
private def localClasses : SourceFile :=
  ⟨.ofString "A.java", ("class A \x7b\n \x7b\n  class B \x7b\x7d\n \x7d\n" ++
    " void m() \x7b\n  class C \x7b\x7d\n \x7d\n\x7d").toList⟩

theorem check_inspected_local :
    ∃ tree unit, Java.Parser.parse? localClasses.content = some tree ∧ tree.Grammatical ∧
      CompilationUnit.ofJava? localClasses.content = some unit ∧
      (standard.notes unit localClasses.content).map (·.line) = [1, 3] ∧
      ∃ spots : List Java.Spot,
        (∀ spot ∈ spots, tree.nodeAt? spot.address = some (spot.above, spot.node) ∧
          Java.Node.isHidden spot.above = false) ∧
        standard.check localClasses unit =
          .ok (((spots.filterMap (Java.Spot.type? localClasses.content.toArray)).flatMap
            fun found => standard.checkType (.ofUnit unit localClasses.content) found.1 found.2).map
              (standard.reporter.finding localClasses)) := by
  have reads : ((Java.Parser.parse? localClasses.content).map fun tree =>
      (decide tree.Grammatical, (CompilationUnit.ofJava? localClasses.content).map
        fun unit => (standard.notes unit localClasses.content).map (·.line))) =
      some (true, some [1, 3]) := by
    decide +kernel
  obtain ⟨tree, parsed, read⟩ := Option.map_eq_some_iff.mp reads
  obtain ⟨isGrammatical, checked⟩ := Prod.mk.inj read
  have grammatical := of_decide_eq_true isGrammatical
  obtain ⟨unit, accepted, lines⟩ := Option.map_eq_some_iff.mp checked
  obtain ⟨spots, _, found, same⟩ := check_inspected parsed grammatical accepted standard
  refine ⟨tree, unit, parsed, grammatical, accepted, lines, spots, fun spot listed => ?_, same⟩
  obtain ⟨present, _, _, unhidden⟩ := (found spot).mp listed
  exact ⟨present, unhidden⟩

private def initializerClass : List Char :=
  "/** A. */\nclass A \x7b\n    \x7b\n        class B \x7b\x7d\n    \x7d\n\x7d\n".toList

private def lambdaClass : List Char :=
  ("/** A. */\nclass A \x7b\n    Runnable r = () -> \x7b\n" ++
    "        class B \x7b\x7d\n    \x7d;\n\x7d\n").toList

-- The only type inside a block of code is the one that the rule reports.
theorem notes_inCode :
    ([initializerClass, lambdaClass].map fun source =>
      (CompilationUnit.ofJava? source).map fun unit => (standard.notes unit source).map (·.line)) =
        [some [4], some [4]] ∧
    ([initializerClass, lambdaClass].map fun source =>
      (Java.Parser.parse? source).map fun tree => (tree.spots.filter fun spot =>
        spot.node.isTypeDecl && spot.above.any (·.kind == "block")).map (·.node.line)) =
        [some [4], some [4]] := by
  decide +kernel

end TypeDoc

end DocAudit
