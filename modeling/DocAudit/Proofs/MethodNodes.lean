import DocAudit.Java.Grammar
import DocAudit.Proofs.DeclarationNesting

set_option autoImplicit false

namespace DocAudit

def Nesting.method? : Nesting → Option (List TypeDecl × MethodDecl)
  | ⟨around, .method decl⟩ => some (around.filterMap Declaration.type?, decl)
  | _ => none

namespace Occurrence

def attached (occurrence : Occurrence) : List TypeDecl × MethodDecl :=
  (occurrence.enclosing, occurrence.decl)

theorem map_attached_number (index : Nat) (groups : List (List Occurrence)) :
    (number index groups).map attached = groups.flatMap fun group => group.map attached := by
  simp only [List.map_eq_flatMap]
  exact flatMap_number _ (fun _ _ => rfl) index groups

theorem attached_induction : DeclarationInduction
    (fun types => ∀ around,
      (ofTypes (around.filterMap Declaration.type?) types).flatMap (·.map attached) =
        (Nesting.ofTypes around types).filterMap Nesting.method?)
    (fun members => ∀ around,
      (ofMembers (around.filterMap Declaration.type?) members).flatMap (·.map attached) =
        (Nesting.ofMembers around members).filterMap Nesting.method?)
    (fun statements => ∀ around,
      (ofStatements (around.filterMap Declaration.type?) statements).flatMap (·.map attached) =
        (Nesting.ofStatements around statements).filterMap Nesting.method?) where
  noTypes around := by simp [ofTypes, Nesting.ofTypes]
  addType decl rest inner later around := by
    rw [ofTypes, List.flatMap_cons, later, ofType_eq, map_attached_number, Nesting.ofTypes,
      List.filterMap_append, Nesting.ofType_eq, List.filterMap_cons_none rfl]
    exact congrArg (· ++ _) (inner (.type decl :: around))
  noMembers around := by simp [ofMembers, Nesting.ofMembers]
  addMethod decl rest inner later around := by
    have inBody : (ofStatements (around.filterMap Declaration.type?) decl.statements).flatMap
        (·.map attached) =
          (Nesting.ofStatements (.method decl :: around) decl.statements).filterMap
            Nesting.method? :=
      MethodDecl.statements_induction (by simp [ofStatements, Nesting.ofStatements])
        fun body present => inner body present (.method decl :: around)
    rw [ofMembers, List.flatMap_cons, later, ofMember, ofMethod_eq, List.map_cons,
      map_attached_number, inBody, Nesting.ofMembers, List.filterMap_append, Nesting.ofMember,
      Nesting.ofMethod_eq]
    rfl
  addStaticInit line body rest inner later around := by
    rw [ofMembers, List.flatMap_cons, later, ofMember_staticInit, map_attached_number,
      Nesting.ofMembers, List.filterMap_append, Nesting.ofMember_staticInit,
      List.filterMap_cons_none rfl]
    exact congrArg (· ++ _) (inner (.staticInit line body :: around))
  addMemberType decl rest inner later around := by
    rw [ofMembers, List.flatMap_cons, later, ofMember, ofType_eq, map_attached_number,
      Nesting.ofMembers, List.filterMap_append, Nesting.ofMember, Nesting.ofType_eq,
      List.filterMap_cons_none rfl]
    exact congrArg (· ++ _) (inner (.type decl :: around))
  noStatements around := by simp [ofStatements, Nesting.ofStatements]
  addStatement statement rest inner later around := by
    have beside := later around
    rw [ofStatements_eq_map] at beside ⊢
    rw [List.map_cons, List.flatMap_cons, beside, map_attached_number, inner,
      Nesting.ofStatements_cons, List.filterMap_append]

end Occurrence

theorem CompilationUnit.methodOccurrences_attached (unit : CompilationUnit) :
    unit.methodOccurrences.map Occurrence.attached = unit.nestings.filterMap Nesting.method? := by
  rw [methodOccurrences, Occurrence.map_attached_number]
  exact Occurrence.attached_induction.ofTypes unit.types []

namespace Java

variable (source : Array Char)

def Spot.method? (spot : Spot) : Option (List TypeDecl × MethodDecl) :=
  match spot.node.form with
  | .method kind =>
    some (spot.enclosing source,
      methodDeclOf source kind spot.node (bodyBlock source spot.node.children))
  | _ => none

theorem Spot.method?_isSome (spot : Spot) : (spot.method? source).isSome = spot.node.isMethod := by
  unfold method? Node.isMethod
  cases spot.node.form <;> rfl

theorem Spot.nesting?_method? (spot : Spot) :
    (spot.nesting? source).bind Nesting.method? = spot.method? source := by
  obtain ⟨address, above, label, children⟩ := spot
  simp only [nesting?, declarationOf?, method?, Node.form, Node.label]
  cases label.form with
  | classBody =>
    dsimp only
    split <;> rfl
  | staticInit =>
    dsimp only
    cases initBlock source children <;> rfl
  | _ => rfl

/-- The type in whose body something stands, from the nodes above it. -/
def ownerOf? : List Node → Option TypeDecl
  | body :: owner :: above =>
    match body.form with
    | .enumMembers => ownerOf? (owner :: above)
    | .classBody | .body =>
      some ((typeDeclAt? source owner).getD (anonymousOf body (innerMembers source body)))
    | _ => none
  | _ => none

def Owns (above : List Node) (owner : TypeDecl) : Prop :=
  ownerOf? source above = some owner ∧
    ((declarationsOf source above).filterMap Declaration.type?).head? = some owner

variable {source} {node parent : Node} {above : List Node}

-- The body of a declared type declares nothing of its own.
theorem exists_owns_of_type (made : node.form = .classBody ∨ node.form = .body)
    (type : parent.isTypeDecl = true) : ∃ owner, Owns source (node :: parent :: above) owner := by
  obtain ⟨label, children⟩ := node
  have silent : declarationOf? source (parent :: above) (.mk label children) = none := by
    rcases made with made | made <;>
      simp [declarationOf?, show label.form = _ from made, type]
  obtain ⟨outer, siblings⟩ := parent
  cases form : outer.form with
  | typeDecl kind =>
    have decl : typeDeclAt? source (.mk outer siblings) = some
        (typeDeclOf source kind (.mk outer siblings) (bodyMembers source siblings)) := by
      simp only [typeDeclAt?, form]
    have declares : declarationOf? source above (.mk outer siblings) = some (.type
        (typeDeclOf source kind (.mk outer siblings) (bodyMembers source siblings))) := by
      simp only [declarationOf?, form]
    refine ⟨typeDeclOf source kind (.mk outer siblings) (bodyMembers source siblings), ?_, ?_⟩
    · rcases made with made | made <;> simp only [ownerOf?, made, decl] <;> rfl
    · rw [declarationsOf_of_none silent, declarationsOf_of_declares declares]
      rfl
  | _ =>
    rw [Node.isTypeDecl, Node.form, Node.label, form] at type
    cases type

theorem exists_owns_of_class (made : node.form = .classBody) (other : parent.isTypeDecl = false) :
    ∃ owner, Owns source (node :: parent :: above) owner := by
  have none : typeDeclAt? source parent = none := by
    obtain ⟨outer, siblings⟩ := parent
    cases form : outer.form with
    | typeDecl kind =>
      rw [Node.isTypeDecl, Node.form, Node.label, form] at other
      cases other
    | _ => simp only [typeDeclAt?, form]
  obtain ⟨label, children⟩ := node
  have declares : declarationOf? source (parent :: above) (.mk label children) =
      some (.type (anonymousOf (.mk label children) (membersOf source children))) := by
    simp [declarationOf?, show label.form = .classBody from made, other]
  refine ⟨anonymousOf (.mk label children) (membersOf source children), ?_, ?_⟩
  · simp only [ownerOf?, made, none, innerMembers]
    rfl
  · rw [declarationsOf_of_declares declares]
    rfl

-- A member that is reached stands in a body, or in the part of one that holds an enum's members.
theorem isBody_of_method (isMethod : node.isMethod = true)
    (room : parent.form.hasRoomFor node.label = true) (led : parent.leadsTo node = true) :
    parent.form.isBody = true := by
  unfold Node.isMethod at isMethod
  split at isMethod
  next kind form =>
    have form : node.label.form = .method kind := form
    simp only [Form.hasRoomFor, form, Bool.or_eq_true, decide_eq_true_eq] at room
    refine room.resolve_left fun file => ?_
    rw [Node.leadsTo, file, Form.leadsTo, form] at led
    simp [Form.isTypeDecl] at led
  next => cases isMethod

-- The induction goes outwards, from the members of an enum to its body.
theorem Node.Chain.exists_owns {tree : Node} {chain : List Node} (file : tree.form = .file)
    (upward : Node.Chain tree chain) (isOpen : Node.isOpen chain = true)
    (headed : chain.head? = some node) (isBody : node.form.isBody = true) :
    ∃ owner, Owns source chain owner := by
  induction upward generalizing node with
  | root =>
    cases headed
    rw [file] at isBody
    cases isBody
  | @step node parent above member allowed outer ih =>
    cases headed
    have room := (Bool.and_eq_true_iff.mp allowed).1
    cases form : node.form with
    | classBody =>
      cases type : parent.isTypeDecl with
      | true => exact exists_owns_of_type (.inl form) type
      | false => exact exists_owns_of_class form type
    | body =>
      simp only [Form.hasRoomFor, show node.label.form = .body from form] at room
      exact exists_owns_of_type (.inr form) (Bool.and_eq_true_iff.mp room).1
    | enumMembers =>
      have inBody : parent.form.isBody = true := by
        simpa only [Form.hasRoomFor, show node.label.form = .enumMembers from form] using room
      obtain ⟨owner, owns, first⟩ := ih (Bool.and_eq_true_iff.mp isOpen).2 rfl inBody
      refine ⟨owner, by simpa only [ownerOf?, form] using owns, ?_⟩
      have silent : declarationOf? source (parent :: above) node = none := by
        obtain ⟨label, children⟩ := node
        simp only [declarationOf?, show label.form = .enumMembers from form]
      rwa [declarationsOf_of_none silent]
    | _ =>
      rw [form] at isBody
      cases isBody

theorem Spot.exists_owns {tree : Node} {spot : Spot} (file : tree.form = .file)
    (upward : Node.Chain tree (spot.node :: spot.above)) (isMethod : spot.node.isMethod = true)
    (reached : spot.isReached = true) :
    ∃ owner, Owns source spot.above owner := by
  obtain ⟨address, above, node⟩ := spot
  cases upward with
  | root =>
    unfold Node.isMethod at isMethod
    rw [file] at isMethod
    cases isMethod
  | step member allowed outer =>
    obtain ⟨led, isOpen⟩ := Bool.and_eq_true_iff.mp reached
    have room := (Bool.and_eq_true_iff.mp allowed).1
    exact outer.exists_owns file isOpen rfl (isBody_of_method isMethod room led)

end Java

namespace CompilationUnit

theorem ofJava?_methods [Java.Parser] {text : List Char} {tree : Java.Node}
    {unit : CompilationUnit} (parsed : Java.Parser.parse? text = some tree)
    (grammatical : tree.Grammatical) (accepted : ofJava? text = some unit) :
    ∃ spots, Java.Spot.Ordered spots ∧
      (∀ spot, spot ∈ spots ↔ tree.nodeAt? spot.address = some (spot.above, spot.node) ∧
        spot.node.isMethod = true ∧ spot.isReached = true) ∧
      unit.methodOccurrences.map (fun occurrence => some (occurrence.enclosing, occurrence.decl)) =
        spots.map (Java.Spot.method? text.toArray) ∧
      ∀ spot ∈ spots, ∃ owner, Java.ownerOf? text.toArray spot.above = some owner ∧
        (spot.enclosing text.toArray).head? = some owner := by
  have nestings := ofTree_nestings text grammatical
  rw [← ofJava?_eq parsed accepted] at nestings
  refine ⟨tree.spots.filter fun spot => spot.node.isMethod && spot.isReached,
    tree.spots_ordered.filter _, fun spot => ?_, ?_, fun spot listed => ?_⟩
  next =>
    rw [List.mem_filter, Bool.and_eq_true]
    exact and_congr_left' (tree.mem_spots_iff spot.address spot.above spot.node)
  next =>
    calc unit.methodOccurrences.map (fun occurrence => some (occurrence.enclosing, occurrence.decl))
      _ = (unit.methodOccurrences.map Occurrence.attached).map some := (List.map_map).symm
      _ = ((tree.spots.filter Java.Spot.isReached).filterMap
            (Java.Spot.method? text.toArray)).map some := by
        rw [unit.methodOccurrences_attached, nestings, List.filterMap_filterMap]
        simp only [Java.Spot.nesting?_method?]
      _ = (tree.spots.filter fun spot => spot.node.isMethod && spot.isReached).map
            (Java.Spot.method? text.toArray) := by
        rw [List.map_filterMap_some_eq_filter_map_isSome, List.filter_map, List.filter_filter]
        simp only [Function.comp_apply, Java.Spot.method?_isSome]
  next =>
    obtain ⟨present, chosen⟩ := List.mem_filter.mp listed
    obtain ⟨isMethod, reached⟩ := Bool.and_eq_true_iff.mp chosen
    exact Java.Spot.exists_owns grammatical.root (grammatical.chain spot present) isMethod reached

-- A method in a constant, one in the value of a field, and a constructor in the body of the second.
private def enumSource : List Char :=
  ("enum A \x7b\n B \x7b void b() \x7b\x7d \x7d;\n Object c = new C() \x7b\n" ++
    "  void d() \x7b class D \x7b D() \x7b\x7d \x7d \x7d\n \x7d;\n\x7d").toList

theorem ofJava?_methods_enum :
    ∃ tree unit spots, Java.Parser.parse? enumSource = some tree ∧ tree.Grammatical ∧
      ofJava? enumSource = some unit ∧ Java.Spot.Ordered spots ∧
      (∀ spot ∈ spots, tree.nodeAt? spot.address = some (spot.above, spot.node)) ∧
      unit.methodOccurrences.map (fun occurrence => some (occurrence.enclosing, occurrence.decl)) =
        spots.map (Java.Spot.method? enumSource.toArray) ∧ spots.length = 3 := by
  have reads : ((Java.Parser.parse? enumSource).map fun tree => (decide tree.Grammatical,
      (ofJava? enumSource).map (·.methodOccurrences.length))) = some (true, some 3) := by
    decide +kernel
  obtain ⟨tree, parsed, read⟩ := Option.map_eq_some_iff.mp reads
  obtain ⟨isGrammatical, counted⟩ := Prod.mk.inj read
  have grammatical := of_decide_eq_true isGrammatical
  obtain ⟨unit, accepted, count⟩ := Option.map_eq_some_iff.mp counted
  obtain ⟨spots, ordered, found, same, _⟩ := ofJava?_methods parsed grammatical accepted
  refine ⟨tree, unit, spots, parsed, grammatical, accepted, ordered,
    fun spot listed => ((found spot).mp listed).1, same, ?_⟩
  have lengths := congrArg List.length same
  rw [List.length_map, List.length_map] at lengths
  omega

-- The anonymous class stands in the annotation of a field.
private def annotatedSource : List Char :=
  "class A \x7b\n    @B(new Object() \x7b void m() \x7b\x7d \x7d) int x;\n\x7d\n".toList

-- Nothing but annotations leads to the method, and it is read.
theorem ofJava?_methods_annotated :
    (ofJava? annotatedSource).map (·.methodOccurrences.length) = some 1 ∧
      (Java.Parser.parse? annotatedSource).map (fun tree => (decide tree.Grammatical,
        (tree.spots.filter fun spot => spot.node.isMethod &&
          !spot.above.any (·.kind == "annotation")).length)) = some (true, 0) := by
  decide +kernel

end CompilationUnit

end DocAudit
