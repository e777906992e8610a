import DocAudit.Proofs.DeclarationTrees
import DocAudit.Proofs.TreeSpots

set_option autoImplicit false

namespace DocAudit

def Declaration.type? : Declaration → Option TypeDecl
  | .type decl => some decl
  | _ => none

/-- A declaration with those around it, innermost first. -/
structure Nesting where
  around : List Declaration
  decl : Declaration

namespace Nesting

mutual

def ofType (around : List Declaration) : TypeDecl → List Nesting
  | ⟨kind, name, line, column, endLine, modifiers, typeParams, superclass, members⟩ =>
    ⟨around,
      .type ⟨kind, name, line, column, endLine, modifiers, typeParams, superclass, members⟩⟩ ::
    ofMembers
      (.type ⟨kind, name, line, column, endLine, modifiers, typeParams, superclass, members⟩ ::
        around)
      members

def ofTypes (around : List Declaration) : List TypeDecl → List Nesting
  | [] => []
  | decl :: rest => ofType around decl ++ ofTypes around rest

def ofMember (around : List Declaration) : Member → List Nesting
  | .method decl => ofMethod around decl
  | .staticInit line ⟨openLine, closeLine, statements⟩ =>
    ⟨around, .staticInit line ⟨openLine, closeLine, statements⟩⟩ ::
      ofStatements (.staticInit line ⟨openLine, closeLine, statements⟩ :: around) statements
  | .type decl => ofType around decl

def ofMembers (around : List Declaration) : List Member → List Nesting
  | [] => []
  | member :: rest => ofMember around member ++ ofMembers around rest

def ofMethod (around : List Declaration) : MethodDecl → List Nesting
  | ⟨kind, name, line, column, endLine, modifiers, typeParams, params, throws, result, none⟩ =>
    [⟨around, .method
      ⟨kind, name, line, column, endLine, modifiers, typeParams, params, throws, result, none⟩⟩]
  | ⟨kind, name, line, column, endLine, modifiers, typeParams, params, throws, result,
      some ⟨openLine, closeLine, statements⟩⟩ =>
    ⟨around, .method ⟨kind, name, line, column, endLine, modifiers, typeParams, params, throws,
      result, some ⟨openLine, closeLine, statements⟩⟩⟩ ::
    ofStatements
      (.method ⟨kind, name, line, column, endLine, modifiers, typeParams, params, throws, result,
        some ⟨openLine, closeLine, statements⟩⟩ :: around)
      statements

def ofStatements (around : List Declaration) : List Statement → List Nesting
  | [] => []
  | ⟨_, _, _, nested⟩ :: rest => ofTypes around nested ++ ofStatements around rest

end

variable (around : List Declaration)

theorem ofType_eq (decl : TypeDecl) :
    ofType around decl = ⟨around, .type decl⟩ :: ofMembers (.type decl :: around) decl.members := by
  obtain ⟨⟩ := decl
  rw [ofType]

theorem ofMethod_eq (decl : MethodDecl) : ofMethod around decl =
    ⟨around, .method decl⟩ :: ofStatements (.method decl :: around) decl.statements := by
  obtain ⟨_, _, _, _, _, _, _, _, _, _, body⟩ := decl
  match body with
  | none =>
    rw [ofMethod, MethodDecl.statements, ofStatements]
  | some ⟨_, _, _⟩ =>
    rw [ofMethod, MethodDecl.statements]

theorem ofMember_staticInit (line : Nat) (body : Block) : ofMember around (.staticInit line body) =
    ⟨around, .staticInit line body⟩ ::
      ofStatements (.staticInit line body :: around) body.statements := by
  obtain ⟨⟩ := body
  rw [ofMember]

theorem ofStatements_cons (statement : Statement) (rest : List Statement) :
    ofStatements around (statement :: rest) =
      ofTypes around statement.nested ++ ofStatements around rest := by
  obtain ⟨⟩ := statement
  rw [ofStatements]

theorem ofMembers_single (member : Member) :
    ofMembers around [member] = ofMember around member := by
  simp [ofMembers]

theorem ofTypes_single (decl : TypeDecl) : ofTypes around [decl] = ofType around decl := by
  simp [ofTypes]

theorem ofMembers_append (members later : List Member) :
    ofMembers around (members ++ later) = ofMembers around members ++ ofMembers around later := by
  induction members with
  | nil => simp [ofMembers]
  | cons member rest ih => simp [ofMembers, ih]

theorem ofTypes_append (types later : List TypeDecl) :
    ofTypes around (types ++ later) = ofTypes around types ++ ofTypes around later := by
  induction types with
  | nil => simp [ofTypes]
  | cons decl rest ih => simp [ofTypes, ih]

theorem ofMembers_types (types : List TypeDecl) :
    ofMembers around (types.map .type) = ofTypes around types := by
  induction types with
  | nil => simp [ofMembers, ofTypes]
  | cons decl rest ih => simp [ofMembers, ofTypes, ofMember, ih]

end Nesting

def CompilationUnit.nestings (unit : CompilationUnit) : List Nesting :=
  Nesting.ofTypes [] unit.types

namespace Java

namespace Form

def isCode : Form → Bool
  | .typeDecl _ | .creation | .block | .other => true
  | _ => false

def holdsCode : Form → Bool
  | .enumConstant | .creation | .block | .other => true
  | _ => false

def leadsToOne : Form → Bool
  | .typeDecl _ | .method _ | .staticInit => true
  | _ => false

theorem mayFollow_eq {form : Form} (one : form.leadsToOne = true) (first second : NodeLabel) :
    form.mayFollow first second = !(form.leadsTo first && form.leadsTo second) := by
  cases form <;> first | rfl | cases one

theorem isCode_of_hasRoomFor {parent : Form} {child : NodeLabel} (holds : parent.holdsCode = true)
    (room : parent.hasRoomFor child = true) (noClass : child.form ≠ .classBody) :
    child.form.isCode = true := by
  unfold hasRoomFor at room
  cases made : child.form with
  | classBody => exact absurd made noClass
  | typeDecl kind | creation | block | other => rfl
  | _ => cases parent <;> simp_all [isBody, isTypeDecl, holdsCode]

theorem holdsCode_of_isPlain {form : Form} (plain : form.isPlain = true) :
    form.holdsCode = true := by
  cases form <;> first | rfl | cases plain

theorem isCode_in_plain {parent : Form} {child : NodeLabel} (plain : parent.isPlain = true)
    (room : parent.hasRoomFor child = true) : child.form.isCode = true := by
  refine isCode_of_hasRoomFor (holdsCode_of_isPlain plain) room fun isClass => ?_
  cases parent <;> simp_all [hasRoomFor, isTypeDecl, isPlain]

theorem Fits.room {form : Form} {node : Node} {rest : List Node} (fits : form.Fits (node :: rest)) :
    form.hasRoomFor node.label = true :=
  (Bool.and_eq_true_iff.mp (List.forall_mem_cons.mp fits.allowed).1).1

theorem Fits.body {form : Form} {node : Node} {rest : List Node} (fits : form.Fits (node :: rest))
    (inBody : node.inField "body" = true) : form.hasForBody node.form = true := by
  have allowed := (Bool.and_eq_true_iff.mp (List.forall_mem_cons.mp fits.allowed).1).2
  have held : node.label.inField "body" = true := inBody
  rwa [held] at allowed

end Form

theorem Node.leadsTo_eq_isPart {parent : Node}
    (isOpen : parent.form.isBody = true ∨ parent.form.holdsCode = true) (child : Node) :
    parent.leadsTo child = child.isPart := by
  rw [leadsTo]
  cases outer : parent.form <;> simp [outer, Form.isBody, Form.holdsCode] at isOpen <;> rfl

variable (source : Array Char)

/-- What a node declares. The body of a declared type is part of that type, all other class bodies
are classes without a name. -/
def declarationOf? (above : List Node) : Node → Option Declaration
  | .mk label children =>
    match label.form with
    | .typeDecl kind =>
      some (.type (typeDeclOf source kind (.mk label children) (bodyMembers source children)))
    | .classBody =>
      if above.head?.any Node.isTypeDecl then none
      else some (.type (anonymousOf (.mk label children) (membersOf source children)))
    | .method kind =>
      some (.method (methodDeclOf source kind (.mk label children) (bodyBlock source children)))
    | .staticInit => (initBlock source children).map (.staticInit label.start.line)
    | _ => none

def declarationsOf : List Node → List Declaration
  | [] => []
  | node :: above => (declarationOf? source above node).toList ++ declarationsOf above

def Spot.nesting? (spot : Spot) : Option Nesting :=
  (declarationOf? source spot.above spot.node).map (⟨declarationsOf source spot.above, ·⟩)

def Spot.enclosing (spot : Spot) : List TypeDecl :=
  (declarationsOf source spot.above).filterMap Declaration.type?

-- The nestings of the nodes that are reached, with no look below the others.
def nestingsIn (parent : Node) (above : List Node) : List Node → List Nesting
  | [] => []
  | .mk label children :: rest =>
    (if parent.leadsTo (.mk label children) then
      (Spot.nesting? source ⟨[], parent :: above, .mk label children⟩).toList ++
        nestingsIn (.mk label children) (parent :: above) children
    else []) ++ nestingsIn parent above rest

-- The nestings of one node that is reached.
def nestingsAt (above : List Node) (node : Node) : List Nesting :=
  (Spot.nesting? source ⟨[], above, node⟩).toList ++ nestingsIn source node above node.children

theorem nestingsIn_eq_reached (parent : Node) (above : List Node)
    (isOpen : Node.isOpen (parent :: above) = true) (index : Nat) (nodes : List Node) :
    ((Spot.ofForest (parent :: above) index nodes).filter Spot.isReached).filterMap
      (Spot.nesting? source) = nestingsIn source parent above nodes := by
  induction nodes using Node.forest_induction generalizing parent above index with
  | nil => simp [Spot.ofForest, nestingsIn]
  | cons label children rest inChildren beside =>
    have reached : Spot.isReached ⟨[index], parent :: above, .mk label children⟩ =
        parent.leadsTo (.mk label children) := by
      rw [Spot.isReached, Node.isOpen, isOpen, Bool.and_true]
    have stable : Spot.isReached ∘ Spot.under index = Spot.isReached := rfl
    rw [Spot.ofForest, Spot.ofNode, List.filter_append, List.filter_cons, List.filter_map, stable,
      nestingsIn, List.filterMap_append, beside parent above isOpen, reached]
    by_cases led : parent.leadsTo (.mk label children) = true
    next =>
      have inner := inChildren (.mk label children) (parent :: above)
        (by rw [Node.isOpen, led, isOpen, Bool.and_true]) 0
      rw [if_pos led, if_pos led, ← inner, List.filterMap_cons, List.filterMap_map]
      congr 1
      change _ = (Spot.nesting? source ⟨[index], parent :: above, .mk label children⟩).toList ++ _
      cases Spot.nesting? source ⟨[index], parent :: above, .mk label children⟩ <;> rfl
    next =>
      have shut : Node.isOpen (.mk label children :: parent :: above) = false := by
        rw [Node.isOpen, Bool.eq_false_iff.mpr led, Bool.false_and]
      have nothing := List.filter_eq_nil_iff.mpr fun spot member =>
        Bool.eq_false_iff.mp (Spot.not_isReached_of_closed shut 0 children spot member)
      simp [led, nothing]

variable {source} {parent node : Node} {label : NodeLabel} {children rest above : List Node}

theorem nestingsIn_led (led : parent.leadsTo node = true) :
    nestingsIn source parent above (node :: rest) =
      nestingsAt source (parent :: above) node ++ nestingsIn source parent above rest := by
  obtain ⟨label, children⟩ := node
  rw [nestingsIn, if_pos led, nestingsAt, Node.children]

theorem nestingsIn_not_led (unled : parent.leadsTo node = false) :
    nestingsIn source parent above (node :: rest) = nestingsIn source parent above rest := by
  obtain ⟨label, children⟩ := node
  rw [nestingsIn, unled]
  rfl

theorem nestingsIn_part (leads : parent.leadsTo node = node.isPart) :
    nestingsIn source parent above (node :: rest) =
      (if node.isPart then nestingsAt source (parent :: above) node else []) ++
        nestingsIn source parent above rest := by
  rw [← leads]
  by_cases led : parent.leadsTo node = true
  · rw [nestingsIn_led led, if_pos led]
  · rw [nestingsIn_not_led (Bool.eq_false_iff.mpr led), if_neg led, List.nil_append]

theorem nestingsIn_nothing {nodes : List Node}
    (unled : ∀ node ∈ nodes, parent.leadsTo node = false) :
    nestingsIn source parent above nodes = [] := by
  induction nodes with
  | nil => rw [nestingsIn]
  | cons node rest ih =>
    obtain ⟨here, later⟩ := List.forall_mem_cons.mp unled
    rw [nestingsIn_not_led here, ih later]

-- A declaration leads to one child at most.
theorem nestingsIn_only (one : parent.form.leadsToOne = true)
    (led : parent.leadsTo node = true) (fits : parent.form.Fits (node :: rest)) :
    nestingsIn source parent above (node :: rest) = nestingsAt source (parent :: above) node := by
  have nothing : nestingsIn source parent above rest = [] := by
    refine nestingsIn_nothing fun other member => ?_
    have follows := (List.pairwise_cons.mp fits.single).1 other member
    have first : parent.form.leadsTo node.label = true := led
    rw [Form.mayFollow_eq one, first, Bool.true_and, Bool.not_eq_true'] at follows
    exact follows
  rw [nestingsIn_led led, nothing, List.append_nil]

theorem nestingsAt_of_declares {decl : Declaration}
    (declares : declarationOf? source above node = some decl) :
    nestingsAt source above node =
      ⟨declarationsOf source above, decl⟩ :: nestingsIn source node above node.children := by
  simp [nestingsAt, Spot.nesting?, declares]

theorem nestingsAt_of_none (none : declarationOf? source above node = none) :
    nestingsAt source above node = nestingsIn source node above node.children := by
  simp [nestingsAt, Spot.nesting?, none]

theorem declarationsOf_of_declares {decl : Declaration}
    (declares : declarationOf? source above node = some decl) :
    declarationsOf source (node :: above) = decl :: declarationsOf source above := by
  simp [declarationsOf, declares]

theorem declarationsOf_of_none (none : declarationOf? source above node = none) :
    declarationsOf source (node :: above) = declarationsOf source above := by
  simp [declarationsOf, none]

theorem declarationOf?_of_isPlain (plain : label.form.isPlain = true) :
    declarationOf? source above (.mk label children) = none := by
  cases form : label.form with
  | block | other => simp only [declarationOf?, form]
  | _ =>
    rw [form] at plain
    cases plain

variable (source)

-- What is read from some nodes, in each of the ways to read them, is what the nodes make. Each
-- way is for the children of nodes of some forms, and in these there is room for no others.
structure Listed (nodes : List Node) : Prop where
  members : ∀ parent above, parent.form.isBody = true → parent.form.Fits nodes →
    Nesting.ofMembers (declarationsOf source (parent :: above)) (membersOf source nodes) =
      nestingsIn source parent above nodes
  plain : ∀ parent above, parent.form.isPlain = true → parent.form.Fits nodes →
    Nesting.ofTypes (declarationsOf source (parent :: above)) (typesIn source .other nodes) =
      nestingsIn source parent above nodes
  constant : ∀ parent above, parent.form = .enumConstant → parent.form.Fits nodes →
    Nesting.ofTypes (declarationsOf source (parent :: above)) (typesIn source .constant nodes) =
      nestingsIn source parent above nodes
  creation : ∀ parent above, parent.form = .creation → parent.form.Fits nodes →
    Nesting.ofTypes (declarationsOf source (parent :: above))
      (typesIn source .creation nodes ++ (createdBody? source nodes).toList) =
        nestingsIn source parent above nodes
  inBody : ∀ parent above kind, parent.form = .typeDecl kind → parent.form.Fits nodes →
    Nesting.ofMembers (declarationsOf source (parent :: above)) (bodyMembers source nodes) =
      nestingsIn source parent above nodes
  inMethod : ∀ parent above kind, parent.form = .method kind → parent.form.Fits nodes →
    Nesting.ofStatements (declarationsOf source (parent :: above))
      ((bodyBlock source nodes).elim [] Block.statements) = nestingsIn source parent above nodes
  inInit : ∀ parent above, parent.form = .staticInit → parent.form.Fits nodes →
    Nesting.ofStatements (declarationsOf source (parent :: above))
      ((initBlock source nodes).elim [] Block.statements) = nestingsIn source parent above nodes
  statements : ∀ parent above, parent.form.isPlain = true → parent.form.Fits nodes →
    Nesting.ofStatements (declarationsOf source (parent :: above)) (statementsOf source nodes) =
      nestingsIn source parent above nodes

namespace Listed

theorem nil : Listed source [] := by
  constructor <;> intros <;>
    simp [membersOf, typesIn, createdBody?, bodyMembers, bodyBlock, initBlock, statementsOf,
      nestingsIn, Nesting.ofMembers, Nesting.ofTypes, Nesting.ofStatements]

variable {source}

section Node

variable (below : Listed source children) (fits : label.form.Fits children)

include below fits

theorem typeDecl {kind : TypeKind} (made : label.form = .typeDecl kind) :
    Nesting.ofType (declarationsOf source above)
      (typeDeclOf source kind (.mk label children) (bodyMembers source children)) =
        nestingsAt source above (.mk label children) := by
  have declares : declarationOf? source above (.mk label children) = some (.type
      (typeDeclOf source kind (.mk label children) (bodyMembers source children))) := by
    simp only [declarationOf?, made]
  rw [Nesting.ofType_eq, nestingsAt_of_declares declares, Node.children,
    ← below.inBody (.mk label children) above kind made fits, declarationsOf_of_declares declares]
  rfl

theorem anonymous (made : label.form = .classBody)
    (unnamed : above.head?.any Node.isTypeDecl = false) :
    Nesting.ofType (declarationsOf source above)
      (anonymousOf (.mk label children) (innerMembers source (.mk label children))) =
        nestingsAt source above (.mk label children) := by
  have declares : declarationOf? source above (.mk label children) =
      some (.type (anonymousOf (.mk label children) (membersOf source children))) := by
    simp [declarationOf?, made, unnamed]
  have isBody : (Node.mk label children).form.isBody = true := by
    rw [Node.form, Node.label, made]
    rfl
  rw [innerMembers, Nesting.ofType_eq, nestingsAt_of_declares declares, Node.children,
    ← below.members (.mk label children) above isBody fits, declarationsOf_of_declares declares]
  rfl

theorem method {kind : MethodKind} (made : label.form = .method kind) :
    Nesting.ofMethod (declarationsOf source above)
      (methodDeclOf source kind (.mk label children) (bodyBlock source children)) =
        nestingsAt source above (.mk label children) := by
  have declares : declarationOf? source above (.mk label children) = some (.method
      (methodDeclOf source kind (.mk label children) (bodyBlock source children))) := by
    simp only [declarationOf?, made]
  rw [Nesting.ofMethod_eq, nestingsAt_of_declares declares, Node.children,
    ← below.inMethod (.mk label children) above kind made fits,
    declarationsOf_of_declares declares]
  rw [MethodDecl.statements, methodDeclOf]
  cases bodyBlock source children <;> rfl

theorem staticInit (made : label.form = .staticInit) :
    Nesting.ofMembers (declarationsOf source above)
      ((initBlock source children).toList.map (.staticInit label.start.line)) =
        nestingsAt source above (.mk label children) := by
  have inner := below.inInit (.mk label children) above made fits
  cases found : initBlock source children with
  | none =>
    have silent : declarationOf? source above (.mk label children) = none := by
      simp [declarationOf?, made, found]
    rw [nestingsAt_of_none silent, Node.children, ← inner, found, Option.elim_none,
      Nesting.ofStatements, Option.toList_none, List.map_nil, Nesting.ofMembers]
  | some body =>
    have declares : declarationOf? source above (.mk label children) =
        some (.staticInit label.start.line body) := by
      simp [declarationOf?, made, found]
    rw [nestingsAt_of_declares declares, Node.children, ← inner, found, Option.elim_some,
      declarationsOf_of_declares declares, Option.toList_some, List.map_singleton,
      Nesting.ofMembers_single, Nesting.ofMember_staticInit]

theorem enumMembers (made : label.form = .enumMembers) :
    Nesting.ofMembers (declarationsOf source above) (membersOf source children) =
      nestingsAt source above (.mk label children) := by
  have silent : declarationOf? source above (.mk label children) = none := by
    simp only [declarationOf?, made]
  have isBody : (Node.mk label children).form.isBody = true := by
    rw [Node.form, Node.label, made]
    rfl
  rw [nestingsAt_of_none silent, Node.children,
    ← below.members (.mk label children) above isBody fits, declarationsOf_of_none silent]

theorem enumConstant (made : label.form = .enumConstant) :
    Nesting.ofTypes (declarationsOf source above) (typesIn source .constant children) =
      nestingsAt source above (.mk label children) := by
  have silent : declarationOf? source above (.mk label children) = none := by
    simp only [declarationOf?, made]
  rw [nestingsAt_of_none silent, Node.children,
    ← below.constant (.mk label children) above made fits, declarationsOf_of_none silent]

theorem plainNode (made : label.form.isPlain = true) :
    Nesting.ofTypes (declarationsOf source above) (typesIn source .other children) =
      nestingsAt source above (.mk label children) := by
  have silent : declarationOf? source above (.mk label children) = none :=
    declarationOf?_of_isPlain made
  rw [nestingsAt_of_none silent, Node.children,
    ← below.plain (.mk label children) above made fits, declarationsOf_of_none silent]

theorem blockAt_statements (plain : label.form.isPlain = true) :
    Nesting.ofStatements (declarationsOf source above)
        (blockAt source (.mk label children)).statements =
      nestingsAt source above (.mk label children) := by
  have silent : declarationOf? source above (.mk label children) = none :=
    declarationOf?_of_isPlain plain
  rw [blockAt, nestingsAt_of_none silent, Node.children,
    ← below.statements (.mk label children) above plain fits, declarationsOf_of_none silent]

theorem typesAt (made : label.form.isCode = true) :
    Nesting.ofTypes (declarationsOf source above) (typesAt source (.mk label children)) =
      nestingsAt source above (.mk label children) := by
  cases form : label.form with
  | typeDecl kind =>
    simp only [Java.typesAt, form]
    rw [Nesting.ofTypes_single]
    exact below.typeDecl fits form
  | creation =>
    have silent : declarationOf? source above (.mk label children) = none := by
      simp only [declarationOf?, form]
    simp only [Java.typesAt, form]
    rw [nestingsAt_of_none silent, Node.children,
      ← below.creation (.mk label children) above form fits, declarationsOf_of_none silent]
  | block | other =>
    simp only [Java.typesAt, form]
    exact below.plainNode fits (by rw [form]; rfl)
  | _ =>
    rw [form] at made
    cases made

theorem memberOf (body : parent.form.isBody = true)
    (room : parent.form.hasRoomFor label = true) :
    Nesting.ofMembers (declarationsOf source (parent :: above))
        (memberOf source (.mk label children)) =
      nestingsAt source (parent :: above) (.mk label children) := by
  cases form : label.form with
  | method kind =>
    simp only [Java.memberOf, form]
    rw [Nesting.ofMembers_single, Nesting.ofMember]
    exact below.method fits form
  | staticInit =>
    simp only [Java.memberOf, form]
    exact below.staticInit fits form
  | enumMembers =>
    simp only [Java.memberOf, form]
    exact below.enumMembers fits form
  | typeDecl kind =>
    simp only [Java.memberOf, form]
    rw [Nesting.ofMembers_single, Nesting.ofMember]
    exact below.typeDecl fits form
  | enumConstant =>
    simp only [Java.memberOf, form]
    rw [Nesting.ofMembers_types]
    exact below.enumConstant fits form
  | block | other =>
    simp only [Java.memberOf, form]
    rw [Nesting.ofMembers_types]
    exact below.plainNode fits (by rw [form]; rfl)
  -- In a body there is no room for these.
  | file | classBody | body | creation =>
    cases outer : parent.form <;>
      simp [Form.hasRoomFor, form, outer, Form.isBody, Form.isTypeDecl] at room body

end Node

section Step

variable (below : Listed source children) (beside : Listed source rest)
  (inner : label.form.Fits children)

include below beside inner

theorem cons_members (body : parent.form.isBody = true)
    (fits : parent.form.Fits (.mk label children :: rest)) :
    Nesting.ofMembers (declarationsOf source (parent :: above))
        (membersOf source (.mk label children :: rest)) =
      nestingsIn source parent above (.mk label children :: rest) := by
  rw [membersOf, Nesting.ofMembers_append, beside.members parent above body fits.tail,
    nestingsIn_part (Node.leadsTo_eq_isPart (.inl body) _)]
  congr 1
  split
  next => exact below.memberOf inner body fits.room
  next => rw [Nesting.ofMembers]

theorem cons_plain (plain : parent.form.isPlain = true)
    (fits : parent.form.Fits (.mk label children :: rest)) :
    Nesting.ofTypes (declarationsOf source (parent :: above))
        (typesIn source .other (.mk label children :: rest)) =
      nestingsIn source parent above (.mk label children :: rest) := by
  rw [typesIn_other, Nesting.ofTypes_append, beside.plain parent above plain fits.tail,
    nestingsIn_part (Node.leadsTo_eq_isPart (.inr (Form.holdsCode_of_isPlain plain)) _)]
  congr 1
  split
  next => exact below.typesAt inner (Form.isCode_in_plain plain fits.room)
  next => rw [Nesting.ofTypes]

theorem cons_constant (constant : parent.form = .enumConstant)
    (fits : parent.form.Fits (.mk label children :: rest)) :
    Nesting.ofTypes (declarationsOf source (parent :: above))
        (typesIn source .constant (.mk label children :: rest)) =
      nestingsIn source parent above (.mk label children :: rest) := by
  have holds : parent.form.holdsCode = true := by rw [constant]; rfl
  rw [typesIn_constant, Nesting.ofTypes_append, beside.constant parent above constant fits.tail,
    nestingsIn_part (Node.leadsTo_eq_isPart (.inr holds) _)]
  congr 1
  split
  next =>
    split
    next isClass =>
      rw [Nesting.ofTypes_single]
      exact below.anonymous inner isClass (by simp [Node.isTypeDecl, constant, Form.isTypeDecl])
    next noClass => exact below.typesAt inner (Form.isCode_of_hasRoomFor holds fits.room noClass)
  next => rw [Nesting.ofTypes]

theorem cons_creation (creation : parent.form = .creation)
    (fits : parent.form.Fits (.mk label children :: rest)) :
    Nesting.ofTypes (declarationsOf source (parent :: above))
        (typesIn source .creation (.mk label children :: rest) ++
          (createdBody? source (.mk label children :: rest)).toList) =
      nestingsIn source parent above (.mk label children :: rest) := by
  have holds : parent.form.holdsCode = true := by rw [creation]; rfl
  have leads := Node.leadsTo_eq_isPart (.inr holds)
  have later := beside.creation parent above creation fits.tail
  rw [nestingsIn_part (leads _), typesIn_creation, createdBody?_cons]
  by_cases isPart : (Node.mk label children).isPart = true
  next =>
    by_cases isClass : (Node.mk label children).form = .classBody
    next =>
      -- A class body comes last.
      have last : ∀ node ∈ rest, node.isPart = false := by
        intro node member
        have follows := (List.pairwise_cons.mp fits.single).1 node member
        have headPart : (Node.mk label children).label.isPart = true := isPart
        have headClass : (Node.mk label children).label.form = .classBody := isClass
        rw [creation] at follows
        simpa [Form.mayFollow, Node.isPart, headPart, headClass] using follows
      have nothing : nestingsIn source parent above rest = [] :=
        nestingsIn_nothing fun node member => (leads node).trans (last node member)
      rw [typesIn_nothing source last, createdBody?_nothing source last, nothing]
      simp only [isPart, isClass, if_true, decide_true, Bool.and_self, Option.none_or,
        Option.toList_some, List.nil_append, List.append_nil]
      rw [Nesting.ofTypes_single]
      exact below.anonymous inner isClass (by simp [Node.isTypeDecl, creation, Form.isTypeDecl])
    next =>
      simp only [isPart, isClass, if_true, if_false, decide_false, Bool.and_false,
        Bool.false_eq_true, Option.or_none, List.append_assoc]
      rw [Nesting.ofTypes_append, later,
        below.typesAt inner (Form.isCode_of_hasRoomFor holds fits.room isClass)]
  next =>
    simp only [isPart, if_false, Bool.false_and, Bool.false_eq_true, Option.or_none,
      List.nil_append]
    exact later

theorem cons_inBody {kind : TypeKind} (type : parent.form = .typeDecl kind)
    (fits : parent.form.Fits (.mk label children :: rest)) :
    Nesting.ofMembers (declarationsOf source (parent :: above))
        (bodyMembers source (.mk label children :: rest)) =
      nestingsIn source parent above (.mk label children :: rest) := by
  have leads : parent.leadsTo (.mk label children) = (Node.mk label children).inField "body" := by
    rw [Node.leadsTo, type]
    rfl
  rw [bodyMembers]
  split
  next inField =>
    have one : parent.form.leadsToOne = true := by rw [type]; rfl
    have isBody : label.form = .classBody ∨ label.form = .body := by
      have has := fits.body inField
      rw [type] at has
      exact (Bool.or_eq_true_iff.mp has).imp of_decide_eq_true of_decide_eq_true
    have silent : declarationOf? source (parent :: above) (.mk label children) = none := by
      have owned : parent.isTypeDecl = true := by rw [Node.isTypeDecl, type]; rfl
      rcases isBody with made | made <;> simp [declarationOf?, made, owned]
    have holds : (Node.mk label children).form.isBody = true := by
      rcases isBody with made | made <;> rw [Node.form, Node.label, made] <;> rfl
    rw [nestingsIn_only one (leads.trans inField) fits, innerMembers, nestingsAt_of_none silent,
      Node.children, ← below.members (.mk label children) (parent :: above) holds inner,
      declarationsOf_of_none silent]
  next inField =>
    rw [nestingsIn_not_led (leads.trans (Bool.eq_false_iff.mpr inField))]
    exact beside.inBody parent above kind type fits.tail

theorem cons_inMethod {kind : MethodKind} (method : parent.form = .method kind)
    (fits : parent.form.Fits (.mk label children :: rest)) :
    Nesting.ofStatements (declarationsOf source (parent :: above))
        ((bodyBlock source (.mk label children :: rest)).elim [] Block.statements) =
      nestingsIn source parent above (.mk label children :: rest) := by
  have leads : parent.leadsTo (.mk label children) = (Node.mk label children).inField "body" := by
    rw [Node.leadsTo, method]
    rfl
  rw [bodyBlock]
  split
  next inField =>
    have one : parent.form.leadsToOne = true := by rw [method]; rfl
    have plain : label.form.isPlain = true := by
      have has := fits.body inField
      rwa [method] at has
    rw [nestingsIn_only one (leads.trans inField) fits, Option.elim_some]
    exact below.blockAt_statements inner plain
  next inField =>
    rw [nestingsIn_not_led (leads.trans (Bool.eq_false_iff.mpr inField))]
    exact beside.inMethod parent above kind method fits.tail

theorem cons_inInit (init : parent.form = .staticInit)
    (fits : parent.form.Fits (.mk label children :: rest)) :
    Nesting.ofStatements (declarationsOf source (parent :: above))
        ((initBlock source (.mk label children :: rest)).elim [] Block.statements) =
      nestingsIn source parent above (.mk label children :: rest) := by
  have leads : parent.leadsTo (.mk label children) =
      ((Node.mk label children).isPart && (Node.mk label children).form = .block) := by
    rw [Node.leadsTo, init]
    rfl
  rw [initBlock]
  split
  next isBlock =>
    have one : parent.form.leadsToOne = true := by rw [init]; rfl
    have plain : label.form.isPlain = true := by
      have made : label.form = .block := of_decide_eq_true (Bool.and_eq_true_iff.mp isBlock).2
      rw [made]
      rfl
    rw [nestingsIn_only one (leads.trans isBlock) fits, Option.elim_some]
    exact below.blockAt_statements inner plain
  next isBlock =>
    rw [nestingsIn_not_led (leads.trans (Bool.eq_false_iff.mpr isBlock))]
    exact beside.inInit parent above init fits.tail

theorem cons_statements (plain : parent.form.isPlain = true)
    (fits : parent.form.Fits (.mk label children :: rest)) :
    Nesting.ofStatements (declarationsOf source (parent :: above))
        (statementsOf source (.mk label children :: rest)) =
      nestingsIn source parent above (.mk label children :: rest) := by
  have later := beside.statements parent above plain fits.tail
  rw [statementsOf,
    nestingsIn_part (Node.leadsTo_eq_isPart (.inr (Form.holdsCode_of_isPlain plain)) _)]
  split
  next =>
    rw [List.singleton_append, Nesting.ofStatements_cons, later,
      below.typesAt inner (Form.isCode_in_plain plain fits.room)]
  next => rw [List.nil_append, List.nil_append, later]

theorem cons : Listed source (.mk label children :: rest) where
  members _ _ body fits := below.cons_members beside inner body fits
  plain _ _ plain fits := below.cons_plain beside inner plain fits
  constant _ _ constant fits := below.cons_constant beside inner constant fits
  creation _ _ creation fits := below.cons_creation beside inner creation fits
  inBody _ _ _ type fits := below.cons_inBody beside inner type fits
  inMethod _ _ _ method fits := below.cons_inMethod beside inner method fits
  inInit _ _ init fits := below.cons_inInit beside inner init fits
  statements _ _ plain fits := below.cons_statements beside inner plain fits

end Step

variable (source)

theorem ofFits (nodes : List Node)
    (fits : ∀ node ∈ Node.allIn nodes, node.form.Fits node.children) :
    Listed source nodes := by
  induction nodes using Node.forest_induction with
  | nil => exact nil source
  | cons label children rest inChildren beside =>
    rw [Node.allIn, Node.all, List.cons_append, List.forall_mem_cons,
      List.forall_mem_append] at fits
    obtain ⟨here, inside, later⟩ := fits
    exact (inChildren inside).cons (beside later) here

end Listed

theorem fileTypes_nestings {tree : Node} (file : tree.form = .file) (nodes : List Node)
    (fits : ∀ node ∈ Node.allIn nodes, node.form.Fits node.children) :
    Nesting.ofTypes [] ((nodes.filter Node.isPart).filterMap (typeDeclAt? source)) =
      nestingsIn source tree [] nodes := by
  induction nodes with
  | nil => rw [List.filter_nil, List.filterMap_nil, Nesting.ofTypes, nestingsIn]
  | cons node rest ih =>
    obtain ⟨label, children⟩ := node
    rw [Node.allIn, Node.all, List.cons_append, List.forall_mem_cons,
      List.forall_mem_append] at fits
    obtain ⟨here, inside, later⟩ := fits
    have leads : tree.leadsTo (.mk label children) = (label.isPart && label.form.isTypeDecl) := by
      rw [Node.leadsTo, file]
      rfl
    rw [List.filter_cons]
    split
    next isPart =>
      have isPart : label.isPart = true := isPart
      rw [isPart, Bool.true_and] at leads
      cases form : label.form with
      | typeDecl kind =>
        have made : typeDeclAt? source (.mk label children) = some
            (typeDeclOf source kind (.mk label children) (bodyMembers source children)) := by
          simp only [typeDeclAt?, form]
        have root : declarationsOf source [tree] = [] := by
          obtain ⟨label, children⟩ := tree
          simp only [declarationsOf, declarationOf?, show label.form = .file from file]
          rfl
        rw [form] at leads
        have below := Listed.ofFits source children inside
        rw [List.filterMap_cons_some made, Nesting.ofTypes, nestingsIn_led leads, ih later, ← root]
        exact congrArg (· ++ _) (below.typeDecl here form)
      | _ =>
        have none : typeDeclAt? source (.mk label children) = none := by
          simp only [typeDeclAt?, form]
        rw [form] at leads
        rw [List.filterMap_cons_none none, nestingsIn_not_led leads, ih later]
    next isPart =>
      have isPart : label.isPart = false := Bool.eq_false_iff.mpr isPart
      rw [isPart, Bool.false_and] at leads
      rw [nestingsIn_not_led leads, ih later]

end Java

theorem CompilationUnit.ofTree_nestings (text : List Char) {tree : Java.Node}
    (grammatical : tree.Grammatical) : (ofTree text tree).nestings =
      (tree.spots.filter Java.Spot.isReached).filterMap (Java.Spot.nesting? text.toArray) := by
  rw [Java.Node.spots, Java.nestingsIn_eq_reached _ _ _ rfl]
  exact Java.fileTypes_nestings text.toArray grammatical.root tree.children
    fun node below => grammatical.fits node (Java.Node.mem_all_iff.mpr (.inr below))

end DocAudit
