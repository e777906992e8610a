import DocAudit.Java.Unit

set_option autoImplicit false

namespace DocAudit

inductive Declaration where
  | type (decl : TypeDecl)
  | method (decl : MethodDecl)
  | staticInit (line : Nat) (body : Block)

namespace Declaration

def line : Declaration → Nat
  | .type decl => decl.line
  | .method decl => decl.line
  | .staticInit line _ => line

def column? : Declaration → Option Nat
  | .type decl => some decl.column
  | .method decl => some decl.column
  | .staticInit _ _ => none

end Declaration

mutual

def TypeDecl.declarations : TypeDecl → List Declaration
  | ⟨kind, name, line, column, endLine, modifiers, typeParams, superclass, members⟩ =>
    .type ⟨kind, name, line, column, endLine, modifiers, typeParams, superclass, members⟩ ::
      Declaration.ofMembers members

def Declaration.ofMembers : List Member → List Declaration
  | [] => []
  | member :: rest => Member.declarations member ++ Declaration.ofMembers rest

def Member.declarations : Member → List Declaration
  | .method decl => MethodDecl.declarations decl
  | .staticInit line ⟨openLine, closeLine, statements⟩ =>
    .staticInit line ⟨openLine, closeLine, statements⟩ :: Declaration.ofStatements statements
  | .type decl => TypeDecl.declarations decl

def MethodDecl.declarations : MethodDecl → List Declaration
  | ⟨kind, name, line, column, endLine, modifiers, typeParams, params, throws, result, none⟩ =>
    [.method
      ⟨kind, name, line, column, endLine, modifiers, typeParams, params, throws, result, none⟩]
  | ⟨kind, name, line, column, endLine, modifiers, typeParams, params, throws, result,
      some ⟨openLine, closeLine, statements⟩⟩ =>
    .method ⟨kind, name, line, column, endLine, modifiers, typeParams, params, throws, result,
      some ⟨openLine, closeLine, statements⟩⟩ :: Declaration.ofStatements statements

def Declaration.ofStatements : List Statement → List Declaration
  | [] => []
  | ⟨_, _, _, nested⟩ :: rest => Declaration.ofTypes nested ++ Declaration.ofStatements rest

def Declaration.ofTypes : List TypeDecl → List Declaration
  | [] => []
  | decl :: rest => TypeDecl.declarations decl ++ Declaration.ofTypes rest

end

def CompilationUnit.declarations (unit : CompilationUnit) : List Declaration :=
  Declaration.ofTypes unit.types

theorem TypeDecl.declarations_eq (decl : TypeDecl) :
    decl.declarations = .type decl :: Declaration.ofMembers decl.members := by
  obtain ⟨⟩ := decl
  rw [TypeDecl.declarations]

theorem MethodDecl.declarations_eq (decl : MethodDecl) :
    decl.declarations = .method decl ::
      decl.body.elim [] fun body => Declaration.ofStatements body.statements := by
  obtain ⟨_, _, _, _, _, _, _, _, _, _, body⟩ := decl
  match body with
  | none => rw [MethodDecl.declarations, Option.elim_none]
  | some ⟨_, _, _⟩ => rw [MethodDecl.declarations, Option.elim_some]

theorem Member.declarations_staticInit (line : Nat) (body : Block) :
    (Member.staticInit line body).declarations =
      .staticInit line body :: Declaration.ofStatements body.statements := by
  obtain ⟨⟩ := body
  rw [Member.declarations]

namespace Declaration

theorem ofMembers_single (member : Member) : ofMembers [member] = member.declarations := by
  simp [ofMembers]

theorem ofTypes_single (decl : TypeDecl) : ofTypes [decl] = decl.declarations := by
  simp [ofTypes]

theorem ofMembers_append (members later : List Member) :
    ofMembers (members ++ later) = ofMembers members ++ ofMembers later := by
  induction members with
  | nil => rfl
  | cons member rest ih => simp [ofMembers, ih]

theorem ofTypes_append (types later : List TypeDecl) :
    ofTypes (types ++ later) = ofTypes types ++ ofTypes later := by
  induction types with
  | nil => rfl
  | cons decl rest ih => simp [ofTypes, ih]

theorem ofMembers_types (types : List TypeDecl) : ofMembers (types.map .type) = ofTypes types := by
  induction types with
  | nil => rfl
  | cons decl rest ih => simp [ofMembers, ofTypes, Member.declarations, ih]

end Declaration

namespace Java

/-- The ways in which a node becomes a declaration. -/
inductive Node.Makes (source : Array Char) (node : Node) : Declaration → Prop
  | type (kind : TypeKind) (members : List Member) :
      Makes source node (.type (typeDeclOf source kind node members))
  | anonymous (members : List Member) : Makes source node (.type (anonymousOf node members))
  | method (kind : MethodKind) :
      Makes source node (.method (methodDeclOf source kind node (bodyBlock source node.children)))
  | staticInit {body : Block} (found : initBlock source node.children = some body) :
      Makes source node (.staticInit node.line body)

theorem Node.Makes.start {source : Array Char} {node : Node} {decl : Declaration}
    (makes : node.Makes source decl) :
    decl.line = node.start.line ∧ ∀ column ∈ decl.column?, node.start.column = column := by
  cases makes with
  | staticInit found => exact ⟨rfl, nofun⟩
  | _ => exact ⟨rfl, by rintro _ ⟨⟩; rfl⟩

theorem Node.mem_all (node : Node) : node ∈ node.all := by
  obtain ⟨label, children⟩ := node
  rw [all]
  exact List.mem_cons_self

theorem Node.mem_allIn {node inner : Node} {nodes : List Node} (member : node ∈ nodes)
    (below : inner ∈ node.all) : inner ∈ allIn nodes := by
  induction nodes with
  | nil => cases member
  | cons first rest ih =>
    rw [allIn, List.mem_append]
    rcases List.mem_cons.mp member with rfl | member
    · exact .inl below
    · exact .inr (ih member)

def AllMade (source : Array Char) (nodes : List Node) (decls : List Declaration) : Prop :=
  ∀ decl ∈ decls, ∃ node ∈ Node.allIn nodes, node.Makes source decl

variable {source : Array Char} {label : NodeLabel} {node : Node} {children rest nodes : List Node}
  {decls : List Declaration}

theorem allMade_nil : AllMade source nodes [] := nofun

theorem AllMade.append {later : List Declaration} (first : AllMade source nodes decls)
    (second : AllMade source nodes later) : AllMade source nodes (decls ++ later) :=
  List.forall_mem_append.mpr ⟨first, second⟩

theorem AllMade.besides (made : AllMade source rest decls) :
    AllMade source (node :: rest) decls := by
  intro decl declared
  obtain ⟨maker, below, makes⟩ := made decl declared
  exact ⟨maker, by rw [Node.allIn]; exact List.mem_append_right _ below, makes⟩

theorem AllMade.inside (made : AllMade source children decls) :
    AllMade source (.mk label children :: rest) decls := by
  intro decl declared
  obtain ⟨maker, below, makes⟩ := made decl declared
  refine ⟨maker, ?_, makes⟩
  rw [Node.allIn, Node.all]
  exact List.mem_append_left _ (List.mem_cons_of_mem _ below)

theorem AllMade.made {decl : Declaration} (makes : (Node.mk label children).Makes source decl)
    (below : AllMade source children decls) :
    AllMade source (.mk label children :: rest) (decl :: decls) :=
  List.forall_mem_cons.mpr ⟨⟨_, Node.mem_allIn List.mem_cons_self (Node.mem_all _), makes⟩,
    below.inside⟩

-- What is read from some nodes, in each of the ways to read them.
structure ReadMade (source : Array Char) (nodes : List Node) : Prop where
  members : AllMade source nodes (Declaration.ofMembers (membersOf source nodes))
  inBody : AllMade source nodes (Declaration.ofMembers (bodyMembers source nodes))
  types : ∀ around, AllMade source nodes (Declaration.ofTypes (typesIn source around nodes))
  created : AllMade source nodes (Declaration.ofTypes (createdBody? source nodes).toList)
  inMethod : ∀ body, bodyBlock source nodes = some body →
    AllMade source nodes (Declaration.ofStatements body.statements)
  inInit : ∀ body, initBlock source nodes = some body →
    AllMade source nodes (Declaration.ofStatements body.statements)
  statements : AllMade source nodes (Declaration.ofStatements (statementsOf source nodes))

namespace ReadMade

theorem nil : ReadMade source [] := by
  constructor <;>
    simp [membersOf, bodyMembers, typesIn, createdBody?, bodyBlock, initBlock, statementsOf,
      Declaration.ofMembers, Declaration.ofTypes, Declaration.ofStatements, allMade_nil]

section Node

variable (below : ReadMade source children)

include below

theorem typeDecl (kind : TypeKind) : AllMade source (.mk label children :: rest)
    (typeDeclOf source kind (.mk label children) (bodyMembers source children)).declarations := by
  rw [TypeDecl.declarations_eq]
  exact .made (.type kind _) below.inBody

theorem anonymous : AllMade source (.mk label children :: rest)
    (anonymousOf (.mk label children) (innerMembers source (.mk label children))).declarations := by
  rw [TypeDecl.declarations_eq, innerMembers]
  exact .made (.anonymous _) below.members

theorem method (kind : MethodKind) : AllMade source (.mk label children :: rest)
    (methodDeclOf source kind (.mk label children) (bodyBlock source children)).declarations := by
  rw [MethodDecl.declarations_eq]
  refine .made (.method kind) ?_
  change AllMade source children ((bodyBlock source children).elim [] _)
  cases found : bodyBlock source children with
  | none => exact allMade_nil
  | some body => exact below.inMethod body found

theorem staticInit : AllMade source (.mk label children :: rest) (Declaration.ofMembers
    ((initBlock source children).toList.map (.staticInit label.start.line))) := by
  cases found : initBlock source children with
  | none => exact allMade_nil
  | some body =>
    rw [Option.toList_some, List.map_singleton, Declaration.ofMembers_single,
      Member.declarations_staticInit]
    exact .made (.staticInit found) (below.inInit body found)

theorem memberOf : AllMade source (.mk label children :: rest)
    (Declaration.ofMembers (memberOf source (.mk label children))) := by
  rw [Java.memberOf]
  split
  next kind _ =>
    rw [Declaration.ofMembers_single, Member.declarations]
    exact method below kind
  next => exact staticInit below
  next => exact below.members.inside
  next kind _ =>
    rw [Declaration.ofMembers_single, Member.declarations]
    exact typeDecl below kind
  all_goals
    rw [Declaration.ofMembers_types]
    exact (below.types _).inside

theorem typesAt : AllMade source (.mk label children :: rest)
    (Declaration.ofTypes (typesAt source (.mk label children))) := by
  rw [Java.typesAt]
  split
  next kind _ =>
    rw [Declaration.ofTypes_single]
    exact typeDecl below kind
  next =>
    rw [Declaration.ofTypes_append]
    exact ((below.types _).append below.created).inside
  next => exact (below.types _).inside

theorem blockAt : AllMade source (.mk label children :: rest)
    (Declaration.ofStatements (blockAt source (.mk label children)).statements) := by
  rw [Java.blockAt]
  exact below.statements.inside

variable (beside : ReadMade source rest)

include beside

theorem cons : ReadMade source (.mk label children :: rest) where
  members := by
    rw [membersOf, Declaration.ofMembers_append]
    refine .append ?_ beside.members.besides
    split
    next => exact below.memberOf
    next => exact allMade_nil
  inBody := by
    rw [bodyMembers]
    split
    next =>
      rw [innerMembers]
      exact below.members.inside
    next => exact beside.inBody.besides
  types around := by
    rw [typesIn.eq_def]
    dsimp only
    rw [Declaration.ofTypes_append]
    refine .append ?_ (beside.types around).besides
    split
    next =>
      split
      next =>
        rw [Declaration.ofTypes_single]
        exact below.anonymous
      next => exact allMade_nil
      next => exact below.typesAt
    next => exact allMade_nil
  created := by
    rw [createdBody?]
    split
    next later found =>
      have made := beside.created
      rw [found] at made
      exact made.besides
    next =>
      split
      next =>
        rw [Option.toList_some, Declaration.ofTypes_single]
        exact below.anonymous
      next => exact allMade_nil
  inMethod body found := by
    rw [bodyBlock] at found
    split at found
    next =>
      cases found
      exact below.blockAt
    next => exact (beside.inMethod body found).besides
  inInit body found := by
    rw [initBlock] at found
    split at found
    next =>
      cases found
      exact below.blockAt
    next => exact (beside.inInit body found).besides
  statements := by
    rw [statementsOf]
    split
    next =>
      rw [List.singleton_append, Declaration.ofStatements]
      exact .append below.typesAt beside.statements.besides
    next => exact beside.statements.besides

end Node

theorem ofNodes (source : Array Char) (nodes : List Node) : ReadMade source nodes := by
  induction nodes using Node.forest_induction with
  | nil => exact nil
  | cons label children rest inChildren beside => exact inChildren.cons beside

end ReadMade

theorem fileTypes_made (source : Array Char) (nodes : List Node) :
    AllMade source nodes
      (Declaration.ofTypes ((nodes.filter Node.isPart).filterMap (typeDeclAt? source))) := by
  induction nodes with
  | nil => exact allMade_nil
  | cons node rest ih =>
    obtain ⟨label, children⟩ := node
    rw [List.filter_cons]
    split
    next =>
      rw [List.filterMap_cons, typeDeclAt?]
      split
      next => exact ih.besides
      next decl made =>
        split at made
        next kind _ =>
          cases made
          exact .append ((ReadMade.ofNodes source children).typeDecl kind) ih.besides
        next => cases made
    next => exact ih.besides

end Java

namespace CompilationUnit

theorem ofTree_made (text : List Char) (tree : Java.Node) {decl : Declaration}
    (declared : decl ∈ (ofTree text tree).declarations) :
    ∃ node ∈ tree.all, node.Makes text.toArray decl := by
  obtain ⟨label, children⟩ := tree
  obtain ⟨node, below, makes⟩ := Java.fileTypes_made text.toArray children decl declared
  exact ⟨node, by rw [Java.Node.all]; exact List.mem_cons_of_mem _ below, makes⟩

theorem ofJava?_eq [Java.Parser] {text : List Char} {tree : Java.Node} {unit : CompilationUnit}
    (parsed : Java.Parser.parse? text = some tree) (accepted : ofJava? text = some unit) :
    unit = ofTree text tree := by
  rw [ofJava?, readJava, parsed] at accepted
  dsimp only at accepted
  split at accepted
  next => cases accepted
  next => exact (Option.some.inj accepted).symm

end CompilationUnit

end DocAudit
