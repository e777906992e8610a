import DocAudit.Proofs.DeclarationNesting
import DocAudit.Proofs.MethodOccurrence

set_option autoImplicit false

namespace DocAudit

namespace Address

mutual

def typeInTypes? (types : List TypeDecl) : Address → Option TypeDecl
  | [] => none
  | index :: rest =>
    match types[index]? with
    | none => none
    | some decl => if rest = [] then some decl else typeInMembers? decl.members rest

def typeInMembers? (members : List Member) : Address → Option TypeDecl
  | [] => none
  | index :: rest =>
    match members[index]? with
    | none => none
    | some (.type decl) => if rest = [] then some decl else typeInMembers? decl.members rest
    | some (.method decl) => typeInStatements? decl.statements rest
    | some (.staticInit _ body) => typeInStatements? body.statements rest

def typeInStatements? (statements : List Statement) : Address → Option TypeDecl
  | [] => none
  | index :: rest =>
    match statements[index]? with
    | none => none
    | some statement => typeInTypes? statement.nested rest

end

end Address

def CompilationUnit.typeAt? (unit : CompilationUnit) (address : Address) : Option TypeDecl :=
  Address.typeInTypes? unit.types address

structure TypePlace where
  address : Address
  decl : TypeDecl

namespace TypePlace

def under (index : Nat) (place : TypePlace) : TypePlace :=
  { place with address := index :: place.address }

mutual

def ofType : TypeDecl → List TypePlace
  | ⟨kind, name, line, column, endLine, modifiers, typeParams, superclass, members⟩ =>
    ⟨[], ⟨kind, name, line, column, endLine, modifiers, typeParams, superclass, members⟩⟩ ::
      ofMembers 0 members

def ofTypes (index : Nat) : List TypeDecl → List TypePlace
  | [] => []
  | decl :: rest => (ofType decl).map (under index) ++ ofTypes (index + 1) rest

def ofMember : Member → List TypePlace
  | .method decl => ofMethod decl
  | .staticInit _ ⟨_, _, statements⟩ => ofStatements 0 statements
  | .type decl => ofType decl

def ofMembers (index : Nat) : List Member → List TypePlace
  | [] => []
  | member :: rest => (ofMember member).map (under index) ++ ofMembers (index + 1) rest

def ofMethod : MethodDecl → List TypePlace
  | { body := none, .. } => []
  | { body := some ⟨_, _, statements⟩, .. } => ofStatements 0 statements

def ofStatements (index : Nat) : List Statement → List TypePlace
  | [] => []
  | ⟨_, _, _, nested⟩ :: rest =>
    (ofTypes 0 nested).map (under index) ++ ofStatements (index + 1) rest

end

theorem ofType_eq (decl : TypeDecl) : ofType decl = ⟨[], decl⟩ :: ofMembers 0 decl.members := by
  obtain ⟨⟩ := decl
  rw [ofType]

theorem ofMethod_eq (decl : MethodDecl) : ofMethod decl = ofStatements 0 decl.statements := by
  obtain ⟨_, _, _, _, _, _, _, _, _, _, body⟩ := decl
  match body with
  | none => simp [ofMethod, MethodDecl.statements, ofStatements]
  | some ⟨_, _, _⟩ => rw [ofMethod]; rfl

theorem ofMember_staticInit (line : Nat) (body : Block) :
    ofMember (.staticInit line body) = ofStatements 0 body.statements := by
  obtain ⟨⟩ := body
  rw [ofMember]

section Numbering

variable {α : Type} (inside : α → List TypePlace)

-- What is inside of neighbours, each under its own number.
def numbered (index : Nat) : List α → List TypePlace
  | [] => []
  | first :: rest => (inside first).map (under index) ++ numbered (index + 1) rest

theorem ofTypes_eq_numbered (index : Nat) (types : List TypeDecl) :
    ofTypes index types = numbered ofType index types := by
  induction types generalizing index with
  | nil => rw [ofTypes, numbered]
  | cons decl rest ih => rw [ofTypes, numbered, ih]

theorem ofMembers_eq_numbered (index : Nat) (members : List Member) :
    ofMembers index members = numbered ofMember index members := by
  induction members generalizing index with
  | nil => rw [ofMembers, numbered]
  | cons member rest ih => rw [ofMembers, numbered, ih]

theorem ofStatements_eq_numbered (index : Nat) (statements : List Statement) :
    ofStatements index statements =
      numbered (fun statement => ofTypes 0 statement.nested) index statements := by
  induction statements generalizing index with
  | nil => rw [ofStatements, numbered]
  | cons statement rest ih =>
    obtain ⟨⟩ := statement
    rw [ofStatements, numbered, ih]

variable {inside} {neighbours : List α} {index : Nat}

theorem mem_numbered_iff {place : TypePlace} : place ∈ numbered inside index neighbours ↔
    ∃ offset neighbour inner, neighbours[offset]? = some neighbour ∧ inner ∈ inside neighbour ∧
      place = under (index + offset) inner := by
  induction neighbours generalizing index with
  | nil => simp [numbered]
  | cons first rest ih =>
    rw [← Nat.or_exists_add_one, numbered, List.mem_append, ih, List.mem_map]
    simp [Nat.add_assoc, Nat.add_comm 1, eq_comm]

theorem nil_notMem_numbered {decl : TypeDecl} :
    (⟨[], decl⟩ : TypePlace) ∉ numbered inside index neighbours := by
  rw [mem_numbered_iff]
  rintro ⟨_, _, _, _, _, same⟩
  cases same

theorem cons_mem_numbered_iff {rest : Address} {decl : TypeDecl} :
    (⟨index :: rest, decl⟩ : TypePlace) ∈ numbered inside 0 neighbours ↔
      ∃ neighbour, neighbours[index]? = some neighbour ∧
        (⟨rest, decl⟩ : TypePlace) ∈ inside neighbour := by
  rw [mem_numbered_iff]
  constructor
  · rintro ⟨offset, neighbour, ⟨address, inner⟩, found, present, same⟩
    cases same
    rw [Nat.zero_add]
    exact ⟨neighbour, found, present⟩
  · rintro ⟨neighbour, found, present⟩
    exact ⟨index, neighbour, ⟨rest, decl⟩, found, present, by simp [under]⟩

abbrev Ordered (places : List TypePlace) : Prop :=
  places.Pairwise fun first second => first.address < second.address

-- All that is inside of a neighbour stands ahead of the next one.
theorem ordered_numbered (each : ∀ neighbour ∈ neighbours, Ordered (inside neighbour)) :
    Ordered (numbered inside index neighbours) := by
  induction neighbours generalizing index with
  | nil => exact .nil
  | cons first rest ih =>
    obtain ⟨here, beside⟩ := List.forall_mem_cons.mp each
    rw [numbered]
    refine List.pairwise_append.mpr ⟨?_, ih beside, ?_⟩
    · rw [List.pairwise_map]
      exact here.imp fun before => List.cons_lt_cons_iff.mpr (.inr ⟨rfl, before⟩)
    · intro earlier inFirst later inRest
      obtain ⟨inner, _, rfl⟩ := List.mem_map.mp inFirst
      obtain ⟨offset, _, other, _, _, rfl⟩ := mem_numbered_iff.mp inRest
      exact List.cons_lt_cons_iff.mpr (.inl (by omega))

end Numbering

-- The induction is on the address: each of its numbers picks one neighbour, and the rest leads
-- on from there.
theorem mem_iff_typeAt (address : Address) :
    (∀ types decl, ⟨address, decl⟩ ∈ ofTypes 0 types ↔
        Address.typeInTypes? types address = some decl) ∧
      (∀ members decl, ⟨address, decl⟩ ∈ ofMembers 0 members ↔
        Address.typeInMembers? members address = some decl) ∧
      ∀ statements decl, ⟨address, decl⟩ ∈ ofStatements 0 statements ↔
        Address.typeInStatements? statements address = some decl := by
  induction address with
  | nil =>
    refine ⟨?_, ?_, ?_⟩ <;> intros <;>
      simp [ofTypes_eq_numbered, ofMembers_eq_numbered, ofStatements_eq_numbered,
        nil_notMem_numbered, Address.typeInTypes?, Address.typeInMembers?,
        Address.typeInStatements?]
  | cons index rest ih =>
    obtain ⟨inTypes, inMembers, inStatements⟩ := ih
    -- A type's own address ends at the type; all longer ones lead to its members.
    have inType (outer decl : TypeDecl) : ⟨rest, decl⟩ ∈ ofType outer ↔
        (if rest = [] then some outer else Address.typeInMembers? outer.members rest) =
          some decl := by
      rw [ofType_eq, List.mem_cons]
      by_cases last : rest = []
      · subst last
        simp [ofMembers_eq_numbered, nil_notMem_numbered, eq_comm]
      · simp [last, inMembers]
    refine ⟨?_, ?_, ?_⟩
    next =>
      intro types decl
      rw [ofTypes_eq_numbered, cons_mem_numbered_iff, Address.typeInTypes?]
      cases types[index]? with
      | none => simp
      | some outer => simp [inType]
    next =>
      intro members decl
      rw [ofMembers_eq_numbered, cons_mem_numbered_iff, Address.typeInMembers?]
      cases members[index]? with
      | none => simp
      | some member =>
        cases member with
        | method method => simp [ofMember, ofMethod_eq, inStatements]
        | staticInit line body => simp [ofMember_staticInit, inStatements]
        | type outer => simp [ofMember, inType]
    next =>
      intro statements decl
      rw [ofStatements_eq_numbered, cons_mem_numbered_iff, Address.typeInStatements?]
      cases statements[index]? with
      | none => simp
      | some statement => simp [inTypes]

theorem ordered_ofType {decl : TypeDecl}
    (inner : ∀ member ∈ decl.members, Ordered (ofMember member)) : Ordered (ofType decl) := by
  rw [ofType_eq, ofMembers_eq_numbered]
  refine List.pairwise_cons.mpr ⟨fun place listed => ?_, ordered_numbered inner⟩
  obtain ⟨_, _, _, _, _, rfl⟩ := mem_numbered_iff.mp listed
  exact List.nil_lt_cons _ _

theorem ordered_ofStatements {statements : List Statement}
    (inner : ∀ statement ∈ statements, Ordered (ofTypes 0 statement.nested)) :
    Ordered (ofStatements 0 statements) := by
  rw [ofStatements_eq_numbered]
  exact ordered_numbered inner

theorem ordered_induction : DeclarationInduction
    (fun types => ∀ decl ∈ types, Ordered (ofType decl))
    (fun members => ∀ member ∈ members, Ordered (ofMember member))
    (fun statements => ∀ statement ∈ statements, Ordered (ofTypes 0 statement.nested)) where
  noTypes := nofun
  addType decl rest inner later := List.forall_mem_cons.mpr ⟨ordered_ofType inner, later⟩
  noMembers := nofun
  addMethod decl rest inner later := by
    refine List.forall_mem_cons.mpr ⟨?_, later⟩
    rw [ofMember, ofMethod_eq]
    exact MethodDecl.statements_induction (by simp [ofStatements])
      fun body present => ordered_ofStatements (inner body present)
  addStaticInit line body rest inner later := by
    refine List.forall_mem_cons.mpr ⟨?_, later⟩
    rw [ofMember_staticInit]
    exact ordered_ofStatements inner
  addMemberType decl rest inner later := by
    refine List.forall_mem_cons.mpr ⟨?_, later⟩
    rw [ofMember]
    exact ordered_ofType inner
  noStatements := nofun
  addStatement statement rest inner later := by
    refine List.forall_mem_cons.mpr ⟨?_, later⟩
    rw [ofTypes_eq_numbered]
    exact ordered_numbered inner

-- Moved under a number, the types are the same.
theorem decls_under (index : Nat) (places : List TypePlace) :
    (places.map (under index)).map (·.decl) = places.map (·.decl) := by
  rw [List.map_map]
  rfl

theorem decls_ofType {decl : TypeDecl}
    (inner : ∀ index, (ofMembers index decl.members).map (·.decl) =
      (Declaration.ofMembers decl.members).filterMap Declaration.type?) :
    (ofType decl).map (·.decl) = decl.declarations.filterMap Declaration.type? := by
  rw [ofType_eq, TypeDecl.declarations_eq, List.map_cons, inner, List.filterMap_cons]
  rfl

theorem decls_ofMethod {decl : MethodDecl}
    (inner : ∀ body, decl.body = some body → ∀ index,
      (ofStatements index body.statements).map (·.decl) =
        (Declaration.ofStatements body.statements).filterMap Declaration.type?) :
    (ofMethod decl).map (·.decl) = decl.declarations.filterMap Declaration.type? := by
  rw [ofMethod_eq, MethodDecl.declarations_eq, List.filterMap_cons, MethodDecl.statements]
  cases present : decl.body with
  | none => simp [ofStatements, Declaration.type?]
  | some body => exact inner body present 0

theorem decls_induction : DeclarationInduction
    (fun types => ∀ index, (ofTypes index types).map (·.decl) =
      (Declaration.ofTypes types).filterMap Declaration.type?)
    (fun members => ∀ index, (ofMembers index members).map (·.decl) =
      (Declaration.ofMembers members).filterMap Declaration.type?)
    (fun statements => ∀ index, (ofStatements index statements).map (·.decl) =
      (Declaration.ofStatements statements).filterMap Declaration.type?) where
  noTypes index := by rw [ofTypes, Declaration.ofTypes, List.map_nil, List.filterMap_nil]
  addType decl rest inner later index := by
    rw [ofTypes, Declaration.ofTypes, List.map_append, decls_under, decls_ofType inner, later,
      List.filterMap_append]
  noMembers index := by rw [ofMembers, Declaration.ofMembers, List.map_nil, List.filterMap_nil]
  addMethod decl rest inner later index := by
    rw [ofMembers, Declaration.ofMembers, List.map_append, decls_under, later,
      List.filterMap_append, ofMember, Member.declarations, decls_ofMethod inner]
  addStaticInit line body rest inner later index := by
    rw [ofMembers, Declaration.ofMembers, List.map_append, decls_under, later,
      List.filterMap_append, ofMember_staticInit, Member.declarations_staticInit, inner,
      List.filterMap_cons]
    rfl
  addMemberType decl rest inner later index := by
    rw [ofMembers, Declaration.ofMembers, List.map_append, decls_under, later,
      List.filterMap_append, ofMember, Member.declarations, decls_ofType inner]
  noStatements index := by
    rw [ofStatements, Declaration.ofStatements, List.map_nil, List.filterMap_nil]
  addStatement statement rest inner later index := by
    obtain ⟨⟩ := statement
    rw [ofStatements, Declaration.ofStatements, List.map_append, decls_under, inner, later,
      List.filterMap_append]

end TypePlace

def CompilationUnit.typePlaces (unit : CompilationUnit) : List TypePlace :=
  TypePlace.ofTypes 0 unit.types

namespace CompilationUnit

variable (unit : CompilationUnit)

theorem mem_typePlaces_iff (address : Address) (decl : TypeDecl) :
    ⟨address, decl⟩ ∈ unit.typePlaces ↔ unit.typeAt? address = some decl :=
  (TypePlace.mem_iff_typeAt address).1 unit.types decl

theorem typePlaces_ordered : TypePlace.Ordered unit.typePlaces := by
  rw [typePlaces, TypePlace.ofTypes_eq_numbered]
  exact TypePlace.ordered_numbered (TypePlace.ordered_induction.ofTypes unit.types)

theorem typePlaces_decls :
    unit.typePlaces.map (·.decl) = unit.declarations.filterMap Declaration.type? :=
  TypePlace.decls_induction.ofTypes unit.types 0

end CompilationUnit

end DocAudit
