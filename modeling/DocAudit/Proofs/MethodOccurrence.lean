import DocAudit.Comment
import DocAudit.Proofs.DeclarationInduction

set_option autoImplicit false

namespace DocAudit

abbrev Address := List Nat

def MethodDecl.statements (decl : MethodDecl) : List Statement :=
  match decl.body with
  | none => []
  | some body => body.statements

@[elab_as_elim]
theorem MethodDecl.statements_induction {motive : List Statement → Prop} {decl : MethodDecl}
    (bodiless : motive [])
    (inBody : ∀ body, decl.body = some body → motive body.statements) : motive decl.statements := by
  cases present : decl.body with
  | none => simpa [statements, present] using bodiless
  | some body => simpa [statements, present] using inBody body present

namespace Address

mutual

def inTypes? (enclosing types : List TypeDecl) : Address → Option (List TypeDecl × MethodDecl)
  | [] => none
  | index :: rest =>
    match types[index]? with
    | none => none
    | some decl => inMembers? (decl :: enclosing) decl.members rest

def inMembers? (enclosing : List TypeDecl) (members : List Member) :
    Address → Option (List TypeDecl × MethodDecl)
  | [] => none
  | index :: rest =>
    match members[index]? with
    | none => none
    | some (.method decl) =>
      -- A method's own address ends at the member; all longer ones lead into its body.
      if rest = [] then some (enclosing, decl) else inStatements? enclosing decl.statements rest
    | some (.staticInit _ body) => inStatements? enclosing body.statements rest
    | some (.type decl) => inMembers? (decl :: enclosing) decl.members rest

def inStatements? (enclosing : List TypeDecl) (statements : List Statement) :
    Address → Option (List TypeDecl × MethodDecl)
  | [] => none
  | index :: rest =>
    match statements[index]? with
    | none => none
    | some statement => inTypes? enclosing statement.nested rest

end

end Address

-- The method at an address, with the types around it, innermost first.
def CompilationUnit.methodAt? (unit : CompilationUnit) (address : Address) :
    Option (List TypeDecl × MethodDecl) :=
  Address.inTypes? [] unit.types address

structure Occurrence where
  address : Address
  enclosing : List TypeDecl
  decl : MethodDecl

namespace Occurrence

def under (index : Nat) (occurrence : Occurrence) : Occurrence :=
  { occurrence with address := index :: occurrence.address }

-- Neighbours side by side, each under its own number.
def number : Nat → List (List Occurrence) → List Occurrence
  | _, [] => []
  | index, group :: rest => group.map (under index) ++ number (index + 1) rest

mutual

def ofType (enclosing : List TypeDecl) : TypeDecl → List Occurrence
  | ⟨kind, name, line, column, endLine, modifiers, typeParams, superclass, members⟩ =>
    number 0 (ofMembers
      (⟨kind, name, line, column, endLine, modifiers, typeParams, superclass, members⟩ :: enclosing)
      members)

def ofTypes (enclosing : List TypeDecl) : List TypeDecl → List (List Occurrence)
  | [] => []
  | decl :: rest => ofType enclosing decl :: ofTypes enclosing rest

def ofMember (enclosing : List TypeDecl) : Member → List Occurrence
  | .method decl => ofMethod enclosing decl
  | .staticInit _ ⟨_, _, statements⟩ => number 0 (ofStatements enclosing statements)
  | .type decl => ofType enclosing decl

def ofMembers (enclosing : List TypeDecl) : List Member → List (List Occurrence)
  | [] => []
  | member :: rest => ofMember enclosing member :: ofMembers enclosing rest

def ofMethod (enclosing : List TypeDecl) : MethodDecl → List Occurrence
  | ⟨kind, name, line, column, endLine, modifiers, typeParams, params, throws, result, none⟩ =>
    [⟨[], enclosing,
      ⟨kind, name, line, column, endLine, modifiers, typeParams, params, throws, result, none⟩⟩]
  | ⟨kind, name, line, column, endLine, modifiers, typeParams, params, throws, result,
      some ⟨openLine, closeLine, statements⟩⟩ =>
    ⟨[], enclosing,
      ⟨kind, name, line, column, endLine, modifiers, typeParams, params, throws, result,
        some ⟨openLine, closeLine, statements⟩⟩⟩ :: number 0 (ofStatements enclosing statements)

def ofStatements (enclosing : List TypeDecl) : List Statement → List (List Occurrence)
  | [] => []
  | ⟨_, _, _, nested⟩ :: rest =>
    number 0 (ofTypes enclosing nested) :: ofStatements enclosing rest

end

theorem ofType_eq (enclosing : List TypeDecl) (decl : TypeDecl) :
    ofType enclosing decl = number 0 (ofMembers (decl :: enclosing) decl.members) := by
  obtain ⟨⟩ := decl
  rw [ofType]

theorem ofMethod_eq (enclosing : List TypeDecl) (decl : MethodDecl) :
    ofMethod enclosing decl =
      ⟨[], enclosing, decl⟩ :: number 0 (ofStatements enclosing decl.statements) := by
  obtain ⟨kind, name, line, column, endLine, modifiers, typeParams, params, throws, result, body⟩ :=
    decl
  cases body with
  | none => simp [ofMethod, MethodDecl.statements, ofStatements, number]
  | some body =>
    obtain ⟨⟩ := body
    rw [ofMethod]
    rfl

theorem ofMember_staticInit (enclosing : List TypeDecl) (line : Nat) (body : Block) :
    ofMember enclosing (.staticInit line body) =
      number 0 (ofStatements enclosing body.statements) := by
  obtain ⟨⟩ := body
  rw [ofMember]

theorem ofTypes_eq_map (enclosing types : List TypeDecl) :
    ofTypes enclosing types = types.map (ofType enclosing) := by
  induction types with
  | nil => rw [ofTypes, List.map_nil]
  | cons decl rest ih => rw [ofTypes, List.map_cons, ih]

theorem ofMembers_eq_map (enclosing : List TypeDecl) (members : List Member) :
    ofMembers enclosing members = members.map (ofMember enclosing) := by
  induction members with
  | nil => rw [ofMembers, List.map_nil]
  | cons member rest ih => rw [ofMembers, List.map_cons, ih]

theorem ofStatements_eq_map (enclosing : List TypeDecl) (statements : List Statement) :
    ofStatements enclosing statements =
      statements.map fun statement => number 0 (ofTypes enclosing statement.nested) := by
  induction statements with
  | nil => rw [ofStatements, List.map_nil]
  | cons statement rest ih =>
    obtain ⟨⟩ := statement
    rw [ofStatements, List.map_cons, ih]

end Occurrence

def CompilationUnit.methodOccurrences (unit : CompilationUnit) : List Occurrence :=
  Occurrence.number 0 (Occurrence.ofTypes [] unit.types)

namespace Occurrence

section Numbering

theorem mem_number_iff {occurrence : Occurrence} {index : Nat} {groups : List (List Occurrence)} :
    occurrence ∈ number index groups ↔
      ∃ offset group inner, groups[offset]? = some group ∧ inner ∈ group ∧
        occurrence = under (index + offset) inner := by
  induction groups generalizing index with
  | nil => simp [number]
  | cons first rest ih =>
    rw [number, List.mem_append, ih, List.mem_map]
    constructor
    next =>
      rintro (⟨inner, present, rfl⟩ | ⟨offset, group, inner, found, present, rfl⟩)
      · exact ⟨0, first, inner, rfl, present, rfl⟩
      · refine ⟨offset + 1, group, inner, found, present, ?_⟩
        rw [show index + 1 + offset = index + (offset + 1) by omega]
    next =>
      rintro ⟨offset, group, inner, found, present, rfl⟩
      cases offset with
      | zero =>
        obtain rfl : first = group := by simpa using found
        exact .inl ⟨inner, present, rfl⟩
      | succ offset =>
        refine .inr ⟨offset, group, inner, by simpa using found, present, ?_⟩
        rw [show index + 1 + offset = index + (offset + 1) by omega]

theorem not_mem_number_nil {enclosing : List TypeDecl} {decl : MethodDecl}
    {groups : List (List Occurrence)} : (⟨[], enclosing, decl⟩ : Occurrence) ∉ number 0 groups := by
  rw [mem_number_iff]
  rintro ⟨offset, group, inner, _, _, same⟩
  cases same

theorem mem_number_cons_iff {index : Nat} {rest : Address} {enclosing : List TypeDecl}
    {decl : MethodDecl} {groups : List (List Occurrence)} :
    (⟨index :: rest, enclosing, decl⟩ : Occurrence) ∈ number 0 groups ↔
      ∃ group, groups[index]? = some group ∧ (⟨rest, enclosing, decl⟩ : Occurrence) ∈ group := by
  rw [mem_number_iff]
  constructor
  next =>
    rintro ⟨offset, group, ⟨address, around, inner⟩, found, present, same⟩
    cases same
    rw [Nat.zero_add]
    exact ⟨group, found, present⟩
  next =>
    rintro ⟨group, found, present⟩
    exact ⟨index, group, ⟨rest, enclosing, decl⟩, found, present, by simp [under]⟩

-- Each neighbour stands ahead of all that follow it, whatever lies inside.
abbrev Ordered (occurrences : List Occurrence) : Prop :=
  occurrences.Pairwise fun first second => first.address < second.address

theorem ordered_number {groups : List (List Occurrence)} (each : ∀ group ∈ groups, Ordered group)
    (index : Nat) : Ordered (number index groups) := by
  induction groups generalizing index with
  | nil => exact .nil
  | cons first rest ih =>
    rw [number]
    refine List.pairwise_append.mpr
      ⟨?_, ih (fun group present => each group (.tail _ present)) _, ?_⟩
    next =>
      rw [List.pairwise_map]
      exact (each first (.head _)).imp fun before => List.cons_lt_cons_iff.mpr (.inr ⟨rfl, before⟩)
    next =>
      intro earlier inFirst later inRest
      obtain ⟨inner, _, rfl⟩ := List.mem_map.mp inFirst
      obtain ⟨offset, _, other, _, _, rfl⟩ := mem_number_iff.mp inRest
      exact List.cons_lt_cons_iff.mpr (.inl (by omega))

theorem flatMap_number {β : Type} (f : Occurrence → List β)
    (stable : ∀ index occurrence, f (under index occurrence) = f occurrence) (index : Nat)
    (groups : List (List Occurrence)) :
    (number index groups).flatMap f = groups.flatMap fun group => group.flatMap f := by
  induction groups generalizing index with
  | nil => rfl
  | cons first rest ih =>
    rw [number, List.flatMap_append, ih, List.flatMap_cons, List.flatMap_map]
    simp only [stable]

end Numbering

-- The induction is on the address: each of its numbers picks one neighbour, and the rest leads
-- on from there.
theorem mem_iff_lookup (address : Address) :
    (∀ enclosing types around decl, ⟨address, around, decl⟩ ∈ number 0 (ofTypes enclosing types) ↔
        Address.inTypes? enclosing types address = some (around, decl)) ∧
      (∀ enclosing members around decl,
        ⟨address, around, decl⟩ ∈ number 0 (ofMembers enclosing members) ↔
          Address.inMembers? enclosing members address = some (around, decl)) ∧
      (∀ enclosing statements around decl,
        ⟨address, around, decl⟩ ∈ number 0 (ofStatements enclosing statements) ↔
          Address.inStatements? enclosing statements address = some (around, decl)) := by
  induction address with
  | nil =>
    refine ⟨?_, ?_, ?_⟩ <;> intros <;>
      simp [not_mem_number_nil, Address.inTypes?, Address.inMembers?, Address.inStatements?]
  | cons index rest ih =>
    obtain ⟨inTypes, inMembers, inStatements⟩ := ih
    refine ⟨?_, ?_, ?_⟩
    next =>
      intro enclosing types around decl
      rw [mem_number_cons_iff, ofTypes_eq_map, Address.inTypes?, List.getElem?_map]
      cases types[index]? with
      | none => simp
      | some found => simp [ofType_eq, inMembers]
    next =>
      intro enclosing members around decl
      rw [mem_number_cons_iff, ofMembers_eq_map, Address.inMembers?, List.getElem?_map]
      cases members[index]? with
      | none => simp
      | some member =>
        cases member with
        | method found =>
          by_cases last : rest = []
          · subst last
            simp [ofMember, ofMethod_eq, not_mem_number_nil, eq_comm]
          · simp [ofMember, ofMethod_eq, last, inStatements]
        | staticInit line body => simp [ofMember_staticInit, inStatements]
        | type found => simp [ofMember, ofType_eq, inMembers]
    next =>
      intro enclosing statements around decl
      rw [mem_number_cons_iff, ofStatements_eq_map, Address.inStatements?, List.getElem?_map]
      cases statements[index]? with
      | none => simp
      | some statement => simp [inTypes]

-- What stands in a body has the declaration's own address in front of its own.
theorem ordered_ofMethod {enclosing : List TypeDecl} {decl : MethodDecl}
    (each : ∀ group ∈ ofStatements enclosing decl.statements, Ordered group) :
    Ordered (ofMethod enclosing decl) := by
  rw [ofMethod_eq]
  refine List.pairwise_cons.mpr ⟨?_, ordered_number each 0⟩
  intro later present
  obtain ⟨offset, _, inner, _, _, rfl⟩ := mem_number_iff.mp present
  exact List.nil_lt_cons _ _

theorem ordered_induction : DeclarationInduction
    (fun types => ∀ enclosing, ∀ group ∈ ofTypes enclosing types, Ordered group)
    (fun members => ∀ enclosing, ∀ group ∈ ofMembers enclosing members, Ordered group)
    (fun statements =>
      ∀ enclosing, ∀ group ∈ ofStatements enclosing statements, Ordered group) where
  noTypes := by simp [ofTypes]
  addType decl rest inner later enclosing := by
    rw [ofTypes, List.forall_mem_cons, ofType_eq]
    exact ⟨ordered_number (inner _) 0, later enclosing⟩
  noMembers := by simp [ofMembers]
  addMethod decl rest inner later enclosing := by
    rw [ofMembers, List.forall_mem_cons, ofMember]
    refine ⟨ordered_ofMethod ?_, later enclosing⟩
    exact MethodDecl.statements_induction (by simp [ofStatements])
      fun body present => inner body present enclosing
  addStaticInit line body rest inner later enclosing := by
    rw [ofMembers, List.forall_mem_cons, ofMember_staticInit]
    exact ⟨ordered_number (inner _) 0, later enclosing⟩
  addMemberType decl rest inner later enclosing := by
    rw [ofMembers, List.forall_mem_cons, ofMember, ofType_eq]
    exact ⟨ordered_number (inner _) 0, later enclosing⟩
  noStatements := by simp [ofStatements]
  addStatement statement rest inner later enclosing := by
    have rest_ordered := later enclosing
    rw [ofStatements_eq_map] at rest_ordered ⊢
    rw [List.map_cons, List.forall_mem_cons]
    exact ⟨ordered_number (inner _) 0, rest_ordered⟩

end Occurrence

namespace CompilationUnit

theorem mem_methodOccurrences_iff (unit : CompilationUnit) (address : Address)
    (enclosing : List TypeDecl) (decl : MethodDecl) :
    ⟨address, enclosing, decl⟩ ∈ unit.methodOccurrences ↔
      unit.methodAt? address = some (enclosing, decl) :=
  (Occurrence.mem_iff_lookup address).1 [] unit.types enclosing decl

theorem methodOccurrences_ordered (unit : CompilationUnit) :
    Occurrence.Ordered unit.methodOccurrences :=
  Occurrence.ordered_number (Occurrence.ordered_induction.ofTypes unit.types []) 0

end CompilationUnit

end DocAudit
