import DocAudit.Proofs.InspectedTypes
import Mathlib.Data.List.Sort

set_option autoImplicit false

namespace DocAudit

-- Only types among the members lead on.
@[elab_as_elim]
theorem members_induction {motive : List Member → Prop} (nil : motive [])
    (other : ∀ member rest, (∀ decl, member ≠ .type decl) → motive rest → motive (member :: rest))
    (type : ∀ decl rest, motive decl.members → motive rest → motive (.type decl :: rest))
    (members : List Member) : motive members :=
  have step : DeclarationInduction (fun _ => True) motive (fun _ => True) :=
    { noTypes := trivial
      addType := fun _ _ _ _ => trivial
      noMembers := nil
      addMethod := fun decl rest _ later => other (.method decl) rest nofun later
      addStaticInit := fun line body rest _ later => other (.staticInit line body) rest nofun later
      addMemberType := type
      noStatements := trivial
      addStatement := fun _ _ _ _ => trivial }
  step.ofMembers members

-- One step is from a list of members to the members of a type in it.
@[elab_as_elim]
theorem nested_induction {motive : List Member → Prop}
    (step : ∀ members, (∀ decl, .type decl ∈ members → motive decl.members) → motive members)
    (members : List Member) : motive members := by
  apply step
  induction members using members_induction with
  | nil => simp
  | other member rest other later =>
    intro decl listed
    rcases List.mem_cons.mp listed with same | listed
    · exact absurd same.symm (other decl)
    · exact later decl listed
  | type first rest inner later =>
    intro decl listed
    rcases List.mem_cons.mp listed with same | listed
    · cases same
      exact step first.members inner
    · exact later decl listed

/-- A named type that is reached at an address, with the types around it, innermost first. -/
inductive CompilationUnit.Reaches (unit : CompilationUnit) :
    Address → List TypeDecl → TypeDecl → Prop
  | top {index : Nat} {decl : TypeDecl} : unit.types[index]? = some decl →
      decl.kind ≠ .anonymousBody → Reaches unit [index] [] decl
  | member {address : Address} {enclosing : List TypeDecl} {outer decl : TypeDecl} {index : Nat} :
      Reaches unit address enclosing outer → outer.members[index]? = some (.type decl) →
      decl.kind ≠ .anonymousBody → Reaches unit (address ++ [index]) (outer :: enclosing) decl

structure TypeOccurrence where
  address : Address
  enclosing : List TypeDecl
  decl : TypeDecl

namespace TypeOccurrence

mutual

def ofType (address : Address) (enclosing : List TypeDecl) : TypeDecl → List TypeOccurrence
  | ⟨kind, name, line, column, endLine, modifiers, typeParams, superclass, members⟩ =>
    if kind = .anonymousBody then []
    else
      let decl : TypeDecl :=
        ⟨kind, name, line, column, endLine, modifiers, typeParams, superclass, members⟩
      ⟨address, enclosing, decl⟩ :: ofMembers address (decl :: enclosing) 0 members

def ofMembers (address : Address) (enclosing : List TypeDecl) (index : Nat) :
    List Member → List TypeOccurrence
  | [] => []
  | .type decl :: rest =>
    ofType (address ++ [index]) enclosing decl ++ ofMembers address enclosing (index + 1) rest
  | .method _ :: rest => ofMembers address enclosing (index + 1) rest
  | .staticInit _ _ :: rest => ofMembers address enclosing (index + 1) rest

end

variable {address : Address} {enclosing : List TypeDecl} {decl : TypeDecl} {index offset : Nat}
  {members : List Member}

theorem ofType_named (named : decl.kind ≠ .anonymousBody) : ofType address enclosing decl =
    ⟨address, enclosing, decl⟩ :: ofMembers address (decl :: enclosing) 0 decl.members := by
  obtain ⟨⟩ := decl
  rw [ofType, if_neg named]

theorem ofType_anonymous (anonymous : decl.kind = .anonymousBody) :
    ofType address enclosing decl = [] := by
  obtain ⟨⟩ := decl
  rw [ofType, if_pos anonymous]

theorem ofMembers_other {member : Member} (other : ∀ decl, member ≠ .type decl) :
    ofMembers address enclosing index (member :: members) =
      ofMembers address enclosing (index + 1) members := by
  cases member with
  | type decl => exact absurd rfl (other decl)
  | method decl => rw [ofMembers]
  | staticInit line body => rw [ofMembers]

theorem mem_ofType {found : TypeOccurrence} : found ∈ ofType address enclosing decl ↔
    decl.kind ≠ .anonymousBody ∧ (found = ⟨address, enclosing, decl⟩ ∨
      found ∈ ofMembers address (decl :: enclosing) 0 decl.members) := by
  by_cases anonymous : decl.kind = .anonymousBody
  · simp [ofType_anonymous anonymous, anonymous]
  · simp [ofType_named anonymous, anonymous]

-- The first step from the list: a named type among the members, or what is inside of it.
theorem mem_ofMembers {found : TypeOccurrence} : found ∈ ofMembers address enclosing index members ↔
    ∃ offset decl, members[offset]? = some (.type decl) ∧
      found ∈ ofType (address ++ [index + offset]) enclosing decl := by
  induction members generalizing index with
  | nil => simp [ofMembers]
  | cons member rest ih =>
    rw [← Nat.or_exists_add_one]
    have later : (∃ offset decl, (member :: rest)[offset + 1]? = some (.type decl) ∧
        found ∈ ofType (address ++ [index + (offset + 1)]) enclosing decl) ↔
          found ∈ ofMembers address enclosing (index + 1) rest := by
      rw [ih]
      simp only [List.getElem?_cons_succ, Nat.add_assoc, Nat.add_comm 1]
    rw [later]
    cases member with
    | type decl => simp [ofMembers]
    | method decl => simp [ofMembers]
    | staticInit line body => simp [ofMembers]

-- All that is listed is reached, if the types that the list starts from are.
theorem reached_ofMembers {unit : CompilationUnit}
    (start : ∀ offset decl, members[offset]? = some (.type decl) → decl.kind ≠ .anonymousBody →
      unit.Reaches (address ++ [index + offset]) enclosing decl)
    {found : TypeOccurrence} (listed : found ∈ ofMembers address enclosing index members) :
    unit.Reaches found.address found.enclosing found.decl := by
  induction members using nested_induction generalizing address enclosing index with
  | step members inner =>
    obtain ⟨offset, decl, present, listed⟩ := mem_ofMembers.mp listed
    obtain ⟨named, listed⟩ := mem_ofType.mp listed
    have here := start offset decl present named
    rcases listed with rfl | listed
    · exact here
    · apply inner decl (List.mem_of_getElem? present) _ listed
      intro offset child present named
      rw [Nat.zero_add]
      exact here.member present named

-- With a type all named types among its members are listed.
theorem closed_ofMembers {found : TypeOccurrence}
    (listed : found ∈ ofMembers address enclosing index members)
    (present : found.decl.members[offset]? = some (.type decl))
    (named : decl.kind ≠ .anonymousBody) :
    ⟨found.address ++ [offset], found.decl :: found.enclosing, decl⟩ ∈
      ofMembers address enclosing index members := by
  induction members using nested_induction generalizing address enclosing index with
  | step members inner =>
    obtain ⟨number, outer, among, listed⟩ := mem_ofMembers.mp listed
    obtain ⟨outerNamed, listed⟩ := mem_ofType.mp listed
    apply mem_ofMembers.mpr
    refine ⟨number, outer, among, mem_ofType.mpr ⟨outerNamed, .inr ?_⟩⟩
    rcases listed with rfl | listed
    · apply mem_ofMembers.mpr
      refine ⟨offset, decl, present, mem_ofType.mpr ⟨named, .inl ?_⟩⟩
      rw [Nat.zero_add]
    · exact inner outer (List.mem_of_getElem? among) listed

theorem address_ofMembers {found : TypeOccurrence}
    (listed : found ∈ ofMembers address enclosing index members) :
    ∃ number rest, index ≤ number ∧ found.address = address ++ number :: rest := by
  induction members using nested_induction generalizing address enclosing index with
  | step members inner =>
    obtain ⟨offset, decl, present, listed⟩ := mem_ofMembers.mp listed
    rcases (mem_ofType.mp listed).2 with rfl | listed
    · exact ⟨index + offset, [], by omega, rfl⟩
    · obtain ⟨number, rest, _, same⟩ := inner decl (List.mem_of_getElem? present) listed
      exact ⟨index + offset, number :: rest, by omega, by simp [same]⟩

theorem ordered_ofMembers : (ofMembers address enclosing index members).Pairwise
    fun first second => first.address < second.address := by
  induction members using members_induction generalizing address enclosing index with
  | nil => simp [ofMembers]
  | other member rest other later =>
    rw [ofMembers_other other]
    exact later
  | type decl rest inner later =>
    rw [ofMembers]
    by_cases anonymous : decl.kind = .anonymousBody
    next =>
      rw [ofType_anonymous anonymous, List.nil_append]
      exact later
    next =>
      rw [ofType_named anonymous, List.pairwise_append, List.pairwise_cons]
      refine ⟨⟨fun found listed => ?_, inner⟩, later, fun first inFirst second inSecond => ?_⟩
      next =>
        obtain ⟨number, rest, _, same⟩ := address_ofMembers listed
        have longer : address ++ [index] ++ [] < address ++ [index] ++ number :: rest :=
          List.append_left_lt (List.nil_lt_cons number rest)
        simpa [same] using longer
      next =>
        obtain ⟨number, rest, past, same⟩ := address_ofMembers inSecond
        have under : ∃ tail, first.address = address ++ index :: tail := by
          rcases List.mem_cons.mp inFirst with rfl | inFirst
          · exact ⟨[], rfl⟩
          · obtain ⟨number, rest, _, same⟩ := address_ofMembers inFirst
            exact ⟨number :: rest, by simp [same]⟩
        obtain ⟨tail, before⟩ := under
        rw [before, same]
        apply List.append_left_lt
        exact List.cons_lt_cons_iff.mpr (.inl (by omega))

end TypeOccurrence

def CompilationUnit.typeOccurrences (unit : CompilationUnit) : List TypeOccurrence :=
  TypeOccurrence.ofMembers [] [] 0 (unit.types.map .type)

namespace CompilationUnit

theorem typeOccurrences_ordered (unit : CompilationUnit) : unit.typeOccurrences.Pairwise
    fun first second => first.address < second.address :=
  TypeOccurrence.ordered_ofMembers

theorem mem_typeOccurrences_iff {unit : CompilationUnit} {found : TypeOccurrence} :
    found ∈ unit.typeOccurrences ↔ unit.Reaches found.address found.enclosing found.decl := by
  constructor
  next =>
    apply TypeOccurrence.reached_ofMembers
    intro offset decl present named
    rw [Nat.zero_add]
    exact .top (by simpa using present) named
  next =>
    obtain ⟨address, enclosing, decl⟩ := found
    intro (reached : unit.Reaches address enclosing decl)
    induction reached with
    | @top index decl present named =>
      apply TypeOccurrence.mem_ofMembers.mpr
      refine ⟨index, decl, by simpa using present, TypeOccurrence.mem_ofType.mpr ⟨named, .inl ?_⟩⟩
      rw [Nat.zero_add]
      rfl
    | member _ present named ih => exact TypeOccurrence.closed_ofMembers ih present named

theorem eq_typeOccurrences {unit : CompilationUnit} {reached : List TypeOccurrence}
    (ordered : reached.Pairwise fun first second => first.address < second.address)
    (complete : ∀ found, found ∈ reached ↔
      unit.Reaches found.address found.enclosing found.decl) :
    reached = unit.typeOccurrences := by
  have : Std.Irrefl fun first second : TypeOccurrence => first.address < second.address :=
    ⟨fun found => List.lt_irrefl found.address⟩
  have : Std.Antisymm fun first second : TypeOccurrence => first.address < second.address :=
    ⟨fun _ _ before after => absurd after (List.lt_asymm before)⟩
  apply ordered.eq_of_mem_iff unit.typeOccurrences_ordered
  intro found
  rw [complete, mem_typeOccurrences_iff]

end CompilationUnit

namespace Nesting

-- A member that is no type holds nothing to look at.
theorem inspected_other {around : List Declaration} {member : Member}
    (other : ∀ decl, member ≠ .type decl) : inspected (ofMember around member) = [] := by
  cases member with
  | type decl => exact absurd rfl (other decl)
  | method decl =>
    rw [ofMember, ofMethod_eq]
    exact inspected_of_unnamed rfl (suffix_induction.ofStatements decl.statements _)
  | staticInit line body =>
    rw [ofMember_staticInit]
    exact inspected_of_unnamed rfl (suffix_induction.ofStatements body.statements _)

theorem inspected_named {around : List Declaration} {decl : TypeDecl} (nestings : List Nesting)
    (named : decl.kind ≠ .anonymousBody) (inside : around.all Declaration.isNamedType = true) :
    inspected (⟨around, .type decl⟩ :: nestings) =
      (around.filterMap Declaration.type?, decl) :: inspected nestings := by
  have looked : isInspected ⟨around, .type decl⟩ = true := by
    simp [isInspected, Declaration.isNamedType, named, inside]
  rw [inspected, List.filter_cons_of_pos looked, List.filterMap_cons]
  rfl

theorem inspected_ofMembers {members : List Member} {around : List Declaration}
    (inside : around.all Declaration.isNamedType = true) (address : Address) (index : Nat) :
    inspected (ofMembers around members) =
      (TypeOccurrence.ofMembers address (around.filterMap Declaration.type?) index members).map
        fun found => (found.enclosing, found.decl) := by
  induction members using members_induction generalizing around address index with
  | nil => simp [ofMembers, TypeOccurrence.ofMembers, inspected]
  | other member rest other later =>
    rw [ofMembers, inspected_append, inspected_other other, List.nil_append,
      TypeOccurrence.ofMembers_other other]
    exact later inside address (index + 1)
  | type decl rest inner later =>
    rw [ofMembers, inspected_append, later inside address (index + 1), TypeOccurrence.ofMembers,
      List.map_append, ofMember, ofType_eq]
    by_cases anonymous : decl.kind = .anonymousBody
    next =>
      rw [TypeOccurrence.ofType_anonymous anonymous, inspected_of_unnamed
        (by simp [Declaration.isNamedType, anonymous]) (suffix_induction.ofMembers decl.members _)]
      rfl
    next =>
      have within : (Declaration.type decl :: around).all Declaration.isNamedType = true := by
        simp [Declaration.isNamedType, anonymous, inside]
      rw [TypeOccurrence.ofType_named anonymous, inspected_named _ anonymous inside,
        inner within (address ++ [index]) 0]
      rfl

end Nesting

theorem TypeDoc.notes_occurrences (rule : TypeDoc) (unit : CompilationUnit) (content : List Char) :
    rule.notes unit content = unit.typeOccurrences.flatMap fun found =>
      rule.checkType (.ofUnit unit content) found.enclosing found.decl := by
  have nestings : Nesting.inspected unit.nestings =
      unit.typeOccurrences.map fun found => (found.enclosing, found.decl) := by
    rw [CompilationUnit.nestings, ← Nesting.ofMembers_types]
    exact Nesting.inspected_ofMembers rfl [] 0
  rw [notes_eq, notesAmong, nestings, List.flatMap_map]

end DocAudit
