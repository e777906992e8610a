import DocAudit.Proofs.ThrowsReport
import DocAudit.Proofs.TypeAddresses
import Mathlib.Data.List.Induction
import Mathlib.Data.List.TakeWhile

set_option autoImplicit false

namespace DocAudit

def IsLastSegment (name segment : String) : Prop :=
  '.' ∉ segment.toList ∧ (name = segment ∨ ∃ qualifier, name = qualifier ++ "." ++ segment)

theorem IsLastSegment.simpleName_eq {name segment : String} (last : IsLastSegment name segment) :
    simpleName name = segment := by
  obtain ⟨undotted, split⟩ := last
  have kept : ∀ c ∈ segment.toList.reverse, (c != '.') = true := by
    intro c listed
    exact bne_iff_ne.mpr fun dot => undotted (dot ▸ List.mem_reverse.mp listed)
  apply String.toList_inj.mp
  rcases split with rfl | ⟨qualifier, rfl⟩
  · simp [simpleName, lastSegment, List.takeWhile_eq_self_iff.mpr kept]
  · simp [simpleName, lastSegment, List.takeWhile_append_of_pos kept]

theorem exists_isLastSegment (name : String) : ∃ segment, IsLastSegment name segment := by
  by_cases dotted : '.' ∈ name.toList
  next =>
    -- The first dot from behind is the last one.
    obtain ⟨behind, front, split, undotted⟩ :=
      List.eq_append_cons_of_mem (List.mem_reverse.mpr dotted)
    refine ⟨String.ofList behind.reverse, by simpa using undotted, .inr ⟨.ofList front.reverse, ?_⟩⟩
    apply String.toList_inj.mp
    simpa using congrArg List.reverse split
  next => exact ⟨name, dotted, .inl rfl⟩

theorem simpleName_eq_iff {name segment : String} :
    simpleName name = segment ↔ IsLastSegment name segment := by
  constructor
  · rintro rfl
    obtain ⟨segment, last⟩ := exists_isLastSegment name
    exact last.simpleName_eq.symm ▸ last
  · exact IsLastSegment.simpleName_eq

/-- The superclass that a class names, without the way to it; the root class if it names none. -/
def TypeDecl.NamesSuperclass (decl : TypeDecl) (superclass : String) : Prop :=
  match decl.superclass with
  | none => superclass = "Object"
  | some extended => IsLastSegment extended superclass

namespace CompilationUnit

structure ClassAt (unit : CompilationUnit) (name : String) (address : Address) (decl : TypeDecl) :
    Prop where
  found : unit.typeAt? address = some decl
  isClass : decl.kind = .classType
  named : decl.name = name

def DeclaresClass (unit : CompilationUnit) (name : String) : Prop :=
  ∃ address decl, unit.ClassAt name address decl

def LastClass (unit : CompilationUnit) (name : String) (decl : TypeDecl) : Prop :=
  ∃ address, unit.ClassAt name address decl ∧
    ∀ later other, unit.ClassAt name later other → ¬ address < later

end CompilationUnit

namespace ClassHierarchy

variable {hierarchy : ClassHierarchy}

theorem superclass?_insert (name superclass query : String) :
    (hierarchy.insert name superclass).superclass? query =
      if name = query then some superclass else hierarchy.superclass? query := by
  obtain ⟨entries⟩ := hierarchy
  induction entries with
  | nil => by_cases same : name = query <;> simp [insert, insertEntry, superclass?, same]
  | cons entry rest ih =>
    simp only [insert, superclass?] at ih ⊢
    by_cases replaced : entry.1 = name
    · by_cases same : name = query <;> simp [insertEntry, replaced, same]
    · rw [insertEntry, if_neg replaced]
      by_cases here : entry.1 = query
      · have other : name ≠ query := fun same => replaced (here.trans same.symm)
        simp [here, other]
      · rw [List.find?_cons_of_neg (by simpa using here),
          List.find?_cons_of_neg (by simpa using here), ih]

def declares (name : String) (decl : TypeDecl) : Bool :=
  decl.kind == .classType && decl.name == name

def superclassOf (decl : TypeDecl) : String := (decl.superclass.map simpleName).getD "Object"

theorem superclass?_addListed (declaration : Declaration) (name : String) :
    (hierarchy.addListed declaration).superclass? name =
      (((declaration.type?.filter (declares name)).map superclassOf).or
        (hierarchy.superclass? name)) := by
  cases declaration with
  | type decl =>
    rw [addListed, addDeclaration, Declaration.type?]
    by_cases isClass : decl.kind = .classType
    · rw [if_pos isClass, superclass?_insert]
      by_cases named : decl.name = name <;>
        simp [declares, isClass, named, Option.filter, superclassOf]
    · simp [declares, isClass, Option.filter]
  | method | staticInit => rfl

-- The last of the classes of a name is the one that counts.
theorem superclass?_foldl (declarations : List Declaration) (name : String) :
    (declarations.foldl addListed hierarchy).superclass? name =
      ((((declarations.filterMap Declaration.type?).filter (declares name)).getLast?.map
        superclassOf).or (hierarchy.superclass? name)) := by
  induction declarations using List.reverseRecOn with
  | nil => rfl
  | append_singleton declarations last ih =>
    have single : (([last].filterMap Declaration.type?).filter (declares name)).getLast? =
        last.type?.filter (declares name) := by
      cases type : last.type? with
      | none => simp [type]
      | some decl => by_cases here : declares name decl = true <;> simp [type, here, Option.filter]
    rw [List.foldl_append, List.foldl_cons, List.foldl_nil, superclass?_addListed, ih,
      List.filterMap_append, List.filter_append, List.getLast?_append, single, Option.map_or,
      Option.or_assoc]

theorem superclass?_eq_some_iff (distinct : hierarchy.names.Nodup) {name superclass : String} :
    hierarchy.superclass? name = some superclass ↔ (name, superclass) ∈ hierarchy.entries := by
  obtain ⟨entries⟩ := hierarchy
  induction entries with
  | nil => simp [superclass?]
  | cons entry rest ih =>
    obtain ⟨known, extended⟩ := entry
    simp only [superclass?, names, List.map_cons, List.nodup_cons] at ih distinct ⊢
    by_cases here : known = name
    · -- No later entry has the name.
      have absent : (name, superclass) ∉ rest := fun listed =>
        distinct.1 (here ▸ List.mem_map_of_mem listed)
      simp [here, absent, eq_comm]
    · rw [List.find?_cons_of_neg (by simpa using here), ih distinct.2]
      simp [Ne.symm here]

theorem standard_superclass?_iff {name superclass : String} :
    standard.superclass? name = some superclass ↔
      (name, superclass) ∈ standardThrowables ∨ name = "Object" ∧ superclass = "" := by
  -- These are the classes of a file that declares none.
  have distinct : standard.names.Nodup := ofUnit_names_nodup ⟨[], [], 1⟩
  rw [superclass?_eq_some_iff distinct]
  simp [standard]

end ClassHierarchy

namespace CompilationUnit

variable {unit : CompilationUnit} {name : String} {decl : TypeDecl}

theorem classAt_iff {address : Address} : unit.ClassAt name address decl ↔
    (⟨address, decl⟩ : TypePlace) ∈ unit.typePlaces ∧ ClassHierarchy.declares name decl = true := by
  rw [mem_typePlaces_iff, ClassHierarchy.declares, Bool.and_eq_true, beq_iff_eq, beq_iff_eq]
  exact ⟨fun ⟨found, isClass, named⟩ => ⟨found, isClass, named⟩,
    fun ⟨found, isClass, named⟩ => ⟨found, isClass, named⟩⟩

def classesOf (unit : CompilationUnit) (name : String) : List TypePlace :=
  unit.typePlaces.filter fun place => ClassHierarchy.declares name place.decl

theorem mem_classesOf_iff {place : TypePlace} :
    place ∈ unit.classesOf name ↔ unit.ClassAt name place.address place.decl := by
  rw [classAt_iff, classesOf, List.mem_filter]

theorem declaresClass_iff : unit.DeclaresClass name ↔ unit.classesOf name ≠ [] := by
  constructor
  · rintro ⟨address, decl, declared⟩
    have listed : ⟨address, decl⟩ ∈ unit.classesOf name := mem_classesOf_iff.mpr declared
    exact List.ne_nil_of_mem listed
  · intro some
    obtain ⟨place, listed⟩ := List.exists_mem_of_ne_nil _ some
    exact ⟨place.address, place.decl, mem_classesOf_iff.mp listed⟩

theorem lastClass_of_getLast? {place : TypePlace}
    (last : (unit.classesOf name).getLast? = some place) : unit.LastClass name place.decl := by
  refine ⟨place.address, mem_classesOf_iff.mp (List.mem_of_getLast? last), ?_⟩
  intro address decl declared
  have listed : ⟨address, decl⟩ ∈ unit.classesOf name := mem_classesOf_iff.mpr declared
  have ordered : TypePlace.Ordered (unit.classesOf name) := unit.typePlaces_ordered.filter _
  obtain ⟨before, split⟩ := List.getLast?_eq_some_iff.mp last
  rw [split] at listed ordered
  rcases List.mem_append.mp listed with earlier | same
  · have ahead := (List.pairwise_append.mp ordered).2.2 _ earlier place (List.mem_singleton_self _)
    exact List.lt_asymm ahead
  · rw [← List.mem_singleton.mp same]
    exact List.lt_irrefl address

theorem LastClass.unique {other : TypeDecl} (first : unit.LastClass name decl)
    (second : unit.LastClass name other) : decl = other := by
  obtain ⟨address, here, last⟩ := first
  obtain ⟨address', there, last'⟩ := second
  obtain rfl : address = address' :=
    List.le_antisymm (last' address decl here) (last address' other there)
  exact Option.some.inj (here.found.symm.trans there.found)

end CompilationUnit

namespace ClassHierarchy

theorem superclass?_ofUnit (unit : CompilationUnit) (name : String) :
    (ofUnit unit).superclass? name =
      ((unit.classesOf name).getLast?.map fun place => superclassOf place.decl).or
        (standard.superclass? name) := by
  rw [ofUnit_eq_foldl, superclass?_foldl, ← unit.typePlaces_decls, List.filter_map,
    List.getLast?_map, Option.map_map]
  rfl

theorem superclassOf_eq_iff {decl : TypeDecl} {superclass : String} :
    superclassOf decl = superclass ↔ decl.NamesSuperclass superclass := by
  rw [superclassOf, TypeDecl.NamesSuperclass]
  cases decl.superclass with
  | none => exact eq_comm
  | some extended => exact simpleName_eq_iff

theorem ofUnit_superclass?_iff (unit : CompilationUnit) (name superclass : String) :
    (ofUnit unit).superclass? name = some superclass ↔
      (∃ decl, unit.LastClass name decl ∧ decl.NamesSuperclass superclass) ∨
        ¬ unit.DeclaresClass name ∧
          ((name, superclass) ∈ standardThrowables ∨ name = "Object" ∧ superclass = "") := by
  rw [superclass?_ofUnit]
  cases last : (unit.classesOf name).getLast? with
  | none =>
    have undeclared : ¬ unit.DeclaresClass name := by
      rw [CompilationUnit.declaresClass_iff, not_not]
      exact List.getLast?_eq_none_iff.mp last
    rw [Option.map_none, Option.none_or, standard_superclass?_iff]
    constructor
    · exact fun listed => .inr ⟨undeclared, listed⟩
    · rintro (⟨decl, ⟨address, declared, _⟩, _⟩ | ⟨_, listed⟩)
      · exact absurd ⟨address, decl, declared⟩ undeclared
      · exact listed
  | some place =>
    have lastClass := CompilationUnit.lastClass_of_getLast? last
    rw [Option.map_some, Option.some_or, Option.some.injEq, superclassOf_eq_iff]
    constructor
    · exact fun named => .inl ⟨place.decl, lastClass, named⟩
    · rintro (⟨decl, other, named⟩ | ⟨undeclared, _⟩)
      · rwa [lastClass.unique other]
      · obtain ⟨address, declared, _⟩ := lastClass
        exact absurd ⟨address, place.decl, declared⟩ undeclared

theorem mem_ofUnit_names_iff (unit : CompilationUnit) (name : String) :
    name ∈ (ofUnit unit).names ↔
      name ∈ standardThrowables.map (·.1) ∨ name = "Object" ∨ unit.DeclaresClass name := by
  have standardNames : name ∈ standard.names ↔
      name ∈ standardThrowables.map (·.1) ∨ name = "Object" := by
    simp [names, standard]
  rw [← superclass?_isSome_iff, superclass?_ofUnit, Option.isSome_or, Option.isSome_map,
    Bool.or_eq_true, superclass?_isSome_iff, List.getLast?_isSome,
    ← CompilationUnit.declaresClass_iff, standardNames]
  tauto

theorem ofUnit_entries (unit : CompilationUnit) :
    (∀ name, name ∈ (ofUnit unit).names ↔
        name ∈ standardThrowables.map (·.1) ∨ name = "Object" ∨ unit.DeclaresClass name) ∧
      (∀ name superclass, (ofUnit unit).superclass? name = some superclass ↔
        (∃ decl, unit.LastClass name decl ∧ decl.NamesSuperclass superclass) ∨
          ¬ unit.DeclaresClass name ∧
            ((name, superclass) ∈ standardThrowables ∨ name = "Object" ∧ superclass = "")) ∧
      ∀ query segment, IsLastSegment query segment → (ofUnit unit).resolve? query =
        if segment ∈ (ofUnit unit).names then some segment else none := by
  refine ⟨mem_ofUnit_names_iff unit, ofUnit_superclass?_iff unit, fun query segment last => ?_⟩
  rw [resolve?, last.simpleName_eq]
  simp only [superclass?_isSome_iff]

private def classNamed (name : String) (superclass : Option String) : Member :=
  .type ⟨.classType, name, 1, 0, 1, .none, [], superclass, []⟩

-- An interface with a class twice, the second time in a class without a name in a method, where
-- also a standard exception is declared anew.
private def redeclared : CompilationUnit :=
  ⟨[⟨.interfaceType, "Shape", 1, 0, 1, .none, [], none,
    [classNamed "Base" (some "p.Other"),
      .method ⟨.method, ⟨"m", 1, 0⟩, 1, 0, 1, .none, [], [], [], .nothing,
        some ⟨1, 1, [⟨1, 1, .other,
          [⟨.anonymousBody, "", 1, 0, 1, .none, [], none,
            [classNamed "IOException" (some "p.Shape.Base"), classNamed "Base" none]⟩]⟩]⟩⟩]⟩],
    [], 1⟩

theorem ofUnit_entries_redeclared :
    IsLastSegment "java.io.IOException" "IOException" ∧
      (ofUnit redeclared).resolve? "java.io.IOException" = some "IOException" ∧
      (∃ decl, redeclared.LastClass "IOException" decl ∧ decl.NamesSuperclass "Base") ∧
      (∃ decl, redeclared.LastClass "Base" decl ∧ decl.NamesSuperclass "Object") ∧
      ¬ redeclared.DeclaresClass "Shape" := by
  obtain ⟨known, entries, resolves⟩ := ofUnit_entries redeclared
  have last : IsLastSegment "java.io.IOException" "IOException" :=
    ⟨by decide, .inr ⟨"java.io", by decide⟩⟩
  have own : "IOException" ∈ (ofUnit redeclared).names := by decide +kernel
  refine ⟨last, by rw [resolves _ _ last, if_pos own], ?_, ?_, fun declared => ?_⟩
  · exact ((entries "IOException" "Base").mp (by decide +kernel)).resolve_right
      fun hidden => absurd hidden.2 (by decide +kernel)
  · exact ((entries "Base" "Object").mp (by decide +kernel)).resolve_right
      fun hidden => absurd hidden.2 (by decide +kernel)
  · exact absurd ((known "Shape").mpr (.inr (.inr declared))) (by decide +kernel)

end ClassHierarchy

end DocAudit
