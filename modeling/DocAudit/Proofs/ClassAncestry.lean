import DocAudit.ClassHierarchy
import DocAudit.Proofs.DeclarationInduction
import DocAudit.Proofs.DeclarationTrees
import Mathlib.Data.List.Nodup
import Mathlib.Data.List.Perm.Subperm
import Mathlib.Data.Nat.Find
import Mathlib.Logic.Relation

set_option autoImplicit false

namespace DocAudit.ClassHierarchy

variable {hierarchy : ClassHierarchy}

def Extends (hierarchy : ClassHierarchy) (child parent : String) : Prop :=
  hierarchy.superclass? child = some parent ∧ parent ≠ ""

def Reaches (hierarchy : ClassHierarchy) : String → String → Prop :=
  Relation.ReflTransGen hierarchy.Extends

def names (hierarchy : ClassHierarchy) : List String := hierarchy.entries.map (·.1)

theorem superclass?_isSome_iff (name : String) :
    (hierarchy.superclass? name).isSome = true ↔ name ∈ hierarchy.names := by
  simp [superclass?, names]

section Levels

def parent? (hierarchy : ClassHierarchy) (name : String) : Option String :=
  (hierarchy.superclass? name).filter (· ≠ "")

def ancestor? (hierarchy : ClassHierarchy) : Nat → String → Option String
  | 0, name => some name
  | level + 1, name => (hierarchy.parent? name).bind (hierarchy.ancestor? level)

theorem parent?_eq_some_iff {child parent : String} :
    hierarchy.parent? child = some parent ↔ hierarchy.Extends child parent := by
  simp [parent?, Extends, Option.filter_eq_some_iff]

theorem mem_names_of_parent? {child parent : String}
    (above : hierarchy.parent? child = some parent) : child ∈ hierarchy.names := by
  rw [← superclass?_isSome_iff, (parent?_eq_some_iff.mp above).1]
  rfl

theorem ancestor?_add (lower upper : Nat) (name : String) :
    hierarchy.ancestor? (lower + upper) name =
      (hierarchy.ancestor? lower name).bind (hierarchy.ancestor? upper) := by
  induction lower generalizing name with
  | zero => simp [ancestor?]
  | succ lower ih =>
    rw [Nat.succ_add, ancestor?, ancestor?, Option.bind_assoc]
    exact congrArg _ (funext ih)

theorem exists_ancestor?_iff {child target : String} :
    (∃ level, hierarchy.ancestor? level child = some target) ↔ hierarchy.Reaches child target := by
  constructor
  next =>
    rintro ⟨level, found⟩
    induction level generalizing child with
    | zero =>
      obtain rfl : child = target := by simpa [ancestor?] using found
      exact .refl
    | succ level ih =>
      obtain ⟨parent, above, found⟩ := Option.bind_eq_some_iff.mp found
      exact .head (parent?_eq_some_iff.mp above) (ih found)
  next =>
    intro reached
    induction reached using Relation.ReflTransGen.head_induction_on with
    | refl => exact ⟨0, rfl⟩
    | head extended _ ih =>
      obtain ⟨level, found⟩ := ih
      refine ⟨level + 1, ?_⟩
      rw [ancestor?, parent?_eq_some_iff.mpr extended]
      exact found

theorem climbs_iff (target : String) (steps : Nat) (name : String) :
    hierarchy.climbs target steps name = true ↔
      ∃ level < steps, hierarchy.ancestor? level name = some target := by
  induction steps generalizing name with
  | zero => simp [climbs]
  | succ steps ih =>
    rw [climbs]
    by_cases here : name = target
    next =>
      rw [if_pos here]
      exact iff_of_true rfl ⟨0, Nat.succ_pos steps, congrArg some here⟩
    next =>
      -- The class itself is not the one, so only the levels above it count.
      have above : (∃ level < steps + 1, hierarchy.ancestor? level name = some target) ↔
          ∃ level < steps, hierarchy.ancestor? (level + 1) name = some target := by
        constructor
        · rintro ⟨_ | level, within, found⟩
          · exact absurd (Option.some.inj found) here
          · exact ⟨level, Nat.lt_of_succ_lt_succ within, found⟩
        · rintro ⟨level, within, found⟩
          exact ⟨level + 1, Nat.succ_lt_succ within, found⟩
      rw [if_neg here, above]
      cases entry : hierarchy.superclass? name with
      | none => simp [ancestor?, parent?, entry]
      | some next =>
        by_cases root : next = ""
        · simp [ancestor?, parent?, entry, root, Option.filter]
        · simp [ancestor?, parent?, entry, root, ih, Option.filter]

-- A way up that meets a class twice can leave out what lies between the two.
theorem ancestor?_shortcut {first second level : Nat} {name target : String}
    (same : hierarchy.ancestor? first name = hierarchy.ancestor? second name)
    (below : second ≤ level) (found : hierarchy.ancestor? level name = some target) :
    hierarchy.ancestor? (first + (level - second)) name = some target := by
  rw [ancestor?_add, same, ← ancestor?_add, Nat.add_sub_cancel' below]
  exact found

-- Whatever lies below the end of a way up has an entry.
theorem ancestor?_below {level upper : Nat} {name target : String} (lower : level < upper)
    (found : hierarchy.ancestor? upper name = some target) :
    hierarchy.ancestor? level name ∈ hierarchy.names.map some := by
  obtain ⟨remaining, rfl⟩ := Nat.exists_eq_add_of_lt lower
  rw [Nat.add_assoc, ancestor?_add] at found
  obtain ⟨between, here, found⟩ := Option.bind_eq_some_iff.mp found
  obtain ⟨parent, above, _⟩ := Option.bind_eq_some_iff.mp found
  rw [here]
  exact List.mem_map_of_mem (mem_names_of_parent? above)

theorem exists_ancestor?_le {level : Nat} {name target : String}
    (found : hierarchy.ancestor? level name = some target) :
    ∃ bounded ≤ hierarchy.entries.length, hierarchy.ancestor? bounded name = some target := by
  have reached : ∃ level, hierarchy.ancestor? level name = some target := ⟨level, found⟩
  let least := Nat.find reached
  have found : hierarchy.ancestor? least name = some target := Nat.find_spec reached
  have ordered (first second : Nat) (lower : first < second) (within : second < least) :
      hierarchy.ancestor? first name ≠ hierarchy.ancestor? second name := by
    intro same
    have shorter : first + (least - second) < least := by omega
    exact Nat.find_min reached shorter (ancestor?_shortcut same (Nat.le_of_lt within) found)
  have distinct : ((List.range least).map (hierarchy.ancestor? · name)).Nodup := by
    apply List.Nodup.map_on _ List.nodup_range
    intro first within second within' same
    rw [List.mem_range] at within within'
    rcases Nat.lt_trichotomy first second with lower | equal | lower
    · exact absurd same (ordered first second lower within')
    · exact equal
    · exact absurd same.symm (ordered second first lower within)
  have known : (List.range least).map (hierarchy.ancestor? · name) ⊆
      hierarchy.names.map some := by
    intro class? member
    obtain ⟨level, within, rfl⟩ := List.mem_map.mp member
    exact ancestor?_below (List.mem_range.mp within) found
  refine ⟨least, ?_, found⟩
  simpa [names] using (List.subperm_of_subset distinct known).length_le

end Levels

theorem isSubclass_iff_reaches (child parent : String) :
    hierarchy.isSubclass child parent = true ↔ hierarchy.Reaches child parent := by
  rw [isSubclass, climbs_iff, ← exists_ancestor?_iff]
  constructor
  · rintro ⟨level, _, found⟩
    exact ⟨level, found⟩
  · rintro ⟨level, found⟩
    obtain ⟨bounded, within, found⟩ := exists_ancestor?_le found
    exact ⟨bounded, Nat.lt_succ_of_le within, found⟩

section Declared

theorem names_insert (name superclass : String) :
    (hierarchy.insert name superclass).names =
      if name ∈ hierarchy.names then hierarchy.names else hierarchy.names ++ [name] := by
  obtain ⟨entries⟩ := hierarchy
  induction entries with
  | nil => rfl
  | cons entry rest ih =>
    simp only [names, insert] at ih ⊢
    by_cases same : entry.1 = name
    · simp [insertEntry, same]
    · by_cases later : name ∈ rest.map (·.1)
      · simp_all [insertEntry]
      · simp_all [insertEntry, Ne.symm]

def addListed (hierarchy : ClassHierarchy) : Declaration → ClassHierarchy
  | .type decl => hierarchy.addDeclaration decl.kind decl.name decl.superclass
  | _ => hierarchy

theorem addType_eq {decl : TypeDecl}
    (inner : ∀ hierarchy : ClassHierarchy, hierarchy.addMembers decl.members =
      (Declaration.ofMembers decl.members).foldl addListed hierarchy) :
    hierarchy.addType decl = decl.declarations.foldl addListed hierarchy := by
  rw [TypeDecl.declarations_eq, List.foldl_cons, addListed]
  obtain ⟨⟩ := decl
  exact inner _

theorem addMethod_eq {decl : MethodDecl}
    (inner : ∀ body, decl.body = some body → ∀ hierarchy : ClassHierarchy,
      hierarchy.addStatements body.statements =
        (Declaration.ofStatements body.statements).foldl addListed hierarchy) :
    hierarchy.addMethod decl = decl.declarations.foldl addListed hierarchy := by
  rw [MethodDecl.declarations_eq, List.foldl_cons]
  obtain ⟨_, _, _, _, _, _, _, _, _, _, body⟩ := decl
  match body with
  | none => rfl
  | some ⟨_, _, _⟩ => exact inner _ rfl hierarchy

theorem add_induction : DeclarationInduction
    (fun types => ∀ hierarchy : ClassHierarchy, hierarchy.addTypes types =
      (Declaration.ofTypes types).foldl addListed hierarchy)
    (fun members => ∀ hierarchy : ClassHierarchy, hierarchy.addMembers members =
      (Declaration.ofMembers members).foldl addListed hierarchy)
    (fun statements => ∀ hierarchy : ClassHierarchy, hierarchy.addStatements statements =
      (Declaration.ofStatements statements).foldl addListed hierarchy) where
  noTypes hierarchy := rfl
  addType decl rest inner later hierarchy := by
    rw [addTypes, later, addType_eq inner, Declaration.ofTypes, List.foldl_append]
  noMembers hierarchy := rfl
  addMethod decl rest inner later hierarchy := by
    rw [addMembers, later, addMember, addMethod_eq inner, Declaration.ofMembers,
      Member.declarations, List.foldl_append]
  addStaticInit line body rest inner later hierarchy := by
    obtain ⟨openLine, closeLine, statements⟩ := body
    rw [addMembers, later, addMember, inner, Declaration.ofMembers, Member.declarations,
      List.foldl_append]
    rfl
  addMemberType decl rest inner later hierarchy := by
    rw [addMembers, later, addMember, addType_eq inner, Declaration.ofMembers,
      Member.declarations, List.foldl_append]
  noStatements hierarchy := rfl
  addStatement statement rest inner later hierarchy := by
    obtain ⟨⟩ := statement
    rw [addStatements, later, inner, Declaration.ofStatements, List.foldl_append]

theorem ofUnit_eq_foldl (unit : CompilationUnit) :
    ofUnit unit = unit.declarations.foldl addListed standard :=
  add_induction.ofTypes unit.types standard

-- What holds of the standard classes and is kept by every further one holds of a file's classes.
theorem ofUnit_induction {motive : ClassHierarchy → Prop} (start : motive standard)
    (step : ∀ hierarchy name superclass, motive hierarchy →
      motive (hierarchy.insert name superclass)) (unit : CompilationUnit) :
    motive (ofUnit unit) := by
  rw [ofUnit_eq_foldl]
  refine List.foldlRecOn _ _ start fun hierarchy held declaration _ => ?_
  cases declaration with
  | type decl =>
    rw [addListed, addDeclaration]
    split
    · exact step hierarchy _ _ held
    · exact held
  | method | staticInit => exact held

theorem ofUnit_names_nodup (unit : CompilationUnit) : (ofUnit unit).names.Nodup := by
  apply ofUnit_induction (motive := fun hierarchy => hierarchy.names.Nodup)
  next => decide +kernel
  next =>
    intro hierarchy name superclass distinct
    rw [names_insert]
    by_cases known : name ∈ hierarchy.names
    · rwa [if_pos known]
    · rw [if_neg known]
      exact distinct.append (List.nodup_singleton name) (by simpa using known)

theorem standard_subset_ofUnit (unit : CompilationUnit) :
    standard.names ⊆ (ofUnit unit).names := by
  apply ofUnit_induction (motive := fun hierarchy => standard.names ⊆ hierarchy.names)
  next => exact List.Subset.refl _
  next =>
    intro hierarchy name superclass kept
    rw [names_insert]
    by_cases known : name ∈ hierarchy.names
    · rwa [if_pos known]
    · rw [if_neg known]
      exact List.subset_append_of_subset_left _ kept

theorem ofUnit_resolve?_root (unit : CompilationUnit) {root : String}
    (listed : root ∈ standard.names) (simple : simpleName root = root) :
    (ofUnit unit).resolve? root = some root := by
  rw [resolve?, simple, if_pos]
  exact superclass?_isSome_iff root |>.mpr (standard_subset_ofUnit unit listed)

end Declared

theorem ofUnit_isSubclass_iff (unit : CompilationUnit) :
    (ofUnit unit).names.Nodup ∧
      (∀ child parent, (ofUnit unit).isSubclass child parent = true ↔
        (ofUnit unit).Reaches child parent) ∧
      (∀ name, (ofUnit unit).isSubclass name name = true) ∧
      (∀ child parent root, (ofUnit unit).isSubclass child parent = true →
        (ofUnit unit).isSubclass parent root = true →
          (ofUnit unit).isSubclass child root = true) ∧
      ∀ name, (ofUnit unit).isUnchecked name = true ↔
        (ofUnit unit).Reaches name "RuntimeException" ∨ (ofUnit unit).Reaches name "Error" := by
  refine ⟨ofUnit_names_nodup unit, isSubclass_iff_reaches, fun name => ?_, ?_, fun name => ?_⟩
  · exact (isSubclass_iff_reaches name name).mpr .refl
  · intro child parent root lower upper
    rw [isSubclass_iff_reaches] at lower upper ⊢
    exact lower.trans upper
  · rw [isUnchecked, List.any_cons, List.any_cons, List.any_nil, Bool.or_false,
      ofUnit_resolve?_root unit (by decide +kernel) (by decide +kernel),
      ofUnit_resolve?_root unit (by decide +kernel) (by decide +kernel),
      Option.any_some, Option.any_some, Bool.or_eq_true, isSubclass_iff_reaches,
      isSubclass_iff_reaches]

private def declaredClass (name superclass : String) : TypeDecl :=
  ⟨.classType, name, 1, 0, 1, .none, [], some superclass, []⟩

-- Three classes in a circle, and a standard exception that is declared anew below one of them.
private def circle : CompilationUnit :=
  ⟨[declaredClass "A" "p.B", declaredClass "B" "C", declaredClass "C" "A",
    declaredClass "RuntimeException" "A"], [], 1⟩

theorem ofUnit_isSubclass_circle :
    (ofUnit circle).isSubclass "A" "B" = true ∧ (ofUnit circle).isSubclass "B" "C" = true ∧
      (ofUnit circle).isSubclass "A" "C" = true ∧ (ofUnit circle).Reaches "C" "B" ∧
      ¬ (ofUnit circle).Reaches "A" "RuntimeException" := by
  obtain ⟨_, exact_iff, _, trans, _⟩ := ofUnit_isSubclass_iff circle
  have lower : (ofUnit circle).isSubclass "A" "B" = true := by decide +kernel
  have upper : (ofUnit circle).isSubclass "B" "C" = true := by decide +kernel
  refine ⟨lower, upper, trans "A" "B" "C" lower upper, ?_, ?_⟩
  · exact (exact_iff "C" "B").mp (by decide +kernel)
  · rw [← exact_iff]
    decide +kernel

end DocAudit.ClassHierarchy
