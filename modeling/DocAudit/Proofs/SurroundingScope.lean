import DocAudit.Scope
import Mathlib.Data.List.Basic

set_option autoImplicit false

namespace DocAudit.Scope

section Order

theorem isIn_total (a b : Scope) : a.isIn b = true ∨ b.isIn a = true := by
  simp only [isIn, decide_eq_true_eq]
  exact Nat.le_total a.rank b.rank

theorem isIn_antisymm {a b : Scope} (below : a.isIn b = true) (above : b.isIn a = true) :
    a = b := by
  simp only [isIn, decide_eq_true_eq] at below above
  cases a <;> cases b <;> simp_all [rank]

def IsLeastVisible (scope : Scope) (scopes : List Scope) : Prop :=
  scope ∈ scopes ∧ ∀ other ∈ scopes, other.isIn scope = true

theorem leastVisible_isLeastVisible (a b : Scope) : IsLeastVisible (leastVisible a b) [a, b] := by
  unfold leastVisible
  split
  next below => exact ⟨by simp, by simp [below, isIn_refl]⟩
  next apart =>
    have above : b.isIn a = true := (isIn_total a b).resolve_left apart
    exact ⟨by simp, by simp [above, isIn_refl]⟩

theorem foldl_isLeastVisible (first : Scope) (rest : List Scope) :
    IsLeastVisible (rest.foldl leastVisible first) (first :: rest) := by
  induction rest generalizing first with
  | nil => exact ⟨by simp, by simp [isIn_refl]⟩
  | cons next rest ih =>
    obtain ⟨chosen, both⟩ := leastVisible_isLeastVisible first next
    obtain ⟨member, bound⟩ := ih (leastVisible first next)
    have reached := bound _ List.mem_cons_self
    refine ⟨?_, ?_⟩
    next =>
      rcases List.mem_cons.mp member with same | later
      · rw [List.foldl_cons, same]
        exact List.mem_append_left rest chosen
      · exact List.mem_cons_of_mem _ (List.mem_cons_of_mem _ later)
    next =>
      intro other listed
      rcases List.mem_append.mp (show other ∈ [first, next] ++ rest from listed) with here | later
      · exact isIn_trans (both other here) reached
      · exact bound other (List.mem_cons_of_mem _ later)

theorem exists_isLeastVisible {scopes : List Scope} (present : scopes ≠ []) :
    ∃ scope, IsLeastVisible scope scopes := by
  cases scopes with
  | nil => exact absurd rfl present
  | cons first rest => exact ⟨_, foldl_isLeastVisible first rest⟩

end Order

/-- The scope that a type counts as, given the types around it, innermost first. -/
def counted (decl : TypeDecl) (around : List TypeDecl) : Scope :=
  if decl.kind = .anonymousBody then .anonInner
  else effective decl.modifiers (around.head?.map (·.kind))

def countedAlong : List TypeDecl → List Scope
  | [] => []
  | decl :: around => counted decl around :: countedAlong around

/-- A named type that only the interface or annotation type around it makes public. -/
def IsLifted (decl : TypeDecl) (around : List TypeDecl) : Prop :=
  decl.kind ≠ .anonymousBody ∧ decl.modifiers.access ≠ some .pub ∧
    around.head?.any (·.kind.isInterfaceLike) = true

section Chain

theorem surrounding_isLeastVisible (decl : TypeDecl) (around : List TypeDecl) :
    ∃ scope, surrounding (decl :: around) = some scope ∧
      IsLeastVisible scope ((decl :: around).map ofEnclosing) := by
  refine ⟨_, rfl, ?_⟩
  rw [← List.foldl_map, List.map_cons]
  exact foldl_isLeastVisible _ _

theorem pub_isIn_ofModifiers (modifiers : Modifiers) :
    Scope.pub.isIn (ofModifiers modifiers) = true := by
  unfold ofModifiers
  split <;> rfl

theorem ofModifiers_eq_pub_iff (modifiers : Modifiers) :
    ofModifiers modifiers = .pub ↔ modifiers.access = some .pub := by
  unfold ofModifiers
  split <;> simp_all

theorem counted_isIn_ofEnclosing (decl : TypeDecl) (around : List TypeDecl) :
    (counted decl around).isIn (ofEnclosing decl) = true := by
  by_cases anonymous : decl.kind = .anonymousBody
  next => simp [counted, ofEnclosing, anonymous, isIn_refl]
  next =>
    simp only [counted, ofEnclosing, effective, anonymous, if_false, beq_iff_eq]
    split
    next => exact pub_isIn_ofModifiers decl.modifiers
    next => exact isIn_refl _

theorem counted_eq_ofEnclosing_iff (decl : TypeDecl) (around : List TypeDecl) :
    counted decl around = ofEnclosing decl ↔ ¬ IsLifted decl around := by
  by_cases anonymous : decl.kind = .anonymousBody
  next => simp [counted, ofEnclosing, IsLifted, anonymous]
  next =>
    simp only [counted, ofEnclosing, effective, IsLifted, anonymous, if_false, beq_iff_eq,
      Option.any_map]
    split
    next within =>
      rw [eq_comm, ofModifiers_eq_pub_iff]
      simp [anonymous, within]
    next outside => simp [outside]

theorem mem_countedAlong_iff {scope : Scope} {chain : List TypeDecl} :
    scope ∈ countedAlong chain ↔
      ∃ inner outer, inner :: outer <:+ chain ∧ counted inner outer = scope := by
  induction chain with
  | nil => simp [countedAlong]
  | cons decl around ih =>
    simp only [countedAlong, List.mem_cons, ih, List.suffix_cons_iff]
    constructor
    next =>
      rintro (rfl | ⟨inner, outer, within, same⟩)
      · exact ⟨decl, around, .inl rfl, rfl⟩
      · exact ⟨inner, outer, .inr within, same⟩
    next =>
      rintro ⟨inner, outer, whole | within, same⟩
      · obtain ⟨rfl, rfl⟩ := List.cons.inj whole
        exact .inl same.symm
      · exact .inr ⟨inner, outer, within, same⟩

end Chain

theorem surrounding_counted_iff (decl : TypeDecl) (around : List TypeDecl) :
    ∃ scope least, surrounding (decl :: around) = some scope ∧
      IsLeastVisible least (countedAlong (decl :: around)) ∧ least.isIn scope = true ∧
      (scope = least ↔ ∃ inner outer, inner :: outer <:+ decl :: around ∧
        ofEnclosing inner = scope ∧ ¬ IsLifted inner outer) := by
  obtain ⟨scope, found, _, declared⟩ := surrounding_isLeastVisible decl around
  obtain ⟨least, counts, bound⟩ := exists_isLeastVisible
    (show countedAlong (decl :: around) ≠ [] by simp [countedAlong])
  obtain ⟨inner, outer, within, same⟩ := mem_countedAlong_iff.mp counts
  have inScope : (ofEnclosing inner).isIn scope = true :=
    declared _ (List.mem_map_of_mem (within.subset List.mem_cons_self))
  have covered : least.isIn (ofEnclosing inner) = true :=
    same ▸ counted_isIn_ofEnclosing inner outer
  refine ⟨scope, least, found, ⟨counts, bound⟩, isIn_trans covered inScope, ?_, ?_⟩
  next =>
    rintro rfl
    have attained := isIn_antisymm inScope covered
    refine ⟨inner, outer, within, attained, ?_⟩
    rw [← counted_eq_ofEnclosing_iff, same, attained]
  next =>
    rintro ⟨inner, outer, within, attained, unlifted⟩
    have same := (counted_eq_ofEnclosing_iff inner outer).mpr unlifted
    have above := bound _ (mem_countedAlong_iff.mpr ⟨inner, outer, within, same.trans attained⟩)
    exact isIn_antisymm above (isIn_trans covered inScope)

private def publicInterface : TypeDecl where
  kind := .interfaceType
  name := "I"
  line := 1
  column := 0
  endLine := 7
  modifiers := { Modifiers.none with access := some .pub }
  typeParams := []
  superclass := none
  members := []

private def memberClass : TypeDecl :=
  { publicInterface with
    kind := .classType, name := "C", line := 3, endLine := 6, modifiers := .none }

-- A check of what is public looks at the class and leaves its public methods out.
theorem surrounding_inInterface :
    IsLeastVisible .pub (countedAlong [memberClass, publicInterface]) ∧
      surrounding [memberClass, publicInterface] = some .pkg ∧
      ScopeFilter.shouldCheck ⟨.pub, none⟩ (counted memberClass [publicInterface])
        (surrounding [publicInterface]) = true ∧
      ScopeFilter.shouldCheck ⟨.pub, none⟩ .pub
        (surrounding [memberClass, publicInterface]) = false :=
  ⟨⟨by decide, by decide⟩, by decide, by decide, by decide⟩

end DocAudit.Scope
