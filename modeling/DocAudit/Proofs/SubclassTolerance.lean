import DocAudit.Proofs.ThrowsMatching

set_option autoImplicit false

namespace DocAudit

namespace Message

def isExpectedThrows : Message → Bool
  | .expectedTag tag _ => tag == "@throws"
  | _ => false

theorem isExpectedThrows_of_isClassInfo {message : Message} (info : message.isClassInfo = true) :
    message.isExpectedThrows = false := by
  cases message <;> simp_all [isClassInfo, isExpectedThrows]

end Message

namespace MethodDoc

def expectedThrows (rule : MethodDoc) (classes : ClassHierarchy) (decl : MethodDecl)
    (report : Bool) (tags : List Tag) : List Note :=
  (rule.checkThrows classes decl report tags).1.filter (·.message.isExpectedThrows)

/-- An exception with a tag of its own class, hidden from it behind a superclass. -/
structure Shadowed (classes : ClassHierarchy) (throws : List Identifier) (tags : List Tag)
    (index : Nat) (name : Identifier) (own : String) : Prop where
  declared : throws[index]? = some name
  resolved : classes.resolve? name.text = some own
  tagged : ∃ tag ∈ tags, tag.isThrows = true ∧ classes.resolve? tag.argumentText = some own ∧
    ∀ other ∈ throws, other.text ≠ tag.argumentText
  first : ∀ earlier ∈ throws.take index, classes.resolve? earlier.text ≠ some own
  superclass : ∃ earlier ∈ throws.take index, ∃ above,
    classes.resolve? earlier.text = some above ∧ classes.isSubclass own above = true
  unnamed : ∀ tag ∈ tags, tag.isThrows = true → tag.argumentText ≠ name.text

theorem isSubclass_self (classes : ClassHierarchy) (name : String) :
    classes.isSubclass name name = true := by
  simp [ClassHierarchy.isSubclass, ClassHierarchy.climbs]

section Marks

variable {rule : MethodDoc} {classes : ClassHierarchy} {throws : List Identifier}

theorem stopsAt_strict (off : rule.allowSubclassThrows = false) (own : String)
    (name : Identifier) :
    rule.stopsAt classes (some own) name = true ↔ classes.resolve? name.text = some own := by
  cases resolved : classes.resolve? name.text with
  | none => simp [stopsAt, resolved]
  | some target =>
    simp only [stopsAt, resolved, off, Bool.false_and, Bool.or_false, beq_iff_eq, Option.some.injEq]
    exact eq_comm

theorem stopsAt_tolerant (on : rule.allowSubclassThrows = true) (own : String)
    (name : Identifier) :
    rule.stopsAt classes (some own) name = true ↔
      ∃ above, classes.resolve? name.text = some above ∧ classes.isSubclass own above = true := by
  cases resolved : classes.resolve? name.text with
  | none => simp [stopsAt, resolved]
  | some target =>
    simp only [stopsAt, resolved, on, Bool.true_and, Bool.or_eq_true, beq_iff_eq,
      Option.some.injEq, exists_eq_left']
    constructor
    · rintro (rfl | below)
      · exact isSubclass_self classes own
      · exact below
    · exact .inr

theorem findIdx?_first_iff {α : Type} (values : List α) (test : α → Bool) (index : Nat) :
    values.findIdx? test = some index ↔ ∃ value, values[index]? = some value ∧
      test value = true ∧ ∀ earlier ∈ values.take index, test earlier = false := by
  induction values generalizing index with
  | nil => simp
  | cons value rest ih =>
    cases here : test value with
    | true => cases index <;> simp [List.findIdx?_cons, here]
    | false => cases index <;> simp [List.findIdx?_cons, here, ih]

theorem marks_iff (text : String) (index : Nat) :
    rule.marks classes throws text index = true ↔ ∃ name, throws[index]? = some name ∧
      ((name.text = text ∧ ∀ earlier ∈ throws.take index, earlier.text ≠ text) ∨
        (∀ other ∈ throws, other.text ≠ text) ∧ ∃ own, classes.resolve? text = some own ∧
          classes.resolve? name.text = some own ∧
          ∀ earlier ∈ throws.take index, rule.stopsAt classes (some own) earlier = false) := by
  unfold marks
  cases textual : textIndex? throws text with
  | some marked =>
    obtain ⟨named, present, same, apart⟩ := (findIdx?_first_iff _ _ _).mp textual
    have inThrows : named ∈ throws := List.mem_of_getElem? present
    simp only [beq_iff_eq, beq_eq_false_iff_ne] at same apart ⊢
    constructor
    · rintro rfl
      exact ⟨named, present, .inl ⟨same, apart⟩⟩
    · rintro ⟨name, declared, ⟨spelled, first⟩ | ⟨absent, _⟩⟩
      · have also : textIndex? throws text = some index :=
          (findIdx?_first_iff _ _ _).mpr
            ⟨name, declared, by simpa using spelled, by simpa using first⟩
        exact Option.some.inj (textual.symm.trans also)
      · exact absurd same (absent named inThrows)
  | none =>
    have absent : ∀ other ∈ throws, other.text ≠ text := by
      simpa [textIndex?, List.findIdx?_eq_none_iff] using textual
    simp only [foundByClass, Bool.and_eq_true, beq_iff_eq]
    constructor
    · rintro ⟨ends, same⟩
      obtain ⟨name, declared, stops, apart⟩ := (findIdx?_first_iff _ _ _).mp ends
      obtain ⟨own, target, documented, resolved⟩ := stopsAt_resolved stops
      rw [documented] at apart same
      have equal : classes.resolve? name.text = some own := by simpa [declared] using same
      exact ⟨name, declared, .inr ⟨absent, own, documented, equal, apart⟩⟩
    · rintro ⟨name, declared, ⟨spelled, _⟩ | ⟨_, own, documented, resolved, apart⟩⟩
      · exact absurd spelled (absent name (List.mem_of_getElem? declared))
      · rw [documented]
        have stops : rule.stopsAt classes (some own) name = true := by simp [stopsAt, resolved]
        exact ⟨(findIdx?_first_iff _ _ _).mpr ⟨name, declared, stops, apart⟩,
          by simp [declared, resolved]⟩

end Marks

section Missing

variable (classes : ClassHierarchy)

theorem missing_cons (name : Identifier) (rest : List Identifier) (found reported : Nat → Bool) :
    missingThrowsNotes (declaredState classes (name :: rest) found reported) =
      (if found 0 then [] else [⟨name.line, name.column, .expectedTag "@throws" name.text⟩]) ++
        missingThrowsNotes (declaredState classes rest (fun index => found (index + 1))
          fun index => reported (index + 1)) := by
  cases here : found 0 <;> simp [missingThrowsNotes, here]

theorem missing_length_le (throws : List Identifier) (few many reported reported' : Nat → Bool)
    (weaker : ∀ index, few index = true → many index = true) :
    (missingThrowsNotes (declaredState classes throws many reported)).length ≤
      (missingThrowsNotes (declaredState classes throws few reported')).length := by
  induction throws generalizing few many reported reported' with
  | nil => simp
  | cons name rest ih =>
    have later := ih (fun index => few (index + 1)) (fun index => many (index + 1))
      (fun index => reported (index + 1)) (fun index => reported' (index + 1))
      fun index => weaker (index + 1)
    have here := weaker 0
    rw [missing_cons, missing_cons, List.length_append, List.length_append]
    cases marked : few 0 with
    | true => simpa [here marked] using later
    | false =>
      cases many 0 <;> simp <;> omega

-- Two reports, one with more exceptions marked than the other, are equal when the marks are.
theorem missing_eq_iff (throws : List Identifier) (few many reported reported' : Nat → Bool)
    (weaker : ∀ index, few index = true → many index = true) :
    missingThrowsNotes (declaredState classes throws few reported) =
        missingThrowsNotes (declaredState classes throws many reported') ↔
      ∀ index < throws.length, many index = true → few index = true := by
  induction throws generalizing few many reported reported' with
  | nil => simp
  | cons name rest ih =>
    have later := ih (fun index => few (index + 1)) (fun index => many (index + 1))
      (fun index => reported (index + 1)) (fun index => reported' (index + 1))
      fun index => weaker (index + 1)
    have here := weaker 0
    rw [missing_cons, missing_cons, List.length_cons, Nat.forall_lt_succ_left]
    cases marked : few 0 with
    | true => simpa [here marked] using later
    | false =>
      cases also : many 0 with
      | false => simpa using later
      | true =>
        have shorter := missing_length_le classes rest (fun index => few (index + 1))
          (fun index => many (index + 1)) (fun index => reported' (index + 1))
          (fun index => reported (index + 1)) fun index => weaker (index + 1)
        simp only [if_true, List.nil_append, if_false, List.cons_append, Bool.false_eq_true]
        constructor
        · intro equal
          have lengths := congrArg List.length equal
          simp only [List.length_cons] at lengths
          omega
        · intro all
          cases all.1 trivial

end Missing

section Report

variable (rule : MethodDoc) (classes : ClassHierarchy)

-- Matching tags reports unknown classes and unused tags, and nothing on missing ones.
theorem scanThrows_reports (throws : List Identifier) (tags : List Tag)
    (found reported : Nat → Bool) :
    ∀ note ∈ (tags.foldl (rule.scanThrows classes)
        ⟨declaredState classes throws found reported, []⟩).notes,
      note.message.isClassInfo = true ∨ ∃ name, note.message = .unusedTag "@throws" name := by
  intro note member
  have listed := (rule.scanThrows_run_notes classes throws tags found reported []).mem_iff.mp member
  simp only [List.nil_append, List.mem_append, List.mem_flatMap] at listed
  rcases listed with ⟨tag, _, member | member⟩ | member
  next => exact .inl (rule.unresolvedTagNotes_isClassInfo classes throws tag note member)
  next =>
    unfold unusedTagNotes at member
    split at member
    · rw [List.mem_singleton.mp member]
      exact .inr ⟨_, rfl⟩
    · cases member
  next => exact .inl (rule.newsNotes_isClassInfo throws _ note member)

theorem scanThrows_silent (throws : List Identifier) (tags : List Tag)
    (found reported : Nat → Bool) :
    ∀ note ∈ (tags.foldl (rule.scanThrows classes)
        ⟨declaredState classes throws found reported, []⟩).notes,
      note.message.isExpectedThrows = false := by
  intro note member
  rcases rule.scanThrows_reports classes throws tags found reported note member with
    info | ⟨name, unused⟩
  · exact Message.isExpectedThrows_of_isClassInfo info
  · rw [unused]
    rfl

-- Only the report on undocumented exceptions says that a tag is missing.
theorem undocumentedNotes_isExpectedThrows (decl : MethodDecl) (report : Bool) (tags : List Tag) :
    ∀ note ∈ rule.undocumentedNotes classes decl report tags,
      note.message.isExpectedThrows = true := by
  intro note member
  unfold undocumentedNotes at member
  split at member
  · obtain ⟨entry, _, rfl⟩ := List.mem_map.mp member
    rfl
  · cases member

theorem expectedThrows_eq (decl : MethodDecl) (report : Bool) (tags : List Tag) :
    rule.expectedThrows classes decl report tags =
      rule.undocumentedNotes classes decl report tags := by
  have none := scanThrows_silent rule classes decl.throws (tags.filter Tag.isThrows)
    (fun _ => false) (fun _ => false)
  have all := rule.undocumentedNotes_isExpectedThrows classes decl report tags
  rw [expectedThrows, checkThrows_eq, List.filter_append, List.filter_eq_self.mpr all,
    List.filter_eq_nil_iff.mpr (by simpa using none), List.nil_append]

end Report

section Tolerance

variable {strict tolerant : MethodDoc} {classes : ClassHierarchy} {throws : List Identifier}

theorem marks_strict_of_tolerant (off : strict.allowSubclassThrows = false) {text : String}
    {index : Nat} (marked : tolerant.marks classes throws text index = true) :
    strict.marks classes throws text index = true := by
  obtain ⟨name, declared, byText | ⟨absent, own, documented, resolved, apart⟩⟩ :=
    marks_iff text index |>.mp marked
  next => exact (marks_iff text index).mpr ⟨name, declared, .inl byText⟩
  next =>
    refine (marks_iff text index).mpr
      ⟨name, declared, .inr ⟨absent, own, documented, resolved, fun earlier member => ?_⟩⟩
    refine Bool.eq_false_iff.mpr fun stops => ?_
    have same := (stopsAt_strict off own earlier).mp stops
    have stopsToo : tolerant.stopsAt classes (some own) earlier = true := by simp [stopsAt, same]
    rw [apart earlier member] at stopsToo
    cases stopsToo

theorem markedBy_strict_of_tolerant (off : strict.allowSubclassThrows = false)
    (tags : List Tag) (index : Nat) (marked : tolerant.markedBy classes throws tags index = true) :
    strict.markedBy classes throws tags index = true := by
  obtain ⟨tag, member, marks⟩ := List.any_eq_true.mp marked
  exact List.any_eq_true.mpr ⟨tag, member, marks_strict_of_tolerant off marks⟩

theorem Shadowed.marked_strict (off : strict.allowSubclassThrows = false) {tags : List Tag}
    {index : Nat} {name : Identifier} {own : String}
    (shadowed : Shadowed classes throws tags index name own) :
    strict.markedBy classes throws tags index = true := by
  obtain ⟨tag, member, isThrows, documented, absent⟩ := shadowed.tagged
  refine List.any_eq_true.mpr ⟨tag, List.mem_filter.mpr ⟨member, isThrows⟩, ?_⟩
  refine (marks_iff _ index).mpr ⟨name, shadowed.declared,
    .inr ⟨absent, own, documented, shadowed.resolved, fun earlier inTake => ?_⟩⟩
  exact Bool.eq_false_iff.mpr fun stops =>
    shadowed.first earlier inTake ((stopsAt_strict off own earlier).mp stops)

theorem Shadowed.not_marked_tolerant (on : tolerant.allowSubclassThrows = true) {tags : List Tag}
    {index : Nat} {name : Identifier} {own : String}
    (shadowed : Shadowed classes throws tags index name own) :
    tolerant.markedBy classes throws tags index ≠ true := by
  intro marked
  obtain ⟨tag, member, marks⟩ := List.any_eq_true.mp marked
  obtain ⟨inTags, isThrows⟩ := List.mem_filter.mp member
  obtain ⟨other, declared, byText | byClass⟩ := (marks_iff _ index).mp marks
  all_goals cases Option.some.inj (shadowed.declared.symm.trans declared)
  next => exact shadowed.unnamed tag inTags isThrows byText.1.symm
  next =>
    obtain ⟨_, own', _, resolved, apart⟩ := byClass
    cases Option.some.inj (shadowed.resolved.symm.trans resolved)
    obtain ⟨earlier, inTake, above⟩ := shadowed.superclass
    have stops := (stopsAt_tolerant on own earlier).mpr above
    rw [apart earlier inTake] at stops
    cases stops

theorem exists_shadowed (off : strict.allowSubclassThrows = false)
    (on : tolerant.allowSubclassThrows = true) {tags : List Tag} {index : Nat}
    (marked : strict.markedBy classes throws tags index = true)
    (unmarked : tolerant.markedBy classes throws tags index ≠ true) :
    ∃ name own, Shadowed classes throws tags index name own := by
  obtain ⟨tag, member, marks⟩ := List.any_eq_true.mp marked
  obtain ⟨inTags, isThrows⟩ := List.mem_filter.mp member
  have fails {text : String} (marks : tolerant.marks classes throws text index = true)
      {tag : Tag} (inTags : tag ∈ tags) (isThrows : tag.isThrows = true)
      (spelled : tag.argumentText = text) : False :=
    unmarked (List.any_eq_true.mpr
      ⟨tag, List.mem_filter.mpr ⟨inTags, isThrows⟩, spelled ▸ marks⟩)
  obtain ⟨name, declared, byText | ⟨absent, own, documented, resolved, apart⟩⟩ :=
    (marks_iff _ index).mp marks
  next =>
    exact (fails ((marks_iff _ index).mpr ⟨name, declared, .inl byText⟩) inTags isThrows rfl).elim
  next =>
    have first : ∀ earlier ∈ throws.take index, classes.resolve? earlier.text ≠ some own := by
      intro earlier inTake same
      have stops := (stopsAt_strict off own earlier).mpr same
      rw [apart earlier inTake] at stops
      cases stops
    refine ⟨name, own, declared, resolved, ⟨tag, inTags, isThrows, documented, absent⟩, first,
      ?_, ?_⟩
    next =>
      -- Were no superclass declared before, the tag would mark the exception with tolerance too.
      refine Classical.byContradiction fun alone => ?_
      refine fails ((marks_iff _ index).mpr ⟨name, declared,
        .inr ⟨absent, own, documented, resolved, fun earlier inTake => ?_⟩⟩) inTags isThrows rfl
      refine Bool.eq_false_iff.mpr fun stops => ?_
      obtain ⟨above, found, below⟩ := (stopsAt_tolerant on own earlier).mp stops
      exact alone ⟨earlier, inTake, above, found, below⟩
    next =>
      intro other inTags isThrows spelled
      refine fails ((marks_iff name.text index).mpr
        ⟨name, declared, .inl ⟨rfl, fun earlier inTake same => ?_⟩⟩) inTags isThrows spelled
      exact first earlier inTake (by rw [same, resolved])

end Tolerance

theorem expectedThrows_tolerance_iff (rule : MethodDoc) (classes : ClassHierarchy)
    (decl : MethodDecl) (report : Bool) (tags : List Tag) :
    expectedThrows { rule with allowSubclassThrows := true } classes decl report tags =
        expectedThrows { rule with allowSubclassThrows := false } classes decl report tags ↔
      rule.allowMissingThrows = true ∨ report = false ∨
        ∀ index name own, ¬ Shadowed classes decl.throws tags index name own := by
  rw [expectedThrows_eq, expectedThrows_eq, undocumentedNotes, undocumentedNotes]
  cases allowed : rule.allowMissingThrows with
  | true => simp
  | false =>
    cases report with
    | false => simp
    | true =>
      simp only [Bool.not_false, Bool.and_self, if_true, Bool.false_eq_true, false_or,
        Bool.true_eq_false]
      rw [missing_eq_iff classes decl.throws _ _ _ _ (markedBy_strict_of_tolerant rfl tags)]
      constructor
      · intro same index name own shadowed
        have bound := (List.getElem?_eq_some_iff.mp shadowed.declared).1
        exact shadowed.not_marked_tolerant rfl (same index bound (shadowed.marked_strict rfl))
      · intro clear index _ marked
        refine Classical.byContradiction fun unmarked => ?_
        obtain ⟨name, own, shadowed⟩ := exists_shadowed rfl rfl marked unmarked
        exact clear index name own shadowed

private def superclassFirst : MethodDecl where
  kind := .method
  name := ⟨"m", 6, 9⟩
  line := 6
  column := 4
  endLine := 6
  modifiers := .none
  typeParams := []
  params := []
  throws := [⟨"Exception", 6, 20⟩, ⟨"IOException", 6, 31⟩]
  result := .nothing
  body := some ⟨6, 6, []⟩

-- The tag documents the second exception only while the first one is not tolerated.
theorem expectedThrows_superclassFirst :
    expectedThrows { standard with allowSubclassThrows := true } .standard superclassFirst true
        [⟨4, 7, .throws, some "java.io.IOException"⟩] ≠
      expectedThrows { standard with allowSubclassThrows := false } .standard superclassFirst true
        [⟨4, 7, .throws, some "java.io.IOException"⟩] := by
  decide +kernel

end MethodDoc

end DocAudit
