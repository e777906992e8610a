import DocAudit.Proofs.RepeatedRules
import Mathlib.Data.List.ReduceOption
import Mathlib.Data.List.Sort
import Mathlib.Data.String.Basic

set_option autoImplicit false

namespace DocAudit

def FirstFailure {α β : Type} (read : α → Except SettingsError β) (entries : List α)
    (e : SettingsError) : Prop :=
  ∃ before entry after, entries = before ++ entry :: after ∧ read entry = .error e ∧
    ∀ earlier ∈ before, ∀ other, read earlier ≠ .error other

section Reading

variable {α β γ δ : Type} {read : α → Except SettingsError β} {entries : List α}
  {e : SettingsError}

theorem not_firstFailure_nil : ¬ FirstFailure read [] e := by
  intro failure
  obtain ⟨before, entry, after, split, _⟩ := failure
  simp at split

theorem firstFailure_cons {entry : α} : FirstFailure read (entry :: entries) e ↔
    read entry = .error e ∨ (∀ other, read entry ≠ .error other) ∧ FirstFailure read entries e := by
  constructor
  next =>
    intro failure
    obtain ⟨before, failing, after, split, failed, earlier⟩ := failure
    cases before with
    | nil =>
      cases split
      exact .inl failed
    | cons first before =>
      cases split
      have parts := List.forall_mem_cons.mp earlier
      exact .inr ⟨parts.1, before, failing, after, rfl, failed, parts.2⟩
  next =>
    intro failure
    rcases failure with failed | ⟨passed, before, failing, after, rfl, failed, earlier⟩
    · exact ⟨[], entry, entries, rfl, failed, by simp⟩
    · exact ⟨entry :: before, failing, after, rfl, failed,
        List.forall_mem_cons.mpr ⟨passed, earlier⟩⟩

theorem firstFailure_append {later : List α} : FirstFailure read (entries ++ later) e ↔
    FirstFailure read entries e ∨
      (∀ entry ∈ entries, ∀ other, read entry ≠ .error other) ∧ FirstFailure read later e := by
  induction entries with
  | nil => simp [not_firstFailure_nil]
  | cons entry rest ih =>
    rw [List.cons_append, firstFailure_cons, firstFailure_cons, ih, List.forall_mem_cons]
    tauto

theorem firstFailure_map {key : α → γ} {readKey : γ → Except SettingsError δ}
    (same : ∀ entry ∈ entries, ∀ e, read entry = .error e ↔ readKey (key entry) = .error e) :
    FirstFailure readKey (entries.map key) e ↔ FirstFailure read entries e := by
  induction entries with
  | nil => simp [not_firstFailure_nil]
  | cons entry rest ih =>
    have parts := List.forall_mem_cons.mp same
    rw [List.map_cons, firstFailure_cons, firstFailure_cons, ih parts.2]
    simp only [parts.1, ne_eq]

theorem exists_firstFailure_iff : (∃ e, FirstFailure read entries e) ↔
    ∃ entry ∈ entries, ∃ e, read entry = .error e := by
  induction entries with
  | nil => simp [not_firstFailure_nil]
  | cons entry rest ih =>
    simp only [firstFailure_cons, exists_or, exists_and_left, ih, List.exists_mem_cons_iff]
    by_cases failed : ∃ e, read entry = .error e
    · simp [failed]
    · have passed : ∀ other, read entry ≠ .error other := fun e here => failed ⟨e, here⟩
      simp [passed]

theorem mapM_eq_error_iff : entries.mapM read = .error e ↔ FirstFailure read entries e := by
  induction entries with
  | nil => simp [not_firstFailure_nil, pure, Except.pure]
  | cons entry rest ih =>
    rw [List.mapM_cons, firstFailure_cons, ← ih]
    cases read entry with
    | error other => simp [bind, Except.bind]
    | ok value => cases rest.mapM read <;> simp [bind, Except.bind, pure, Except.pure]

theorem mapM_eq_ok_iff {values : List β} : entries.mapM read = .ok values ↔
    List.Forall₂ (fun entry value => read entry = .ok value) entries values := by
  induction entries generalizing values with
  | nil => simp [pure, Except.pure, eq_comm]
  | cons entry rest ih =>
    rw [List.mapM_cons, List.forall₂_cons_left_iff]
    simp only [← ih]
    cases read entry with
    | error other => simp [bind, Except.bind]
    | ok value =>
      cases rest.mapM read <;> simp [bind, Except.bind, pure, Except.pure, eq_comm]

theorem exists_mapM_eq_ok_iff : (∃ values, entries.mapM read = .ok values) ↔
    ∀ entry ∈ entries, ∀ e, read entry ≠ .error e := by
  have failing : (∃ e, entries.mapM read = .error e) ↔
      ∃ entry ∈ entries, ∃ e, read entry = .error e := by
    simp only [mapM_eq_error_iff, exists_firstFailure_iff]
  cases result : entries.mapM read with
  | error e =>
    obtain ⟨entry, member, other, failed⟩ := failing.mp ⟨e, result⟩
    simpa using ⟨entry, member, other, failed⟩
  | ok values => simpa [result] using failing

theorem bind_eq_error_iff {first : Except SettingsError α} {next : α → Except SettingsError β} :
    first.bind next = .error e ↔
      first = .error e ∨ ∃ value, first = .ok value ∧ next value = .error e := by
  cases first <;> simp [Except.bind]

theorem map_eq_error_iff {first : Except SettingsError α} {f : α → β} :
    first.map f = .error e ↔ first = .error e := by
  cases first <;> simp [Except.map]

theorem bind_eq_ok_iff {first : Except SettingsError α} {next : α → Except SettingsError β}
    {result : β} :
    first.bind next = .ok result ↔ ∃ value, first = .ok value ∧ next value = .ok result := by
  cases first <;> simp [Except.bind]

end Reading

namespace Settings

variable {settings : Settings} {chosen rules : List Rule} {e : SettingsError}

section Sections

variable [Pattern.Reader]

def sectionRule? (settings : Settings) (name : String) : Except SettingsError (Option Rule) :=
  (settings.section? name).elim (.ok none) (Rule.ofSettings? name)

theorem rebuild_eq (base : Rule) :
    settings.rebuild base = (settings.sectionRule? base.name).map fun made => made.getD base := by
  unfold rebuild sectionRule?
  cases settings.section? base.name <;> rfl

theorem rebuild_eq_error_iff {base : Rule} :
    settings.rebuild base = .error e ↔ settings.sectionRule? base.name = .error e := by
  rw [rebuild_eq, map_eq_error_iff]

theorem rebuild_eq_ok_iff {base rule : Rule} : settings.rebuild base = .ok rule ↔
    settings.section? base.name = none ∧ rule = base ∨
      settings.sectionRule? base.name = .ok (some rule) := by
  cases present : settings.section? base.name with
  | none => simp [rebuild_absent present, sectionRule?, present, eq_comm]
  | some options => simp [rebuild_present present, sectionRule?, present]

theorem rebuildAll_eq_mapM (rules : List Rule) :
    settings.rebuildAll rules = rules.mapM settings.rebuild := by
  induction rules with
  | nil => rfl
  | cons rule rest ih => rw [List.mapM_cons, rebuildAll, ih]

theorem rebuildAll_names (rebuilt : settings.rebuildAll rules = .ok chosen) :
    chosen.map Rule.name = rules.map Rule.name := by
  rw [rebuildAll_eq_mapM, mapM_eq_ok_iff] at rebuilt
  induction rebuilt with
  | nil => rfl
  | cons made _ ih => rw [List.map_cons, List.map_cons, rebuild_name made, ih]

def wanted? (entry : String × RuleSettings) : Except SettingsError (Option Rule) :=
  (Rule.ofSettings? entry.1 entry.2).map fun made =>
    if entry.2.enabled = some true then made else none

theorem wanted?_eq_error_iff {entry : String × RuleSettings} :
    wanted? entry = .error e ↔ Rule.ofSettings? entry.1 entry.2 = .error e := by
  rw [wanted?, map_eq_error_iff]

theorem wanted?_eq_some_iff {entry : String × RuleSettings} {rule : Rule} :
    wanted? entry = .ok (some rule) ↔
      Rule.ofSettings? entry.1 entry.2 = .ok (some rule) ∧ entry.2.enabled = some true := by
  unfold wanted?
  cases Rule.ofSettings? entry.1 entry.2 with
  | error e => simp [Except.map]
  | ok made => simp [Except.map, and_comm]

end Sections

def sectionsBeyond (rules : List Rule) (sections : List (String × RuleSettings)) :
    List (String × RuleSettings) :=
  sections.filter fun entry => entry.1 ∉ rules.map Rule.name

theorem sectionsBeyond_added {sections : List (String × RuleSettings)} {rule : Rule}
    (fresh : rule.name ∉ sections.map (·.1)) (chosen : List Rule) :
    sectionsBeyond (chosen ++ [rule]) sections = sectionsBeyond chosen sections := by
  apply List.filter_congr
  intro entry member
  have other : entry.1 ≠ rule.name := by
    intro same
    exact fresh (same ▸ List.mem_map_of_mem member)
  simp [other]

theorem map_append_reduceOption (chosen : List Rule) (first : Option Rule)
    (later : Except SettingsError (List (Option Rule))) :
    (later.map (first :: ·)).map (fun made => chosen ++ made.reduceOption) =
      later.map fun made => chosen ++ first.toList ++ made.reduceOption := by
  cases later with
  | error e => rfl
  | ok made => cases first <;> simp [Except.map]

-- A rule that a section adds keeps no later section out: no two sections have one name.
theorem addEnabled_value [Pattern.Reader] {sections : List (String × RuleSettings)}
    (distinct : (sections.map (·.1)).Nodup) (chosen : List Rule) :
    (addEnabled chosen sections).value =
      ((sectionsBeyond chosen sections).mapM wanted?).map fun made =>
        chosen ++ made.reduceOption := by
  induction sections generalizing chosen with
  | nil =>
    simp [addEnabled, sectionsBeyond, Warned.pure, pure, Except.pure, Except.map]
  | cons entry rest ih =>
    obtain ⟨name, options⟩ := entry
    obtain ⟨fresh, distinct⟩ := List.nodup_cons.mp distinct
    by_cases taken : name ∈ chosen.map Rule.name
    next =>
      have present : chosen.any (·.name == name) = true := by simpa using taken
      have passed : sectionsBeyond chosen ((name, options) :: rest) = sectionsBeyond chosen rest :=
        List.filter_cons_of_neg (by simpa using taken)
      rw [addEnabled, if_pos present, passed, ih distinct chosen]
    next =>
      have absent : ¬ chosen.any (·.name == name) = true := by simpa using taken
      have kept : sectionsBeyond chosen ((name, options) :: rest) =
          (name, options) :: sectionsBeyond chosen rest :=
        List.filter_cons_of_pos (by simpa using taken)
      rw [addEnabled, if_neg absent, kept, List.mapM_cons, wanted?]
      cases made : Rule.ofSettings? name options with
      | error e => rfl
      | ok found =>
        change _ = Except.map _ (Except.map (_ :: ·) ((sectionsBeyond chosen rest).mapM wanted?))
        rw [map_append_reduceOption]
        cases found with
        | none => simp [Warned.warn, ih distinct chosen]
        | some rule =>
          dsimp only
          split
          next asked =>
            have named : rule.name = name := Rule.ofSettings?_name made
            rw [ih distinct, sectionsBeyond_added (named ▸ fresh)]
            rfl
          next => simp [ih distinct]

section Order

theorem section?_eq_some_iff (distinct : settings.SectionsDistinct) {name : String}
    {options : RuleSettings} :
    settings.section? name = some options ↔ (name, options) ∈ settings.rules := by
  constructor
  next =>
    intro present
    obtain ⟨entry, found, rfl⟩ := Option.map_eq_some_iff.mp present
    have same : entry.1 = name := by simpa using List.find?_some found
    exact same ▸ List.mem_of_find?_eq_some found
  next => exact fun member => section?_of_mem distinct member

theorem sectionRule?_of_mem [Pattern.Reader] (distinct : settings.SectionsDistinct)
    {entry : String × RuleSettings} (member : entry ∈ settings.rules) :
    settings.sectionRule? entry.1 = Rule.ofSettings? entry.1 entry.2 := by
  rw [sectionRule?, section?_of_mem distinct member]
  rfl

theorem sortedSections_increasing (distinct : settings.SectionsDistinct) :
    settings.sortedSections.Pairwise fun first second => first.1 < second.1 := by
  have ordered : settings.sortedSections.Pairwise fun first second =>
      decide (first.1 ≤ second.1) = true := by
    apply List.pairwise_mergeSort
    · simpa using fun a _ b _ c _ => String.le_trans (a := a) (b := b) (c := c)
    · simpa using fun a _ b _ => String.le_total a b
  have apart : (settings.sortedSections.map (·.1)).Nodup :=
    ((List.mergeSort_perm ..).map _).nodup_iff.mpr distinct
  apply (ordered.and (List.pairwise_map.mp apart)).imp
  intro first second both
  exact lt_of_le_of_ne (of_decide_eq_true both.1) both.2

theorem sortedSections_congr (distinct : settings.SectionsDistinct) {other : Settings}
    (same : other.rules.Perm settings.rules) : other.sortedSections = settings.sortedSections := by
  have otherDistinct : other.SectionsDistinct := (same.map _).nodup_iff.mpr distinct
  apply List.Perm.eq_of_pairwise _ (sortedSections_increasing otherDistinct)
    (sortedSections_increasing distinct)
  · exact (List.mergeSort_perm ..).trans (same.trans (List.mergeSort_perm ..).symm)
  · intro first second _ _ before after
    exact absurd (before.trans after) (lt_irrefl first.1)

/-- The names of the sections that a preset has no rule for, in ascending order. -/
structure ListsBeyond (settings : Settings) (preset : Preset) (names : List String) : Prop where
  increasing : names.Pairwise (· < ·)
  mem_iff : ∀ name, name ∈ names ↔
    name ∉ preset.rules.map Rule.name ∧ (settings.section? name).isSome = true

theorem ListsBeyond.unique {preset : Preset} {names others : List String}
    (listed : settings.ListsBeyond preset names) (also : settings.ListsBeyond preset others) :
    names = others := by
  apply listed.increasing.eq_of_mem_iff also.increasing
  intro name
  rw [listed.mem_iff, also.mem_iff]

theorem sectionsBeyond_lists (distinct : settings.SectionsDistinct) (preset : Preset) :
    settings.ListsBeyond preset
      ((sectionsBeyond preset.rules settings.sortedSections).map (·.1)) where
  increasing := List.pairwise_map.mpr ((sortedSections_increasing distinct).filter _)
  mem_iff name := by
    simp only [Option.isSome_iff_exists, section?_eq_some_iff distinct, sectionsBeyond,
      sortedSections, List.mem_map, List.mem_filter, List.mem_mergeSort, decide_eq_true_eq,
      Prod.exists, exists_and_right, exists_eq_right]
    exact and_comm

end Order

section Selected

variable [Pattern.Reader]

theorem selectRules_value (distinct : settings.SectionsDistinct) :
    settings.selectRules.value = settings.chosenPreset.bind fun preset =>
      (preset.rules.mapM settings.rebuild).bind fun chosen =>
        ((sectionsBeyond preset.rules settings.sortedSections).mapM wanted?).map fun made =>
          chosen ++ made.reduceOption := by
  unfold selectRules
  cases settings.chosenPreset with
  | error e => rfl
  | ok preset =>
    simp only [Except.bind, ← rebuildAll_eq_mapM]
    cases rebuilt : settings.rebuildAll preset.rules with
    | error e => rfl
    | ok chosen =>
      have apart : (settings.sortedSections.map (·.1)).Nodup :=
        ((List.mergeSort_perm ..).map _).nodup_iff.mpr distinct
      have beyond : sectionsBeyond chosen settings.sortedSections =
          sectionsBeyond preset.rules settings.sortedSections := by
        rw [sectionsBeyond, rebuildAll_names rebuilt]
        rfl
      simp only [addEnabled_value apart, beyond]

theorem selectRules_eq_error_iff (distinct : settings.SectionsDistinct) {preset : Preset}
    (named : settings.chosenPreset = .ok preset) {further : List String}
    (listed : settings.ListsBeyond preset further) : settings.selectRules.value = .error e ↔
      FirstFailure settings.sectionRule? (preset.rules.map Rule.name ++ further) e := by
  obtain rfl := listed.unique (sectionsBeyond_lists distinct preset)
  have preset_part (e : SettingsError) :
      FirstFailure settings.sectionRule? (preset.rules.map Rule.name) e ↔
        preset.rules.mapM settings.rebuild = .error e := by
    rw [mapM_eq_error_iff]
    exact firstFailure_map fun base _ e => rebuild_eq_error_iff
  have beyond_part : FirstFailure settings.sectionRule?
      ((sectionsBeyond preset.rules settings.sortedSections).map (·.1)) e ↔
        (sectionsBeyond preset.rules settings.sortedSections).mapM wanted? = .error e := by
    rw [mapM_eq_error_iff]
    apply firstFailure_map
    intro entry member e
    have listed : entry ∈ settings.rules := List.mem_mergeSort.mp (List.mem_of_mem_filter member)
    rw [wanted?_eq_error_iff, sectionRule?_of_mem distinct listed]
  have passed : (∀ name ∈ preset.rules.map Rule.name, ∀ other,
      settings.sectionRule? name ≠ .error other) ↔
        ∃ chosen, preset.rules.mapM settings.rebuild = .ok chosen := by
    simp only [exists_mapM_eq_ok_iff, List.forall_mem_map, ne_eq, rebuild_eq_error_iff]
  rw [selectRules_value distinct, named, firstFailure_append, preset_part, beyond_part]
  change (preset.rules.mapM settings.rebuild).bind _ = _ ↔ _
  rw [bind_eq_error_iff, passed]
  simp only [map_eq_error_iff, exists_and_right]

section Added

variable {sections : List (String × RuleSettings)} {values : List (Option Rule)}

theorem added_names
    (read : List.Forall₂ (fun entry value => wanted? entry = .ok value) sections values) :
    (values.reduceOption.map Rule.name).Sublist (sections.map (·.1)) := by
  induction read with
  | nil => exact .slnil
  | @cons entry value _ _ made _ ih =>
    cases value with
    | none => exact ih.cons _
    | some rule =>
      have named := Rule.ofSettings?_name (wanted?_eq_some_iff.mp made).1
      simpa [named] using ih.cons_cons entry.1

theorem mem_added
    (read : List.Forall₂ (fun entry value => wanted? entry = .ok value) sections values)
    {rule : Rule} :
    rule ∈ values.reduceOption ↔ ∃ entry ∈ sections, wanted? entry = .ok (some rule) := by
  induction read with
  | nil => simp
  | @cons entry value _ _ made _ ih =>
    rw [List.exists_mem_cons_iff, ← ih, made]
    cases value <;> simp [eq_comm]

end Added

end Selected

theorem preset_names_nodup (preset : Preset) : (preset.rules.map Rule.name).Nodup := by
  have names : [CommentPlacement.name, MethodDoc.name, TypeDoc.name].Nodup := by decide
  cases preset with
  | recommended => exact names
  | strict => exact names
  | minimal => exact List.nodup_singleton MethodDoc.name

theorem exists_chosenPreset_iff : (∃ preset, settings.chosenPreset = .ok preset) ↔
    ∀ text, settings.preset = some text →
      ∃ preset : Preset, preset.name = Preset.normalize text := by
  unfold chosenPreset
  cases settings.preset with
  | none => simp
  | some text =>
    have listed : ∀ preset, preset ∈ Preset.all := by intro preset; cases preset <;> decide
    simp only [Option.elim_some, Option.some.injEq, forall_eq', Preset.ofName]
    split
    next preset found =>
      have same := List.find?_some found
      simpa using ⟨preset, by simpa using same⟩
    next absent =>
      have unknown := List.find?_eq_none.mp absent
      simp only [reduceCtorEq, exists_false, false_iff, not_exists]
      exact fun preset same => unknown preset (listed preset) (by simpa using same)

theorem exists_ok_iff {α : Type} {result : Except SettingsError α} :
    (∃ value, result = .ok value) ↔ ∀ e, result ≠ .error e := by
  cases result <;> simp

section Configured

variable [Pattern.Reader]

-- A section that no rule answers to is never read badly.
theorem sectionRule?_error_known {name : String} (failed : settings.sectionRule? name = .error e) :
    (settings.section? name).isSome = true ∧ ∃ rule ∈ Rule.all, rule.name = name := by
  unfold sectionRule? at failed
  cases present : settings.section? name with
  | none =>
    rw [present] at failed
    cases failed
  | some options =>
    refine ⟨rfl, ?_⟩
    rw [present] at failed
    change Rule.ofSettings? name options = .error e at failed
    unfold Rule.ofSettings? at failed
    split at failed
    next same => exact ⟨.commentPlacement .standard, by simp [Rule.all, Preset.rules], same.symm⟩
    next =>
      split at failed
      next same => exact ⟨.methodDoc .standard, by simp [Rule.all, Preset.rules], same.symm⟩
      next =>
        split at failed
        next same => exact ⟨.typeDoc .standard, by simp [Rule.all, Preset.rules], same.symm⟩
        next => cases failed

-- Whatever section is read badly, it is among those that are read.
theorem exists_selectRules_error_iff (distinct : settings.SectionsDistinct) {preset : Preset}
    (named : settings.chosenPreset = .ok preset) : (∃ e, settings.selectRules.value = .error e) ↔
      ∃ rule ∈ Rule.all, ∃ e, settings.sectionRule? rule.name = .error e := by
  have listed := sectionsBeyond_lists distinct preset
  simp only [selectRules_eq_error_iff distinct named listed, exists_firstFailure_iff]
  constructor
  next =>
    intro failing
    obtain ⟨name, _, e, failed⟩ := failing
    obtain ⟨_, rule, known, rfl⟩ := sectionRule?_error_known failed
    exact ⟨rule, known, e, failed⟩
  next =>
    intro failing
    obtain ⟨rule, _, e, failed⟩ := failing
    refine ⟨rule.name, List.mem_append.mpr ?_, e, failed⟩
    by_cases inPreset : rule.name ∈ preset.rules.map Rule.name
    · exact .inl inPreset
    · exact .inr ((listed.mem_iff _).mpr ⟨inPreset, (sectionRule?_error_known failed).1⟩)

theorem exists_selectRules_ok_iff (distinct : settings.SectionsDistinct) :
    (∃ rules, settings.selectRules.value = .ok rules) ↔
      (∃ preset, settings.chosenPreset = .ok preset) ∧
        ∀ rule ∈ Rule.all, ∃ made, settings.sectionRule? rule.name = .ok made := by
  cases named : settings.chosenPreset with
  | error e => simp [selectRules_value distinct, named, Except.bind]
  | ok preset =>
    have failing := not_congr (exists_selectRules_error_iff distinct named)
    simp only [exists_ok_iff]
    simpa using failing

theorem selectRules_parts (distinct : settings.SectionsDistinct)
    (selected : settings.selectRules.value = .ok rules) :
    ∃ preset chosen values, settings.chosenPreset = .ok preset ∧
      List.Forall₂ (fun base rule => settings.rebuild base = .ok rule) preset.rules chosen ∧
      List.Forall₂ (fun entry value => wanted? entry = .ok value)
        (sectionsBeyond preset.rules settings.sortedSections) values ∧
      rules = chosen ++ values.reduceOption := by
  rw [selectRules_value distinct] at selected
  obtain ⟨preset, named, selected⟩ := bind_eq_ok_iff.mp selected
  obtain ⟨chosen, rebuilt, selected⟩ := bind_eq_ok_iff.mp selected
  cases read : (sectionsBeyond preset.rules settings.sortedSections).mapM wanted? with
  | error e =>
    rw [read] at selected
    cases selected
  | ok values =>
    rw [read] at selected
    cases selected
    exact ⟨preset, chosen, values, named, mapM_eq_ok_iff.mp rebuilt, mapM_eq_ok_iff.mp read, rfl⟩

theorem exists_wanted?_iff (distinct : settings.SectionsDistinct) {preset : Preset} {rule : Rule} :
    (∃ entry ∈ sectionsBeyond preset.rules settings.sortedSections,
      wanted? entry = .ok (some rule)) ↔
    rule.name ∉ preset.rules.map Rule.name ∧ settings.sectionRule? rule.name = .ok (some rule) ∧
      ∃ options, settings.section? rule.name = some options ∧ options.enabled = some true := by
  have mem_beyond (entry : String × RuleSettings) :
      entry ∈ sectionsBeyond preset.rules settings.sortedSections ↔
        entry ∈ settings.rules ∧ entry.1 ∉ preset.rules.map Rule.name := by
    simp [sectionsBeyond, sortedSections]
  constructor
  next =>
    intro asked
    obtain ⟨entry, member, made⟩ := asked
    obtain ⟨listed, beyond⟩ := (mem_beyond entry).mp member
    obtain ⟨made, enabled⟩ := wanted?_eq_some_iff.mp made
    rw [Rule.ofSettings?_name made, sectionRule?_of_mem distinct listed]
    exact ⟨beyond, made, entry.2, section?_of_mem distinct listed, enabled⟩
  next =>
    intro asked
    obtain ⟨beyond, made, options, present, enabled⟩ := asked
    have listed := (section?_eq_some_iff distinct).mp present
    rw [sectionRule?_of_mem distinct listed] at made
    exact ⟨(rule.name, options), (mem_beyond _).mpr ⟨listed, beyond⟩,
      wanted?_eq_some_iff.mpr ⟨made, enabled⟩⟩

theorem selectRules_congr (distinct : settings.SectionsDistinct) {other : Settings}
    (preset : other.preset = settings.preset) (same : other.rules.Perm settings.rules) :
    other.selectRules = settings.selectRules := by
  have otherDistinct : other.SectionsDistinct := (same.map _).nodup_iff.mpr distinct
  have sections (name : String) : other.section? name = settings.section? name := by
    apply Option.ext
    intro options
    rw [section?_eq_some_iff otherDistinct, section?_eq_some_iff distinct, same.mem_iff]
  have rebuilt : other.rebuild = settings.rebuild := by
    funext base
    rw [rebuild_eq, rebuild_eq, sectionRule?, sections, sectionRule?]
  unfold selectRules
  simp only [rebuildAll_eq_mapM, rebuilt, sortedSections_congr distinct same, chosenPreset, preset]

theorem selectRules_configured {settings : Settings} (distinct : settings.SectionsDistinct) :
    ((∃ rules, settings.selectRules.value = .ok rules) ↔
      (∀ text, settings.preset = some text →
        ∃ preset : Preset, preset.name = Preset.normalize text) ∧
      ∀ rule ∈ Rule.all, ∃ made, settings.sectionRule? rule.name = .ok made) ∧
    (∀ e, settings.selectRules.value = .error e ↔ settings.chosenPreset = .error e ∨
      ∃ preset further, settings.chosenPreset = .ok preset ∧ settings.ListsBeyond preset further ∧
        FirstFailure settings.sectionRule? (preset.rules.map Rule.name ++ further) e) ∧
    (∀ rules, settings.selectRules.value = .ok rules → (rules.map Rule.name).Nodup ∧
      ∃ preset chosen further, settings.chosenPreset = .ok preset ∧ rules = chosen ++ further ∧
        List.Forall₂ (fun base rule => rule.name = base.name ∧
          (settings.section? base.name = none ∧ rule = base ∨
            settings.sectionRule? base.name = .ok (some rule))) preset.rules chosen ∧
        (further.map Rule.name).Pairwise (· < ·) ∧
        ∀ rule, rule ∈ further ↔ rule.name ∉ preset.rules.map Rule.name ∧
          settings.sectionRule? rule.name = .ok (some rule) ∧
          ∃ options, settings.section? rule.name = some options ∧ options.enabled = some true) ∧
    ∀ other : Settings, other.preset = settings.preset → other.rules.Perm settings.rules →
      other.selectRules = settings.selectRules := by
  refine ⟨?_, fun e => ?_, fun rules selected => ?_, fun other => selectRules_congr distinct⟩
  next => rw [exists_selectRules_ok_iff distinct, exists_chosenPreset_iff]
  next =>
    cases named : settings.chosenPreset with
    | error other => simp [selectRules_value distinct, named, Except.bind]
    | ok preset =>
      have listed := sectionsBeyond_lists distinct preset
      constructor
      next =>
        intro failed
        exact .inr ⟨preset, _, rfl, listed,
          (selectRules_eq_error_iff distinct named listed).mp failed⟩
      next =>
        rintro (⟨⟨⟩⟩ | ⟨_, further, ⟨⟩, also, failure⟩)
        exact (selectRules_eq_error_iff distinct named also).mpr failure
  next =>
    obtain ⟨preset, chosen, values, named, rebuilt, read, rfl⟩ :=
      selectRules_parts distinct selected
    have chosenNames : chosen.map Rule.name = preset.rules.map Rule.name := by
      apply rebuildAll_names
      rw [rebuildAll_eq_mapM, mapM_eq_ok_iff]
      exact rebuilt
    have increasing : (values.reduceOption.map Rule.name).Pairwise (· < ·) :=
      (sectionsBeyond_lists distinct preset).increasing.sublist (added_names read)
    have added (rule : Rule) :=
      (mem_added read).trans (@exists_wanted?_iff _ _ distinct preset rule)
    refine ⟨?_, preset, chosen, values.reduceOption, named, rfl, ?_, increasing, added⟩
    · rw [List.map_append, chosenNames]
      apply (preset_names_nodup preset).append (increasing.imp ne_of_lt)
      intro name inPreset inAdded
      obtain ⟨rule, member, rfl⟩ := List.mem_map.mp inAdded
      exact ((added rule).mp member).1 inPreset
    · exact rebuilt.imp fun _ _ made => ⟨rebuild_name made, rebuild_eq_ok_iff.mp made⟩

end Configured

-- A section that switches a rule on, one that is only read, and one that no rule answers to.
private def minimalSettings (sections : List (String × RuleSettings)) : Settings :=
  ⟨some " Minimal", .standard, sections⟩

private def mixedSections : List (String × RuleSettings) :=
  [(CommentPlacement.name, .empty), (TypeDoc.name, ⟨some true, none, []⟩), ("zzz", .empty)]

theorem selectRules_configured_mixed :
    (minimalSettings mixedSections).SectionsDistinct ∧
      ∃ rules, (minimalSettings mixedSections).selectRules.value = .ok rules ∧
        rules.map Rule.name = [MethodDoc.name, TypeDoc.name] ∧ (rules.map Rule.name).Nodup ∧
        (minimalSettings mixedSections.reverse).selectRules.value = .ok rules := by
  have distinct : (minimalSettings mixedSections).SectionsDistinct := by
    change [CommentPlacement.name, TypeDoc.name, "zzz"].Nodup
    decide
  have sorted : (minimalSettings mixedSections).sortedSections = mixedSections := by
    apply List.mergeSort_of_pairwise
    simp only [minimalSettings, mixedSections, List.pairwise_cons]
    decide
  have selected : (minimalSettings mixedSections).selectRules.value =
      .ok [.methodDoc .standard, .typeDoc .standard] := by
    rw [selectRules, sorted]
    rfl
  obtain ⟨_, _, found, reordered⟩ := selectRules_configured distinct
  refine ⟨distinct, _, selected, rfl, (found _ selected).1, ?_⟩
  rw [reordered (minimalSettings mixedSections.reverse) rfl (List.reverse_perm _), selected]

end Settings

end DocAudit
