import DocAudit.RuleSelection
import DocAudit.Pattern.Parser

set_option autoImplicit false

namespace DocAudit

namespace Rule

section Sections

variable [Pattern.Reader]

theorem ofSettings?_name {name : String} {options : RuleSettings} {rule : Rule}
    (made : ofSettings? name options = .ok (some rule)) : rule.name = name := by
  unfold ofSettings? at made
  split at made
  next same =>
    cases found : CommentPlacement.ofSettings options <;> rw [found] at made <;> cases made
    exact same.symm
  next =>
    split at made
    next same =>
      cases found : MethodDoc.ofSettings options <;> rw [found] at made <;> cases made
      exact same.symm
    next =>
      split at made
      next same =>
        cases found : TypeDoc.ofSettings options <;> rw [found] at made <;> cases made
        exact same.symm
      next => cases made

-- The name of a rule is a known one.
theorem ofSettings?_ne_none (rule : Rule) (options : RuleSettings) :
    ofSettings? rule.name options ≠ .ok none := by
  cases rule with
  | commentPlacement rule =>
    change (CommentPlacement.ofSettings options).map _ ≠ _
    cases CommentPlacement.ofSettings options <;> nofun
  | methodDoc rule =>
    change (MethodDoc.ofSettings options).map _ ≠ _
    cases MethodDoc.ofSettings options <;> nofun
  | typeDoc rule =>
    change (TypeDoc.ofSettings options).map _ ≠ _
    cases TypeDoc.ofSettings options <;> nofun

end Sections

def Agrees (rule other : Rule) : Prop :=
  ∀ file unit, rule.check file unit = other.check file unit

end Rule

namespace Settings

variable {settings : Settings} {base rule : Rule} {rules chosen : List Rule}

section Rebuilt

variable [Pattern.Reader]

theorem rebuild_absent (absent : settings.section? base.name = none) :
    settings.rebuild base = .ok base := by
  simp only [rebuild, absent]

theorem rebuild_present {options : RuleSettings}
    (present : settings.section? base.name = some options) :
    settings.rebuild base = .ok rule ↔ Rule.ofSettings? base.name options = .ok (some rule) := by
  simp only [rebuild, present]
  cases made : Rule.ofSettings? base.name options with
  | error e => simp [Except.map]
  | ok found =>
    cases found with
    | none => exact absurd made (base.ofSettings?_ne_none options)
    | some other => simp [Except.map]

theorem mem_rebuildAll (rebuilt : settings.rebuildAll rules = .ok chosen) (member : rule ∈ chosen) :
    ∃ base ∈ rules, settings.rebuild base = .ok rule := by
  induction rules generalizing chosen with
  | nil =>
    cases rebuilt
    cases member
  | cons base rest ih =>
    unfold rebuildAll at rebuilt
    cases here : settings.rebuild base with
    | error e => rw [here] at rebuilt; cases rebuilt
    | ok first =>
      cases there : settings.rebuildAll rest with
      | error e => rw [here, there] at rebuilt; cases rebuilt
      | ok later =>
        rw [here, there] at rebuilt
        cases rebuilt
        rcases List.mem_cons.mp member with rfl | member
        next => exact ⟨base, List.mem_cons_self, here⟩
        next =>
          obtain ⟨other, inRest, made⟩ := ih there member
          exact ⟨other, List.mem_cons_of_mem _ inRest, made⟩

theorem mem_addEnabled {sections : List (String × RuleSettings)}
    (added : (addEnabled chosen sections).value = .ok rules) (member : rule ∈ rules) :
    rule ∈ chosen ∨ ∃ entry ∈ sections, Rule.ofSettings? entry.1 entry.2 = .ok (some rule) := by
  induction sections generalizing chosen with
  | nil =>
    cases added
    exact .inl member
  | cons entry rest ih =>
    obtain ⟨name, options⟩ := entry
    -- Whatever becomes of the first section, the others only add rules of their own.
    have later {chosen' : List Rule} (added : (addEnabled chosen' rest).value = .ok rules) :
        rule ∈ chosen' ∨ ∃ entry ∈ (name, options) :: rest,
          Rule.ofSettings? entry.1 entry.2 = .ok (some rule) :=
      (ih added).imp_right fun ⟨entry, inRest, made⟩ => ⟨entry, List.mem_cons_of_mem _ inRest, made⟩
    unfold addEnabled at added
    split at added
    next => exact later added
    next =>
      split at added
      next => cases added
      next => exact later added
      next other made =>
        rcases later added with found | found
        next =>
          split at found
          next =>
            rcases List.mem_append.mp found with found | found
            · exact .inl found
            · obtain rfl := List.mem_singleton.mp found
              exact .inr ⟨(name, options), List.mem_cons_self, made⟩
          next => exact .inl found
        next => exact .inr found

end Rebuilt

def SectionsDistinct (settings : Settings) : Prop := (settings.rules.map (·.1)).Nodup

theorem section?_of_mem (distinct : settings.SectionsDistinct) {entry : String × RuleSettings}
    (member : entry ∈ settings.rules) : settings.section? entry.1 = some entry.2 := by
  unfold SectionsDistinct at distinct
  unfold section?
  generalize settings.rules = sections at distinct member
  induction sections with
  | nil => cases member
  | cons first rest ih =>
    obtain ⟨fresh, distinct⟩ := List.nodup_cons.mp distinct
    rcases List.mem_cons.mp member with rfl | member
    next => simp
    next =>
      have other : first.1 ≠ entry.1 := by
        intro same
        exact fresh (List.mem_map.mpr ⟨entry, member, same.symm⟩)
      simpa [other] using ih distinct member

-- Where the rules of a run come from: a section, or the preset where there is no section.
theorem mem_selectRules [Pattern.Reader] (distinct : settings.SectionsDistinct)
    (selected : settings.selectRules.value = .ok rules) (member : rule ∈ rules) :
    ∃ preset, settings.chosenPreset = .ok preset ∧
      ((∃ options, settings.section? rule.name = some options ∧
          Rule.ofSettings? rule.name options = .ok (some rule)) ∨
        (settings.section? rule.name = none ∧ rule ∈ preset.rules)) := by
  unfold selectRules at selected
  cases named : settings.chosenPreset with
  | error e => rw [named] at selected; cases selected
  | ok preset =>
    refine ⟨preset, rfl, ?_⟩
    simp only [named, Except.bind] at selected
    cases rebuilt : settings.rebuildAll preset.rules with
    | error e => rw [rebuilt] at selected; cases selected
    | ok chosen =>
      rw [rebuilt] at selected
      rcases mem_addEnabled selected member with inPreset | ⟨entry, inSections, made⟩
      next =>
        obtain ⟨base, inRules, made⟩ := mem_rebuildAll rebuilt inPreset
        cases present : settings.section? base.name with
        | none =>
          cases (rebuild_absent present).symm.trans made
          exact .inr ⟨present, inRules⟩
        | some options =>
          have made := (rebuild_present present).mp made
          rw [← Rule.ofSettings?_name made] at present made
          exact .inl ⟨options, present, made⟩
      next =>
        have inRules : entry ∈ settings.rules := (List.mergeSort_perm ..).mem_iff.mp inSections
        have present := section?_of_mem distinct inRules
        rw [← Rule.ofSettings?_name made] at present made
        exact .inl ⟨entry.2, present, made⟩

/-- The preset gives a rule options of its own, and no section of the settings replaces them. -/
def PresetTightens (settings : Settings) (name : String) : Prop :=
  settings.chosenPreset = .ok .strict ∧ name = TypeDoc.name ∧ settings.section? name = none

end Settings

namespace RuleFilter

def strictTypes : TypeDoc :=
  (TypeDoc.standard.withRequiredAuthor true).withRequiredVersion true

def standardOf : Rule → Rule
  | .commentPlacement _ => .commentPlacement .standard
  | .methodDoc _ => .methodDoc .standard
  | .typeDoc _ => .typeDoc .standard

theorem standardOf_name (rule : Rule) : (standardOf rule).name = rule.name := by
  cases rule <;> rfl

theorem names_name (rule : Rule) : names rule.name = [rule.name] := by
  cases rule with
  | commentPlacement rule => change names CommentPlacement.name = [CommentPlacement.name]; decide
  | methodDoc rule => change names MethodDoc.name = [MethodDoc.name]; decide
  | typeDoc rule => change names TypeDoc.name = [TypeDoc.name]; decide

theorem find?_name (rule : Rule) : find? rule.name = some (standardOf rule) := by
  cases rule with
  | commentPlacement rule => change find? CommentPlacement.name = _; rfl
  | methodDoc rule => change find? MethodDoc.name = _; rfl
  | typeDoc rule => change find? TypeDoc.name = _; rfl

theorem select_name [Pattern.Reader] {settings : Settings} {rule rebuilt : Rule}
    (made : settings.rebuild (standardOf rule) = .ok rebuilt) :
    (select settings (names rule.name)).value = .ok [rebuilt] := by
  simp only [names_name, select, find?_name, made]
  rfl

-- A preset only departs from the standard options of the rule on types, and only the strict one.
theorem preset_rule {preset : Preset} {rule : Rule} (member : rule ∈ preset.rules) :
    (rule = standardOf rule ∧ (preset = .strict → rule.name ≠ TypeDoc.name)) ∨
      (preset = .strict ∧ rule = .typeDoc strictTypes) := by
  cases preset with
  | recommended =>
    simp only [Preset.rules, List.mem_cons, List.not_mem_nil, or_false] at member
    refine .inl ⟨?_, nofun⟩
    rcases member with rfl | rfl | rfl <;> rfl
  | strict =>
    simp only [Preset.rules, List.mem_cons, List.not_mem_nil, or_false] at member
    rcases member with rfl | rfl | rfl
    · exact .inl ⟨rfl, fun _ => show CommentPlacement.name ≠ TypeDoc.name by decide⟩
    · exact .inl ⟨rfl, fun _ => show MethodDoc.name ≠ TypeDoc.name by decide⟩
    · exact .inr ⟨rfl, rfl⟩
  | minimal =>
    simp only [Preset.rules, List.mem_singleton] at member
    exact .inl ⟨member ▸ rfl, nofun⟩

-- A class whose comment names no author.
private def authorless : CompilationUnit where
  types := [⟨.classType, "A", 2, 0, 2, .none, [], none, []⟩]
  comments := [.ofText .block 1 0 "/** Text. */"]
  lineCount := 2

theorem strictTypes_disagrees : ¬ (Rule.typeDoc .standard).Agrees (.typeDoc strictTypes) := by
  intro agrees
  have same := agrees ⟨.ofString "A.java", []⟩ authorless
  have same := congrArg List.length (Except.ok.inj same)
  simp only [List.length_map] at same
  have plain : (TypeDoc.standard.notes authorless []).length = 0 := by decide +kernel
  have strict : (strictTypes.notes authorless []).length = 2 := by decide +kernel
  cases plain.symm.trans (same.trans strict)

theorem select_rule [Pattern.Reader] {settings : Settings} {rules : List Rule} {rule : Rule}
    (distinct : settings.SectionsDistinct) (selected : settings.selectRules.value = .ok rules)
    (member : rule ∈ rules) :
    ∃ filtered, (select settings (names rule.name)).value = .ok [filtered] ∧
      ((filtered = rule ∧ ¬ settings.PresetTightens rule.name) ∨
        (filtered = .typeDoc .standard ∧ rule = .typeDoc strictTypes ∧
          settings.PresetTightens rule.name)) := by
  obtain ⟨preset, named, ⟨options, present, made⟩ | ⟨absent, inPreset⟩⟩ :=
    settings.mem_selectRules distinct selected member
  next =>
    have rebuilt : settings.rebuild (standardOf rule) = .ok rule := by
      rw [← standardOf_name rule] at present made
      exact (Settings.rebuild_present present).mpr made
    refine ⟨rule, select_name rebuilt, .inl ⟨rfl, ?_⟩⟩
    rintro ⟨_, _, absent⟩
    cases present.symm.trans absent
  next =>
    have rebuilt : settings.rebuild (standardOf rule) = .ok (standardOf rule) := by
      rw [← standardOf_name rule] at absent
      exact Settings.rebuild_absent absent
    refine ⟨standardOf rule, select_name rebuilt, ?_⟩
    rcases preset_rule inPreset with ⟨standard, other⟩ | ⟨rfl, rfl⟩
    next =>
      refine .inl ⟨standard.symm, ?_⟩
      rintro ⟨strict, isTypes, _⟩
      exact other (Except.ok.inj (named.symm.trans strict)) isTypes
    next => exact .inr ⟨rfl, rfl, named, rfl, absent⟩

theorem select_agrees_iff [Pattern.Reader] {settings : Settings} {rules : List Rule} {rule : Rule}
    (distinct : settings.SectionsDistinct) (selected : settings.selectRules.value = .ok rules)
    (member : rule ∈ rules) :
    ∃ filtered, (select settings (names rule.name)).value = .ok [filtered] ∧
      filtered.name = rule.name ∧
      (filtered.Agrees rule ↔ ¬ settings.PresetTightens rule.name) := by
  obtain ⟨filtered, found, ⟨rfl, kept⟩ | ⟨rfl, rfl, tightened⟩⟩ :=
    select_rule distinct selected member
  next => exact ⟨filtered, found, rfl, fun _ => kept, fun _ _ _ => rfl⟩
  next =>
    refine ⟨.typeDoc .standard, found, rfl, ?_⟩
    exact ⟨fun agrees => absurd agrees strictTypes_disagrees, fun kept => absurd tightened kept⟩

private def presetSettings (preset : String) (sections : List (String × RuleSettings)) : Settings :=
  ⟨some preset, .standard, sections⟩

-- With a section of its own the rule on types is the same either way, whatever the preset.
theorem select_agrees_sectioned :
    ∃ rules rule filtered,
      (presetSettings "strict" [(TypeDoc.name, .empty)]).SectionsDistinct ∧
      (presetSettings "strict" [(TypeDoc.name, .empty)]).selectRules.value = .ok rules ∧
      rule ∈ rules ∧ rule.name = TypeDoc.name ∧
      (select (presetSettings "strict" [(TypeDoc.name, .empty)]) (names rule.name)).value =
        .ok [filtered] ∧
      filtered.Agrees rule := by
  have distinct : (presetSettings "strict" [(TypeDoc.name, .empty)]).SectionsDistinct := by
    simp [Settings.SectionsDistinct, presetSettings]
  have selected : (presetSettings "strict" [(TypeDoc.name, .empty)]).selectRules.value =
      .ok [.commentPlacement .standard, .methodDoc .standard, .typeDoc .standard] := by
    unfold Settings.selectRules Settings.sortedSections
    rw [presetSettings, List.mergeSort_singleton]
    rfl
  have member : Rule.typeDoc .standard ∈
      [Rule.commentPlacement .standard, .methodDoc .standard, .typeDoc .standard] := by simp
  obtain ⟨filtered, found, _, agrees⟩ := select_agrees_iff distinct selected member
  refine ⟨_, _, filtered, distinct, selected, member, rfl, found, agrees.mpr ?_⟩
  rintro ⟨_, _, absent⟩
  cases absent

theorem select_strict_disagrees :
    ∃ rules rule filtered, (presetSettings "strict" []).selectRules.value = .ok rules ∧
      rule ∈ rules ∧
      (select (presetSettings "strict" []) (names rule.name)).value = .ok [filtered] ∧
      filtered.name = rule.name ∧ ¬ filtered.Agrees rule := by
  have selected : (presetSettings "strict" []).selectRules.value = .ok Preset.strict.rules := by
    unfold Settings.selectRules Settings.sortedSections
    rw [presetSettings, List.mergeSort_nil]
    rfl
  refine ⟨_, .typeDoc strictTypes, .typeDoc .standard, selected, ?_, ?_, rfl, strictTypes_disagrees⟩
  · simp [Preset.rules, strictTypes]
  · exact select_name (Settings.rebuild_absent rfl)

end RuleFilter

end DocAudit
