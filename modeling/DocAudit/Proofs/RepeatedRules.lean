import DocAudit.Proofs.RuleContributions
import DocAudit.Proofs.RuleRestriction

set_option autoImplicit false

namespace DocAudit

theorem Settings.rebuild_name [Pattern.Reader] {settings : Settings} {base rule : Rule}
    (made : settings.rebuild base = .ok rule) : rule.name = base.name := by
  cases present : settings.section? base.name with
  | none =>
    cases (rebuild_absent present).symm.trans made
    rfl
  | some options => exact Rule.ofSettings?_name ((rebuild_present present).mp made)

namespace RuleFilter

def Denotes (item : String) (rule : Rule) : Prop :=
  item = rule.name ∨ lowercase item = lowercase rule.code

instance (item : String) (rule : Rule) : Decidable (Denotes item rule) :=
  inferInstanceAs (Decidable (_ ∨ _))

theorem standardOf_congr {rule other : Rule} (same : rule.name = other.name) :
    standardOf rule = standardOf other := by
  have found := find?_name rule
  rw [same, find?_name other] at found
  exact (Option.some.inj found).symm

-- No name can be taken for a code.
theorem name_ne_code (rule other : Rule) : lowercase rule.name ≠ lowercase other.code := by
  have apart : ∀ name ∈ [CommentPlacement.name, MethodDoc.name, TypeDoc.name],
      ∀ code ∈ [CommentPlacement.code, MethodDoc.code, TypeDoc.code],
        lowercase name ≠ lowercase code := by decide
  have named : rule.name ∈ [CommentPlacement.name, MethodDoc.name, TypeDoc.name] := by
    cases rule <;> simp [Rule.name, Rule.reporter, CommentPlacement.reporter, MethodDoc.reporter,
      TypeDoc.reporter]
  have coded : other.code ∈ [CommentPlacement.code, MethodDoc.code, TypeDoc.code] := by
    cases other <;> simp [Rule.code, Rule.reporter, CommentPlacement.reporter, MethodDoc.reporter,
      TypeDoc.reporter]
  exact apart _ named _ coded

theorem find?_code {item : String} {rule : Rule} (same : lowercase item = lowercase rule.code) :
    find? item = some (standardOf rule) := by
  have unnamed (base : Rule) : (base.name == item) = false := by
    rw [beq_eq_false_iff_ne]
    rintro rfl
    exact name_ne_code base rule same
  simp only [find?, unnamed, same, Bool.false_or]
  cases rule with
  | commentPlacement rule =>
    change Rule.all.find? (fun base => lowercase base.code == lowercase CommentPlacement.code) = _
    rfl
  | methodDoc rule =>
    change Rule.all.find? (fun base => lowercase base.code == lowercase MethodDoc.code) = _
    rfl
  | typeDoc rule =>
    change Rule.all.find? (fun base => lowercase base.code == lowercase TypeDoc.code) = _
    rfl

theorem find?_eq_some_iff {item : String} {rule : Rule} :
    find? item = some (standardOf rule) ↔ Denotes item rule := by
  constructor
  next =>
    intro found
    have matched := List.find?_some found
    simp only [Bool.or_eq_true, beq_iff_eq, standardOf_name] at matched
    have coded : (standardOf rule).code = rule.code := by cases rule <;> rfl
    rw [coded] at matched
    exact matched.imp Eq.symm Eq.symm
  next =>
    rintro (rfl | same)
    · exact find?_name rule
    · exact find?_code same

theorem find?_standard {item : String} {base : Rule} (found : find? item = some base) :
    standardOf base = base := by
  have known : base ∈ Rule.all := List.mem_of_find?_eq_some found
  simp only [Rule.all, Preset.rules, List.mem_cons, List.not_mem_nil, or_false] at known
  rcases known with rfl | rfl | rfl <;> rfl

section Selection

variable [Pattern.Reader] {settings : Settings} {items : List String} {rules : List Rule}

theorem select_cons {item : String}
    (selected : (select settings (item :: items)).value = .ok rules) :
    (find? item = none ∧ (select settings items).value = .ok rules) ∨
      ∃ base first rest, find? item = some base ∧ settings.rebuild base = .ok first ∧
        (select settings items).value = .ok rest ∧ rules = first :: rest := by
  unfold select at selected
  split at selected
  next unknown => exact .inl ⟨unknown, selected⟩
  next base found =>
    split at selected
    next => cases selected
    next first made =>
      simp only [Warned.map] at selected
      cases later : (select settings items).value with
      | error e => rw [later] at selected; cases selected
      | ok rest =>
        rw [later] at selected
        cases selected
        exact .inr ⟨base, first, rest, found, made, rfl, rfl⟩

theorem select_names (selected : (select settings items).value = .ok rules) :
    rules.map Rule.name = (items.filterMap find?).map Rule.name := by
  induction items generalizing rules with
  | nil =>
    cases selected
    rfl
  | cons item items ih =>
    obtain ⟨unknown, later⟩ | ⟨base, first, rest, found, made, later, rfl⟩ := select_cons selected
    · rw [List.filterMap_cons_none unknown, ih later]
    · rw [List.filterMap_cons_some found, List.map_cons, List.map_cons, ih later,
        Settings.rebuild_name made]

theorem select_made (selected : (select settings items).value = .ok rules) {rule : Rule}
    (member : rule ∈ rules) : settings.rebuild (standardOf rule) = .ok rule := by
  induction items generalizing rules with
  | nil =>
    cases selected
    cases member
  | cons item items ih =>
    obtain ⟨_, later⟩ | ⟨base, first, rest, found, made, later, rfl⟩ := select_cons selected
    next => exact ih later member
    next =>
      rcases List.mem_cons.mp member with rfl | member
      · rw [standardOf_congr (Settings.rebuild_name made), find?_standard found, made]
      · exact ih later member

-- All that stands for one rule gives the same rule, set up in the same way.
theorem select_copies (selected : (select settings items).value = .ok rules) {rule : Rule}
    (made : settings.rebuild (standardOf rule) = .ok rule) :
    rules.filter (·.name == rule.name) =
      List.replicate (items.countP fun item => Denotes item rule) rule := by
  induction items generalizing rules with
  | nil =>
    cases selected
    rfl
  | cons item items ih =>
    obtain ⟨unknown, later⟩ | ⟨base, first, rest, found, built, later, rfl⟩ := select_cons selected
    next =>
      have other : ¬ Denotes item rule := by
        rw [← find?_eq_some_iff, unknown]
        nofun
      rw [ih later, List.countP_cons_of_neg (by simpa using other)]
    next =>
      by_cases same : first.name = rule.name
      next =>
        have standard : base = standardOf rule := by
          rw [← find?_standard found,
            standardOf_congr ((Settings.rebuild_name built).symm.trans same)]
        subst standard
        cases built.symm.trans made
        rw [List.filter_cons_of_pos (by simp), ih later,
          List.countP_cons_of_pos (by simpa using find?_eq_some_iff.mp found), List.replicate_succ]
      next =>
        have other : ¬ Denotes item rule := by
          rw [← find?_eq_some_iff, found]
          rintro ⟨⟩
          exact same ((Settings.rebuild_name built).trans (standardOf_name rule))
        rw [List.filter_cons_of_neg (by simpa using same), ih later,
          List.countP_cons_of_neg (by simpa using other)]

end Selection

-- The findings of a rule among those of several are what its copies contribute.
theorem findings_named (settings : Settings) (rules : List Rule) (file : SourceFile)
    (unit : CompilationUnit) (name : String) :
    (settings.runRules rules file unit).findings.filter (·.rule == name) =
      (rules.filter (·.name == name)).flatMap fun rule =>
        settings.contribution file unit rule.asCheck := by
  rw [Settings.runRules_findings, List.flatMap_map]
  induction rules with
  | nil => rfl
  | cons rule rest ih =>
    rw [List.flatMap_cons, List.filter_append, ih]
    by_cases same : rule.name = name
    next =>
      have all : (settings.contribution file unit rule.asCheck).filter (·.rule == name) =
          settings.contribution file unit rule.asCheck :=
        List.filter_eq_self.mpr fun finding member => by
          simpa [same] using Settings.contribution_rule member
      rw [all, List.filter_cons_of_pos (by simpa using same), List.flatMap_cons]
    next =>
      have none : (settings.contribution file unit rule.asCheck).filter (·.rule == name) = [] :=
        List.filter_eq_nil_iff.mpr fun finding member => by
          simpa [Settings.contribution_rule member] using same
      rw [none, List.filter_cons_of_neg (by simpa using same), List.nil_append]

theorem select_nodup_iff [Pattern.Reader] {settings : Settings} {filter : String}
    {rules : List Rule}
    (selected : (select settings (names filter)).value = .ok rules) :
    ((rules.map Rule.name).Nodup ↔
      (names filter).Pairwise fun first second =>
        ¬ ∃ rule, Denotes first rule ∧ Denotes second rule) ∧
    ∀ rule ∈ rules, ∀ file unit,
      (settings.runRules rules file unit).findings.filter (·.rule == rule.name) =
        (List.replicate ((names filter).countP fun item => Denotes item rule)
          (settings.contribution file unit rule.asCheck)).flatten := by
  constructor
  next =>
    rw [select_names selected, List.Nodup, List.pairwise_map, List.pairwise_filterMap]
    refine List.Pairwise.iff fun first second => ?_
    constructor
    next =>
      rintro apart ⟨rule, here, there⟩
      exact apart _ (find?_eq_some_iff.mpr here) _ (find?_eq_some_iff.mpr there) rfl
    next =>
      intro apart base found other foundOther same
      refine apart ⟨base, find?_eq_some_iff.mp ?_, find?_eq_some_iff.mp ?_⟩
      · rw [found, find?_standard found]
      · rw [foundOther, standardOf_congr same, find?_standard foundOther]
  next =>
    intro rule member file unit
    rw [findings_named, select_copies selected (select_made selected member),
      List.flatMap_replicate]

-- Names and codes of different rules, with an item in between that stands for none.
theorem select_nodup_mixed :
    ∃ rules, (select .empty (names "javadoc-type, ,no-such-rule,dl001")).value = .ok rules ∧
      (rules.map Rule.name).Nodup ∧
      (names "javadoc-type, ,no-such-rule,dl001").Pairwise fun first second =>
        ¬ ∃ rule, Denotes first rule ∧ Denotes second rule := by
  have listed : names "javadoc-type, ,no-such-rule,dl001" =
      ["javadoc-type", "no-such-rule", "dl001"] := by decide
  have selected : (select .empty (names "javadoc-type, ,no-such-rule,dl001")).value =
      .ok [.typeDoc .standard, .commentPlacement .standard] := by
    rw [listed]
    rfl
  have distinct : ([Rule.typeDoc .standard, .commentPlacement .standard].map Rule.name).Nodup := by
    change [TypeDoc.name, CommentPlacement.name].Nodup
    decide
  exact ⟨_, selected, distinct, (select_nodup_iff selected).1.mp distinct⟩

-- The same rule by its name and by its code: it is taken twice.
theorem select_repeated :
    ∃ rules, (select .empty (names "javadoc-type, DL003")).value = .ok rules ∧
      ¬ (rules.map Rule.name).Nodup := by
  have listed : names "javadoc-type, DL003" = ["javadoc-type", "DL003"] := by decide
  refine ⟨[.typeDoc .standard, .typeDoc .standard], ?_, ?_⟩
  · rw [listed]
    rfl
  · change ¬ [TypeDoc.name, TypeDoc.name].Nodup
    decide

end RuleFilter

end DocAudit
