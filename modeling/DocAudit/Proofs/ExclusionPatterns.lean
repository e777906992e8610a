import DocAudit.Audit
import DocAudit.Glob
import DocAudit.Java.Grammar
import DocAudit.SettingsFile

set_option autoImplicit false

namespace DocAudit

theorem Settings.search_standard {table : Toml.Table} {settings : Settings}
    (read : ofTable? table = some settings) (absent : table.get? "analyzer" = none) :
    settings.search = .standard := by
  cases preset : table.get? "preset" <;>
    simp only [ofTable?, absent, preset, Option.elim_none, Option.bind_eq_bind, Option.bind_some,
      Option.bind_eq_some_iff, Option.pure_def, Option.some.injEq] at read
  · obtain ⟨rules, _, rfl⟩ := read
    rfl
  · obtain ⟨text, _, rules, _, rfl⟩ := read
    rfl

namespace AuditRequest

def excluding (request : AuditRequest) (pattern : String) : AuditRequest :=
  { request with exclude := request.exclude ++ [pattern] }

def NamesPatterns (request : AuditRequest) : Prop :=
  request.exclude ≠ [] ∨
    ∃ settings, request.settings = some settings ∧ settings.search.exclude ≠ []

def settingsExclude (request : AuditRequest) : List String :=
  (request.settings.map (·.search.exclude)).getD []

theorem settingsExclude_eq_nil_iff (request : AuditRequest) :
    request.settingsExclude = [] ↔
      ¬ ∃ settings, request.settings = some settings ∧ settings.search.exclude ≠ [] := by
  cases held : request.settings with
  | none => simp [settingsExclude, held]
  | some settings => simp [settingsExclude, held]

variable {request : AuditRequest}

theorem exclusions_named (named : request.NamesPatterns) :
    request.exclusions = request.exclude ++ request.settingsExclude := by
  refine if_neg fun empty => ?_
  obtain ⟨own, fromSettings⟩ := List.append_eq_nil_iff.mp (List.isEmpty_iff.mp empty)
  rcases named with asked | asked
  · exact asked own
  · exact (request.settingsExclude_eq_nil_iff.mp fromSettings) asked

theorem exclusions_unnamed (unnamed : ¬ request.NamesPatterns) :
    request.exclude = [] ∧ request.settingsExclude = [] ∧
      request.exclusions = Exclusion.standard := by
  obtain ⟨own, fromSettings⟩ := not_or.mp unnamed
  have own := Classical.not_not.mp own
  have fromSettings := request.settingsExclude_eq_nil_iff.mpr fromSettings
  refine ⟨own, fromSettings, if_pos ?_⟩
  change (request.exclude ++ request.settingsExclude).isEmpty = true
  rw [own, fromSettings]
  rfl

theorem excluding_exclusions (pattern : String) :
    (request.excluding pattern).exclusions =
      request.exclude ++ [pattern] ++ request.settingsExclude :=
  exclusions_named (.inl (by simp [excluding]))

theorem prepare_exclude {workingDirectory : Path} {audit : Audit}
    (prepared : request.prepare workingDirectory = .ok audit) :
    audit.exclude = request.exclusions := by
  unfold prepare at prepared
  split at prepared
  next => cases prepared
  next => rw [← Except.ok.inj prepared]

theorem isExcluded_excluding [GlobReader] (request : AuditRequest) (pattern : String)
    (workingDirectory path : Path) {audit wider : Audit}
    (prepared : request.prepare workingDirectory = .ok audit)
    (preparedWider : (request.excluding pattern).prepare workingDirectory = .ok wider) :
    (request.NamesPatterns →
      wider.isExcluded path = (audit.isExcluded path || Exclusion.excludes pattern path)) ∧
    (¬ request.NamesPatterns →
      audit.isExcluded path = Exclusion.anyExcludes Exclusion.standard path ∧
        wider.isExcluded path = Exclusion.excludes pattern path) ∧
    ∀ settings table, request.settings = some settings → Settings.ofTable? table = some settings →
      table.get? "analyzer" = none → request.NamesPatterns := by
  have single : Exclusion.anyExcludes [pattern] path = Exclusion.excludes pattern path := by
    simp [Exclusion.anyExcludes]
  simp only [Audit.isExcluded, prepare_exclude prepared, prepare_exclude preparedWider,
    excluding_exclusions]
  refine ⟨fun named => ?_, fun unnamed => ?_, fun settings table held read absent => ?_⟩
  next =>
    rw [exclusions_named named, Exclusion.anyExcludes_append, Exclusion.anyExcludes_append,
      Exclusion.anyExcludes_append, single, Bool.or_right_comm]
  next =>
    obtain ⟨own, fromSettings, standard⟩ := exclusions_unnamed unnamed
    rw [standard, own, fromSettings, List.nil_append, List.append_nil, single]
    exact ⟨rfl, rfl⟩
  next =>
    refine .inr ⟨settings, held, ?_⟩
    rw [Settings.search_standard read absent]
    decide

private def bareRequest (exclude : List String) : AuditRequest :=
  ⟨some (.ofString "/p"), [], some .java, exclude, none, none⟩

theorem isExcluded_excluding_gen : ∃ audit wider,
    (bareRequest ["gen"]).prepare ⟨[]⟩ = .ok audit ∧
      ((bareRequest ["gen"]).excluding "out").prepare ⟨[]⟩ = .ok wider ∧
      wider.isExcluded (.ofString "/p/gen/A.java") =
        (audit.isExcluded (.ofString "/p/gen/A.java") ||
          Exclusion.excludes "out" (.ofString "/p/gen/A.java")) :=
  ⟨_, _, rfl, rfl,
    (isExcluded_excluding (bareRequest ["gen"]) "out" ⟨[]⟩ _ rfl rfl).1 (.inl (by decide))⟩

-- With nothing asked for, the build directory is left out; one pattern for another place lets
-- it in.
theorem isExcluded_excluding_standard : ∃ audit wider,
    (bareRequest []).prepare ⟨[]⟩ = .ok audit ∧
      ((bareRequest []).excluding "out").prepare ⟨[]⟩ = .ok wider ∧
      audit.isExcluded (.ofString "/p/build/A.java") = true ∧
      wider.isExcluded (.ofString "/p/build/A.java") = false := by
  refine ⟨_, _, rfl, rfl, ?_, ?_⟩
  · decide +kernel
  · decide +kernel

end AuditRequest

end DocAudit
