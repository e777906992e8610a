import DocAudit.FileCheck

set_option autoImplicit false

namespace DocAudit

-- The severity that is set for a rule, if one is, in place of the finding's own.
def Finding.graded (severity : Option Severity) (finding : Finding) : Finding :=
  { finding with severity := severity.getD finding.severity }

theorem Finding.graded_none : Finding.graded none = id := rfl

theorem CommentPlacement.check_reported {rule : CommentPlacement} {file : SourceFile}
    {unit : CompilationUnit} {found : List Finding} (checked : rule.check file unit = .ok found) :
    ∃ findings : List CommentFinding,
      found = (findings.map CommentFinding.note).map (rule.reporter.finding file) := by
  simp only [check, bind, Except.bind, pure, Except.pure] at checked
  split at checked
  next => cases checked
  next map classified =>
    split at checked
    next => cases checked
    next findings validated =>
      cases checked
      exact ⟨findings, by simp⟩

-- A rule signs its findings and places them in the file at hand.
theorem Rule.check_reported {rule : Rule} {file : SourceFile} {unit : CompilationUnit}
    {found : List Finding} (checked : rule.check file unit = .ok found) :
    ∃ notes : List Note, found = notes.map (rule.reporter.finding file) := by
  cases rule with
  | commentPlacement rule =>
    obtain ⟨findings, rfl⟩ := CommentPlacement.check_reported checked
    exact ⟨_, rfl⟩
  | methodDoc rule =>
    cases checked
    exact ⟨_, rfl⟩
  | typeDoc rule =>
    cases checked
    exact ⟨_, rfl⟩

def Check.PlacesInFile (rule : Check) : Prop :=
  ∀ file unit found, rule.check file unit = .ok found →
    ∀ finding ∈ found, finding.location.file = file.relativePath

theorem Rule.asCheck_placesInFile (rule : Rule) : rule.asCheck.PlacesInFile := by
  intro file unit found checked finding member
  obtain ⟨notes, rfl⟩ := rule.check_reported checked
  obtain ⟨note, _, rfl⟩ := List.mem_map.mp member
  rfl

namespace Settings

section Parts

variable (settings : Settings) (file : SourceFile) (unit : CompilationUnit)

def contribution (rule : Check) : List Finding :=
  match settings.isEnabled rule.name, rule.check file unit with
  | true, .ok found => found.map (Finding.graded (settings.severity? rule.name))
  | _, _ => []

def fails (rule : Check) : Bool :=
  match settings.isEnabled rule.name, rule.check file unit with
  | true, .error _ => true
  | _, _ => false

theorem overrideSeverity_eq (name : String) (found : List Finding) :
    settings.overrideSeverity name found =
      found.map (Finding.graded (settings.severity? name)) := by
  unfold overrideSeverity
  split
  next unset => rw [unset, Finding.graded_none, List.map_id]
  next severity set =>
    rw [set]
    rfl

theorem runRule_findings (outcome : FileOutcome) (rule : Check) :
    (settings.runRule file unit outcome rule).findings =
      outcome.findings ++ settings.contribution file unit rule := by
  unfold runRule contribution
  cases settings.isEnabled rule.name with
  | false => simp
  | true => cases rule.check file unit <;> simp [overrideSeverity_eq]

theorem runRule_isAborted (outcome : FileOutcome) (rule : Check) :
    (settings.runRule file unit outcome rule).isAborted =
      (outcome.isAborted || settings.fails file unit rule) := by
  unfold runRule fails FileOutcome.isAborted
  cases settings.isEnabled rule.name with
  | false => simp
  | true => cases rule.check file unit <;> simp

theorem runRules_findings (rules : List Check) :
    (settings.runRules rules file unit).findings =
      rules.flatMap (settings.contribution file unit) := by
  have after (outcome : FileOutcome) :
      (rules.foldl (settings.runRule file unit) outcome).findings =
        outcome.findings ++ rules.flatMap (settings.contribution file unit) := by
    induction rules generalizing outcome with
    | nil => simp
    | cons rule rest ih => simp [ih, runRule_findings]
  rw [runRules, after]
  rfl

theorem runRules_isAborted (rules : List Check) :
    (settings.runRules rules file unit).isAborted = rules.any (settings.fails file unit) := by
  have after (outcome : FileOutcome) :
      (rules.foldl (settings.runRule file unit) outcome).isAborted =
        (outcome.isAborted || rules.any (settings.fails file unit)) := by
    induction rules generalizing outcome with
    | nil => simp
    | cons rule rest ih => simp [ih, runRule_isAborted, Bool.or_assoc]
  rw [runRules, after]
  rfl

end Parts

variable {settings : Settings} {file : SourceFile} {unit : CompilationUnit} {finding : Finding}

theorem exists_of_mem_contribution {rule : Check}
    (member : finding ∈ settings.contribution file unit rule) :
    ∃ found reported, rule.check file unit = .ok found ∧ reported ∈ found ∧
      finding = Finding.graded (settings.severity? rule.name) reported := by
  unfold contribution at member
  split at member
  next found enabled checked =>
    obtain ⟨reported, inside, rfl⟩ := List.mem_map.mp member
    exact ⟨found, reported, checked, inside, rfl⟩
  next => cases member

theorem contribution_file {rule : Check} (places : rule.PlacesInFile)
    (member : finding ∈ settings.contribution file unit rule) :
    finding.location.file = file.relativePath := by
  obtain ⟨found, reported, checked, inside, rfl⟩ := exists_of_mem_contribution member
  exact places file unit found checked reported inside

theorem contribution_rule {rule : Rule}
    (member : finding ∈ settings.contribution file unit rule.asCheck) :
    finding.rule = rule.name := by
  obtain ⟨found, reported, checked, inside, rfl⟩ := exists_of_mem_contribution member
  obtain ⟨notes, rfl⟩ := rule.check_reported checked
  obtain ⟨note, _, rfl⟩ := List.mem_map.mp inside
  rfl

end Settings

end DocAudit
