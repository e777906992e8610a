import DocAudit.RuleSelection

set_option autoImplicit false

namespace DocAudit

structure Check where
  name : String
  check : SourceFile → CompilationUnit → Except MalformedTree (List Finding)

def Rule.asCheck (rule : Rule) : Check := ⟨rule.name, rule.check⟩

@[simp] theorem Rule.asCheck_name (rule : Rule) : rule.asCheck.name = rule.name := rfl

@[simp] theorem Rule.asCheck_check (rule : Rule) : rule.asCheck.check = rule.check := rfl

instance : Coe (List Rule) (List Check) := ⟨List.map Rule.asCheck⟩

structure FileOutcome where
  findings : List Finding
  aborts : List (String × MalformedTree)
deriving DecidableEq, Repr

namespace FileOutcome

def empty : FileOutcome := ⟨[], []⟩

def isAborted (outcome : FileOutcome) : Bool := !outcome.aborts.isEmpty

def warnings (outcome : FileOutcome) (path : Path) : List Warning :=
  outcome.aborts.map fun abort => .ruleAborted abort.1 path abort.2

def report (outcome : FileOutcome) : Report :=
  ⟨outcome.findings, 1, if outcome.isAborted then 1 else 0⟩

end FileOutcome

namespace Settings

def overrideSeverity (settings : Settings) (rule : String) (findings : List Finding) :
    List Finding :=
  match settings.severity? rule with
  | none => findings
  | some severity => findings.map fun finding => { finding with severity }

def runRule (settings : Settings) (file : SourceFile) (unit : CompilationUnit)
    (outcome : FileOutcome) (rule : Check) : FileOutcome :=
  if !settings.isEnabled rule.name then outcome
  else
    match rule.check file unit with
    | .ok findings =>
      { outcome with
        findings := outcome.findings ++ settings.overrideSeverity rule.name findings }
    | .error e => { outcome with aborts := outcome.aborts ++ [(rule.name, e)] }

def runRules (settings : Settings) (rules : List Check) (file : SourceFile)
    (unit : CompilationUnit) : FileOutcome :=
  rules.foldl (settings.runRule file unit) .empty

end Settings

end DocAudit
