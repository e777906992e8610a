import DocAudit.Audit
import DocAudit.CommandLine.StarterFile
import DocAudit.FileSearch
import DocAudit.Java.Grammar
import DocAudit.Pattern.Parser

set_option autoImplicit false

namespace DocAudit.CommandLine

inductive Failure where
  | settingsNotLoaded (path : Path)
  | badRuleSettings (error : SettingsError)
  | badFilteredRule (failure : RuleFilter.Failure)
  | auditNotPrepared (error : AuditError)
  | auditFailed (error : AuditError)
  | settingsExist
  | isDirectory

def Failure.message : Failure → String
  | .settingsNotLoaded path => "Failed to load config: " ++ path.toString
  | .badRuleSettings _ => "Invalid rule configuration"
  | .badFilteredRule failure => "Invalid configuration for " ++ failure.rule
  | .auditNotPrepared _ => "Failed to build analyzer"
  | .auditFailed _ => "Analysis failed"
  | .settingsExist =>
    "Configuration file already exists at " ++ SettingsLookup.fileName.toString ++
      ". Use --force to overwrite."
  | .isDirectory => "Is a directory (os error 21)"

structure Outcome where
  exitCode : Nat
  output : String
  failure : Option Failure
  warnings : List Warning
  written : List (Path × String)

namespace Outcome

def success (output : String) : Outcome := ⟨0, output, none, [], []⟩

def failed (failure : Failure) : Outcome := ⟨1, "", some failure, [], []⟩

def usageError : Outcome := ⟨2, "", none, [], []⟩

def ofReport (format : ReportFormat) (report : Report) : Outcome :=
  ⟨if report.hasErrors then 1 else 0, report.render format, none, [], []⟩

end Outcome

namespace CheckOptions

def applyPreset (options : CheckOptions) (settings : Settings) : Settings :=
  { settings with preset := options.preset <|> settings.preset }

def selectRules (options : CheckOptions) (settings : Settings) :
    Warned (Except Failure (List Rule)) :=
  match options.rules with
  | some filter =>
    (RuleFilter.select settings (RuleFilter.names filter)).map (·.mapError .badFilteredRule)
  | none => settings.selectRules.map (·.mapError .badRuleSettings)

def auditRequest (options : CheckOptions) (settings : Settings) (rules : List Rule) :
    AuditRequest :=
  ⟨some options.path, rules, some .java, options.exclude, some settings, none⟩

def audit (options : CheckOptions) (files : FileSystem) (settings : Settings)
    (rules : List Rule) : Warned (Except Failure Report) :=
  match (options.auditRequest settings rules).prepare files.workingDirectory with
  | .error e => .pure (.error (.auditNotPrepared e))
  | .ok audit => (audit.run files).map (·.mapError .auditFailed)

def runWith (options : CheckOptions) (files : FileSystem) (settings : Settings) :
    Warned (Except Failure Report) :=
  (options.selectRules settings).andThen fun chosen =>
    match chosen with
    | .error failure => .pure (.error failure)
    | .ok rules => options.audit files settings rules

def run (options : CheckOptions) (files : FileSystem) (settingsFile : Option Path) : Outcome :=
  match SettingsLookup.load? files settingsFile with
  | none => .failed (.settingsNotLoaded (settingsFile.getD SettingsLookup.fileName))
  | some settings =>
    let result := options.runWith files (options.applyPreset settings)
    let outcome : Outcome :=
      match result.value with
      | .error failure => .failed failure
      | .ok report => .ofReport options.format report
    { outcome with warnings := result.warnings }

end CheckOptions

def runInit (files : FileSystem) (force : Bool) : Outcome :=
  let path := SettingsLookup.fileName
  if files.exists? path && !force then .failed .settingsExist
  else if files.isDirectory path then .failed .isDirectory
  else { Outcome.success nextStepsText with written := [(path, starterSettings)] }

def Command.run (files : FileSystem) (environment : Environment) (settingsFile : Option Path) :
    Command → Outcome
  | .check options =>
    options.run files (SettingsLookup.find? files environment options.path settingsFile)
  | .listRules => .success rulesText
  | .init force => runInit files force

def run (files : FileSystem) (environment : Environment) (words : List String) : Outcome :=
  match Invocation.ofWords environment words with
  | .usageError => .usageError
  | .version => .success versionText
  | .help topic long => .success (helpText environment topic long)
  | .run settingsFile command => command.run files environment settingsFile

end DocAudit.CommandLine
