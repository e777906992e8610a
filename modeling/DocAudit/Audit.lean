import DocAudit.Exclusion
import DocAudit.FileCheck
import DocAudit.Java.Unit

set_option autoImplicit false

namespace DocAudit

structure Language where
  extensions : List String
  parse? : List Char → Option CompilationUnit

def Language.java [Java.Parser] : Language := ⟨["java"], CompilationUnit.ofJava?⟩

inductive AuditError where
  | noLanguage
  | badPattern
  | unreadable (path : Path)
  | syntaxError (path : Path)
deriving DecidableEq, Repr

def AuditError.message : AuditError → String
  | .noLanguage => "No language front-end configured"
  | .badPattern => "Invalid glob pattern"
  | .unreadable path => "IO error: " ++ path.toString
  | .syntaxError path => "Parse error in " ++ path.toString

structure AuditRequest where
  root : Option Path
  rules : List Check
  language : Option Language
  exclude : List String
  settings : Option Settings
  failOnParseError : Option Bool

structure Audit where
  root : Path
  rules : List Check
  language : Language
  exclude : List String
  settings : Settings
  failOnParseError : Bool

namespace AuditRequest

def rootPath (request : AuditRequest) : Path :=
  request.root.getD ((request.settings.map (·.search.root)).getD SearchSettings.defaultRoot)

def exclusions (request : AuditRequest) : List String :=
  let patterns := request.exclude ++ (request.settings.map (·.search.exclude)).getD []
  if patterns.isEmpty then Exclusion.standard else patterns

def stopsOnParseError (request : AuditRequest) : Bool :=
  request.failOnParseError.getD (request.settings.any (·.search.failOnParseError))

def prepare (request : AuditRequest) (workingDirectory : Path) : Except AuditError Audit :=
  match request.language with
  | none => .error .noLanguage
  | some language =>
    .ok ⟨workingDirectory.join request.rootPath, request.rules, language, request.exclusions,
      request.settings.getD .empty, request.stopsOnParseError⟩

end AuditRequest

def Path.dropRepeats : List Path → List Path
  | a :: b :: rest =>
    if a.order b == .eq then dropRepeats (a :: rest) else a :: dropRepeats (b :: rest)
  | paths => paths
termination_by paths => paths.length

def Path.sorted (paths : List Path) : List Path :=
  dropRepeats (paths.mergeSort fun a b => a.order b != .gt)

namespace Finding

def order (a b : Finding) : Ordering :=
  match a.location.file.order b.location.file with
  | .eq =>
    match compare a.location.line b.location.line with
    | .eq => compare a.location.column b.location.column
    | other => other
  | other => other

def sorted (findings : List Finding) : List Finding :=
  findings.mergeSort fun a b => a.order b != .gt

end Finding

namespace Report

def add (report : Report) (outcome : FileOutcome) : Report :=
  ⟨report.findings ++ outcome.findings, report.filesChecked + 1,
    report.filesAborted + if outcome.isAborted then 1 else 0⟩

end Report

namespace Audit

section Discovery

variable [GlobReader]

def isExcluded (audit : Audit) (path : Path) : Bool := Exclusion.anyExcludes audit.exclude path

def pattern (audit : Audit) (extension : String) : List Char :=
  audit.root.text ++ "/**/*.".toList ++ extension.toList

def keep (audit : Audit) : List (Except Path Path) → Except AuditError (List Path)
  | [] => .ok []
  | .error path :: _ => .error (.unreadable path)
  | .ok path :: rest =>
    (audit.keep rest).map fun paths => if audit.isExcluded path then paths else path :: paths

def findAll (audit : Audit) (files : FileAccess) : List String → Except AuditError (List Path)
  | [] => .ok []
  | extension :: rest =>
    match files.search? (audit.pattern extension) with
    | none => .error .badPattern
    | some found =>
      (audit.keep found).bind fun paths => (audit.findAll files rest).map fun more => paths ++ more

def discover (audit : Audit) (files : FileAccess) : Except AuditError (List Path) :=
  (audit.findAll files audit.language.extensions).map Path.sorted

end Discovery

def checkText? (audit : Audit) (path : Path) (content : String) : Option FileOutcome :=
  (audit.language.parse? content.toList).map fun unit =>
    audit.settings.runRules audit.rules (.ofContent path content audit.root) unit

def checkFiles (audit : Audit) (files : FileAccess) (report : Report) :
    List Path → Warned (Except AuditError Report)
  | [] => .pure (.ok report)
  | path :: rest =>
    match files.read? path with
    | none => .pure (.error (.unreadable path))
    | some content =>
      match audit.checkText? path content with
      | none =>
        Warned.warn
          (if audit.failOnParseError then .pure (.error (.syntaxError path))
          else audit.checkFiles files report rest) (.parseFailure path)
      | some outcome =>
        let relative := path.relativeTo audit.root
        Warned.andThen ⟨report.add outcome, outcome.warnings relative⟩ fun report =>
          audit.checkFiles files report rest

def run [GlobReader] (audit : Audit) (files : FileAccess) : Warned (Except AuditError Report) :=
  match audit.discover files with
  | .error e => .pure (.error e)
  | .ok paths =>
    (audit.checkFiles files .empty paths).map fun result =>
      result.map fun report => { report with findings := Finding.sorted report.findings }

end Audit

end DocAudit
