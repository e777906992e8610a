import DocAudit.Path

set_option autoImplicit false

namespace DocAudit

inductive Severity where
  | info
  | warning
  | error
deriving DecidableEq, Repr

namespace Severity

def name : Severity → String
  | .info => "info"
  | .warning => "warning"
  | .error => "error"

def all : List Severity := [.info, .warning, .error]

def ofName? (text : String) : Option Severity := all.find? fun severity => severity.name == text

@[simp] theorem ofName?_name (severity : Severity) : ofName? severity.name = some severity := by
  cases severity <;> decide

end Severity

structure Location where
  file : Path
  line : Nat
  column : Nat
  offset : Nat
  length : Nat
deriving DecidableEq, Repr

structure Finding where
  code : String
  rule : String
  severity : Severity
  location : Location
  message : String
  messageKey : Option String
  arguments : List String
deriving DecidableEq, Repr

namespace Finding

def hasKey (finding : Finding) (key : String) : Bool := finding.messageKey == some key

def summary (finding : Finding) : String :=
  finding.location.file.toString ++ ":" ++ toString finding.location.line ++ ":" ++
    toString finding.location.column ++ ": " ++ finding.severity.name ++ " [" ++ finding.code ++
    "] " ++ finding.message

def headline (finding : Finding) : String := "[" ++ finding.code ++ "] " ++ finding.message

def help (finding : Finding) : Option String := finding.messageKey.map ("message key: " ++ ·)

end Finding

structure Report where
  findings : List Finding
  filesChecked : Nat
  filesAborted : Nat
deriving DecidableEq, Repr

namespace Report

def empty : Report := ⟨[], 0, 0⟩

def hasErrors (report : Report) : Bool := report.findings.any (·.severity == .error)

def byKey (report : Report) (key : String) : List Finding := report.findings.filter (·.hasKey key)

def bySeverity (report : Report) (severity : Severity) : List Finding :=
  report.findings.filter (·.severity == severity)

def count (report : Report) (severity : Severity) : Nat := (report.bySeverity severity).length

end Report

end DocAudit
