import DocAudit.ReportJson

set_option autoImplicit false

namespace DocAudit

inductive ReportFormat where
  | text
  | json
  | compact
  | pretty
deriving DecidableEq, Repr

namespace ReportFormat

def all : List ReportFormat := [.text, .json, .compact, .pretty]

def name : ReportFormat → String
  | .text => "text"
  | .json => "json"
  | .compact => "compact"
  | .pretty => "pretty"

def ofName? (text : String) : Option ReportFormat := all.find? fun format => format.name == text

@[simp] theorem ofName?_name (format : ReportFormat) : ofName? format.name = some format := by
  cases format <;> decide

end ReportFormat

inductive Colour where
  | red
  | green
  | yellow
  | blue
deriving DecidableEq, Repr

def Colour.code : Colour → String
  | .red => "31"
  | .green => "32"
  | .yellow => "33"
  | .blue => "34"

def Colour.paint (colour : Colour) (text : String) : String :=
  "\x1b[" ++ colour.code ++ "m" ++ text ++ "\x1b[0m"

def Severity.colour : Severity → Colour
  | .info => .blue
  | .warning => .yellow
  | .error => .red

def Finding.paragraph (finding : Finding) : String :=
  finding.code ++ " " ++ finding.rule ++ " at " ++ finding.location.file.toString ++ ":" ++
    toString finding.location.line ++ ":" ++ toString finding.location.column ++ "\n  " ++
    finding.severity.colour.paint finding.severity.name ++ ": " ++ finding.message ++ "\n" ++
    (finding.messageKey.map fun key => "  = key: " ++ key ++ "\n").getD "" ++ "\n"

namespace Report

def summaryColour (report : Report) : Colour :=
  if report.count .error > 0 then .red
  else if report.count .warning > 0 then .yellow
  else .green

def summaryLine (report : Report) : String :=
  "Found " ++ toString (report.count .error) ++ " error(s), " ++ toString (report.count .warning) ++
    " warning(s), " ++ toString (report.count .info) ++ " info(s) in " ++
    toString report.filesChecked ++ " file(s)"

def summary (report : Report) : String :=
  report.summaryColour.paint report.summaryLine ++ "\n" ++
    if report.filesAborted > 0 then
      "  " ++ toString report.filesAborted ++ " file(s) were only partially checked\n"
    else ""

def render (report : Report) : ReportFormat → String
  | .text => String.join (report.findings.map Finding.paragraph) ++ report.summary
  | .json => report.toJson.pretty 0 ++ "\n"
  | .compact => String.join (report.findings.map fun finding => finding.summary ++ "\n")
  | .pretty => report.summary

end Report

end DocAudit
