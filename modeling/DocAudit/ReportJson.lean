import DocAudit.Finding
import DocAudit.Json

set_option autoImplicit false

namespace DocAudit

def Json.wordSize : Int := 0x10000000000000000

def Json.asCount? : Json → Option Nat
  | .int n => if 0 ≤ n ∧ n < wordSize then some n.toNat else none
  | _ => none

def Json.asString? : Json → Option String
  | .str text => some text
  | _ => none

def Json.asList? : Json → Option (List Json)
  | .arr items => some items
  | _ => none

def Json.asStrings? (json : Json) : Option (List String) :=
  json.asList?.bind fun items => items.mapM Json.asString?

def Json.asOptionalString? : Json → Option (Option String)
  | .null => some none
  | .str text => some (some text)
  | _ => none

def Json.record? (keys : List String) : Json → Option (List (Option Json))
  | .obj fields => some (keys.map (Json.field? fields))
  | .arr items =>
    if items.length ≤ keys.length then
      some (items.map some ++ List.replicate (keys.length - items.length) none)
    else none
  | _ => none

def Severity.ofJson? : Json → Option Severity
  | .str text => ofName? text
  | .obj [(key, .null)] => ofName? key
  | _ => none

namespace Location

def toJson (location : Location) : Json :=
  .obj [("file", .str location.file.toString), ("line", .int location.line),
    ("column", .int location.column), ("offset", .int location.offset),
    ("length", .int location.length)]

def ofJson? (json : Json) : Option Location :=
  match json.record? ["file", "line", "column", "offset", "length"] with
  | some [some file, some line, some column, some offset, some length] => do
    pure ⟨Path.ofString (← file.asString?), ← line.asCount?, ← column.asCount?,
      ← offset.asCount?, ← length.asCount?⟩
  | _ => none

end Location

namespace Finding

def toJson (finding : Finding) : Json :=
  .obj ([("code", .str finding.code), ("rule", .str finding.rule),
      ("severity", .str finding.severity.name), ("location", finding.location.toJson),
      ("message", .str finding.message)] ++
    (finding.messageKey.map fun key => ("message_key", Json.str key)).toList ++
    if finding.arguments.isEmpty then []
    else [("arguments", .arr (finding.arguments.map Json.str))])

def ofJson? (json : Json) : Option Finding :=
  match json.record?
      ["code", "rule", "severity", "location", "message", "message_key", "arguments"] with
  | some [some code, some rule, some severity, some location, some message, key, arguments] => do
    let key ← (key.map Json.asOptionalString?).getD (some none)
    let arguments ← (arguments.map Json.asStrings?).getD (some [])
    pure ⟨← code.asString?, ← rule.asString?, ← Severity.ofJson? severity,
      ← Location.ofJson? location, ← message.asString?, key, arguments⟩
  | _ => none

end Finding

namespace Report

def toJson (report : Report) : Json :=
  .obj [("violations", .arr (report.findings.map Finding.toJson)),
    ("files_checked", .int report.filesChecked), ("files_aborted", .int report.filesAborted)]

def ofJson? (json : Json) : Option Report :=
  match json.record? ["violations", "files_checked", "files_aborted"] with
  | some [some findings, some checked, aborted] => do
    let aborted ← (aborted.map Json.asCount?).getD (some 0)
    let findings ← findings.asList?
    pure ⟨← findings.mapM Finding.ofJson?, ← checked.asCount?, aborted⟩
  | _ => none

end Report

end DocAudit
