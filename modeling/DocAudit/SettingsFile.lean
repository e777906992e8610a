import DocAudit.Settings
import DocAudit.Toml.Document

set_option autoImplicit false

namespace DocAudit

namespace Severity

def isEmptyValue : Toml.Value → Bool
  | .arr items => items.isEmpty
  | .table entries => entries.isEmpty
  | _ => false

def ofToml? : Toml.Value → Option Severity
  | .str text => ofName? text
  | .table [(key, value)] => if isEmptyValue value then ofName? key else none
  | _ => none

end Severity

namespace RuleSettings

def ofToml? : Toml.Value → Option RuleSettings
  | .table entries => do
    let enabled ← match Toml.Table.get? entries "enabled" with
      | none => some none
      | some value => value.asBool?.map some
    let severity ← match Toml.Table.get? entries "severity" with
      | none => some none
      | some value => (Severity.ofToml? value).map some
    let options := entries.filter fun entry => entry.1 != "enabled" && entry.1 != "severity"
    pure ⟨enabled, severity, options⟩
  | _ => none

end RuleSettings

namespace SearchSettings

def ofFields? (root exclude failOnParseError : Option Toml.Value) : Option SearchSettings := do
  let root ← root.elim (some defaultRoot) fun value => value.asString?.map Path.ofString
  let exclude ← exclude.elim (some []) Toml.Value.asStrings?
  let failOnParseError ← failOnParseError.elim (some false) Toml.Value.asBool?
  pure ⟨root, exclude, failOnParseError⟩

def ofToml? : Toml.Value → Option SearchSettings
  | .table entries =>
    ofFields? (Toml.Table.get? entries "root") (Toml.Table.get? entries "exclude")
      (Toml.Table.get? entries "fail_on_parse_error")
  | .arr items => ofFields? items[0]? items[1]? items[2]?
  | _ => none

end SearchSettings

namespace Settings

def sections? : Toml.Value → Option (List (String × RuleSettings))
  | .table entries => entries.mapM fun entry => (RuleSettings.ofToml? entry.2).map (entry.1, ·)
  | _ => none

def ofTable? (table : Toml.Table) : Option Settings := do
  let preset ← match table.get? "preset" with
    | none => some none
    | some value => value.asString?.map some
  let search ← (table.get? "analyzer").elim (some .standard) SearchSettings.ofToml?
  let rules ← (table.get? "rules").elim (some []) sections?
  pure ⟨preset, search, rules⟩

def parse (text : String) : Except SettingsError Settings :=
  match (Toml.parse? text.toList).bind ofTable? with
  | some settings => .ok settings
  | none => .error .malformed

end Settings

end DocAudit
