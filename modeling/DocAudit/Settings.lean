import DocAudit.Exclusion
import DocAudit.Finding
import DocAudit.SettingsError
import DocAudit.Toml.Value

set_option autoImplicit false

namespace DocAudit

/-- A rule's section. Options have no fixed type; reading one as the wrong type gives the
default. -/
structure RuleSettings where
  enabled : Option Bool
  severity : Option Severity
  options : Toml.Table

namespace RuleSettings

def empty : RuleSettings := ⟨none, none, []⟩

def get? (settings : RuleSettings) (key : String) : Option Toml.Value := settings.options.get? key

def has (settings : RuleSettings) (key : String) : Bool := (settings.get? key).isSome

def bool? (settings : RuleSettings) (key : String) : Option Bool :=
  (settings.get? key).bind Toml.Value.asBool?

def bool (settings : RuleSettings) (key : String) (default : Bool) : Bool :=
  (settings.bool? key).getD default

def flag (settings : RuleSettings) (key : String) : Bool := settings.bool key false

def int? (settings : RuleSettings) (key : String) : Option Int :=
  (settings.get? key).bind Toml.Value.asInt?

def int (settings : RuleSettings) (key : String) (default : Int) : Int :=
  (settings.int? key).getD default

def string? (settings : RuleSettings) (key : String) : Option String :=
  (settings.get? key).bind Toml.Value.asString?

def string (settings : RuleSettings) (key : String) (default : String) : String :=
  (settings.string? key).getD default

def strings (settings : RuleSettings) (key : String) : List String :=
  (((settings.get? key).bind Toml.Value.asItems?).getD []).filterMap Toml.Value.asString?

end RuleSettings

structure SearchSettings where
  root : Path
  exclude : List String
  failOnParseError : Bool
deriving DecidableEq, Repr

namespace SearchSettings

def defaultRoot : Path := Path.ofString "."

def standard : SearchSettings := ⟨defaultRoot, Exclusion.standard, false⟩

end SearchSettings

structure Settings where
  preset : Option String
  search : SearchSettings
  rules : List (String × RuleSettings)

namespace Settings

def empty : Settings := ⟨none, .standard, []⟩

def section? (settings : Settings) (rule : String) : Option RuleSettings :=
  (settings.rules.find? (·.1 == rule)).map (·.2)

def rule (settings : Settings) (name : String) : RuleSettings :=
  (settings.section? name).getD .empty

def isEnabled (settings : Settings) (rule : String) : Bool :=
  (settings.section? rule).all fun options => options.enabled.getD true

def severity? (settings : Settings) (rule : String) : Option Severity :=
  (settings.section? rule).bind (·.severity)

end Settings

namespace ScopeFilter

def scopeOption (rule key text : String) : Except SettingsError Scope :=
  match Scope.ofName? text with
  | some scope => .ok scope
  | none => .error (.invalidOption rule key (.unknownScope text))

def ofSettings (rule : String) (settings : RuleSettings) : Except SettingsError ScopeFilter := do
  let scope ← (settings.string? "scope").elim (.ok standard.scope) (scopeOption rule "scope")
  let exclude ← (settings.string? "exclude_scope").elim (.ok none) fun text =>
    (scopeOption rule "exclude_scope" text).map some
  pure ⟨scope, exclude⟩

end ScopeFilter

end DocAudit
