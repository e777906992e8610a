import DocAudit.AllowList
import DocAudit.Scope

set_option autoImplicit false

namespace DocAudit

inductive OptionFault where
  | unknownScope (text : String)
  | descriptor (error : DescriptorError)
  | pattern
deriving DecidableEq, Repr

def OptionFault.reason? : OptionFault → Option String
  | .unknownScope text => some (Scope.unknownMessage text)
  | .descriptor error => some error.message
  | .pattern => none

inductive SettingsError where
  | malformed
  | unknownPreset (name : String)
  | invalidOption (rule key : String) (fault : OptionFault)
deriving DecidableEq, Repr

namespace SettingsError

def message : SettingsError → String
  | .malformed => "Failed to parse config"
  | .unknownPreset name =>
    "Failed to parse config: unknown preset '" ++ name ++
      "' (expected recommended, strict or minimal)"
  | .invalidOption rule key fault =>
    "Invalid option '" ++ key ++ "' for rule " ++ rule ++
      (fault.reason?.map (": " ++ ·)).getD ""

end SettingsError

end DocAudit
