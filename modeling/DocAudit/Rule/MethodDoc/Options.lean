import DocAudit.Settings

set_option autoImplicit false

namespace DocAudit

structure MethodDoc where
  severity : Severity
  filter : ScopeFilter
  minLineCount : Int
  allowedAnnotations : List String
  ignoreNames : Option Pattern.Regex
  unusedParams : Option Pattern.Regex
  allowMissing : Bool
  allowMissingProperty : Bool
  allowMissingParam : Bool
  allowMissingThrows : Bool
  allowMissingReturn : Bool
  allowUndeclaredUnchecked : Bool
  allowSubclassThrows : Bool
  allowNarrativeParam : Bool
  allowNarrativeReturn : Bool
  logUnresolved : Bool

namespace MethodDoc

def code : String := "DL002"

def name : String := "javadoc-method"

def description : String := "Checks Javadoc of methods and constructors against their signatures"

def standard : MethodDoc where
  severity := .warning
  filter := .standard
  minLineCount := -1
  allowedAnnotations := ["Override"]
  ignoreNames := none
  unusedParams := none
  allowMissing := false
  allowMissingProperty := false
  allowMissingParam := false
  allowMissingThrows := false
  allowMissingReturn := false
  allowUndeclaredUnchecked := false
  allowSubclassThrows := false
  allowNarrativeParam := false
  allowNarrativeReturn := false
  logUnresolved := false

variable [Pattern.Reader]

def namePattern (key text : String) : Except SettingsError Pattern.Regex :=
  match Pattern.Reader.whole? text.toList with
  | some regex => .ok regex
  | none => .error (.invalidOption name key .pattern)

def withIgnoreNames (rule : MethodDoc) (text : String) : Except SettingsError MethodDoc := do
  let regex ← namePattern "ignore_method_names" text
  pure { rule with ignoreNames := some regex }

def withUnusedParams (rule : MethodDoc) (text : String) : Except SettingsError MethodDoc := do
  let regex ← namePattern "unused_param_format" text
  pure { rule with unusedParams := some regex }

def withFlags (rule : MethodDoc) (settings : RuleSettings) : MethodDoc :=
  { rule with
    allowMissing := settings.flag "allow_missing_javadoc"
    allowMissingProperty := settings.flag "allow_missing_property_javadoc"
    allowMissingParam := settings.flag "allow_missing_param_tags"
    allowMissingThrows := settings.flag "allow_missing_throws_tags"
    allowMissingReturn := settings.flag "allow_missing_return_tag"
    allowUndeclaredUnchecked := settings.flag "allow_undeclared_rte"
    allowSubclassThrows := settings.flag "allow_throws_tags_for_subclasses"
    allowNarrativeParam := settings.flag "allow_narrative_param_tags"
    allowNarrativeReturn := settings.flag "allow_narrative_return_tags"
    logUnresolved := settings.flag "log_load_errors" }

def ofSettings (settings : RuleSettings) : Except SettingsError MethodDoc := do
  let filter ← ScopeFilter.ofSettings name settings
  let rule : MethodDoc :=
    { standard with
      filter
      severity := settings.severity.getD standard.severity
      minLineCount := settings.int "min_line_count" standard.minLineCount
      allowedAnnotations :=
        if settings.has "allowed_annotations" then settings.strings "allowed_annotations"
        else standard.allowedAnnotations }
  let rule ← (settings.string? "ignore_method_names").elim (.ok rule) rule.withIgnoreNames
  let rule ← (settings.string? "unused_param_format").elim (.ok rule) rule.withUnusedParams
  pure (rule.withFlags settings)

end MethodDoc

end DocAudit
