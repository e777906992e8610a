import DocAudit.Preset
import DocAudit.Text.Parts
import DocAudit.Warning

set_option autoImplicit false

namespace DocAudit

namespace Settings

variable [Pattern.Reader]

def chosenPreset (settings : Settings) : Except SettingsError Preset :=
  settings.preset.elim (.ok .recommended) Preset.ofName

def rebuild (settings : Settings) (rule : Rule) : Except SettingsError Rule :=
  match settings.section? rule.name with
  | none => .ok rule
  | some options => (Rule.ofSettings? rule.name options).map fun rebuilt => rebuilt.getD rule

def rebuildAll (settings : Settings) : List Rule → Except SettingsError (List Rule)
  | [] => .ok []
  | rule :: rest => do
    let rule ← settings.rebuild rule
    let rest ← settings.rebuildAll rest
    pure (rule :: rest)

def addEnabled (chosen : List Rule) :
    List (String × RuleSettings) → Warned (Except SettingsError (List Rule))
  | [] => .pure (.ok chosen)
  | (name, options) :: rest =>
    if chosen.any (·.name == name) then addEnabled chosen rest
    else
      match Rule.ofSettings? name options with
      | .error e => .pure (.error e)
      | .ok none => (addEnabled chosen rest).warn (.unknownSection name)
      | .ok (some rule) =>
        addEnabled (if options.enabled = some true then chosen ++ [rule] else chosen) rest

def sortedSections (settings : Settings) : List (String × RuleSettings) :=
  settings.rules.mergeSort fun a b => decide (a.1 ≤ b.1)

def selectRules (settings : Settings) : Warned (Except SettingsError (List Rule)) :=
  match settings.chosenPreset.bind fun preset => settings.rebuildAll preset.rules with
  | .error e => .pure (.error e)
  | .ok chosen => addEnabled chosen settings.sortedSections

end Settings

namespace RuleFilter

variable [Pattern.Reader]

def names (filter : String) : List String :=
  ((Text.split ',' filter.toList).map fun part => String.ofList (Text.trim part)).filter (· != "")

def lowercase (text : String) : String := String.ofList (text.toList.map Char.toLower)

def find? (name : String) : Option Rule :=
  Rule.all.find? fun rule => rule.name == name || lowercase rule.code == lowercase name

structure Failure where
  rule : String
  error : SettingsError
deriving DecidableEq, Repr

def select (settings : Settings) : List String → Warned (Except Failure (List Rule))
  | [] => .pure (.ok [])
  | name :: rest =>
    match find? name with
    | none => (select settings rest).warn (.unknownRule name)
    | some rule =>
      match settings.rebuild rule with
      | .error e => .pure (.error ⟨rule.name, e⟩)
      | .ok rebuilt => (select settings rest).map fun rules => rules.map (rebuilt :: ·)

end RuleFilter

end DocAudit
