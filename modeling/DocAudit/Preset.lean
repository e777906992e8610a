import DocAudit.Rule

set_option autoImplicit false

namespace DocAudit

inductive Preset where
  | recommended
  | strict
  | minimal
deriving DecidableEq, Repr

namespace Preset

def all : List Preset := [.recommended, .strict, .minimal]

def name : Preset → String
  | .recommended => "recommended"
  | .strict => "strict"
  | .minimal => "minimal"

def normalize (text : String) : String :=
  String.ofList ((Text.trim text.toList).map Char.toLower)

def ofName (text : String) : Except SettingsError Preset :=
  match all.find? fun preset => preset.name == normalize text with
  | some preset => .ok preset
  | none => .error (.unknownPreset (normalize text))

@[simp] theorem ofName_name (preset : Preset) : ofName preset.name = .ok preset := by
  cases preset <;> rfl

def rules : Preset → List Rule
  | .recommended =>
    [.commentPlacement .standard, .methodDoc .standard, .typeDoc .standard]
  | .strict =>
    [.commentPlacement .standard, .methodDoc .standard,
      .typeDoc ((TypeDoc.standard.withRequiredAuthor true).withRequiredVersion true)]
  | .minimal => [.methodDoc .standard]

end Preset

namespace Rule

def all : List Rule := Preset.recommended.rules

end Rule

end DocAudit
