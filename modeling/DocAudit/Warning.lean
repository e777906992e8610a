import DocAudit.MalformedTree
import DocAudit.Path

set_option autoImplicit false

namespace DocAudit

inductive Warning where
  | unknownSection (rule : String)
  | unknownRule (name : String)
  | parseFailure (path : Path)
  | ruleAborted (rule : String) (path : Path) (error : MalformedTree)
deriving DecidableEq, Repr

def Warning.text : Warning → String
  | .unknownSection rule => "Unknown rule in configuration rule=" ++ rule
  | .unknownRule name => "Unknown rule: " ++ name
  | .parseFailure path => "Failed to parse " ++ path.toString
  | .ruleAborted rule path error =>
    rule ++ " aborted on " ++ path.toString ++ ": " ++ error.message

structure Warned (α : Type) where
  value : α
  warnings : List Warning

namespace Warned

variable {α β : Type}

def pure (value : α) : Warned α := ⟨value, []⟩

def warn (warned : Warned α) (warning : Warning) : Warned α :=
  { warned with warnings := warning :: warned.warnings }

def map (f : α → β) (warned : Warned α) : Warned β := ⟨f warned.value, warned.warnings⟩

def andThen (warned : Warned α) (next : α → Warned β) : Warned β :=
  let later := next warned.value
  ⟨later.value, warned.warnings ++ later.warnings⟩

end Warned

end DocAudit
