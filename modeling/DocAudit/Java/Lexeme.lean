import DocAudit.Java.Node

set_option autoImplicit false

namespace DocAudit.Java

/-- A string with values inserted into it is cut at them: into `textStart`, any number of
`textMiddle` and `textEnd`, with the lexemes of the values between. -/
inductive LexemeKind where
  | word
  | number
  | text
  | textStart
  | textMiddle
  | textEnd
  | mark
deriving DecidableEq, Repr

structure Lexeme where
  kind : LexemeKind
  text : String
  start : Position
  stop : Position
  joined : Bool
deriving DecidableEq, Repr

end DocAudit.Java
