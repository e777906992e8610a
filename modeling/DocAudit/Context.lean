set_option autoImplicit false

namespace DocAudit

inductive Context where
  | package
  | classBody
  | signature
  | staticInitHeader
  | preStatements
  | statements
deriving DecidableEq, Repr

namespace Context

def all : List Context :=
  [.package, .classBody, .signature, .staticInitHeader, .preStatements, .statements]

theorem mem_all (context : Context) : context ∈ all := by cases context <;> decide

def keyword : Context → String
  | .package => "package"
  | .classBody => "class"
  | .signature => "func"
  | .staticInitHeader => "init"
  | .preStatements => "prestmts"
  | .statements => "stmts"

def ofKeyword? (word : String) : Option Context := all.find? fun context => context.keyword == word

@[simp] theorem ofKeyword?_keyword (context : Context) :
    ofKeyword? context.keyword = some context := by
  cases context <;> decide

end Context

end DocAudit
