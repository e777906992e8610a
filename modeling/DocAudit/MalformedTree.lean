set_option autoImplicit false

namespace DocAudit

inductive MalformedTree where
  | typeAtLineZero
  | methodAtLineZero
  | staticInitAtLineZero
  | typeEndsBeforeStart (line : Nat)
  | bodyOpensBeforeDeclaration (line : Nat)
  | bodyClosesBeforeOpening (line : Nat)
  | statementOutsideBody (line : Nat)
  | unbalancedContexts (line : Nat)
  | lookupAtLineZero
  | noRegions (line : Nat)
deriving DecidableEq, Repr

namespace MalformedTree

def line : MalformedTree → Nat
  | .typeAtLineZero | .methodAtLineZero | .staticInitAtLineZero | .lookupAtLineZero => 0
  | .typeEndsBeforeStart line | .bodyOpensBeforeDeclaration line
  | .bodyClosesBeforeOpening line | .statementOutsideBody line
  | .unbalancedContexts line | .noRegions line => line

def reason : MalformedTree → String
  | .typeAtLineZero => "type declaration at line 0"
  | .methodAtLineZero => "method declaration at line 0"
  | .staticInitAtLineZero => "static initializer at line 0"
  | .typeEndsBeforeStart _ => "type ends before it starts"
  | .bodyOpensBeforeDeclaration _ => "body opens before its declaration"
  | .bodyClosesBeforeOpening _ => "body closes before it opens"
  | .statementOutsideBody _ => "statement outside of its body"
  | .unbalancedContexts _ => "unbalanced context stack"
  | .lookupAtLineZero => "line numbers start at 1"
  | .noRegions _ => "no regions recorded"

def message (error : MalformedTree) : String :=
  "Malformed syntax tree at line " ++ toString error.line ++ ": " ++ error.reason

end MalformedTree

end DocAudit
