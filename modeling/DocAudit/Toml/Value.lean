import DocAudit.Decimal.Binary64

set_option autoImplicit false

namespace DocAudit.Toml

inductive Value where
  | str (text : String)
  | int (value : Int)
  | float (value : Decimal.Binary64)
  | bool (value : Bool)
  | datetime (text : String)
  | arr (items : List Value)
  | table (entries : List (String × Value))

abbrev Table := List (String × Value)

def Table.get? (table : Table) (key : String) : Option Value :=
  (table.find? (·.1 == key)).map (·.2)

namespace Value

def asBool? : Value → Option Bool
  | .bool value => some value
  | _ => none

def asInt? : Value → Option Int
  | .int value => some value
  | _ => none

def asString? : Value → Option String
  | .str text => some text
  | _ => none

def asItems? : Value → Option (List Value)
  | .arr items => some items
  | _ => none

def asStrings? (value : Value) : Option (List String) :=
  value.asItems?.bind fun items => items.mapM asString?

def asByte? (value : Value) : Option Nat :=
  value.asInt?.bind fun n => if 0 ≤ n ∧ n < 256 then some n.toNat else none

end Value

end DocAudit.Toml
