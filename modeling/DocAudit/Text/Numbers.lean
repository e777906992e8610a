set_option autoImplicit false

namespace DocAudit.Text

structure NumberScan where
  done : List Int
  negative : Bool
  value : Option Nat

namespace NumberScan

def start : NumberScan := ⟨[], false, none⟩

def close (scan : NumberScan) : NumberScan :=
  match scan.value with
  | none => ⟨scan.done, false, none⟩
  | some n => ⟨(if scan.negative then -(n : Int) else n) :: scan.done, false, none⟩

def step (scan : NumberScan) (c : Char) : NumberScan :=
  if c.isDigit then
    { scan with value := some (scan.value.getD 0 * 10 + (c.toNat - 48)) }
  else if c == '-' then
    { scan.close with negative := true }
  else scan.close

end NumberScan

def numbers (text : String) : List Int :=
  (text.toList.foldl NumberScan.step NumberScan.start).close.done.reverse

end DocAudit.Text
