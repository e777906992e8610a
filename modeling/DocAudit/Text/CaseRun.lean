import DocAudit.Text.Numbers

set_option autoImplicit false

namespace DocAudit.Text

structure CaseRun where
  first : Nat
  count : Nat
  stride : Nat
  distance : Int

namespace CaseRun

def ofNumbers : List Int → List CaseRun
  | first :: count :: stride :: distance :: rest =>
    ⟨first.toNat, count.toNat, stride.toNat, distance⟩ :: ofNumbers rest
  | _ => []

def ofText (text : String) : List CaseRun := ofNumbers (numbers text)

def covers (run : CaseRun) (n : Nat) : Bool :=
  run.first ≤ n && n ≤ run.first + (run.count - 1) * run.stride &&
    (n - run.first) % run.stride == 0

def apply (runs : List CaseRun) (c : Char) : Char :=
  match runs.find? (·.covers c.toNat) with
  | some run => Char.ofNat ((c.toNat : Int) + run.distance).toNat
  | none => c

def sources (run : CaseRun) (target : Char) : List Char :=
  let source := ((target.toNat : Int) - run.distance).toNat
  if run.covers source then [Char.ofNat source] else []

def expansionsOfNumbers : List Int → List (Nat × List Nat)
  | source :: length :: rest =>
    (source.toNat, (rest.take length.toNat).map Int.toNat) ::
      expansionsOfNumbers (rest.drop length.toNat)
  | _ => []
termination_by numbers => numbers.length

def expansionsOfText (text : String) : List (Nat × List Nat) :=
  expansionsOfNumbers (numbers text)

end CaseRun

end DocAudit.Text
