import DocAudit.Decimal.Binary64

set_option autoImplicit false

namespace DocAudit.Decimal

structure Neighborhood where
  low : Nat
  value : Nat
  high : Nat
  denominator : Nat
  closed : Bool
deriving DecidableEq, Repr

namespace Neighborhood

/-- Half the distance to the next numbers; below a power of two the next one is nearer. -/
def ofFinite (significand : Nat) (exponent : Int) : Neighborhood :=
  let up := Nat.pow 2 exponent.toNat
  let narrow :=
    significand = Nat.pow 2 (Binary64.significandBits - 1) ∧ Binary64.leastExponent < exponent
  ⟨(4 * significand - if narrow then 1 else 2) * up, 4 * significand * up,
    (4 * significand + 2) * up, 4 * Nat.pow 2 (-exponent).toNat, significand % 2 = 0⟩

def contains (around : Neighborhood) (point : Nat) : Bool :=
  if around.closed then around.low ≤ point && point ≤ around.high
  else around.low < point && point < around.high

def inUnits (around : Neighborhood) (power : Int) : Neighborhood × Nat :=
  let factor := Nat.pow 10 (-power).toNat
  ({ around with
      low := around.low * factor, value := around.value * factor, high := around.high * factor },
    around.denominator * Nat.pow 10 power.toNat)

def multiple? (around : Neighborhood) (power : Int) : Option Nat :=
  let (scaled, unit) := around.inUnits power
  let below := scaled.value / unit
  let remainder := scaled.value % unit
  match scaled.contains (below * unit), scaled.contains ((below + 1) * unit) with
  | true, true => some (if 2 * remainder < unit then below else below + 1)
  | true, false => some below
  | false, true => some (below + 1)
  | false, false => none

def shortestFrom (around : Neighborhood) (power : Int) : Nat → Option (Nat × Int)
  | 0 => none
  | steps + 1 =>
    match around.multiple? power with
    | some digits => some (digits, power)
    | none => shortestFrom around (power - 1) steps

def startPower (around : Neighborhood) : Int :=
  ((around.value.log2 : Int) - around.denominator.log2 + 1) * 30103 / 100000 + 1

def shortest? (around : Neighborhood) : Option (Nat × Int) :=
  around.shortestFrom around.startPower 24

end Neighborhood

def positional (digits : List Char) (whole : Int) : List Char :=
  if whole ≤ 0 then '0' :: '.' :: List.replicate (-whole).toNat '0' ++ digits
  else
    let width := whole.toNat
    let padded := digits ++ List.replicate (width - digits.length) '0'
    let fraction := padded.drop width
    padded.take width ++ '.' :: if fraction.isEmpty then ['0'] else fraction

def scientific (digits : List Char) (power : Int) : List Char :=
  let mantissa :=
    match digits with
    | first :: second :: rest => first :: '.' :: second :: rest
    | digits => digits
  mantissa ++ 'e' :: (toString power).toList

def notated (digits : List Char) (whole : Int) : List Char :=
  if -4 < whole ∧ whole ≤ 16 then positional digits whole else scientific digits (whole - 1)

def Binary64.text : Binary64 → String
  | .nan _ => "NaN"
  | .infinite negative => if negative then "-inf" else "inf"
  | .finite negative significand exponent =>
    let digits :=
      if significand = 0 then ['0', '.', '0']
      else
        match (Neighborhood.ofFinite significand exponent).shortest? with
        | some (number, power) =>
          let digits := Nat.toDigits 10 number
          notated digits (power + digits.length)
        | none => []
    String.ofList (if negative then '-' :: digits else digits)

end DocAudit.Decimal
