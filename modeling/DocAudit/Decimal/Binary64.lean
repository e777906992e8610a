set_option autoImplicit false

namespace DocAudit.Decimal

inductive Binary64 where
  | nan (negative : Bool)
  | infinite (negative : Bool)
  | finite (negative : Bool) (significand : Nat) (exponent : Int)
deriving DecidableEq, Repr

namespace Binary64

def leastExponent : Int := -1074

def greatestExponent : Int := 971

def significandBits : Nat := 53

def roundQuotient (numerator denominator : Nat) : Nat :=
  let quotient := numerator / denominator
  let twice := 2 * (numerator % denominator)
  if twice < denominator then quotient
  else if denominator < twice then quotient + 1
  else quotient + quotient % 2

def scaled (numerator denominator : Nat) (exponent : Int) : Nat :=
  if 0 ≤ exponent then roundQuotient numerator (denominator * Nat.pow 2 exponent.toNat)
  else roundQuotient (numerator * Nat.pow 2 (-exponent).toNat) denominator

/-- The exponent at which the quotient has all significant bits, as near as it can be told from
the lengths of numerator and denominator; it is at most one too small. -/
def trialExponent (numerator denominator : Nat) : Int :=
  max leastExponent ((numerator.log2 : Int) - denominator.log2 - significandBits)

def ofQuotient (negative : Bool) (numerator denominator : Nat) : Binary64 :=
  let trial := trialExponent numerator denominator
  let fits := scaled numerator denominator trial < Nat.pow 2 significandBits
  let exponent := if fits then trial else trial + 1
  let significand := scaled numerator denominator exponent
  let (significand, exponent) :=
    if significand < Nat.pow 2 significandBits then (significand, exponent)
    else (significand / 2, exponent + 1)
  if greatestExponent < exponent then .infinite negative
  else .finite negative significand exponent

def ofDecimal (negative : Bool) (digits : Nat) (power : Int) : Binary64 :=
  if digits = 0 then .finite negative 0 leastExponent
  else
    let magnitude := power + (Nat.toDigits 10 digits).length
    if 400 < magnitude then .infinite negative
    else if magnitude < -400 then .finite negative 0 leastExponent
    else if 0 ≤ power then ofQuotient negative (digits * Nat.pow 10 power.toNat) 1
    else ofQuotient negative digits (Nat.pow 10 (-power).toNat)

end Binary64

end DocAudit.Decimal
