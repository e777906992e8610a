import DocAudit.Toml.Text
import DocAudit.Toml.Value

set_option autoImplicit false

namespace DocAudit.Toml

def digitRun (text : List Char) : List Char × List Char :=
  (text.takeWhile Char.isDigit, text.dropWhile Char.isDigit)

def decimalValue (digits : List Char) : Nat :=
  digits.foldl (fun n c => n * 10 + (c.toNat - 48)) 0

def groupedDigits? (isDigit : Char → Bool) : List Char → Option (List Char × List Char)
  | [] => none
  | c :: rest =>
    if isDigit c then
      match rest with
      | '_' :: after =>
        match groupedDigits? isDigit after with
        | some (digits, rest) => some (c :: digits, rest)
        | none => none
      | after =>
        match groupedDigits? isDigit after with
        | some (digits, rest) => some (c :: digits, rest)
        | none => some ([c], after)
    else none

def sign : List Char → Bool × List Char
  | '-' :: rest => (true, rest)
  | '+' :: rest => (false, rest)
  | text => (false, text)

def wholeDigits? (text : List Char) : Option (List Char × List Char) :=
  match text with
  | '0' :: rest => some (['0'], rest)
  | _ => groupedDigits? Char.isDigit text

def inRange? (n : Int) : Option Int :=
  if -0x8000000000000000 ≤ n ∧ n < 0x8000000000000000 then some n else none

def basedInt? (base : Nat) (text : List Char) : Option (Int × List Char) := do
  let (digits, rest) ← groupedDigits? (fun c => (hexValue? c).any (· < base)) text
  let value ← digits.foldlM (fun n c => (hexValue? c).map (n * base + ·)) 0
  let value ← inRange? value
  pure (value, rest)

def int? (text : List Char) : Option (Int × List Char) :=
  match text with
  | '0' :: 'x' :: rest => basedInt? 16 rest
  | '0' :: 'o' :: rest => basedInt? 8 rest
  | '0' :: 'b' :: rest => basedInt? 2 rest
  | _ => do
    let (negative, rest) := sign text
    let (digits, rest) ← wholeDigits? rest
    let value ← inRange? (if negative then -decimalValue digits else decimalValue digits)
    pure (value, rest)

def fraction? : List Char → Option (List Char × List Char)
  | '.' :: rest => groupedDigits? Char.isDigit rest
  | _ => none

def exponent? (text : List Char) : Option (Int × List Char) :=
  match text with
  | c :: rest =>
    if c = 'e' ∨ c = 'E' then do
      let (negative, rest) := sign rest
      let (digits, rest) ← groupedDigits? Char.isDigit rest
      pure (if negative then -decimalValue digits else decimalValue digits, rest)
    else none
  | [] => none

def floatTail? (text : List Char) : Option ((List Char × Int) × List Char) :=
  match text with
  | '.' :: _ => do
    let (fraction, rest) ← fraction? text
    match rest with
    | 'e' :: _ | 'E' :: _ => do
      let (power, rest) ← exponent? rest
      pure ((fraction, power), rest)
    | _ => pure ((fraction, 0), rest)
  | _ => do
    let (power, rest) ← exponent? text
    pure (([], power), rest)

def namedFloat? (negative : Bool) : List Char → Option (Decimal.Binary64 × List Char)
  | 'i' :: 'n' :: 'f' :: rest => some (.infinite negative, rest)
  | 'n' :: 'a' :: 'n' :: rest => some (.nan negative, rest)
  | _ => none

/-- A number with a fraction or a power. One that is too large is refused. -/
def float? (text : List Char) : Option (Decimal.Binary64 × List Char) :=
  let (negative, unsigned) := sign text
  match namedFloat? negative unsigned with
  | some result => some result
  | none => do
    let (whole, rest) ← wholeDigits? unsigned
    let ((fraction, power), rest) ← floatTail? rest
    let value := Decimal.Binary64.ofDecimal negative (decimalValue (whole ++ fraction))
      (power - fraction.length)
    if value = .infinite false then none else pure (value, rest)

def fixedNumber? (width low high : Nat) (text : List Char) : Option (Nat × List Char) :=
  let digits := text.take width
  let value := decimalValue digits
  if digits.length = width ∧ digits.all Char.isDigit ∧ low ≤ value ∧ value ≤ high then
    some (value, text.drop width)
  else none

def expect? (c : Char) : List Char → Option (List Char)
  | d :: rest => if c = d then some rest else none
  | [] => none

def isLeapYear (year : Nat) : Bool := year % 4 = 0 ∧ (year % 100 ≠ 0 ∨ year % 400 = 0)

def daysInMonth (year month : Nat) : Nat :=
  if month = 2 then if isLeapYear year then 29 else 28
  else if month = 4 ∨ month = 6 ∨ month = 9 ∨ month = 11 then 30
  else 31

def padded (width n : Nat) : String :=
  let digits := (toString n).toList
  String.ofList (List.replicate (width - digits.length) '0' ++ digits)

def date? (text : List Char) : Option (String × List Char) := do
  let (year, rest) ← fixedNumber? 4 0 9999 text
  let rest ← expect? '-' rest
  let (month, rest) ← fixedNumber? 2 1 12 rest
  let rest ← expect? '-' rest
  let (day, rest) ← fixedNumber? 2 1 (daysInMonth year month) rest
  pure (padded 4 year ++ "-" ++ padded 2 month ++ "-" ++ padded 2 day, rest)

def secondFraction (digits : List Char) : String :=
  let kept := ((digits.take 9).reverse.dropWhile (· == '0')).reverse
  if kept.isEmpty then "" else String.ofList ('.' :: kept)

def time? (text : List Char) : Option (String × List Char) := do
  let (hour, rest) ← fixedNumber? 2 0 23 text
  let rest ← expect? ':' rest
  let (minute, rest) ← fixedNumber? 2 0 59 rest
  let rest ← expect? ':' rest
  let (second, rest) ← fixedNumber? 2 0 60 rest
  let whole := padded 2 hour ++ ":" ++ padded 2 minute ++ ":" ++ padded 2 second
  match rest with
  | '.' :: rest =>
    let (digits, rest) := digitRun rest
    if digits.isEmpty then none else pure (whole ++ secondFraction digits, rest)
  | _ => pure (whole, rest)

def offset? (text : List Char) : Option (String × List Char) :=
  match text with
  | 'Z' :: rest => some ("Z", rest)
  | 'z' :: rest => some ("Z", rest)
  | c :: rest =>
    if c = '+' ∨ c = '-' then do
      let (hour, rest) ← fixedNumber? 2 0 23 rest
      let rest ← expect? ':' rest
      let (minute, rest) ← fixedNumber? 2 0 59 rest
      let mark := if c = '-' ∧ hour + minute ≠ 0 then "-" else "+"
      pure (mark ++ padded 2 hour ++ ":" ++ padded 2 minute, rest)
    else some ("", text)
  | [] => some ("", [])

def timeOfDay? (text : List Char) : Option (String × List Char) :=
  match text with
  | c :: rest =>
    if c = 'T' ∨ c = 't' ∨ c = ' ' then
      match time? rest with
      | none => none
      | some (time, rest) => (offset? rest).map fun (offset, rest) => ("T" ++ time ++ offset, rest)
    else none
  | [] => none

def datetime? (text : List Char) : Option (String × List Char) :=
  match date? text with
  | some (date, rest) =>
    match timeOfDay? rest with
    | some (time, rest) => some (date ++ time, rest)
    | none => some (date, rest)
  | none => time? text

def number? (text : List Char) : Option (Value × List Char) :=
  match datetime? text with
  | some (text, rest) => some (.datetime text, rest)
  | none =>
    match float? text with
    | some (value, rest) => some (.float value, rest)
    | none => (int? text).map fun (value, rest) => (.int value, rest)

end DocAudit.Toml
