import DocAudit.Text.Numbers

set_option autoImplicit false

namespace DocAudit.Toml

abbrev Reader (α : Type) := List Char → Option (α × List Char)

def isBlank (c : Char) : Bool := c == ' ' || c == '\t'

def skipBlanks (text : List Char) : List Char := text.dropWhile isBlank

def newline? : List Char → Option (List Char)
  | '\n' :: rest => some rest
  | '\r' :: '\n' :: rest => some rest
  | _ => none

def isPlain (c : Char) : Bool := c == '\t' || (0x20 ≤ c.toNat && c.toNat != 0x7F)

def skipComment : List Char → List Char
  | '#' :: rest => rest.dropWhile isPlain
  | text => text

def lineEnd? (text : List Char) : Option (List Char) :=
  match skipComment (skipBlanks text) with
  | [] => some []
  | rest => newline? rest

def skipLines : Nat → List Char → List Char
  | 0, text => text
  | fuel + 1, text =>
    match skipComment (skipBlanks text) with
    | [] => []
    | rest =>
      match newline? rest with
      | some rest => skipLines fuel rest
      | none => rest

def skipBetween (text : List Char) : List Char := skipLines text.length text

def skipBlankLines : Nat → List Char → List Char
  | 0, text => text
  | fuel + 1, text =>
    match newline? (skipBlanks text) with
    | some rest => skipBlankLines fuel rest
    | none => skipBlanks text

def hexValue? (c : Char) : Option Nat :=
  if c.isDigit then some (c.toNat - 0x30)
  else if 'a' ≤ c ∧ c ≤ 'f' then some (c.toNat - 0x57)
  else if 'A' ≤ c ∧ c ≤ 'F' then some (c.toNat - 0x37)
  else none

def hexNumber? (digits : List Char) : Option Nat :=
  digits.foldlM (fun n c => (hexValue? c).map (n * 16 + ·)) 0

def numberedChar? (width : Nat) (text : List Char) : Option (Char × List Char) :=
  if text.length < width then none
  else
    match hexNumber? (text.take width) with
    | none => none
    | some n => if n.isValidChar then some (Char.ofNat n, text.drop width) else none

def escape? : Reader Char
  | 'b' :: rest => some ('\x08', rest)
  | 't' :: rest => some ('\t', rest)
  | 'n' :: rest => some ('\n', rest)
  | 'f' :: rest => some ('\x0c', rest)
  | 'r' :: rest => some ('\r', rest)
  | '"' :: rest => some ('"', rest)
  | '\\' :: rest => some ('\\', rest)
  | 'u' :: rest => numberedChar? 4 rest
  | 'U' :: rest => numberedChar? 8 rest
  | _ => none

def basicBody? : Nat → List Char → Option (List Char × List Char)
  | 0, _ => none
  | fuel + 1, text =>
    match text with
    | [] => none
    | '"' :: rest => some ([], rest)
    | '\\' :: rest =>
      match escape? rest with
      | none => none
      | some (c, rest) => (basicBody? fuel rest).map fun (body, rest) => (c :: body, rest)
    | c :: rest =>
      if isPlain c then (basicBody? fuel rest).map fun (body, rest) => (c :: body, rest) else none

def literalBody? : List Char → Option (List Char × List Char)
  | [] => none
  | '\'' :: rest => some ([], rest)
  | c :: rest =>
    if isPlain c then (literalBody? rest).map fun (body, rest) => (c :: body, rest) else none

/-- A run of quotes inside a long string: fewer than three are text; of more, the last three
close the string, and at most two stand before them. -/
def quotes (quote : Char) (text : List Char) : List Char × Option (List Char) × List Char :=
  let count := (text.takeWhile (· == quote)).length
  let kept := if count < 3 then count else min (count - 3) 2
  (List.replicate kept quote, if count < 3 then none else some (text.drop (kept + 3)),
    text.drop kept)

def longBody? (quote : Char) : Nat → List Char → Option (List Char × List Char)
  | 0, _ => none
  | fuel + 1, text =>
    match text with
    | [] => none
    | c :: rest =>
      if c = quote then
        match quotes quote text with
        | (kept, some after, _) => some (kept, after)
        | (kept, none, after) =>
          (longBody? quote fuel after).map fun (body, rest) => (kept ++ body, rest)
      else if c = '\\' ∧ quote = '"' then
        match newline? (skipBlanks rest) with
        | some after => longBody? quote fuel (skipBlankLines after.length after)
        | none =>
          match escape? rest with
          | none => none
          | some (c, rest) =>
            (longBody? quote fuel rest).map fun (body, rest) => (c :: body, rest)
      else
        match newline? text with
        | some after => (longBody? quote fuel after).map fun (body, rest) => ('\n' :: body, rest)
        | none =>
          if isPlain c then
            (longBody? quote fuel rest).map fun (body, rest) => (c :: body, rest)
          else none

def longString? (quote : Char) (text : List Char) : Option (List Char × List Char) :=
  let body := (newline? text).getD text
  longBody? quote (body.length + 1) body

def shortString? : Reader (List Char)
  | '"' :: rest => basicBody? (rest.length + 1) rest
  | '\'' :: rest => literalBody? rest
  | _ => none

def string? : Reader (List Char)
  | '"' :: '"' :: '"' :: rest => longString? '"' rest
  | '\'' :: '\'' :: '\'' :: rest => longString? '\'' rest
  | text => shortString? text

def isKeyChar (c : Char) : Bool := c.isAlphanum || c == '-' || c == '_'

def simpleKey? (text : List Char) : Option (String × List Char) :=
  match text with
  | '"' :: _ | '\'' :: _ => (shortString? text).map fun (key, rest) => (String.ofList key, rest)
  | _ =>
    let key := text.takeWhile isKeyChar
    if key.isEmpty then none else some (String.ofList key, text.dropWhile isKeyChar)

def keyParts? : Nat → List Char → Option (List String × List Char)
  | 0, _ => none
  | fuel + 1, text =>
    match simpleKey? (skipBlanks text) with
    | none => none
    | some (key, rest) =>
      match skipBlanks rest with
      | '.' :: rest => (keyParts? fuel rest).map fun (keys, rest) => (key :: keys, rest)
      | rest => some ([key], rest)

def depthLimit : Nat := 80

def key? (text : List Char) : Option (List String × List Char) := keyParts? (depthLimit - 1) text

end DocAudit.Toml
