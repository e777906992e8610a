import DocAudit.Comment
import DocAudit.Java.Lexeme
import DocAudit.Text.IdentifierChar

set_option autoImplicit false

namespace DocAudit.Java

def isSpace (c : Char) : Bool :=
  c == ' ' || (9 ≤ c.toNat && c.toNat ≤ 13)

structure Cut where
  taken : List Char
  rest : List Char

namespace Cut

def none (text : List Char) : Cut := ⟨[], text⟩

def run (p : Char → Bool) (text : List Char) : Cut := ⟨text.takeWhile p, text.dropWhile p⟩

def one (p : Char → Bool) (text : List Char) : Cut :=
  match text with
  | c :: rest => if p c then ⟨[c], rest⟩ else none text
  | [] => none text

def andThen (cut : Cut) (next : List Char → Cut) : Cut :=
  let later := next cut.rest
  ⟨cut.taken ++ later.taken, later.rest⟩

end Cut

def isHexDigit (c : Char) : Bool :=
  c.isDigit || ('a' ≤ c && c ≤ 'f') || ('A' ≤ c && c ≤ 'F')

def isOctalDigit (c : Char) : Bool := '0' ≤ c && c ≤ '7'

def digits (isDigit : Char → Bool) (text : List Char) : Cut :=
  match text with
  | c :: _ =>
    if isDigit c then
      let run := text.takeWhile fun c => isDigit c || c == '_'
      let kept := (run.reverse.dropWhile (· == '_')).reverse
      ⟨kept, text.drop kept.length⟩
    else .none text
  | [] => .none text

def longMark (text : List Char) : Cut := Cut.one (fun c => c == 'l' || c == 'L') text

def floatMark (text : List Char) : Cut :=
  Cut.one (fun c => c == 'f' || c == 'F' || c == 'd' || c == 'D') text

def exponent (isMark : Char → Bool) (text : List Char) : Cut :=
  let head := (Cut.one isMark text).andThen (Cut.one fun c => c == '+' || c == '-')
  let power := digits Char.isDigit head.rest
  if (Cut.one isMark text).taken.isEmpty || power.taken.isEmpty then .none text
  else ⟨head.taken ++ power.taken, power.rest⟩

def isDecimalExponent (c : Char) : Bool := c == 'e' || c == 'E'

def isAnyExponent (c : Char) : Bool := isDecimalExponent c || c == 'p' || c == 'P'

def fraction (text : List Char) : Cut :=
  (((Cut.one (· == '.') text).andThen (digits Char.isDigit)).andThen
    (exponent isDecimalExponent)).andThen floatMark

def decimalNumber (text : List Char) : Cut :=
  let whole := digits Char.isDigit text
  if whole.rest.head? == some '.' then whole.andThen fraction
  else
    let power := exponent isAnyExponent whole.rest
    if !power.taken.isEmpty then (whole.andThen (exponent isAnyExponent)).andThen floatMark
    else if !(floatMark whole.rest).taken.isEmpty then whole.andThen floatMark
    else if whole.taken.head? == some '0' && !whole.taken.all fun c => isOctalDigit c || c == '_'
    then Cut.one (· == '0') text
    else whole.andThen longMark

def hexNumber (marked : List Char) : Cut :=
  let head : Cut := ⟨marked.take 2, marked.drop 2⟩
  let body := (head.andThen (digits isHexDigit)).andThen fun rest =>
    (Cut.one (· == '.') rest).andThen (digits isHexDigit)
  let power := exponent isAnyExponent body.rest
  if !power.taken.isEmpty then (body.andThen (exponent isAnyExponent)).andThen floatMark
  else body.andThen longMark

def basedNumber (isDigit : Char → Bool) (marked : List Char) : Cut :=
  let head : Cut := ⟨marked.take 2, marked.drop 2⟩
  (head.andThen (digits isDigit)).andThen longMark

def number (text : List Char) : Cut :=
  match text with
  | '0' :: c :: _ =>
    if c == 'x' || c == 'X' then hexNumber text
    else if c == 'b' || c == 'B' then basedNumber (fun c => c == '0' || c == '1') text
    else if c == 'o' || c == 'O' then basedNumber isOctalDigit text
    else decimalNumber text
  | '.' :: _ => fraction text
  | _ => decimalNumber text

def escapeLength? : List Char → Option Nat
  | 'u' :: '{' :: rest =>
    let run := (rest.takeWhile isHexDigit).length
    if run != 0 && (rest.drop run).head? == some '}' then some (run + 3) else none
  | 'u' :: rest =>
    if 4 ≤ rest.length && (rest.take 4).all isHexDigit then some 5 else none
  | 'x' :: rest =>
    if 2 ≤ rest.length && (rest.take 2).all isHexDigit then some 3 else none
  | _ :: _ => some 1
  | [] => none

structure BodyEnd where
  length : Nat
  inserts : Bool

namespace BodyEnd

def after (count : Nat) (stop : BodyEnd) : BodyEnd := { stop with length := stop.length + count }

def ofString? : Nat → List Char → Option BodyEnd
  | 0, _ => none
  | fuel + 1, text =>
    match text with
    | [] => none
    | '"' :: _ => some ⟨1, false⟩
    | '\\' :: '{' :: _ => some ⟨2, true⟩
    | '\\' :: rest =>
      match escapeLength? rest with
      | none => none
      | some n => (ofString? fuel (rest.drop n)).map (after (n + 1))
    | _ :: rest => (ofString? fuel rest).map (after 1)

def ofTextBlock? : List Char → Option BodyEnd
  | [] => none
  | '"' :: '"' :: '"' :: _ => some ⟨3, false⟩
  | '\\' :: '{' :: _ => some ⟨2, true⟩
  | '\\' :: _ :: rest => (ofTextBlock? rest).map (after 2)
  | _ :: rest => (ofTextBlock? rest).map (after 1)

end BodyEnd

def characterLength? : List Char → Option Nat
  | [] => none
  | '\'' :: _ => some 1
  | '\n' :: _ => none
  | '\\' :: _ :: rest => (characterLength? rest).map (· + 2)
  | _ :: rest => (characterLength? rest).map (· + 1)

def character? (text : List Char) : Option Cut :=
  match text with
  | '\'' :: '\'' :: _ => none
  | '\'' :: rest => (characterLength? rest).map fun n => ⟨text.take (n + 1), text.drop (n + 1)⟩
  | _ => none

inductive Quoting where
  | single
  | block
deriving DecidableEq, Repr

namespace Quoting

def ofText? : List Char → Option (Quoting × Nat)
  | '"' :: '"' :: '"' :: _ => some (.block, 3)
  | '"' :: _ => some (.single, 1)
  | _ => none

def bodyEnd? : Quoting → List Char → Option BodyEnd
  | .single, text => BodyEnd.ofString? (text.length + 1) text
  | .block, text => BodyEnd.ofTextBlock? text

def part? (quoting : Quoting) (count : Nat) (text : List Char) : Option (Bool × Cut) :=
  (quoting.bodyEnd? (text.drop count)).map fun stop =>
    (stop.inserts, ⟨text.take (count + stop.length), text.drop (count + stop.length)⟩)

end Quoting

def marks : List (List Char) :=
  ["...", "->", "::", "++", "--", "&&", "||", "==", "!=", "<<=", "<<", "<=", "+=", "-=", "*=", "/=",
    "&=", "|=", "^=", "%=", "(", ")", "\x7b", "\x7d", "[", "]", ";", ",", ".", "@", "=", ">", "<",
    "!", "~", "?", ":", "+", "-", "*", "/", "&", "|", "^", "%"].map String.toList

def mark? (text : List Char) : Option Cut :=
  (marks.find? fun mark => mark.isPrefixOf text).map fun mark =>
    ⟨mark, text.drop mark.length⟩

def blockCommentLength? : List Char → Option Nat
  | [] => none
  | '*' :: '/' :: _ => some 2
  | _ :: rest => (blockCommentLength? rest).map (· + 1)

def comment? (text : List Char) : Option (CommentStyle × Cut) :=
  match text with
  | '/' :: '/' :: _ => some (.line, Cut.run (· != '\n') text)
  | '/' :: '*' :: rest =>
    (blockCommentLength? rest).map fun n => (.block, ⟨text.take (n + 2), text.drop (n + 2)⟩)
  | _ => none

def lexeme? (text : List Char) : Option (LexemeKind × Cut) :=
  match text with
  | [] => none
  | c :: rest =>
    if Text.isIdentifierStart c then some (.word, Cut.run Text.isIdentifierPart text)
    else if c.isDigit || (c == '.' && rest.head?.any Char.isDigit) then some (.number, number text)
    else if c == '\'' then (character? text).map fun cut => (.text, cut)
    else (mark? text).map fun cut => (.mark, cut)

structure OpenText where
  quoting : Quoting
  braces : Nat

structure Lexing where
  lexemes : List Lexeme
  comments : List Node
  position : Position
  joined : Bool
  texts : List OpenText

namespace Lexing

def skip (lexing : Lexing) (taken : List Char) : Lexing :=
  { lexing with position := lexing.position.advance taken, joined := false }

def commentNode (style : CommentStyle) (start stop : Position) : Node :=
  .mk ⟨match style with | .block => "block_comment" | .line => "line_comment", none, true, true,
    false, false, start, stop⟩ []

def pushComment (lexing : Lexing) (style : CommentStyle) (taken : List Char) : Lexing :=
  let next := lexing.skip taken
  { next with comments := commentNode style lexing.position next.position :: lexing.comments }

def pushLexeme (lexing : Lexing) (kind : LexemeKind) (taken : List Char) : Lexing :=
  let stop := lexing.position.advance taken
  { lexing with
    lexemes := ⟨kind, String.ofList taken, lexing.position, stop, lexing.joined⟩ :: lexing.lexemes
    position := stop
    joined := true }

def countBrace (lexing : Lexing) (c : Char) : Lexing :=
  match lexing.texts with
  | [] => lexing
  | text :: outer =>
    if c = '{' then { lexing with texts := ⟨text.quoting, text.braces + 1⟩ :: outer }
    else if c = '}' then { lexing with texts := ⟨text.quoting, text.braces - 1⟩ :: outer }
    else lexing

def resumed? (lexing : Lexing) (c : Char) : Option (Quoting × List OpenText) :=
  match lexing.texts with
  | ⟨quoting, 0⟩ :: outer => if c = '}' then some (quoting, outer) else none
  | _ => none

def step? (lexing : Lexing) (text : List Char) : Option (Lexing × List Char) :=
  match text.head?.bind lexing.resumed?, Quoting.ofText? text with
  | some (quoting, outer), _ =>
    (quoting.part? 1 text).map fun (inserts, cut) =>
      if inserts then
        ({ lexing with texts := ⟨quoting, 0⟩ :: outer }.pushLexeme .textMiddle cut.taken, cut.rest)
      else ({ lexing with texts := outer }.pushLexeme .textEnd cut.taken, cut.rest)
  | none, some (quoting, count) =>
    (quoting.part? count text).map fun (inserts, cut) =>
      if inserts then
        ({ lexing with texts := ⟨quoting, 0⟩ :: lexing.texts }.pushLexeme .textStart cut.taken,
          cut.rest)
      else (lexing.pushLexeme .text cut.taken, cut.rest)
  | none, none =>
    (lexeme? text).map fun (kind, cut) =>
      ((text.head?.map lexing.countBrace |>.getD lexing).pushLexeme kind cut.taken, cut.rest)

def run? : Nat → Lexing → List Char → Option Lexing
  | 0, _, _ => none
  | _ + 1, lexing, [] => some lexing
  | fuel + 1, lexing, c :: rest =>
    if isSpace c then run? fuel (lexing.skip [c]) rest
    else
      match comment? (c :: rest) with
      | some (style, cut) => run? fuel (lexing.pushComment style cut.taken) cut.rest
      | none => (lexing.step? (c :: rest)).bind fun (lexing, rest) => run? fuel lexing rest

end Lexing

structure Lexed where
  lexemes : List Lexeme
  comments : List Node

def lex? (text : List Char) : Option Lexed :=
  let start : Lexing := ⟨[], [], .start, false, []⟩
  let finished :=
    match text with
    | '\uFEFF' :: rest => Lexing.run? (text.length + 1) (start.skip ['\uFEFF']) rest
    | _ => Lexing.run? (text.length + 1) start text
  finished.map fun lexing => ⟨lexing.lexemes.reverse, lexing.comments.reverse⟩

end DocAudit.Java
