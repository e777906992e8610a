import DocAudit.Pattern.Basic

set_option autoImplicit false

namespace DocAudit.Pattern

structure Flags where
  ignoreCase : Bool
  multiLine : Bool
  dotAll : Bool
  returns : Bool
  ascii : Bool
  verbose : Bool
deriving DecidableEq, Repr

def Flags.standard : Flags := ⟨false, false, false, false, false, false⟩

namespace Parser

def skipSpace (verbose : Bool) : List Char → List Char
  | [] => []
  | c :: rest =>
    if !verbose then c :: rest
    else if Text.isBlank c then skipSpace verbose rest
    else if c == '#' then skipComment verbose rest
    else c :: rest
where
  skipComment (verbose : Bool) : List Char → List Char
    | [] => []
    | c :: rest => if c == '\n' then skipSpace verbose rest else skipComment verbose rest

def hexValue? (c : Char) : Option Nat :=
  if c.isDigit then some (c.toNat - 48)
  else if 'a'.toNat ≤ c.toNat && c.toNat ≤ 'f'.toNat then some (c.toNat - 87)
  else if 'A'.toNat ≤ c.toNat && c.toNat ≤ 'F'.toNat then some (c.toNat - 55)
  else none

def hexNumber? (digits : List Char) : Option Nat :=
  if digits.isEmpty then none
  else digits.foldlM (fun n c => (hexValue? c).map (n * 16 + ·)) 0

def charOf? (n : Nat) : Option Char :=
  if n < 0xD800 || (0xDFFF < n && n ≤ 0x10FFFF) then some (Char.ofNat n) else none

def braced? (text : List Char) : Option (List Char × List Char) :=
  match text.dropWhile (· != '}') with
  | '}' :: rest => some (text.takeWhile (· != '}'), rest)
  | _ => none

def hexEscape? (digits : Nat) (text : List Char) : Option (Char × List Char) :=
  match text with
  | '{' :: rest => do
    let (body, rest) ← braced? rest
    pure (← charOf? (← hexNumber? body), rest)
  | _ =>
    if text.length < digits then none
    else do pure (← charOf? (← hexNumber? (text.take digits)), text.drop digits)

inductive Escape where
  | literal (c : Char)
  | set (chars : CharSet)
  | boundary (kind : Boundary)

def orComplement (negated : Bool) (set : CharSet) : CharSet :=
  if negated then .compl set else set

def foldIf (ignoreCase : Bool) (set : CharSet) : CharSet :=
  if ignoreCase then .folded set else set

def splitProperty (body : List Char) : List Char × Option (Bool × List Char) :=
  match body with
  | [] => ([], none)
  | '!' :: '=' :: rest => ([], some (true, rest))
  | ':' :: rest => ([], some (false, rest))
  | '=' :: rest => ([], some (false, rest))
  | c :: rest =>
    let (kind, value) := splitProperty rest
    (c :: kind, value)

def propertyEscape? (flags : Flags) (negated : Bool) (text : List Char) :
    Option (CharSet × List Char) := do
  if flags.ascii then failure
  let (body, rest) ← match text with
    | '{' :: rest => braced? rest
    | c :: rest => if c == '\\' then none else some ([c], rest)
    | [] => none
  let braced := text.head? == some '{'
  let (negated, body) := match body with
    | '^' :: inner => if braced then (!negated, inner) else (negated, body)
    | _ => (negated, body)
  let (set, negated) ← match splitProperty body with
    | (name, none) => (CharSet.property? name).map fun set => (set, negated)
    | (kind, some (unequal, value)) =>
      (CharSet.propertyValue? kind value).map fun set => (set, negated != unequal)
  pure (orComplement negated (foldIf flags.ignoreCase set), rest)

def isMeta (c : Char) : Bool := "\\.+*?()|[]\x7b\x7d^$#&-~".toList.contains c

/-- Besides the characters with a meaning every other ASCII character may be escaped, letters,
digits and angle brackets excepted. -/
def isEscapable (c : Char) : Bool :=
  isMeta c || (c.toNat < 128 && !c.isAlphanum && c != '<' && c != '>')

def wordEdgeName? (ascii : Bool) (text : List Char) : Option (Option (Boundary × List Char)) :=
  match text with
  | '{' :: rest =>
    match braced? rest with
    | none => some none
    | some (name, after) =>
      if name.head?.any (fun c => c.isAlpha || c == '-') then
        let word := String.ofList name
        if word == "start" then some (some (.wordStart ascii, after))
        else if word == "end" then some (some (.wordEnd ascii, after))
        else if word == "start-half" then some (some (.wordStartHalf ascii, after))
        else if word == "end-half" then some (some (.wordEndHalf ascii, after))
        else none
      else some none
  | _ => some none

def perlSet (flags : Flags) (unicode ascii : CharSet) (negated : Bool) : Option CharSet :=
  if flags.ascii then (if negated then none else some ascii)
  else some (orComplement negated unicode)

def escape? (flags : Flags) (text : List Char) : Option (Escape × List Char) :=
  match text with
  | [] => none
  | c :: rest =>
    let ascii := flags.ascii
    let set (chars : Option CharSet) : Option (Escape × List Char) :=
      chars.map fun chars => (.set chars, rest)
    let literal (code : Nat) : Option (Escape × List Char) :=
      some (.literal (Char.ofNat code), rest)
    if c.isDigit then none
    else if c == 'x' then (hexEscape? 2 rest).map fun (c, rest) => (.literal c, rest)
    else if c == 'u' then (hexEscape? 4 rest).map fun (c, rest) => (.literal c, rest)
    else if c == 'U' then (hexEscape? 8 rest).map fun (c, rest) => (.literal c, rest)
    else if c == 'p' then (propertyEscape? flags false rest).map fun (s, rest) => (.set s, rest)
    else if c == 'P' then (propertyEscape? flags true rest).map fun (s, rest) => (.set s, rest)
    else if c == 'd' then set (perlSet flags .digit .asciiDigit false)
    else if c == 'D' then set (perlSet flags .digit .asciiDigit true)
    else if c == 's' then set (perlSet flags .blank .asciiBlank false)
    else if c == 'S' then set (perlSet flags .blank .asciiBlank true)
    else if c == 'w' then set (perlSet flags .word .asciiWord false)
    else if c == 'W' then set (perlSet flags .word .asciiWord true)
    else if isEscapable c then some (.literal c, rest)
    else if c == 'a' then literal 7
    else if c == 'f' then literal 12
    else if c == 't' then literal 9
    else if c == 'n' then literal 10
    else if c == 'r' then literal 13
    else if c == 'v' then literal 11
    else if c == 'A' then some (.boundary .textStart, rest)
    else if c == 'z' then some (.boundary .textEnd, rest)
    else if c == 'B' then some (.boundary (.notWordEdge ascii), rest)
    else if c == '<' then some (.boundary (.wordStart ascii), rest)
    else if c == '>' then some (.boundary (.wordEnd ascii), rest)
    else if c == 'b' then
      match wordEdgeName? ascii rest with
      | none => none
      | some none => some (.boundary (.wordEdge ascii), rest)
      | some (some (kind, rest)) => some (.boundary kind, rest)
    else none

def classItem? (flags : Flags) (text : List Char) : Option ((Char ⊕ CharSet) × List Char) :=
  match text with
  | [] => none
  | '\\' :: rest =>
    match escape? flags rest with
    | some (.literal c, rest) => some (.inl c, rest)
    | some (.set set, rest) => some (.inr set, rest)
    | _ => none
  | c :: rest => some (.inl c, rest)

def classRange? (flags : Flags) (text : List Char) : Option (CharSet × List Char) := do
  let (first, rest) ← classItem? flags text
  let rest := skipSpace flags.verbose rest
  let alone : CharSet := match first with
    | .inl c => .single c
    | .inr set => set
  match rest with
  | [] => failure
  | '-' :: after =>
    match skipSpace flags.verbose after with
    | ']' :: _ => pure (alone, rest)
    | '-' :: _ => pure (alone, rest)
    | after => do
      let (second, after) ← classItem? flags after
      match first, second with
      | .inl low, .inl high =>
        if low.toNat ≤ high.toNat then pure (.range low.toNat high.toNat, after) else failure
      | _, _ => failure
  | _ => pure (alone, rest)

def asciiClass? (text : List Char) : Option (CharSet × List Char) := do
  let (negated, body) := match text with
    | '^' :: rest => (true, rest)
    | _ => (false, text)
  match body.dropWhile (· != ':') with
  | ':' :: ']' :: rest => do
    let set ← CharSet.asciiClass? (String.ofList (body.takeWhile (· != ':')))
    pure (orComplement negated set, rest)
  | _ => failure

inductive SetOperator where
  | inter
  | diff
  | symmDiff

def SetOperator.apply : SetOperator → CharSet → CharSet → CharSet
  | .inter, a, b => .inter a b
  | .diff, a, b => .diff a b
  | .symmDiff, a, b => .symmDiff a b

def joinOperands (ignoreCase : Bool) (left : Option (CharSet × SetOperator)) (items : CharSet) :
    CharSet :=
  match left with
  | none => items
  | some (left, operator) => operator.apply (foldIf ignoreCase left) (foldIf ignoreCase items)

def openClass (verbose : Bool) (text : List Char) : Bool × List Char :=
  match skipSpace verbose text with
  | '^' :: rest => (true, skipSpace verbose rest)
  | text => (false, text)

def leadingItems (text : List Char) : CharSet × List Char :=
  match text with
  | ']' :: rest => (.single ']', rest)
  | '-' :: rest => (.single '-', rest.dropWhile (· == '-'))
  | _ => (.nothing, text)

def classBody? (flags : Flags) : Nat → Option (CharSet × SetOperator) → CharSet → List Char →
    Option (CharSet × List Char)
  | 0, _, _, _ => none
  | fuel + 1, left, items, text =>
    let operate (operator : SetOperator) (rest : List Char) : Option (CharSet × List Char) :=
      let joined := joinOperands flags.ignoreCase left items
      classBody? flags fuel (some (joined, operator)) .nothing rest
    match skipSpace flags.verbose text with
    | [] => none
    | ']' :: rest => some (joinOperands flags.ignoreCase left items, rest)
    | '&' :: '&' :: rest => operate .inter rest
    | '-' :: '-' :: rest => operate .diff rest
    | '~' :: '~' :: rest => operate .symmDiff rest
    | '[' :: rest =>
      let named := match rest with
        | ':' :: inner => asciiClass? inner
        | _ => none
      match named with
      | some (set, rest) => classBody? flags fuel left (.union items set) rest
      | none =>
        let (negated, rest) := openClass flags.verbose rest
        let (leading, rest) := leadingItems rest
        match classBody? flags fuel none leading rest with
        | none => none
        | some (set, rest) =>
          let set := orComplement negated (foldIf flags.ignoreCase set)
          classBody? flags fuel left (.union items set) rest
    | text =>
      match classRange? flags text with
      | none => none
      | some (set, rest) => classBody? flags fuel left (.union items set) rest

def class? (flags : Flags) (text : List Char) : Option (CharSet × List Char) := do
  let (negated, rest) := openClass flags.verbose text
  let (leading, rest) := leadingItems rest
  let (set, rest) ← classBody? flags (text.length + 1) none leading rest
  if negated && flags.ascii then failure
  pure (orComplement negated (foldIf flags.ignoreCase set), rest)

def setFlag? (flags : Flags) (letter : Char) (value : Bool) : Option Flags :=
  if letter == 'i' then some { flags with ignoreCase := value }
  else if letter == 'm' then some { flags with multiLine := value }
  else if letter == 's' then some { flags with dotAll := value }
  else if letter == 'R' then some { flags with returns := value }
  else if letter == 'u' then some { flags with ascii := !value }
  else if letter == 'x' then some { flags with verbose := value }
  else if letter == 'U' then some flags
  else none

/-- Flag letters up to a colon or closing parenthesis. No letter occurs twice, and the hyphen
before the letters to switch off occurs once and not at the end. -/
def flags? (flags : Flags) (seen : List Char) (negated : Bool) :
    List Char → Option (Flags × List Char × List Char)
  | [] => none
  | c :: rest =>
    if c == ':' || c == ')' then
      if seen.head? == some '-' then none else some (flags, seen, c :: rest)
    else if c == '-' then
      if negated then none else flags? flags ('-' :: seen) true rest
    else if seen.contains c then none
    else
      match setFlag? flags c (!negated) with
      | none => none
      | some flags => flags? flags (c :: seen) negated rest

def groupName? (text : List Char) : Option (List Char × List Char) :=
  match text.dropWhile (· != '>') with
  | '>' :: rest =>
    let name := text.takeWhile (· != '>')
    match name with
    | [] => none
    | c :: more =>
      let isStart (c : Char) := c == '_' || Text.Category.alphabeticTable.contains c.toNat
      let isPart (c : Char) :=
        isStart c || c == '.' || c == '[' || c == ']' || CharSet.digit.contains c ||
          Text.Category.nlTable.contains c.toNat || Text.Category.noTable.contains c.toNat
      if isStart c && more.all isPart then some (name, rest) else none
  | _ => none

inductive GroupHead where
  | body (flags : Flags) (names : List (List Char)) (rest : List Char)
  | setFlags (flags : Flags) (rest : List Char)

def groupHead? (flags : Flags) (names : List (List Char)) (text : List Char) : Option GroupHead :=
  match text with
  | '?' :: '=' :: _ => none
  | '?' :: '!' :: _ => none
  | '?' :: '<' :: '=' :: _ => none
  | '?' :: '<' :: '!' :: _ => none
  | '?' :: 'P' :: '<' :: rest => named rest
  | '?' :: '<' :: rest => named rest
  | '?' :: rest =>
    match flags? flags [] false rest with
    | some (flags, _, ':' :: rest) => some (.body flags names rest)
    | some (flags, seen, ')' :: rest) => if seen.isEmpty then none else some (.setFlags flags rest)
    | _ => none
  | rest => some (.body flags names rest)
where
  named (rest : List Char) : Option GroupHead :=
    match groupName? rest with
    | some (name, rest) =>
      if names.contains name then none else some (.body flags (name :: names) rest)
    | none => none

def decimal? (text : List Char) : Option (Nat × List Char) :=
  let text := Text.trimStart text
  let digits := text.takeWhile Char.isDigit
  if digits.isEmpty then none
  else
    let n := digits.foldl (fun n c => n * 10 + (c.toNat - 48)) 0
    if n < 0x100000000 then some (n, Text.trimStart (text.dropWhile Char.isDigit)) else none

def counts? (text : List Char) : Option ((Nat × Option Nat) × List Char) := do
  let (least, rest) ← decimal? text
  match rest with
  | '}' :: rest => pure ((least, some least), rest)
  | ',' :: rest =>
    match Text.trimStart rest with
    | '}' :: rest => pure ((least, none), rest)
    | _ => do
      let (most, rest) ← decimal? rest
      match rest with
      | '}' :: rest => if least ≤ most then pure ((least, some most), rest) else failure
      | _ => failure
  | _ => failure

def dropLazyMark : List Char → List Char
  | '?' :: rest => rest
  | text => text

def literal (flags : Flags) (c : Char) : Regex := .char (foldIf flags.ignoreCase (.single c))

def dot? (flags : Flags) : Option Regex :=
  if flags.ascii then none
  else if flags.dotAll then some (.char (.compl .nothing))
  else if flags.returns then some (.char (.compl (.union (.single '\n') (.single '\r'))))
  else some (.char (.compl (.single '\n')))

def lineStart (flags : Flags) : Regex :=
  .boundary (if !flags.multiLine then .textStart
    else if flags.returns then .lineStartWithReturn else .lineStart)

def lineEnd (flags : Flags) : Regex :=
  .boundary (if !flags.multiLine then .textEnd
    else if flags.returns then .lineEndWithReturn else .lineEnd)

/-- One factor of a sequence, with the number of levels in it. A factor that only sets flags has
no expression and cannot be repeated. -/
structure Factor where
  regex : Option Regex
  depth : Nat

def sequence (factors : List Factor) : Regex :=
  factors.foldl (fun regex factor => factor.regex.elim regex fun factor => .seq factor regex) .empty

def sequenceDepth : List Factor → Nat
  | [] => 0
  | [factor] => factor.depth
  | factors => factors.foldl (fun depth factor => max depth factor.depth) 0 + 1

structure GroupState where
  flags : Flags
  names : List (List Char)
  alternatives : Option (Regex × Nat)
  factors : List Factor

namespace GroupState

def start (flags : Flags) (names : List (List Char)) : GroupState := ⟨flags, names, none, []⟩

def push (state : GroupState) (regex : Regex) (depth : Nat) : GroupState :=
  { state with factors := ⟨some regex, depth⟩ :: state.factors }

def setFlags (state : GroupState) (flags : Flags) : GroupState :=
  { state with flags, factors := ⟨none, 0⟩ :: state.factors }

def result (state : GroupState) : Regex :=
  match state.alternatives with
  | none => sequence state.factors
  | some (before, _) => .alt before (sequence state.factors)

def innerDepth (state : GroupState) : Nat :=
  match state.alternatives with
  | none => sequenceDepth state.factors
  | some (_, depth) => max depth (sequenceDepth state.factors)

def depth (state : GroupState) : Nat :=
  if state.alternatives.isSome then state.innerDepth + 1 else state.innerDepth

def bar (state : GroupState) : GroupState :=
  { state with alternatives := some (state.result, state.innerDepth), factors := [] }

def repeatLast? (state : GroupState) (least : Nat) (most : Option Nat) : Option GroupState :=
  match state.factors with
  | ⟨some regex, depth⟩ :: rest =>
    some { state with factors := ⟨some (.loop regex least most), depth + 1⟩ :: rest }
  | _ => none

end GroupState

def group? : Nat → GroupState → List Char → Option (GroupState × List Char)
  | 0, _, _ => none
  | fuel + 1, state, text =>
    match skipSpace state.flags.verbose text with
    | [] => some (state, [])
    | ')' :: rest => some (state, ')' :: rest)
    | '|' :: rest => group? fuel state.bar rest
    | '*' :: rest =>
      (state.repeatLast? 0 none).bind fun state => group? fuel state (dropLazyMark rest)
    | '+' :: rest =>
      (state.repeatLast? 1 none).bind fun state => group? fuel state (dropLazyMark rest)
    | '?' :: rest =>
      (state.repeatLast? 0 (some 1)).bind fun state => group? fuel state (dropLazyMark rest)
    | '{' :: rest =>
      match counts? rest with
      | none => none
      | some ((least, most), rest) =>
        (state.repeatLast? least most).bind fun state => group? fuel state (dropLazyMark rest)
    | '.' :: rest => (dot? state.flags).bind fun regex => group? fuel (state.push regex 0) rest
    | '^' :: rest => group? fuel (state.push (lineStart state.flags) 0) rest
    | '$' :: rest => group? fuel (state.push (lineEnd state.flags) 0) rest
    | '[' :: rest =>
      match class? state.flags rest with
      | none => none
      | some (set, rest) => group? fuel (state.push (.char set) 1) rest
    | '\\' :: rest =>
      match escape? state.flags rest with
      | none => none
      | some (.literal c, rest) => group? fuel (state.push (literal state.flags c) 0) rest
      | some (.set set, rest) => group? fuel (state.push (.char set) 0) rest
      | some (.boundary kind, rest) => group? fuel (state.push (.boundary kind) 0) rest
    | '(' :: rest =>
      match groupHead? state.flags state.names (skipSpace state.flags.verbose rest) with
      | none => none
      | some (.setFlags flags rest) =>
        group? fuel (state.setFlags flags) rest
      | some (.body flags names rest) =>
        match group? fuel (GroupState.start flags names) rest with
        | some (inner, ')' :: rest) =>
          group? fuel { state.push inner.result (inner.depth + 1) with names := inner.names } rest
        | _ => none
    | c :: rest => group? fuel (state.push (literal state.flags c) 0) rest

end Parser

def depthLimit : Nat := 250

def sizeLimit : Nat := 327680

def Regex.ofText? (text : List Char) : Option Regex :=
  match Parser.group? (text.length + 1) (Parser.GroupState.start Flags.standard []) text with
  | some (state, []) =>
    if state.depth ≤ depthLimit && state.result.size ≤ sizeLimit then some state.result else none
  | _ => none

instance : Reader := ⟨Regex.ofText?⟩

end DocAudit.Pattern
