import DocAudit.Pattern.CharSet

set_option autoImplicit false

namespace DocAudit.Pattern

inductive Boundary where
  | textStart
  | textEnd
  | lineStart
  | lineEnd
  | lineStartWithReturn
  | lineEndWithReturn
  | wordEdge (ascii : Bool)
  | notWordEdge (ascii : Bool)
  | wordStart (ascii : Bool)
  | wordEnd (ascii : Bool)
  | wordStartHalf (ascii : Bool)
  | wordEndHalf (ascii : Bool)
deriving DecidableEq, Repr

inductive Regex where
  | empty
  | char (set : CharSet)
  | boundary (kind : Boundary)
  | seq (a b : Regex)
  | alt (a b : Regex)
  | loop (body : Regex) (least : Nat) (most : Option Nat)

structure Place where
  offset : Nat
  before : Option Char
  rest : List Char
deriving DecidableEq, Repr

namespace Place

def start (text : List Char) : Place := ⟨0, none, text⟩

def next? (place : Place) : Option (Char × Place) :=
  match place.rest with
  | [] => none
  | c :: rest => some (c, ⟨place.offset + 1, some c, rest⟩)

def following (place : Place) : List Place :=
  go place.offset place.before place.rest
where
  go (offset : Nat) (before : Option Char) : List Char → List Place
    | [] => [⟨offset, before, []⟩]
    | c :: rest => ⟨offset, before, c :: rest⟩ :: go (offset + 1) (some c) rest

end Place

def isWordAt (ascii : Bool) (c : Option Char) : Bool :=
  c.any fun c => if ascii then Text.isAsciiWord c else Text.isWord c

def Boundary.holds (kind : Boundary) (before after : Option Char) : Bool :=
  match kind with
  | .textStart => before.isNone
  | .textEnd => after.isNone
  | .lineStart => before.all (· == '\n')
  | .lineEnd => after.all (· == '\n')
  | .lineStartWithReturn =>
    before.all fun c => c == '\n' || (c == '\r' && after != some '\n')
  | .lineEndWithReturn =>
    after.all fun c => c == '\r' || (c == '\n' && before != some '\r')
  | .wordEdge ascii => isWordAt ascii before != isWordAt ascii after
  | .notWordEdge ascii => isWordAt ascii before == isWordAt ascii after
  | .wordStart ascii => !isWordAt ascii before && isWordAt ascii after
  | .wordEnd ascii => isWordAt ascii before && !isWordAt ascii after
  | .wordStartHalf ascii => !isWordAt ascii before
  | .wordEndHalf ascii => !isWordAt ascii after

abbrev Places := List Place

def Places.union : Places → Places → Places
  | [], bs => bs
  | as, [] => as
  | a :: as, b :: bs =>
    if a.offset < b.offset then a :: union as (b :: bs)
    else if b.offset < a.offset then b :: union (a :: as) bs
    else a :: union as bs
termination_by as bs => as.length + bs.length

def Places.without : Places → Places → Places
  | [], _ => []
  | as, [] => as
  | a :: as, b :: bs =>
    if a.offset < b.offset then a :: without as (b :: bs)
    else if b.offset < a.offset then without (a :: as) bs
    else without as bs
termination_by as bs => as.length + bs.length

def Places.closure (step : Places → Places) : Nat → Places → Places → Places
  | 0, _, seen => seen
  | rounds + 1, frontier, seen =>
    let fresh := (step frontier).without seen
    if fresh.isEmpty then seen else closure step rounds fresh (seen.union fresh)

def Places.iterate (step : Places → Places) : Nat → Places → Places
  | 0, places => places
  | n + 1, places => if places.isEmpty then [] else iterate step n (step places)

def Places.upTo (step : Places → Places) : Nat → Places → Places → Places
  | 0, _, seen => seen
  | n + 1, frontier, seen =>
    let fresh := (step frontier).without seen
    if fresh.isEmpty then seen else upTo step n fresh (seen.union fresh)

namespace Regex

def advance (size : Nat) : Regex → Places → Places
  | .empty, places => places
  | .char set, places =>
    places.filterMap fun place =>
      place.next?.bind fun (c, next) => if set.contains c then some next else none
  | .boundary kind, places => places.filter fun place => kind.holds place.before place.rest.head?
  | .seq a b, places => advance size b (advance size a places)
  | .alt a b, places => (advance size a places).union (advance size b places)
  | .loop body least most, places =>
    let reached := Places.iterate (advance size body) least places
    match most with
    | none => Places.closure (advance size body) (size + 1) reached reached
    | some most => Places.upTo (advance size body) (most - least) reached reached

def size : Regex → Nat
  | .empty => 0
  | .char set => max 1 set.rangeCount
  | .boundary _ => 1
  | .seq a b => a.size + b.size
  | .alt a b => a.size + b.size + 1
  | .loop body least none => max least 1 * body.size + 1
  | .loop body least (some most) => least * body.size + (most - least) * (body.size + 1)

def matchesWithin (regex : Regex) (text : List Char) : Bool :=
  !(regex.advance text.length (Place.start text).following).isEmpty

end Regex

-- A library that reads patterns. What it takes for one is its own affair.
class Reader where
  read? : List Char → Option Regex

namespace Reader

variable [Reader]

def anchored (source : List Char) : List Char :=
  "\\A(?:".toList ++ source ++ ")\\z".toList

def whole? (source : List Char) : Option Regex := read? (anchored source)

-- As above, but here the dot takes line ends too.
def wholeWithLineEnds? (source : List Char) : Option Regex :=
  read? ("(?s)".toList ++ anchored source)

end Reader

end DocAudit.Pattern
