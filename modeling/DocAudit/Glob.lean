import DocAudit.FileAccess
import DocAudit.Text.Parts

set_option autoImplicit false

namespace DocAudit

structure GlobRange where
  low : Char
  high : Char
deriving DecidableEq, Repr

namespace GlobRange

def contains (range : GlobRange) (c : Char) : Bool :=
  range.low.toNat ≤ c.toNat && c.toNat ≤ range.high.toNat

def listOf : List Char → List GlobRange
  | low :: '-' :: high :: rest => ⟨low, high⟩ :: listOf rest
  | c :: rest => ⟨c, c⟩ :: listOf rest
  | [] => []

end GlobRange

inductive GlobToken where
  | char (c : Char)
  | anyChar
  | anyOf (ranges : List GlobRange)
  | noneOf (ranges : List GlobRange)
  | anySequence
  | anyTree
deriving DecidableEq, Repr

namespace GlobToken

def accepts : GlobToken → Char → Bool
  | .char c, d => c == d
  | .anyChar, _ => true
  | .anyOf ranges, d => ranges.any (·.contains d)
  | .noneOf ranges, d => !ranges.any (·.contains d)
  | .anySequence, _ => false
  | .anyTree, _ => false

def bracket? (make : List GlobRange → GlobToken) : List Char → Option (GlobToken × List Char)
  | [] => none
  | first :: rest =>
    match rest.dropWhile (· != ']') with
    | [] => none
    | _ :: after => some (make (GlobRange.listOf (first :: rest.takeWhile (· != ']'))), after)

def set? : List Char → Option (GlobToken × List Char)
  | '!' :: rest => bracket? .noneOf rest
  | rest => bracket? .anyOf rest

theorem length_lt_of_bracket? {make : List GlobRange → GlobToken} {text after : List Char}
    {token : GlobToken} (h : bracket? make text = some (token, after)) :
    after.length < text.length := by
  cases text with
  | nil => simp [bracket?] at h
  | cons first rest =>
    simp only [bracket?] at h
    split at h
    · simp at h
    · rename_i mark found heq
      have bound := (List.dropWhile_sublist (l := rest) (· != ']')).length_le
      simp only [Option.some.injEq, Prod.mk.injEq] at h
      rw [heq] at bound
      simp only [List.length_cons] at bound ⊢
      rw [← h.2]
      omega

theorem length_lt_of_set? {text after : List Char} {token : GlobToken}
    (h : set? text = some (token, after)) : after.length < text.length := by
  unfold set? at h
  split at h
  · have := length_lt_of_bracket? h
    simp only [List.length_cons]
    omega
  · exact length_lt_of_bracket? h

/-- Tokens of a pattern, of which `atBoundary` says whether a path component starts here. Two
stars have to fill a component; the slash behind them belongs to them. -/
def parseFrom? (atBoundary : Bool) (text : List Char) : Option (List GlobToken) :=
  match text with
  | [] => some []
  | '?' :: rest => (parseFrom? false rest).map (.anyChar :: ·)
  | '*' :: '*' :: rest =>
    if atBoundary then
      match rest with
      | [] => some [.anyTree]
      | '/' :: after => (parseFrom? true after).map (.anyTree :: ·)
      | _ => none
    else none
  | '*' :: rest => (parseFrom? false rest).map (.anySequence :: ·)
  | '[' :: rest =>
    match h : set? rest with
    | none => none
    | some (token, after) =>
      have := length_lt_of_set? h
      (parseFrom? false after).map (token :: ·)
  | c :: rest => (parseFrom? (c == '/') rest).map (.char c :: ·)
termination_by text.length
decreasing_by all_goals simp_all +arith <;> omega

end GlobToken

structure Glob where
  tokens : List GlobToken
deriving DecidableEq, Repr

namespace Glob

def parse? (text : List Char) : Option Glob := (GlobToken.parseFrom? true text).map Glob.mk

def afterSlashes : List Char → List (List Char)
  | [] => []
  | c :: rest => if c = '/' then rest :: afterSlashes rest else afterSlashes rest

def matchesTokens : List GlobToken → List Char → Bool
  | [], text => text.isEmpty
  | .anySequence :: tokens, text => (Text.suffixes text).any (matchesTokens tokens)
  | .anyTree :: tokens, text =>
    tokens.isEmpty || (text :: afterSlashes text).any (matchesTokens tokens)
  | _ :: _, [] => false
  | token :: tokens, c :: text => token.accepts c && matchesTokens tokens text

def accepts (glob : Glob) (text : List Char) : Bool := matchesTokens glob.tokens text

def literal? (glob : Glob) : Option (List Char) :=
  glob.tokens.mapM fun token =>
    match token with
    | .char c => some c
    | _ => none

end Glob

instance : GlobReader := ⟨fun pattern => (Glob.parse? pattern).map Glob.accepts⟩

end DocAudit
