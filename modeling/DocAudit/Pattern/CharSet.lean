import DocAudit.Text.Blank
import DocAudit.Text.CaseFolding
import DocAudit.Text.Category
import DocAudit.Text.WordChar

set_option autoImplicit false

namespace DocAudit.Pattern

inductive CharSet where
  | nothing
  | range (low high : Nat)
  | word
  | digit
  | blank
  | tables (sets : List Text.CodePointSet)
  | union (a b : CharSet)
  | inter (a b : CharSet)
  | diff (a b : CharSet)
  | symmDiff (a b : CharSet)
  | compl (a : CharSet)
  | folded (a : CharSet)

namespace CharSet

def single (c : Char) : CharSet := .range c.toNat c.toNat

def ofRanges (ranges : List (Nat × Nat)) : CharSet :=
  ranges.foldl (fun set bounds => .union set (.range bounds.1 bounds.2)) .nothing

def contains : CharSet → Char → Bool
  | .nothing, _ => false
  | .range low high, c => low ≤ c.toNat && c.toNat ≤ high
  | .word, c => Text.isWord c
  | .digit, c => if c.toNat < 128 then c.isDigit else Text.Category.ndTable.contains c.toNat
  | .blank, c => Text.isBlank c
  | .tables sets, c => sets.any (·.contains c.toNat)
  | .union a b, c => a.contains c || b.contains c
  | .inter a b, c => a.contains c && b.contains c
  | .diff a b, c => a.contains c && !b.contains c
  | .symmDiff a b, c => a.contains c != b.contains c
  | .compl a, c => !a.contains c
  | .folded a, c => (Text.caseVariants c).any a.contains

def rangeCount : CharSet → Nat
  | .nothing => 0
  | .range _ _ => 1
  | .word => Text.wordTable.rangeCount
  | .digit => Text.Category.ndTable.rangeCount
  | .blank => 10
  | .tables sets => (sets.map (·.rangeCount)).sum
  | .union a b => a.rangeCount + b.rangeCount
  | .inter a b => a.rangeCount + b.rangeCount
  | .diff a b => a.rangeCount + b.rangeCount
  | .symmDiff a b => a.rangeCount + b.rangeCount
  | .compl a => a.rangeCount + 1
  | .folded a => 2 * a.rangeCount

def asciiDigit : CharSet := .range 0x30 0x39

def asciiLower : CharSet := .range 0x61 0x7A

def asciiUpper : CharSet := .range 0x41 0x5A

def asciiAlpha : CharSet := .union asciiLower asciiUpper

def asciiAlnum : CharSet := .union asciiAlpha asciiDigit

def asciiWord : CharSet := .union asciiAlnum (single '_')

def asciiBlank : CharSet := .union (.range 9 13) (single ' ')

def asciiClass? (name : String) : Option CharSet :=
  let classes : List (String × CharSet) :=
    [("alnum", asciiAlnum), ("alpha", asciiAlpha), ("ascii", .range 0 0x7F),
      ("blank", .union (single ' ') (single '\t')),
      ("cntrl", .union (.range 0 0x1F) (.range 0x7F 0x7F)),
      ("digit", asciiDigit), ("graph", .range 0x21 0x7E), ("lower", asciiLower),
      ("print", .range 0x20 0x7E),
      ("punct", ofRanges [(0x21, 0x2F), (0x3A, 0x40), (0x5B, 0x60), (0x7B, 0x7E)]),
      ("space", asciiBlank), ("upper", asciiUpper), ("word", asciiWord),
      ("xdigit", ofRanges [(0x30, 0x39), (0x41, 0x46), (0x61, 0x66)])]
  (classes.find? (·.1 == name)).map (·.2)

def looseName (name : List Char) : String :=
  let lowered := (name.filter fun c => !(c == ' ' || c == '_' || c == '-')).map Char.toLower
  String.ofList (if "is".toList.isPrefixOf lowered then lowered.drop 2 else lowered)

def property? (name : List Char) : Option CharSet :=
  let key := looseName name
  if key == "any" then some (.range 0 0x10FFFF)
  else if key == "ascii" then some (.range 0 0x7F)
  else if key == "whitespace" || key == "space" then some .blank
  else
    match Text.Category.find? Text.Category.categories key with
    | some sets => some (.tables sets)
    | none => (Text.Category.find? Text.Category.scripts key).map .tables

def propertyValue? (kind value : List Char) : Option CharSet :=
  let kindKey := looseName kind
  if kindKey == "gc" || kindKey == "generalcategory" then
    (Text.Category.find? Text.Category.categories (looseName value)).map .tables
  else if kindKey == "sc" || kindKey == "script" || kindKey == "scx" ||
      kindKey == "scriptextensions" then
    (Text.Category.find? Text.Category.scripts (looseName value)).map .tables
  else none

end CharSet

end DocAudit.Pattern
