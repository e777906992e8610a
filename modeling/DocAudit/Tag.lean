import DocAudit.Comment
import DocAudit.Text.Blank

set_option autoImplicit false

namespace DocAudit

inductive TagKind where
  | param
  | returns
  | throws
  | exception
  | see
  | inheritDoc
  | author
  | version
  | other (name : String)
deriving DecidableEq, Repr

namespace TagKind

def ofName (name : String) : TagKind :=
  if name = "param" then .param
  else if name = "return" then .returns
  else if name = "throws" then .throws
  else if name = "exception" then .exception
  else if name = "see" then .see
  else if name = "inheritDoc" then .inheritDoc
  else if name = "author" then .author
  else if name = "version" then .version
  else .other name

def name : TagKind → String
  | .param => "param"
  | .returns => "return"
  | .throws => "throws"
  | .exception => "exception"
  | .see => "see"
  | .inheritDoc => "inheritDoc"
  | .author => "author"
  | .version => "version"
  | .other name => name

theorem name_ofName (text : String) : (ofName text).name = text := by
  unfold ofName
  repeat' split
  all_goals simp_all [name]

end TagKind

structure Tag where
  line : Nat
  column : Nat
  kind : TagKind
  argument : Option String
deriving DecidableEq, Repr

namespace Tag

def isParam (tag : Tag) : Bool := tag.kind == .param

def isReturn (tag : Tag) : Bool := tag.kind == .returns

def isThrows (tag : Tag) : Bool := tag.kind == .throws || tag.kind == .exception

def isInheritDoc (tag : Tag) : Bool := tag.kind == .inheritDoc

def isSeeOrInheritDoc (tag : Tag) : Bool := tag.kind == .see || tag.kind == .inheritDoc

def argumentText (tag : Tag) : String := tag.argument.getD ""

end Tag

structure TagHit where
  offset : Nat
  name : List Char
  argument : Option (List Char)
deriving DecidableEq, Repr

namespace TagHit

def toTag (hit : TagHit) (comment : Comment) (index : Nat) : Tag :=
  ⟨comment.startLine + index,
    if index = 0 then hit.offset + comment.startColumn else hit.offset,
    TagKind.ofName (String.ofList hit.name), hit.argument.map String.ofList⟩

end TagHit

namespace TagReader

def after? : List Char → List Char → Option (List Char)
  | [], text => some text
  | _ :: _, [] => none
  | p :: pattern, c :: text => if p = c then after? pattern text else none

def name? (names : List (List Char)) (text : List Char) : Option (List Char × List Char) :=
  names.findSome? fun name => (after? name text).map fun rest => (name, rest)

def argumentNames : List (List Char) :=
  ["throws".toList, "exception".toList, "param".toList]

def plainNames : List (List Char) := ["return".toList, "see".toList]

def argument? (text : List Char) : Option (List Char × List Char) :=
  match text with
  | c :: _ =>
    if Text.isBlank c then
      let rest := Text.trimStart text
      let argument := rest.takeWhile fun c => !Text.isBlank c
      if argument.isEmpty then none else some (argument, rest.dropWhile fun c => !Text.isBlank c)
    else none
  | [] => none

def argumentTag? : List Char → Option (List Char × Option (List Char))
  | '@' :: text => do
    let (name, rest) ← name? argumentNames text
    let (argument, rest) ← argument? rest
    if rest.head?.any Text.isBlank then some (name, some argument) else none
  | _ => none

def plainTag? : List Char → Option (List Char × Option (List Char))
  | '@' :: text => do
    let (name, rest) ← name? plainNames text
    if rest.head?.any Text.isBlank && !(Text.trimStart rest).isEmpty then some (name, none)
    else none
  | _ => none

def inheritDocTag? : List Char → Option (Nat × List Char)
  | '{' :: text => do
    let inner := Text.trimStart text
    let rest ← after? "@inheritDoc".toList inner
    if (Text.trimStart rest).head? == some '}' then
      some (1 + Text.byteLength (text.takeWhile Text.isBlank), "inheritDoc".toList)
    else none
  | _ => none

def argumentTagStart? : List Char → Option (List Char × Option (List Char))
  | '@' :: text => do
    let (name, rest) ← name? argumentNames text
    let (argument, rest) ← argument? rest
    if rest.all Text.isBlank then some (name, some argument) else none
  | _ => none

def plainTagStart? : List Char → Option (List Char × Option (List Char))
  | '@' :: text => do
    let (name, rest) ← name? plainNames text
    if rest.all Text.isBlank then some (name, none) else none
  | _ => none

def leftmost? (read : List Char → Option (List Char × Option (List Char))) (offset : Nat) :
    List Char → Option TagHit
  | [] => none
  | c :: rest =>
    match read (c :: rest) with
    | some (name, argument) => some ⟨offset, name, argument⟩
    | none => leftmost? read (offset + c.utf8Size) rest

def leftmostInheritDoc? (offset : Nat) : List Char → Option TagHit
  | [] => none
  | c :: rest =>
    match inheritDocTag? (c :: rest) with
    | some (skipped, name) => some ⟨offset + skipped, name, none⟩
    | none => leftmostInheritDoc? (offset + c.utf8Size) rest

def complete? (text : List Char) : Option TagHit :=
  (leftmost? argumentTag? 0 text).orElse fun _ =>
    (leftmost? plainTag? 0 text).orElse fun _ => leftmostInheritDoc? 0 text

def opening? (text : List Char) : Option TagHit :=
  (leftmost? argumentTagStart? 0 text).orElse fun _ => leftmost? plainTagStart? 0 text

inductive Continuation where
  | closing
  | atSign
  | text
deriving DecidableEq, Repr

def continuation? : List Char → Option Continuation
  | [] => none
  | '*' :: '/' :: _ => some .closing
  | c :: rest =>
    if c = '*' ∨ Text.isBlank c then continuation? rest
    else if c = '@' then some .atSign
    else some .text

def expectTag (comment : Comment) (index : Nat) (text : List Char)
    (next : Option Tag → List Tag) : List Tag :=
  match complete? text with
  | some hit => hit.toTag comment index :: next none
  | none => next ((opening? text).map fun hit => hit.toTag comment index)

/-- Reads the lines from `index` on; a line that ends the wait for a description is read as a tag
line itself. -/
def scan (comment : Comment) : Nat → Option Tag → List String → List Tag
  | _, _, [] => []
  | index, none, line :: rest =>
    expectTag comment index line.toList fun pending => scan comment (index + 1) pending rest
  | index, some tag, line :: rest =>
    match continuation? line.toList with
    | none => scan comment (index + 1) (some tag) rest
    | some hit =>
      (if hit = .text then [tag] else []) ++
        expectTag comment index line.toList fun pending => scan comment (index + 1) pending rest

end TagReader

def Comment.methodTags (comment : Comment) : List Tag :=
  TagReader.scan comment 0 none comment.lines

def standardTagNames : List String :=
  ["author", "code", "deprecated", "docRoot", "exception", "inheritDoc", "link", "linkplain",
    "literal", "param", "return", "see", "serial", "serialData", "serialField", "since", "throws",
    "value", "version"]

namespace BlockTagReader

def dropClosing (text : List Char) : List Char :=
  match text.reverse with
  | '/' :: '*' :: rest => rest.reverse
  | _ => text

/-- The block tag of a line: blanks, asterisks, blanks, an at-sign, letters and a blank. Its
argument is the rest of the line, trimmed. -/
def read? (text : List Char) : Option TagHit :=
  let inner := Text.trimStart ((Text.trimStart text).dropWhile (· == '*'))
  match inner with
  | '@' :: rest =>
    let name := rest.takeWhile Char.isAlpha
    let content := rest.dropWhile Char.isAlpha
    if !name.isEmpty && content.head?.any Text.isBlank then
      some ⟨Text.byteLength text - Text.byteLength inner, name,
        some (Text.trim (dropClosing content))⟩
    else none
  | _ => none

end BlockTagReader

def Comment.blockTags (comment : Comment) : List (String × Tag) :=
  (comment.lines.zipIdx).filterMap fun (line, index) =>
    (BlockTagReader.read? line.toList).map fun hit =>
      (String.ofList hit.name, hit.toTag comment index)

def Comment.knownBlockTags (comment : Comment) : List Tag :=
  (comment.blockTags.filter fun entry => standardTagNames.contains entry.1).map (·.2)

def Comment.unknownBlockTags (comment : Comment) : List Tag :=
  (comment.blockTags.filter fun entry => !standardTagNames.contains entry.1).map (·.2)

end DocAudit
