import DocAudit.Finding
import DocAudit.Text.Blank
import DocAudit.Text.Lines

set_option autoImplicit false

namespace DocAudit

structure SourceFile where
  relativePath : Path
  content : List Char
deriving DecidableEq, Repr

namespace SourceFile

def ofContent (path : Path) (content : String) (root : Path) : SourceFile :=
  ⟨path.relativeTo root, content.toList⟩

/-- Offset of a column in one of the lines, each line counted with one byte for its end. -/
def offsetIn (column : Nat) : Nat → List (List Char) → Nat → Nat
  | _, [], start => start
  | 0, line :: _, start => start + min column (Text.byteLength line)
  | n + 1, line :: rest, start => offsetIn column n rest (start + Text.byteLength line + 1)

def offset (file : SourceFile) (line column : Nat) : Nat :=
  match line with
  | 0 => 0
  | n + 1 =>
    let lines := Text.lines file.content
    let found := offsetIn column n lines 0
    if n < lines.length then found else min found (Text.byteLength file.content)

def endsToken (c : Char) : Bool := Text.isBlank c || c == '('

def tokenLength (file : SourceFile) (offset : Nat) : Nat :=
  (Text.dropBytes? offset file.content).elim 0 fun rest =>
    Text.byteLength (rest.takeWhile fun c => !endsToken c)

def location (file : SourceFile) (line column : Nat) : Location :=
  let offset := file.offset line column
  ⟨file.relativePath, line, column + 1, offset, file.tokenLength offset⟩

end SourceFile

end DocAudit
