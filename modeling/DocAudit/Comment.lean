import DocAudit.Declaration
import DocAudit.Text.Lines

set_option autoImplicit false

namespace DocAudit

inductive CommentStyle where
  | block
  | line
deriving DecidableEq, Repr

def CommentStyle.delimiter : CommentStyle → String
  | .block => "/*"
  | .line => "//"

structure Comment where
  style : CommentStyle
  startLine : Nat
  startColumn : Nat
  endLine : Nat
  lines : List String
deriving DecidableEq, Repr

namespace Comment

def ofText (style : CommentStyle) (line column : Nat) (text : String) : Comment :=
  let lines := Text.lineStrings text
  ⟨style, line, column, line + (lines.length - 1), lines⟩

def isJavadoc (comment : Comment) : Bool :=
  comment.style == .block &&
    match comment.lines with
    | [] => false
    | first :: rest => "/**".toList.isPrefixOf first.toList && !(rest.isEmpty && first == "/**/")

def joinedText (comment : Comment) : List Char :=
  comment.lines.flatMap fun line => line.toList ++ ['\n']

end Comment

structure CompilationUnit where
  types : List TypeDecl
  comments : List Comment
  lineCount : Nat

def CompilationUnit.commentsOf (unit : CompilationUnit) (style : CommentStyle) : List Comment :=
  unit.comments.filter (·.style == style)

end DocAudit
