import DocAudit.Comment
import DocAudit.Text.Blank

set_option autoImplicit false

namespace DocAudit

structure CommentIndex where
  lines : List (List Char)
  javadocs : List Comment

namespace CommentIndex

def ofUnit (unit : CompilationUnit) (content : List Char) : CommentIndex :=
  ⟨Text.lines content, (unit.commentsOf .block).filter (·.isJavadoc)⟩

def isSkippableText (text : List Char) : Bool :=
  match Text.trimStart text with
  | [] => true
  | '/' :: '/' :: _ => true
  | _ => false

/-- Lines past the end of the content count as blank. -/
def isSkippable (index : CommentIndex) (line : Nat) : Bool :=
  (index.lines[line - 1]?).elim true isSkippableText

def anchor (index : CommentIndex) : Nat → Nat
  | 0 => 0
  | 1 => 1
  | n + 2 => if index.isSkippable (n + 2) then index.anchor (n + 1) else n + 2

/-- Of several comments that end on one line the last one counts. -/
def endingAt? (index : CommentIndex) (line : Nat) : Option Comment :=
  (index.javadocs.filter (·.endLine == line)).getLast?

def javadocBefore? (index : CommentIndex) : Nat → Option Comment
  | 0 => none
  | line + 1 => index.endingAt? (index.anchor line)

@[simp] theorem javadocBefore?_zero (index : CommentIndex) : index.javadocBefore? 0 = none := rfl

theorem anchor_le (index : CommentIndex) (line : Nat) : index.anchor line ≤ line := by
  fun_induction anchor index line with
  | case1 => simp
  | case2 => simp
  | case3 n h ih => omega
  | case4 n h => simp

end CommentIndex

end DocAudit
