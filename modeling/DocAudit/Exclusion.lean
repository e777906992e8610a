import DocAudit.FileAccess
import DocAudit.Text.Parts

set_option autoImplicit false

namespace DocAudit

namespace Exclusion

def withoutPairs : List Char → List Char
  | '*' :: '*' :: rest => withoutPairs rest
  | c :: rest => c :: withoutPairs rest
  | [] => []

variable [GlobReader]

def matchesGlob (pattern : List Char) (path : Path) : Bool :=
  (GlobReader.read? pattern).any fun accepts => accepts path.text

def occursIn (pattern : List Char) (path : Path) : Bool :=
  let part := withoutPairs pattern
  !part.isEmpty && part != ['/'] && Text.contains path.text part

def excludes (pattern : String) (path : Path) : Bool :=
  matchesGlob pattern.toList path || occursIn pattern.toList path

def anyExcludes (patterns : List String) (path : Path) : Bool :=
  patterns.any (excludes · path)

theorem anyExcludes_append (patterns more : List String) (path : Path) :
    anyExcludes (patterns ++ more) path = (anyExcludes patterns path || anyExcludes more path) := by
  simp [anyExcludes]

def standard : List String := ["**/build/**", "**/target/**"]

end Exclusion

end DocAudit
