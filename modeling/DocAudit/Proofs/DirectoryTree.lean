import DocAudit.FileAccess
import DocAudit.Proofs.PathParts

set_option autoImplicit false

namespace DocAudit

-- A regular file, a directory, which may be closed to those who list it, or something else.
inductive Entry where
  | file (text : Option String)
  | directory (isClosed : Bool)
  | other (text : Option String)
deriving DecidableEq, Repr

def Entry.text? : Entry → Option String
  | .file text => text
  | .directory _ => none
  | .other text => text

/-- What stands below a directory, by the chain of names that leads there. -/
structure DirectoryTree where
  node? : List (List Char) → Option Entry
  top : ∃ isClosed, node? [] = some (.directory isClosed)
  parent : ∀ names name, (node? (names ++ [name])).isSome = true →
    ∃ isClosed, node? names = some (.directory isClosed)
  proper : ∀ names, (node? names).isSome = true → ∀ name ∈ names, Path.ProperName name

theorem DirectoryTree.properNames (tree : DirectoryTree) {names : List (List Char)} {entry : Entry}
    (held : tree.node? names = some entry) : ∀ name ∈ names, Path.ProperName name :=
  tree.proper names (Option.isSome_iff_exists.mpr ⟨entry, held⟩)

def DirectoryTree.HasClosed (tree : DirectoryTree) : Prop :=
  ∃ names, tree.node? names = some (.directory true)

namespace Glob

-- None of the characters that stand for others.
def Plain (text : List Char) : Prop := ∀ c ∈ text, c ≠ '?' ∧ c ≠ '*' ∧ c ≠ '['

instance (text : List Char) : Decidable (Plain text) :=
  decidable_of_iff ((text.all fun c => c != '?' && c != '*' && c != '[') = true)
    (by simp [Plain, and_assoc])

-- A part between slashes that names are compared with. Two stars are no such part, and a dot in
-- front may stand for the directory itself.
structure NamePart (part : List Char) : Prop where
  noSlash : '/' ∉ part
  notDotted : part.head? ≠ some '.'
  notStars : ∃ c ∈ part, c ≠ '*'

end Glob

/-- The documented behaviour of glob patterns and of the files, for what stands below a root. -/
structure FileAccess.Documented [GlobReader] (files : FileAccess) (root : Path)
    (tree : DirectoryTree) : Prop where
  -- A star takes any run of characters, and what is not special only itself.
  star : ∀ ending, Glob.Plain ending →
    ∃ accepts, GlobReader.read? ('*' :: ending) = some accepts ∧
      ∀ name, accepts name = true ↔ ending <:+ name
  -- Two stars stand for any directories below, and a part behind them is compared with every name
  -- there. Directories that cannot be looked into are errors among what is found.
  search : Glob.Plain root.text → ∀ part accepts, Glob.NamePart part →
    GlobReader.read? part = some accepts →
    ∃ found, files.search? (root.text ++ "/**/".toList ++ part) = some found ∧
      ((∃ path, .error path ∈ found) ↔ tree.HasClosed) ∧
      (¬ tree.HasClosed → ∀ path, .ok path ∈ found ↔
        ∃ names name, (tree.node? (names ++ [name])).isSome = true ∧ accepts name = true ∧
          path = root.under (names ++ [name]))
  read : ∀ names entry, tree.node? names = some entry →
    files.read? (root.under names) = entry.text?

end DocAudit
