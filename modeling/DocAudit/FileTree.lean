import DocAudit.Path
import DocAudit.Text.Parts

set_option autoImplicit false

namespace DocAudit

-- A closed directory is one that may not be listed.
inductive FileTree where
  | file (content : ByteArray)
  | directory (entries : List (List Char × FileTree))
  | closed
deriving Inhabited

namespace FileTree

def empty : FileTree := .directory []

def isDirectory : FileTree → Bool
  | .file _ => false
  | .directory _ => true
  | .closed => true

def entries : FileTree → List (List Char × FileTree)
  | .directory entries => entries
  | _ => []

def child? (tree : FileTree) (name : List Char) : Option FileTree :=
  (tree.entries.find? (·.1 == name)).map (·.2)

def text? : FileTree → Option String
  | .file content => String.fromUTF8? content
  | _ => none

def putEntry (name : List Char) (tree : FileTree) :
    List (List Char × FileTree) → List (List Char × FileTree)
  | [] => [(name, tree)]
  | entry :: rest =>
    if entry.1 = name then (name, tree) :: rest else entry :: putEntry name tree rest

/-- Puts a tree at the end of a chain of names, making the directories on the way. A file on the
way stays as it is, and so does a closed directory. -/
def put (tree : FileTree) (new : FileTree) : List (List Char) → FileTree
  | [] => new
  | name :: rest =>
    match tree with
    | .directory entries =>
      let below := (tree.child? name).getD empty
      .directory (putEntry name (below.put new rest) entries)
    | other => other

end FileTree

structure Place where
  names : List (List Char)
  node : FileTree
  above : List FileTree

namespace Place

def top (tree : FileTree) : Place := ⟨[], tree, []⟩

def up (place : Place) : Place :=
  match place.above with
  | [] => place
  | node :: above => ⟨place.names.tail, node, above⟩

def into (place : Place) (entry : List Char × FileTree) : Place :=
  ⟨entry.1 :: place.names, entry.2, place.node :: place.above⟩

def children (place : Place) : List Place := place.node.entries.map place.into

def enter? (place : Place) (part : List Char) : Option Place :=
  if !place.node.isDirectory then none
  else if part.isEmpty || part == ['.'] then some place
  else if part == ['.', '.'] then some place.up
  else (place.node.child? part).map fun node => place.into (part, node)

def follow? (place : Place) : List (List Char) → Option Place
  | [] => some place
  | part :: rest => (place.enter? part).bind fun next => next.follow? rest

def path (place : Place) : Path :=
  if place.names.isEmpty then ⟨['/']⟩
  else ⟨place.names.reverse.flatMap fun name => '/' :: name⟩

end Place

structure FileSystem where
  tree : FileTree
  workingDirectory : Path

namespace FileSystem

def absolute (files : FileSystem) (path : Path) : Path := files.workingDirectory.join path

def place? (files : FileSystem) (path : Path) : Option Place :=
  if path.text.isEmpty then none
  else (Place.top files.tree).follow? (Text.split '/' (files.absolute path).text)

def exists? (files : FileSystem) (path : Path) : Bool := (files.place? path).isSome

def isFile (files : FileSystem) (path : Path) : Bool :=
  (files.place? path).any fun place => !place.node.isDirectory

def isDirectory (files : FileSystem) (path : Path) : Bool :=
  (files.place? path).any fun place => place.node.isDirectory

def read? (files : FileSystem) (path : Path) : Option String :=
  (files.place? path).bind fun place => place.node.text?

def canonical? (files : FileSystem) (path : Path) : Option Path :=
  (files.place? path).map Place.path

def names (files : FileSystem) (path : Path) : List (List Char) :=
  (files.absolute path).components.foldl (fun names component =>
    match component with
    | .named name => names ++ [name]
    | .parent => names.dropLast
    | .root => []
    | .current => names) []

def put (files : FileSystem) (path : Path) (tree : FileTree) : FileSystem :=
  { files with tree := files.tree.put tree (files.names path) }

def write (files : FileSystem) (path : Path) (text : String) : FileSystem :=
  files.put path (.file text.toUTF8)

end FileSystem

end DocAudit
