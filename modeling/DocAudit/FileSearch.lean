import DocAudit.FileTree
import DocAudit.Glob

set_option autoImplicit false

namespace DocAudit

inductive SearchStep where
  | literal (name : List Char)
  | wildcard (glob : Glob)
  | everywhere
deriving DecidableEq, Repr

namespace SearchStep

def ofGlob (glob : Glob) : SearchStep :=
  match glob.literal? with
  | some name => .literal name
  | none => if glob.tokens == [.anyTree] then .everywhere else .wildcard glob

def parse? (text : List Char) : Option SearchStep := (Glob.parse? text).map ofGlob

def acceptsName : SearchStep → List Char → Bool
  | .literal text, name => text == name
  | .wildcard glob, name => glob.accepts name
  | .everywhere, _ => true

end SearchStep

structure Found where
  path : Path
  place : Place

namespace Found

def enter? (found : Found) (part : List Char) : Option Found :=
  (found.place.enter? part).map fun place => ⟨found.path.join ⟨part⟩, place⟩

def name (found : Found) : List Char := found.place.names.headD []

def isDirectory (found : Found) : Bool := found.place.node.isDirectory

def child (found : Found) (entry : List Char × FileTree) : Found :=
  ⟨found.path.join ⟨entry.1⟩, found.place.into entry⟩

def listing (found : Found) : List (Except Path Found) :=
  match found.place.node with
  | .closed => [.error found.path]
  | node => node.entries.map fun entry => .ok (found.child entry)

mutual

def descendantsOf (path : Path) (names : List (List Char)) (above : List FileTree) :
    FileTree → List (Except Path Found)
  | .file _ => []
  | .closed => [.error path]
  | .directory entries =>
    descendantsIn path names (.directory entries :: above) entries

def descendantsIn (path : Path) (names : List (List Char)) (above : List FileTree) :
    List (List Char × FileTree) → List (Except Path Found)
  | [] => []
  | (name, node) :: rest =>
    let found : Found := ⟨path.join ⟨name⟩, name :: names, node, above⟩
    .ok found :: (descendantsOf found.path (name :: names) above node ++
      descendantsIn path names above rest)

end

def descendants (found : Found) : List (Except Path Found) :=
  descendantsOf found.path found.place.names found.place.above found.place.node

def dots (found : Found) (glob : Glob) : List Found :=
  if glob.tokens.head? == some (.char '.') then
    ([['.', '.'], ['.']].filter glob.accepts).filterMap found.enter?
  else []

def goOn (wanted : Found → Bool) (next : Found → List (Except Path Found)) :
    Except Path Found → List (Except Path Found)
  | .error path => [.error path]
  | .ok found => if wanted found then next found else []

def search : List SearchStep → Found → List (Except Path Found)
  | [], found => [.ok found]
  | .literal name :: rest, found => (found.enter? name).elim [] (search rest)
  | .wildcard glob :: rest, found =>
    (found.dots glob).flatMap (search rest) ++
      found.listing.flatMap (goOn (fun child => glob.accepts child.name) (search rest))
  | [.everywhere], found => found.descendants.flatMap (goOn isDirectory fun child => [.ok child])
  | .everywhere :: .everywhere :: rest, found => search (.everywhere :: rest) found
  | .everywhere :: step :: rest, found =>
    found.descendants.flatMap (goOn (fun child => step.acceptsName child.name) (search rest))

section Absolute

variable {found : Found}

theorem isAbsolute_enter? {next : Found} (absolute : found.path.isAbsolute = true)
    {part : List Char} (entered : found.enter? part = some next) :
    next.path.isAbsolute = true := by
  obtain ⟨place, _, rfl⟩ := Option.map_eq_some_iff.mp entered
  exact Path.isAbsolute_join absolute ⟨part⟩

theorem isAbsolute_dots {next : Found} (absolute : found.path.isAbsolute = true) {glob : Glob}
    (member : next ∈ found.dots glob) : next.path.isAbsolute = true := by
  unfold dots at member
  split at member
  next =>
    obtain ⟨part, _, entered⟩ := List.mem_filterMap.mp member
    exact isAbsolute_enter? absolute entered
  next => cases member

theorem isAbsolute_listing {child : Found} (absolute : found.path.isAbsolute = true)
    (member : .ok child ∈ found.listing) : child.path.isAbsolute = true := by
  unfold listing at member
  split at member
  next => simp at member
  next =>
    obtain ⟨entry, _, same⟩ := List.mem_map.mp member
    cases same
    exact Path.isAbsolute_join absolute ⟨entry.1⟩

mutual

theorem isAbsolute_descendantOf {path : Path} (absolute : path.isAbsolute = true) {child : Found}
    (names : List (List Char)) (above : List FileTree) : (tree : FileTree) →
    .ok child ∈ descendantsOf path names above tree → child.path.isAbsolute = true
  | .file _, member => nomatch member
  | .closed, member => by simp [descendantsOf] at member
  | .directory entries, member => isAbsolute_descendantIn absolute names _ entries member

theorem isAbsolute_descendantIn {path : Path} (absolute : path.isAbsolute = true) {child : Found}
    (names : List (List Char)) (above : List FileTree) :
    (entries : List (List Char × FileTree)) →
    .ok child ∈ descendantsIn path names above entries → child.path.isAbsolute = true
  | [], member => nomatch member
  | (name, node) :: rest, member => by
    have inside := Path.isAbsolute_join absolute ⟨name⟩
    rw [descendantsIn] at member
    rcases List.mem_cons.mp member with same | member
    · cases same
      exact inside
    rcases List.mem_append.mp member with member | member
    · exact isAbsolute_descendantOf inside _ above node member
    · exact isAbsolute_descendantIn absolute names above rest member

end

theorem exists_of_goOn {wanted : Found → Bool} {next : Found → List (Except Path Found)}
    {entry : Except Path Found} {result : Found} (member : .ok result ∈ goOn wanted next entry) :
    ∃ found, entry = .ok found ∧ wanted found = true ∧ .ok result ∈ next found := by
  cases entry with
  | error path => simp [goOn] at member
  | ok found =>
    rw [goOn] at member
    split at member
    next here => exact ⟨found, rfl, here, member⟩
    next => cases member

theorem isAbsolute_flatMap_goOn {entries : List (Except Path Found)} {wanted : Found → Bool}
    {next : Found → List (Except Path Found)} {result : Found}
    (absolute : ∀ found, .ok found ∈ entries → found.path.isAbsolute = true)
    (onward : ∀ found : Found, found.path.isAbsolute = true → .ok result ∈ next found →
      result.path.isAbsolute = true)
    (member : .ok result ∈ entries.flatMap (goOn wanted next)) : result.path.isAbsolute = true := by
  obtain ⟨entry, inside, member⟩ := List.mem_flatMap.mp member
  obtain ⟨found, rfl, _, member⟩ := exists_of_goOn member
  exact onward found (absolute found inside) member

theorem isAbsolute_search : (steps : List SearchStep) → {found result : Found} →
    found.path.isAbsolute = true → .ok result ∈ search steps found →
    result.path.isAbsolute = true
  | [], found, result, absolute, member => by
    cases List.mem_singleton.mp member
    exact absolute
  | .literal name :: rest, found, result, absolute, member => by
    rw [search] at member
    cases entered : found.enter? name with
    | none => simp [entered] at member
    | some next =>
      rw [entered] at member
      exact isAbsolute_search rest (isAbsolute_enter? absolute entered) member
  | .wildcard glob :: rest, found, result, absolute, member => by
    rw [search] at member
    rcases List.mem_append.mp member with member | member
    next =>
      obtain ⟨next, here, later⟩ := List.mem_flatMap.mp member
      exact isAbsolute_search rest (isAbsolute_dots absolute here) later
    next =>
      exact isAbsolute_flatMap_goOn (fun _ => isAbsolute_listing absolute)
        (fun _ here => isAbsolute_search rest here) member
  | [.everywhere], found, result, absolute, member => by
    rw [search] at member
    refine isAbsolute_flatMap_goOn (fun _ => isAbsolute_descendantOf absolute _ _ _) ?_ member
    intro next here inside
    cases List.mem_singleton.mp inside
    exact here
  | .everywhere :: .everywhere :: rest, found, result, absolute, member => by
    rw [search] at member
    exact isAbsolute_search (.everywhere :: rest) absolute member
  | .everywhere :: .literal name :: rest, found, result, absolute, member => by
    rw [search] at member
    · exact isAbsolute_flatMap_goOn (fun _ => isAbsolute_descendantOf absolute _ _ _)
        (fun _ here => isAbsolute_search rest here) member
    · intro repeated
      cases repeated
  | .everywhere :: .wildcard glob :: rest, found, result, absolute, member => by
    rw [search] at member
    · exact isAbsolute_flatMap_goOn (fun _ => isAbsolute_descendantOf absolute _ _ _)
        (fun _ here => isAbsolute_search rest here) member
    · intro repeated
      cases repeated

end Absolute

end Found

namespace FileSystem

def find? (files : FileSystem) (pattern : List Char) : Option (List (Except Path Path)) :=
  ((Text.split '/' (pattern.dropWhile (· == '/'))).mapM SearchStep.parse?).map fun steps =>
    (Found.search steps ⟨⟨['/']⟩, Place.top files.tree⟩).map fun entry => entry.map (·.path)

theorem find?_absolute {files : FileSystem} {pattern : List Char} {found : List (Except Path Path)}
    {path : Path} (search : files.find? pattern = some found) (member : .ok path ∈ found) :
    path.isAbsolute = true := by
  obtain ⟨steps, _, rfl⟩ := Option.map_eq_some_iff.mp search
  obtain ⟨entry, inside, same⟩ := List.mem_map.mp member
  cases entry with
  | error path => cases same
  | ok result =>
    cases same
    exact Found.isAbsolute_search steps rfl inside

def access (files : FileSystem) : FileAccess :=
  ⟨files.find?, files.read?, fun _ _ _ => find?_absolute⟩

instance : Coe FileSystem FileAccess := ⟨access⟩

end FileSystem

end DocAudit
