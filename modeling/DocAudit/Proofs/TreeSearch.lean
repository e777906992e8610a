import DocAudit.FileSearch
import DocAudit.Proofs.DirectoryTree

set_option autoImplicit false

namespace DocAudit

namespace FileTree

mutual

def Proper : FileTree → Prop
  | .directory entries => (entries.map (·.1)).Nodup ∧ ProperEntries entries
  | _ => True

def ProperEntries : List (List Char × FileTree) → Prop
  | [] => True
  | (name, node) :: rest => Path.ProperName name ∧ Proper node ∧ ProperEntries rest

end

inductive Leads : FileTree → List (List Char) → FileTree → Prop
  | here (tree : FileTree) : Leads tree [] tree
  | into {entries : List (List Char × FileTree)} {name : List Char} {node below : FileTree}
      {names : List (List Char)} (entry : (name, node) ∈ entries) (leads : Leads node names below) :
      Leads (.directory entries) (name :: names) below

theorem ProperEntries.of_mem {entries : List (List Char × FileTree)} {name : List Char}
    {node : FileTree} (proper : ProperEntries entries) (entry : (name, node) ∈ entries) :
    Path.ProperName name ∧ node.Proper := by
  induction entries with
  | nil => cases entry
  | cons first rest ih =>
    obtain ⟨properName, properNode, properRest⟩ := proper
    rcases List.mem_cons.mp entry with rfl | entry
    · exact ⟨properName, properNode⟩
    · exact ih properRest entry

theorem Leads.properNames {tree node : FileTree} {names : List (List Char)}
    (leads : tree.Leads names node) (proper : tree.Proper) :
    ∀ name ∈ names, Path.ProperName name := by
  induction leads with
  | here => exact nofun
  | into entry _ ih =>
    obtain ⟨properName, properNode⟩ := proper.2.of_mem entry
    exact List.forall_mem_cons.mpr ⟨properName, ih properNode⟩

theorem child?_of_mem {entries : List (List Char × FileTree)} {name : List Char}
    {node : FileTree} (distinct : (entries.map (·.1)).Nodup) (entry : (name, node) ∈ entries) :
    (FileTree.directory entries).child? name = some node := by
  have found : entries.find? (·.1 == name) = some (name, node) := by
    induction entries with
    | nil => cases entry
    | cons first rest ih =>
      obtain ⟨absent, distinct⟩ := List.nodup_cons.mp distinct
      rcases List.mem_cons.mp entry with rfl | entry
      · simp
      · have other : first.1 ≠ name := fun same =>
          absent (List.mem_map.mpr ⟨(name, node), entry, same.symm⟩)
        rw [List.find?_cons_of_neg (by simpa using other), ih distinct entry]
  exact congrArg (Option.map (·.2)) found

theorem child?_mem {tree node : FileTree} {name : List Char}
    (found : tree.child? name = some node) :
    ∃ entries, tree = .directory entries ∧ (name, node) ∈ entries := by
  cases tree with
  | file content => cases found
  | closed => cases found
  | directory entries =>
    obtain ⟨entry, first, rfl⟩ := Option.map_eq_some_iff.mp found
    have named : entry.1 = name := by simpa using List.find?_some first
    exact ⟨entries, rfl, named ▸ List.mem_of_find?_eq_some first⟩

def at? (tree : FileTree) : List (List Char) → Option FileTree
  | [] => some tree
  | name :: names => (tree.child? name).bind fun node => node.at? names

theorem at?_append (tree : FileTree) (names more : List (List Char)) :
    tree.at? (names ++ more) = (tree.at? names).bind fun node => node.at? more := by
  induction names generalizing tree with
  | nil => rfl
  | cons name names ih => simp [at?, ih, Option.bind_assoc]

theorem leads_of_at? {tree node : FileTree} {names : List (List Char)}
    (held : tree.at? names = some node) : tree.Leads names node := by
  induction names generalizing tree with
  | nil =>
    cases held
    exact .here _
  | cons name names ih =>
    obtain ⟨next, found, further⟩ := Option.bind_eq_some_iff.mp held
    obtain ⟨entries, rfl, entry⟩ := child?_mem found
    exact .into entry (ih further)

theorem at?_of_leads {tree node : FileTree} {names : List (List Char)} (proper : tree.Proper)
    (leads : tree.Leads names node) : tree.at? names = some node := by
  induction leads with
  | here => rfl
  | into entry _ ih =>
    rw [at?, child?_of_mem proper.1 entry]
    exact ih (proper.2.of_mem entry).2

def entry : FileTree → Entry
  | .file content => .file (String.fromUTF8? content)
  | .directory _ => .directory false
  | .closed => .directory true

theorem text_entry (tree : FileTree) : tree.entry.text? = tree.text? := by
  cases tree <;> rfl

def contents (tree : FileTree) (directory : tree.isDirectory = true) (proper : tree.Proper) :
    DirectoryTree where
  node? names := (tree.at? names).map entry
  top := by
    cases tree with
    | file content => cases directory
    | directory entries => exact ⟨false, rfl⟩
    | closed => exact ⟨true, rfl⟩
  parent names name there := by
    rw [Option.isSome_map, at?_append] at there
    obtain ⟨node, found⟩ := Option.isSome_iff_exists.mp there
    obtain ⟨above, held, found⟩ := Option.bind_eq_some_iff.mp found
    obtain ⟨child, found, _⟩ := Option.bind_eq_some_iff.mp found
    obtain ⟨entries, rfl, _⟩ := child?_mem found
    exact ⟨false, by rw [held]; rfl⟩
  proper names there := by
    rw [Option.isSome_map] at there
    obtain ⟨node, found⟩ := Option.isSome_iff_exists.mp there
    exact (leads_of_at? found).properNames proper

end FileTree

namespace Place

theorem enter?_named {place : Place} {name : List Char} (proper : Path.ProperName name) :
    place.enter? name = (place.node.child? name).map fun node => place.into (name, node) := by
  cases held : place.node with
  | file content =>
    simp [Place.enter?, held, FileTree.isDirectory, FileTree.child?, FileTree.entries]
  | closed =>
    simp [Place.enter?, held, FileTree.isDirectory, proper.nonempty, proper.notCurrent,
      proper.notParent]
  | directory entries =>
    simp [Place.enter?, held, FileTree.isDirectory, proper.nonempty, proper.notCurrent,
      proper.notParent]

theorem follow?_of_leads {place : Place} {names : List (List Char)} {node : FileTree}
    (proper : place.node.Proper) (leads : place.node.Leads names node) :
    ∃ next, place.follow? names = some next ∧ next.node = node := by
  generalize start : place.node = tree at proper leads
  induction leads generalizing place with
  | here => exact ⟨place, rfl, start⟩
  | @into entries name node below names entry _ ih =>
    obtain ⟨properName, properNode⟩ := proper.2.of_mem entry
    obtain ⟨next, followed, reached⟩ := @ih (place.into (name, node)) rfl properNode
    refine ⟨next, ?_, reached⟩
    rw [Place.follow?, enter?_named properName, start, FileTree.child?_of_mem proper.1 entry]
    exact followed

end Place

namespace Found

def pathTo (path : Path) (names : List (List Char)) : Path :=
  names.foldl (fun path name => path.join ⟨name⟩) path

-- What an entry of a search stands for, seen from the tree at a path.
def Shows (tree : FileTree) (path : Path) : Except Path Found → Prop
  | .ok found => ∃ chain node, tree.Leads chain node ∧ found.path = pathTo path chain ∧
      chain.getLast? = some found.name
  | .error _ => ∃ chain, tree.Leads chain .closed

theorem Shows.into {entries : List (List Char × FileTree)} {name : List Char} {node : FileTree}
    {path : Path} {result : Except Path Found} (entry : (name, node) ∈ entries)
    (shows : Shows node (path.join ⟨name⟩) result) : Shows (.directory entries) path result := by
  cases result with
  | error _ =>
    obtain ⟨chain, leads⟩ := shows
    exact ⟨name :: chain, .into entry leads⟩
  | ok found =>
    obtain ⟨chain, below, leads, reached, last⟩ := shows
    refine ⟨name :: chain, below, .into entry leads, reached, ?_⟩
    rw [List.getLast?_cons, last]
    rfl

mutual

theorem shows_of_mem {result : Except Path Found} (path : Path) (names : List (List Char))
    (above : List FileTree) : (tree : FileTree) → result ∈ descendantsOf path names above tree →
    Shows tree path result
  | .file _, member => nomatch member
  | .closed, member => by
    rw [descendantsOf, List.mem_singleton] at member
    exact member ▸ ⟨[], .here .closed⟩
  | .directory entries, member => by
    rw [descendantsOf] at member
    obtain ⟨name, node, entry, shows | ⟨found, rfl, reached, named⟩⟩ :=
      shows_of_mem_entries path names _ entries member
    · exact shows.into entry
    · exact ⟨[name], node, .into entry (.here node), reached, congrArg some named.symm⟩

theorem shows_of_mem_entries {result : Except Path Found} (path : Path)
    (names : List (List Char)) (above : List FileTree) :
    (entries : List (List Char × FileTree)) → result ∈ descendantsIn path names above entries →
    ∃ name node, (name, node) ∈ entries ∧ (Shows node (path.join ⟨name⟩) result ∨
      ∃ found, result = .ok found ∧ found.path = path.join ⟨name⟩ ∧ found.name = name)
  | [], member => nomatch member
  | (name, node) :: rest, member => by
    rw [descendantsIn] at member
    rcases List.mem_cons.mp member with rfl | member
    · exact ⟨name, node, List.mem_cons_self, .inr ⟨_, rfl, rfl, rfl⟩⟩
    rcases List.mem_append.mp member with member | member
    · exact ⟨name, node, List.mem_cons_self, .inl (shows_of_mem _ _ above node member)⟩
    · obtain ⟨other, below, entry, deeper⟩ := shows_of_mem_entries path names above rest member
      exact ⟨other, below, List.mem_cons_of_mem _ entry, deeper⟩

end

theorem descendantsIn_of_mem (path : Path) (names : List (List Char)) (above : List FileTree)
    {entries : List (List Char × FileTree)} {name : List Char} {node : FileTree}
    (entry : (name, node) ∈ entries) :
    .ok ⟨path.join ⟨name⟩, name :: names, node, above⟩ ∈ descendantsIn path names above entries ∧
      ∀ result ∈ descendantsOf (path.join ⟨name⟩) (name :: names) above node,
        result ∈ descendantsIn path names above entries := by
  induction entries with
  | nil => cases entry
  | cons first rest ih =>
    obtain ⟨firstName, firstNode⟩ := first
    rw [descendantsIn]
    rcases List.mem_cons.mp entry with same | entry
    · obtain ⟨rfl, rfl⟩ := Prod.mk.inj same
      exact ⟨List.mem_cons_self, fun found member =>
        List.mem_cons_of_mem _ (List.mem_append_left _ member)⟩
    · obtain ⟨here, below⟩ := ih entry
      exact ⟨List.mem_cons_of_mem _ (List.mem_append_right _ here), fun found member =>
        List.mem_cons_of_mem _ (List.mem_append_right _ (below found member))⟩

theorem exists_descendant {tree node : FileTree} {chain : List (List Char)}
    (leads : tree.Leads chain node) (nonempty : chain ≠ []) (path : Path)
    (names : List (List Char)) (above : List FileTree) :
    ∃ found, .ok found ∈ descendantsOf path names above tree ∧ found.path = pathTo path chain ∧
      chain.getLast? = some found.name := by
  induction leads generalizing path names above with
  | here => exact absurd rfl nonempty
  | @into entries name node below chain entry _ ih =>
    rw [descendantsOf]
    obtain ⟨here, deeper⟩ := descendantsIn_of_mem path names (.directory entries :: above) entry
    by_cases ends : chain = []
    next =>
      subst ends
      exact ⟨_, here, rfl, rfl⟩
    next =>
      obtain ⟨found, member, path, last⟩ :=
        ih ends (path.join ⟨name⟩) (name :: names) (.directory entries :: above)
      refine ⟨found, deeper _ member, path, ?_⟩
      rw [List.getLast?_cons, last]
      rfl

theorem exists_unlisted {tree node : FileTree} {chain : List (List Char)}
    (leads : tree.Leads chain node) (closed : node = .closed) (path : Path)
    (names : List (List Char)) (above : List FileTree) :
    ∃ unlisted, .error unlisted ∈ descendantsOf path names above tree := by
  induction leads generalizing path names above with
  | here =>
    subst closed
    exact ⟨path, List.mem_singleton.mpr rfl⟩
  | @into entries name node below chain entry _ ih =>
    obtain ⟨unlisted, member⟩ :=
      ih closed (path.join ⟨name⟩) (name :: names) (.directory entries :: above)
    exact ⟨unlisted, (descendantsIn_of_mem path names _ entry).2 _ member⟩

end Found

namespace Glob

theorem parseFrom?_plain {text : List Char} (plain : Plain text) (boundary : Bool) :
    GlobToken.parseFrom? boundary text = some (text.map .char) := by
  induction text generalizing boundary with
  | nil => simp [GlobToken.parseFrom?]
  | cons c rest ih =>
    obtain ⟨⟨question, star, bracket⟩, plain⟩ := List.forall_mem_cons.mp plain
    simp [GlobToken.parseFrom?, star, ih plain]

theorem literal?_chars (chars : List Char) :
    (Glob.mk (chars.map .char)).literal? = some chars := by
  unfold literal?
  induction chars with
  | nil => rfl
  | cons c chars ih => simp [List.mapM_cons, ih]

theorem parse?_plain {part : List Char} (plain : Plain part) :
    SearchStep.parse? part = some (.literal part) := by
  simp [SearchStep.parse?, parse?, parseFrom?_plain plain, SearchStep.ofGlob, literal?_chars]

theorem mapM_parse?_plain {parts : List (List Char)} (plain : ∀ part ∈ parts, Plain part) :
    parts.mapM SearchStep.parse? = some (parts.map .literal) := by
  induction parts with
  | nil => rfl
  | cons part parts ih =>
    obtain ⟨first, rest⟩ := List.forall_mem_cons.mp plain
    simp [List.mapM_cons, parse?_plain first, ih rest]

theorem matchesTokens_chars (chars text : List Char) :
    matchesTokens (chars.map .char) text = true ↔ text = chars := by
  induction chars generalizing text with
  | nil => simp [matchesTokens]
  | cons c chars ih =>
    cases text with
    | nil => simp [matchesTokens]
    | cons d text => simp [matchesTokens, GlobToken.accepts, ih, eq_comm (a := d)]

theorem accepts_ending (chars text : List Char) :
    (Glob.mk (.anySequence :: chars.map .char)).accepts text = true ↔ chars <:+ text := by
  simp [accepts, matchesTokens, Text.mem_suffixes, matchesTokens_chars]

theorem parse?_star {ending : List Char} (plain : Plain ending) :
    parse? ('*' :: ending) = some ⟨.anySequence :: ending.map .char⟩ := by
  have single : ∀ rest, ending ≠ '*' :: rest := by
    rintro rest rfl
    exact (plain '*' List.mem_cons_self).2.1 rfl
  rw [parse?, GlobToken.parseFrom?]
  · simp [parseFrom?_plain plain]
  · exact fun rest same => single rest same

theorem tokens_of_literal? {glob : Glob} {chars : List Char}
    (literal : glob.literal? = some chars) : glob.tokens = chars.map .char := by
  obtain ⟨tokens⟩ := glob
  unfold literal? at literal
  induction tokens generalizing chars with
  | nil =>
    cases literal
    rfl
  | cons token tokens ih =>
    simp only [List.mapM_cons, Option.bind_eq_bind, Option.bind_eq_some_iff, Option.pure_def,
      Option.some.injEq] at literal
    obtain ⟨c, here, rest, later, rfl⟩ := literal
    cases token <;> cases here
    simp only [List.map_cons, ← ih later]

theorem set?_ne_anyTree {text after : List Char} {token : GlobToken}
    (set : GlobToken.set? text = some (token, after)) : token ≠ .anyTree := by
  have bracket (make : List GlobRange → GlobToken) {text : List Char}
      (other : ∀ ranges, make ranges ≠ .anyTree)
      (set : GlobToken.bracket? make text = some (token, after)) : token ≠ .anyTree := by
    unfold GlobToken.bracket? at set
    split at set
    next => cases set
    next =>
      split at set
      next => cases set
      next =>
        cases set
        exact other _
  unfold GlobToken.set? at set
  split at set
  · exact bracket .noneOf (by simp) set
  · exact bracket .anyOf (by simp) set

theorem parseFrom?_ne_anyTree {part : List Char} (named : NamePart part) :
    GlobToken.parseFrom? true part ≠ some [.anyTree] := by
  intro parsed
  obtain ⟨noSlash, _, c, inside, notStar⟩ := named
  unfold GlobToken.parseFrom? at parsed
  split at parsed
  next => simp at parsed
  next => simp at parsed
  next rest =>
    rw [if_pos rfl] at parsed
    split at parsed
    next => simp_all
    next => simp at noSlash
    next => cases parsed
  next => simp at parsed
  next =>
    split at parsed
    next => cases parsed
    next token after set =>
      obtain ⟨tokens, _, same⟩ := Option.map_eq_some_iff.mp parsed
      exact set?_ne_anyTree set (List.cons.inj same).1
  next => simp at parsed

-- A part that names are compared with, as a step of a search.
theorem parse?_namePart {part : List Char} (named : NamePart part) {glob : Glob}
    (parsed : parse? part = some glob) :
    ∃ step, SearchStep.parse? part = some step ∧ step ≠ .everywhere ∧
      ∀ name, step.acceptsName name = glob.accepts name := by
  refine ⟨.ofGlob glob, by rw [SearchStep.parse?, parsed, Option.map_some], ?_⟩
  unfold SearchStep.ofGlob
  cases literal : glob.literal? with
  | some chars =>
    refine ⟨nofun, fun name => ?_⟩
    rw [SearchStep.acceptsName, Bool.eq_iff_iff, accepts, tokens_of_literal? literal,
      matchesTokens_chars, beq_iff_eq, eq_comm]
  | none =>
    have stars : glob.tokens ≠ [.anyTree] := by
      intro stars
      obtain ⟨tokens, read, rfl⟩ := Option.map_eq_some_iff.mp parsed
      change tokens = [.anyTree] at stars
      exact parseFrom?_ne_anyTree named (stars ▸ read)
    simp [stars, SearchStep.acceptsName]

end Glob

namespace Found

-- The names below the place that plain parts lead to.
theorem search_literals (parts : List (List Char)) {step : SearchStep} (named : step ≠ .everywhere)
    (found : Found) :
    search (parts.map .literal ++ [.everywhere, step]) found =
      (found.place.follow? parts).elim [] fun place =>
        (⟨pathTo found.path parts, place⟩ : Found).descendants.flatMap
          (goOn (fun child => step.acceptsName child.name) fun child => [.ok child]) := by
  induction parts generalizing found with
  | nil =>
    rw [List.map_nil, List.nil_append, search]
    · rfl
    · rintro rfl
      exact named rfl
  | cons part parts ih =>
    simp only [List.map_cons, List.cons_append, search, Place.follow?, enter?]
    cases found.place.enter? part with
    | none => rfl
    | some place => exact ih ⟨found.path.join ⟨part⟩, place⟩

end Found

namespace Path

def rootParts (text : List Char) : List (List Char) :=
  if (text.dropWhile (· == '/')).isEmpty then []
  else Text.split '/' (text.dropWhile (· == '/'))

theorem rootParts_slash (rest : List Char) : rootParts ('/' :: rest) = rootParts rest := rfl

theorem rootParts_noSlash (text : List Char) : ∀ part ∈ rootParts text, '/' ∉ part := by
  intro part member
  unfold rootParts at member
  split at member
  · cases member
  · exact Text.notMem_of_mem_splitFrom List.not_mem_nil member

theorem rootParts_plain {text : List Char} (plain : Glob.Plain text) :
    ∀ part ∈ rootParts text, Glob.Plain part := by
  intro part member c inPart
  unfold rootParts at member
  split at member
  · cases member
  · have inside := List.mem_flatMap.mpr ⟨part, member, List.mem_cons_of_mem '/' inPart⟩
    rw [Text.split, Text.flatMap_splitFrom] at inside
    rcases List.mem_cons.mp inside with rfl | inside
    · decide
    · exact plain c (List.dropWhile_subset _ inside)

theorem split_search (text : List Char) {part : List Char} (absent : '/' ∉ part) :
    Text.split '/' ((text ++ "/**/".toList ++ part).dropWhile (· == '/')) =
      rootParts text ++ ["**".toList, part] := by
  have behind : Text.split '/' ("**/".toList ++ part) = ["**".toList, part] := by
    rw [show "**/".toList ++ part = "**".toList ++ '/' :: part from rfl, Text.split_append,
      Text.split_of_notMem absent]
    rfl
  rw [List.append_assoc, List.dropWhile_append, rootParts]
  split
  · exact behind
  · rw [← behind]
    exact Text.split_append '/' _ ("**/".toList ++ part)

theorem squeeze_rootParts (text more : List Char) :
    squeeze ('/' :: ((rootParts text).flatMap ('/' :: ·) ++ more)) =
      squeeze ('/' :: (text ++ more)) := by
  rw [← squeeze_dropWhile text more, rootParts]
  split
  · next empty => rw [List.isEmpty_iff.mp empty, List.flatMap_nil]
  · rw [Text.split, Text.flatMap_splitFrom]
    exact if_pos ⟨rfl, rfl⟩

theorem pathTo_rootParts {root : Path} (absolute : root.isAbsolute = true)
    {names : List (List Char)} (proper : ∀ name ∈ names, ProperName name) :
    Found.pathTo (Found.pathTo ⟨['/']⟩ (rootParts root.text)) names = root.under names := by
  obtain ⟨text⟩ := root
  obtain ⟨rest, rfl⟩ := List.head?_eq_some_iff.mp (beq_iff_eq.mp absolute)
  have noSlash : ∀ part ∈ rootParts rest ++ names, '/' ∉ part := by
    intro part member
    rcases List.mem_append.mp member with member | member
    · exact rootParts_noSlash rest part member
    · exact (proper part member).noSlash
  have joined := foldl_join (List.cons_ne_nil '/' []) noSlash
  rw [List.foldl_append, List.flatMap_append, List.singleton_append, squeeze_rootParts] at joined
  exact joined

end Path

structure FileSystem.Proper (files : FileSystem) : Prop where
  top : files.tree.isDirectory = true
  tree : files.tree.Proper

theorem Place.follow?_rootParts {place : Place} (directory : place.node.isDirectory = true)
    (text : List Char) :
    place.follow? (Path.rootParts text) = place.follow? (Text.split '/' text) := by
  induction text with
  | nil => simp [Path.rootParts, Text.split, Text.splitFrom, follow?, enter?, directory]
  | cons c rest ih =>
    by_cases slash : c = '/'
    next =>
      subst slash
      have empty : Text.split '/' ('/' :: rest) = [] :: Text.split '/' rest := rfl
      rw [Path.rootParts_slash, empty, ih]
      simp [follow?, enter?, directory]
    next => simp [Path.rootParts, slash]

namespace FileSystem

variable {files : FileSystem} {root : Path}

theorem place?_rootParts (proper : files.Proper) (absolute : root.isAbsolute = true) :
    (Place.top files.tree).follow? (Path.rootParts root.text) = files.place? root := by
  rw [files.place?_absolute absolute]
  exact Place.follow?_rootParts proper.top root.text

theorem find?_part (proper : files.Proper) (absolute : root.isAbsolute = true)
    (plain : Glob.Plain root.text) {part : List Char} (named : Glob.NamePart part) {glob : Glob}
    (parsed : Glob.parse? part = some glob) {place : Place}
    (found : files.place? root = some place) :
    files.find? (root.text ++ "/**/".toList ++ part) =
      some (((⟨Found.pathTo ⟨['/']⟩ (Path.rootParts root.text), place⟩ : Found).descendants.flatMap
        (Found.goOn (fun child => glob.accepts child.name) fun child => [.ok child])).map
          fun entry => entry.map (·.path)) := by
  obtain ⟨step, stepped, wild, same⟩ := Glob.parse?_namePart named parsed
  have steps := Glob.mapM_parse?_plain (Path.rootParts_plain plain)
  have tail : ["**".toList, part].mapM SearchStep.parse? = some [.everywhere, step] := by
    have stars : SearchStep.parse? "**".toList = some .everywhere := by decide +kernel
    rw [List.mapM_cons, List.mapM_cons, stars, stepped]
    rfl
  rw [find?, Path.split_search _ named.noSlash, List.mapM_append, steps, tail]
  simp only [Option.bind_eq_bind, Option.bind_some, Option.pure_def, Option.map_some]
  rw [Found.search_literals _ wild]
  have followed : (Place.top files.tree).follow? (Path.rootParts root.text) = some place := by
    rw [place?_rootParts proper absolute, found]
  simp only [followed, Option.elim_some, same]

section Access

variable {place : Place} {tree : FileTree} {glob : Glob}

-- The search goes on from no place, so what it gives are names below and directories it could not
-- look into.
theorem mem_named {entries : List (Except Path Found)} {path : Path} :
    .ok path ∈ (entries.flatMap (Found.goOn (fun child => glob.accepts child.name) fun child =>
      [.ok child])).map (fun entry => entry.map (·.path)) ↔
    ∃ child, .ok child ∈ entries ∧ glob.accepts child.name = true ∧ child.path = path := by
  simp only [List.mem_map, List.mem_flatMap]
  constructor
  next =>
    rintro ⟨result, ⟨entry, member, inside⟩, same⟩
    cases result with
    | error path => cases same
    | ok found =>
      obtain ⟨child, rfl, accepted, here⟩ := Found.exists_of_goOn inside
      cases List.mem_singleton.mp here
      exact ⟨found, member, accepted, Except.ok.inj same⟩
  next =>
    rintro ⟨child, member, accepted, rfl⟩
    exact ⟨.ok child, ⟨.ok child, member, by simp [Found.goOn, accepted]⟩, rfl⟩

theorem error_mem_named {entries : List (Except Path Found)} {path : Path} :
    .error path ∈ (entries.flatMap (Found.goOn (fun child => glob.accepts child.name) fun child =>
      [.ok child])).map (fun entry => entry.map (·.path)) ↔ .error path ∈ entries := by
  simp only [List.mem_map, List.mem_flatMap]
  constructor
  next =>
    rintro ⟨result, ⟨entry, member, inside⟩, same⟩
    cases result with
    | ok found => cases same
    | error path =>
      cases same
      cases entry with
      | error other =>
        cases List.mem_singleton.mp inside
        exact member
      | ok found =>
        rw [Found.goOn] at inside
        split at inside <;> simp at inside
  next =>
    intro member
    exact ⟨.error path, ⟨.error path, member, List.mem_singleton.mpr rfl⟩, rfl⟩

theorem contents_hasClosed_iff (directory : tree.isDirectory = true) (proper : tree.Proper) :
    (tree.contents directory proper).HasClosed ↔ ∃ chain, tree.Leads chain .closed := by
  constructor
  next =>
    rintro ⟨names, held⟩
    obtain ⟨node, reached, same⟩ := Option.map_eq_some_iff.mp held
    cases node with
    | closed => exact ⟨names, FileTree.leads_of_at? reached⟩
    | file content => cases same
    | directory entries => cases same
  next =>
    rintro ⟨chain, leads⟩
    exact ⟨chain, congrArg (Option.map FileTree.entry) (FileTree.at?_of_leads proper leads)⟩

theorem contents_isSome_iff (directory : tree.isDirectory = true) (proper : tree.Proper)
    {names : List (List Char)} :
    ((tree.contents directory proper).node? names).isSome = true ↔
      ∃ node, tree.Leads names node := by
  simp only [FileTree.contents, Option.isSome_map, Option.isSome_iff_exists]
  exact exists_congr fun node =>
    ⟨FileTree.leads_of_at?, FileTree.at?_of_leads proper⟩

-- The program's own search and its file tree behave as documented.
theorem access_documented (proper : files.Proper) (absolute : root.isAbsolute = true)
    (found : files.place? root = some place) (directory : place.node.isDirectory = true)
    (properNode : place.node.Proper) :
    files.access.Documented root (place.node.contents directory properNode) where
  star ending plain :=
    ⟨_, congrArg (Option.map Glob.accepts) (Glob.parse?_star plain), Glob.accepts_ending ending⟩
  search plain part accepts named read := by
    obtain ⟨glob, parsed, rfl⟩ := Option.map_eq_some_iff.mp read
    refine ⟨_, find?_part proper absolute plain named parsed found, ?_, fun _ path => ?_⟩
    next =>
      simp only [error_mem_named, contents_hasClosed_iff]
      constructor
      · rintro ⟨path, member⟩
        exact Found.shows_of_mem _ _ _ _ member
      · rintro ⟨chain, leads⟩
        exact Found.exists_unlisted leads rfl _ _ _
    next =>
      simp only [mem_named, contents_isSome_iff]
      constructor
      next =>
        rintro ⟨child, member, accepted, rfl⟩
        obtain ⟨chain, node, leads, reached, last⟩ := Found.shows_of_mem _ _ _ _ member
        obtain ⟨names, rfl⟩ := List.getLast?_eq_some_iff.mp last
        refine ⟨names, child.name, ⟨node, leads⟩, accepted, ?_⟩
        rw [reached, Path.pathTo_rootParts absolute (leads.properNames properNode)]
      next =>
        rintro ⟨names, name, ⟨node, leads⟩, accepted, rfl⟩
        obtain ⟨child, member, reached, last⟩ := Found.exists_descendant leads (by simp)
          (Found.pathTo ⟨['/']⟩ (Path.rootParts root.text)) place.names place.above
        have same : name = child.name := by simpa using last
        refine ⟨child, member, same ▸ accepted, ?_⟩
        rw [reached, Path.pathTo_rootParts absolute (leads.properNames properNode)]
  read names entry held := by
    obtain ⟨node, reached, rfl⟩ := Option.map_eq_some_iff.mp held
    have leads := FileTree.leads_of_at? reached
    obtain ⟨there, followed, rfl⟩ := Place.follow?_of_leads properNode leads
    have placed : files.place? (root.under names) = some there := by
      rw [files.place?_under absolute (leads.properNames properNode), found]
      exact followed
    rw [FileTree.text_entry]
    change files.read? _ = _
    rw [read?, placed, Option.bind_some]

end Access

end FileSystem

end DocAudit
