import DocAudit.FileTree

set_option autoImplicit false

namespace DocAudit

namespace Path

def squeeze : List Char → List Char
  | [] => []
  | c :: rest => if c = '/' ∧ rest.head? = some '/' then squeeze rest else c :: squeeze rest

def under (root : Path) (names : List (List Char)) : Path :=
  ⟨squeeze (root.text ++ names.flatMap ('/' :: ·))⟩

structure ProperName (name : List Char) : Prop where
  nonempty : name ≠ []
  notCurrent : name ≠ ['.']
  notParent : name ≠ ['.', '.']
  noSlash : '/' ∉ name

instance (name : List Char) : Decidable (ProperName name) :=
  decidable_of_iff (name ≠ [] ∧ name ≠ ['.'] ∧ name ≠ ['.', '.'] ∧ '/' ∉ name)
    ⟨fun ⟨nonempty, notCurrent, notParent, noSlash⟩ => ⟨nonempty, notCurrent, notParent, noSlash⟩,
      fun proper => ⟨proper.nonempty, proper.notCurrent, proper.notParent, proper.noSlash⟩⟩

theorem head?_squeeze (text : List Char) : (squeeze text).head? = text.head? := by
  induction text with
  | nil => rfl
  | cons c rest ih =>
    rw [squeeze]
    split
    · next row => rw [ih, row.1, row.2, List.head?_cons]
    · rfl

theorem getLast?_squeeze (text : List Char) : (squeeze text).getLast? = text.getLast? := by
  induction text with
  | nil => rfl
  | cons c rest ih =>
    rw [squeeze]
    split
    · next row =>
      obtain ⟨tail, rfl⟩ := List.head?_eq_some_iff.mp row.2
      rw [ih, List.getLast?_cons_cons]
    · rw [List.getLast?_cons, List.getLast?_cons, ih]

theorem squeeze_append_congr {rest other : List Char} (same : squeeze rest = squeeze other)
    (text : List Char) : squeeze (text ++ rest) = squeeze (text ++ other) := by
  induction text with
  | nil => exact same
  | cons c text ih =>
    have heads : (text ++ rest).head? = (text ++ other).head? := by
      rw [← head?_squeeze, ih, head?_squeeze]
    rw [List.cons_append, List.cons_append, squeeze, squeeze, heads, ih]

theorem squeeze_append {text rest : List Char}
    (apart : text.getLast? = some '/' → rest.head? ≠ some '/') :
    squeeze (text ++ rest) = squeeze text ++ squeeze rest := by
  induction text with
  | nil => rfl
  | cons c text ih =>
    cases text with
    | nil =>
      have single : ¬ (c = '/' ∧ rest.head? = some '/') := fun row =>
        apart (congrArg some row.1) row.2
      simp [squeeze, single]
    | cons d text =>
      rw [List.getLast?_cons_cons] at apart
      have heads : (d :: text ++ rest).head? = (d :: text).head? := rfl
      rw [List.cons_append, squeeze, heads, ih apart]
      simp only [squeeze.eq_2 c]
      split <;> rfl

theorem squeeze_of_notMem {text : List Char} (absent : '/' ∉ text) : squeeze text = text := by
  induction text with
  | nil => rfl
  | cons c rest ih =>
    have other : c ≠ '/' := (List.ne_of_not_mem_cons absent).symm
    rw [squeeze, if_neg fun row => other row.1, ih (List.not_mem_of_not_mem_cons absent)]

theorem squeeze_dropWhile (text rest : List Char) :
    squeeze ('/' :: (text.dropWhile (· == '/') ++ rest)) = squeeze ('/' :: (text ++ rest)) := by
  induction text with
  | nil => rfl
  | cons c text ih =>
    by_cases slash : c = '/'
    next =>
      have row : squeeze ('/' :: '/' :: (text ++ rest)) = squeeze ('/' :: (text ++ rest)) :=
        if_pos ⟨rfl, rfl⟩
      simp [slash, ih, row]
    next => simp [slash]

-- Two slashes meet only where the path ends in one, and there the part follows it directly.
theorem join_part {text part : List Char} (nonempty : text ≠ []) (absent : '/' ∉ part) :
    (⟨squeeze text⟩ : Path).join ⟨part⟩ = ⟨squeeze (text ++ '/' :: part)⟩ := by
  have relative : part.head? ≠ some '/' := fun slash => absent (List.mem_of_mem_head? slash)
  have slashed : squeeze ('/' :: part) = '/' :: part := by
    rw [squeeze, if_neg fun row => relative row.2, squeeze_of_notMem absent]
  have begun : squeeze text ≠ [] := by
    intro empty
    have head := head?_squeeze text
    rw [empty] at head
    exact nonempty (List.head?_eq_none_iff.mp head.symm)
  have notReplaced : ¬ ((isAbsolute ⟨part⟩ || (squeeze text).isEmpty) = true) := by
    simp [isAbsolute, relative, begun]
  rw [join, if_neg notReplaced, getLast?_squeeze]
  by_cases ends : text.getLast? = some '/'
  next =>
    obtain ⟨front, rfl⟩ := List.getLast?_eq_some_iff.mp ends
    have row : squeeze ('/' :: '/' :: part) = squeeze ('/' :: part) := if_pos ⟨rfl, rfl⟩
    have joined : squeeze (front ++ ['/'] ++ '/' :: part) = squeeze (front ++ ['/'] ++ part) := by
      simpa using squeeze_append_congr row front
    rw [if_pos (by simp), joined, squeeze_append fun _ => relative, squeeze_of_notMem absent]
  next =>
    rw [if_neg (by simpa using ends), squeeze_append fun slash => absurd slash ends, slashed]

theorem foldl_join {text : List Char} (nonempty : text ≠ []) {parts : List (List Char)}
    (absent : ∀ part ∈ parts, '/' ∉ part) :
    parts.foldl (fun path part => path.join ⟨part⟩) (⟨squeeze text⟩ : Path) =
      ⟨squeeze (text ++ parts.flatMap ('/' :: ·))⟩ := by
  induction parts generalizing text with
  | nil => simp
  | cons part parts ih =>
    rw [List.foldl_cons, join_part nonempty (absent part List.mem_cons_self),
      ih (by simp) fun other member => absent other (List.mem_cons_of_mem part member),
      List.flatMap_cons, List.append_assoc]

theorem splitFrom_squeeze {β : Type} (read : List (List Char) → β)
    (skips : ∀ before part after,
      read (before ++ [] :: part :: after) = read (before ++ part :: after))
    (before : List (List Char)) (current text : List Char) :
    read (before ++ Text.splitFrom '/' current (squeeze text)) =
      read (before ++ Text.splitFrom '/' current text) := by
  induction text generalizing before current with
  | nil => rfl
  | cons c rest ih =>
    rw [squeeze]
    split
    · next row =>
      obtain ⟨rfl, again⟩ := row
      obtain ⟨rest, rfl⟩ := List.head?_eq_some_iff.mp again
      obtain ⟨part, parts, cut⟩ := List.exists_cons_of_ne_nil (Text.splitFrom_ne_nil '/' [] rest)
      have skip := skips (before ++ [current.reverse]) part parts
      simp only [List.append_assoc, List.singleton_append] at skip
      simpa [Text.splitFrom, cut, skip] using ih before current
    · by_cases slash : c = '/'
      next => simpa [Text.splitFrom, slash] using ih (before ++ [current.reverse]) []
      next => simpa [Text.splitFrom, slash] using ih before (c :: current)

theorem split_squeeze {β : Type} (read : List (List Char) → β)
    (skips : ∀ before part after,
      read (before ++ [] :: part :: after) = read (before ++ part :: after))
    (text : List Char) :
    read (Text.split '/' (squeeze text)) = read (Text.split '/' text) :=
  splitFrom_squeeze read skips [] [] text

theorem split_under {names : List (List Char)} (absent : ∀ name ∈ names, '/' ∉ name)
    (text : List Char) :
    Text.split '/' (text ++ names.flatMap ('/' :: ·)) = Text.split '/' text ++ names := by
  induction names generalizing text with
  | nil => simp
  | cons name names ih =>
    have here := Text.split_append '/' text name
    rw [Text.split_of_notMem (absent name List.mem_cons_self)] at here
    have later := ih (fun other member => absent other (List.mem_cons_of_mem name member))
      (text ++ '/' :: name)
    rw [List.flatMap_cons, ← List.append_assoc, later, here, List.append_assoc,
      List.singleton_append]

theorem segmentsFrom_parts (current text : List Char) :
    (segmentsFrom current text).map (·.1) =
      (Text.splitFrom '/' current text).filter fun part => !part.isEmpty := by
  induction text generalizing current with
  | nil => cases current <;> simp [segmentsFrom, Text.splitFrom]
  | cons c rest ih =>
    by_cases slash : c = '/'
    next => cases current <;> simp [segmentsFrom, Text.splitFrom, slash, ih]
    next => simp [segmentsFrom, Text.splitFrom, slash, ih]

theorem filterMap_componentOf (parts : List (List Char)) :
    (parts.filter fun part => !part.isEmpty).filterMap componentOf =
      parts.filterMap componentOf := by
  rw [List.filterMap_filter]
  congr
  funext part
  cases part <;> rfl

theorem bodyComponents_parts (text : List Char) :
    (bodyComponents text).map (·.1) = (Text.split '/' text).filterMap componentOf := by
  have parts := congrArg (·.filterMap componentOf) (segmentsFrom_parts [] text)
  simp only [filterMap_componentOf, List.filterMap_map] at parts
  simp only [Text.split, ← parts, bodyComponents, List.map_filterMap, segments]
  simp [Function.comp_def]

theorem components_absolute {path : Path} (absolute : path.isAbsolute = true) :
    path.components = .root :: (Text.split '/' path.text).filterMap componentOf := by
  obtain ⟨text⟩ := path
  obtain ⟨rest, rfl⟩ := List.head?_eq_some_iff.mp (beq_iff_eq.mp absolute)
  have front : Text.split '/' ('/' :: rest) = [] :: Text.split '/' rest := rfl
  rw [front]
  exact congrArg (PathComponent.root :: ·) (bodyComponents_parts rest)

theorem ProperName.componentOf {name : List Char} (proper : ProperName name) :
    Path.componentOf name = some (.named name) := by
  simp [Path.componentOf, proper.nonempty, proper.notCurrent, proper.notParent]

theorem isAbsolute_under {root : Path} (absolute : root.isAbsolute = true)
    (names : List (List Char)) : (root.under names).isAbsolute = true := by
  obtain ⟨rest, begins⟩ := List.head?_eq_some_iff.mp (beq_iff_eq.mp absolute)
  simp [isAbsolute, under, head?_squeeze, begins]

theorem filterMap_componentOf_names {names : List (List Char)}
    (proper : ∀ name ∈ names, ProperName name) :
    names.filterMap componentOf = names.map .named := by
  induction names with
  | nil => rfl
  | cons name names ih =>
    rw [List.filterMap_cons_some (proper name List.mem_cons_self).componentOf, List.map_cons,
      ih fun other member => proper other (List.mem_cons_of_mem name member)]

theorem components_under {root : Path} (absolute : root.isAbsolute = true)
    {names : List (List Char)} (proper : ∀ name ∈ names, ProperName name) :
    (root.under names).components = root.components ++ names.map .named := by
  have skips (before : List (List Char)) (part : List Char) (after : List (List Char)) :
      (before ++ [] :: part :: after).filterMap componentOf =
        (before ++ part :: after).filterMap componentOf := by
    have empty : componentOf [] = none := rfl
    simp [List.filterMap_append, empty]
  rw [components_absolute (isAbsolute_under absolute names), components_absolute absolute, under,
    split_squeeze (·.filterMap componentOf) skips,
    split_under fun name member => (proper name member).noSlash, List.filterMap_append,
    filterMap_componentOf_names proper, List.cons_append]

theorem under_inj {root : Path} (absolute : root.isAbsolute = true)
    {names others : List (List Char)} (proper : ∀ name ∈ names, ProperName name)
    (properOthers : ∀ name ∈ others, ProperName name)
    (same : (root.under names).components = (root.under others).components) :
    names = others := by
  rw [components_under absolute proper, components_under absolute properOthers] at same
  exact (List.map_inj_right fun _ _ => PathComponent.named.inj).mp (List.append_cancel_left same)

end Path

namespace Place

theorem follow?_append (place : Place) (parts more : List (List Char)) :
    place.follow? (parts ++ more) = (place.follow? parts).bind (·.follow? more) := by
  induction parts generalizing place with
  | nil => rfl
  | cons part parts ih =>
    simp only [List.cons_append, follow?, Option.bind_assoc]
    exact congrArg _ (funext fun next => ih next)

-- Nothing leads on from a file, not even an empty part.
theorem follow?_skips (place : Place) (before : List (List Char)) (part : List Char)
    (after : List (List Char)) :
    place.follow? (before ++ [] :: part :: after) = place.follow? (before ++ part :: after) := by
  rw [follow?_append, follow?_append]
  congr
  funext next
  cases directory : next.node.isDirectory <;> simp [follow?, enter?, directory]

end Place

namespace FileSystem

theorem place?_absolute (files : FileSystem) {path : Path} (absolute : path.isAbsolute = true) :
    files.place? path = (Place.top files.tree).follow? (Text.split '/' path.text) := by
  have nonempty : path.text.isEmpty = false := by
    obtain ⟨rest, begins⟩ := List.head?_eq_some_iff.mp (beq_iff_eq.mp absolute)
    rw [begins]
    rfl
  have kept : files.absolute path = path := if_pos (by rw [absolute, Bool.true_or])
  simp [place?, nonempty, kept]

theorem place?_under (files : FileSystem) {root : Path} (absolute : root.isAbsolute = true)
    {names : List (List Char)} (proper : ∀ name ∈ names, Path.ProperName name) :
    files.place? (root.under names) = (files.place? root).bind (·.follow? names) := by
  rw [files.place?_absolute (Path.isAbsolute_under absolute names), files.place?_absolute absolute,
    Path.under, Path.split_squeeze _ (Place.top files.tree).follow?_skips,
    Path.split_under fun name member => (proper name member).noSlash, Place.follow?_append]

end FileSystem

end DocAudit
