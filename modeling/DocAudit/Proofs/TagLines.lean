import DocAudit.Tag
import DocAudit.Text.Parts
import Mathlib.Data.List.Basic

set_option autoImplicit false

namespace DocAudit

namespace TagReader

def isHit (text : List Char) : Bool :=
  "*/".toList.isPrefixOf text || text.head?.any fun c => c != '*' && !Text.isBlank c

def fromHit? (line : List Char) : Option (List Char) := (Text.suffixes line).find? isHit

def isDescribed (later : List String) : Bool :=
  (later.findSome? fun line => fromHit? line.toList).any fun text =>
    !"*/".toList.isPrefixOf text && text.head? != some '@'

end TagReader

def Comment.lineTag? (comment : Comment) (index : Nat) : Option Tag :=
  comment.lines[index]?.bind fun line =>
    ((TagReader.complete? line.toList).orElse fun _ =>
      if TagReader.isDescribed (comment.lines.drop (index + 1)) then
        TagReader.opening? line.toList
      else none).map fun hit => hit.toTag comment index

namespace TagReader

section Hits

def Continuation.ofHit (text : List Char) : Continuation :=
  if "*/".toList.isPrefixOf text then .closing
  else if text.head? = some '@' then .atSign
  else .text

theorem isPrefixOf_closing {c : Char} {rest : List Char}
    (apart : ∀ tail, c = '*' → rest = '/' :: tail → False) :
    "*/".toList.isPrefixOf (c :: rest) = false := by
  rw [Bool.eq_false_iff, ne_eq, List.isPrefixOf_iff_prefix]
  rintro ⟨tail, split⟩
  obtain ⟨rfl, rfl⟩ := List.cons.inj split
  exact apart tail rfl rfl

theorem continuation?_eq (line : List Char) :
    continuation? line = (fromHit? line).map Continuation.ofHit := by
  fun_induction continuation? line with
  | case1 => rfl
  | case2 rest => rfl
  | case3 c rest apart passed ih =>
    have missed : ¬ isHit (c :: rest) = true := by
      rw [isHit, isPrefixOf_closing apart]
      rcases passed with rfl | blank
      · simp
      · simp [blank]
    rw [ih, fromHit?, fromHit?, Text.suffixes, List.find?_cons_of_neg missed]
  | case4 rest apart loud =>
    rw [not_or] at loud
    have found : isHit ('@' :: rest) = true := by simp [isHit, loud]
    rw [fromHit?, Text.suffixes, List.find?_cons_of_pos found, Option.map_some,
      Continuation.ofHit, isPrefixOf_closing apart]
    rfl
  | case5 c rest apart loud other =>
    rw [not_or] at loud
    have found : isHit (c :: rest) = true := by simp [isHit, loud]
    rw [fromHit?, Text.suffixes, List.find?_cons_of_pos found, Option.map_some,
      Continuation.ofHit, isPrefixOf_closing apart]
    simp [other]

theorem quiet_of_fromHit?_eq_none {line : List Char} (empty : fromHit? line = none) :
    ∀ c ∈ line, c = '*' ∨ Text.isBlank c = true := by
  intro c member
  obtain ⟨front, rest, rfl⟩ := List.append_of_mem member
  have ends : c :: rest ∈ Text.suffixes (front ++ c :: rest) :=
    Text.mem_suffixes.mpr (List.suffix_append front _)
  have quiet := List.find?_eq_none.mp empty _ ends
  by_cases asterisk : c = '*'
  · exact .inl asterisk
  · exact .inr (by simpa [isHit, asterisk, Ne.symm asterisk] using quiet)

theorem leftmost?_eq_none {read : List Char → Option (List Char × Option (List Char))}
    {line : List Char} (silent : ∀ c ∈ line, ∀ rest, read (c :: rest) = none) (offset : Nat) :
    leftmost? read offset line = none := by
  induction line generalizing offset with
  | nil => rfl
  | cons c rest ih =>
    rw [leftmost?, silent c List.mem_cons_self]
    exact ih (fun d member => silent d (List.mem_cons_of_mem c member)) _

theorem leftmostInheritDoc?_eq_none {line : List Char} (silent : '{' ∉ line) (offset : Nat) :
    leftmostInheritDoc? offset line = none := by
  induction line generalizing offset with
  | nil => rfl
  | cons c rest ih =>
    have other : c ≠ '{' := (List.ne_of_not_mem_cons silent).symm
    have unread : inheritDocTag? (c :: rest) = none := by simp [inheritDocTag?, other]
    rw [leftmostInheritDoc?, unread]
    exact ih (List.not_mem_of_not_mem_cons silent) _

-- All readers but the one for the inline tag start at an at-sign.
theorem read_eq_none {c : Char} (other : c ≠ '@') (rest : List Char) :
    ∀ read ∈ [argumentTag?, plainTag?, argumentTagStart?, plainTagStart?],
      read (c :: rest) = none := by
  simp [argumentTag?, plainTag?, argumentTagStart?, plainTagStart?, other]

theorem unread_of_continuation?_eq_none {line : List Char} (empty : continuation? line = none) :
    complete? line = none ∧ opening? line = none := by
  have empty : fromHit? line = none := by simpa [continuation?_eq] using empty
  have quiet := quiet_of_fromHit?_eq_none empty
  have noBrace : '{' ∉ line := by
    intro member
    exact absurd (quiet _ member) (by decide)
  have noSign : ∀ c ∈ line, c ≠ '@' := by
    rintro c member rfl
    exact absurd (quiet _ member) (by decide)
  have silent : ∀ read ∈ [argumentTag?, plainTag?, argumentTagStart?, plainTagStart?],
      ∀ offset, leftmost? read offset line = none := fun read listed =>
    leftmost?_eq_none fun c member rest => read_eq_none (noSign c member) rest read listed
  simp only [List.forall_mem_cons] at silent
  obtain ⟨argument, plain, argumentStart, plainStart, _⟩ := silent
  simp [complete?, opening?, argument, plain, argumentStart, plainStart,
    leftmostInheritDoc?_eq_none noBrace]

end Hits

section Scan

theorem isDescribed_cons (line : String) (later : List String) :
    isDescribed (line :: later) =
      match continuation? line.toList with
      | none => isDescribed later
      | some hit => hit = .text := by
  rw [continuation?_eq]
  cases found : fromHit? line.toList with
  | none => simp [isDescribed, found]
  | some text =>
    simp only [isDescribed, List.findSome?_cons, found, Option.any_some, Option.map_some,
      Continuation.ofHit]
    by_cases closes : "*/".toList.isPrefixOf text = true
    · rw [closes]
      rfl
    · rw [Bool.eq_false_iff.mpr closes]
      by_cases sign : text.head? = some '@' <;> simp [sign]

variable {comment : Comment}

theorem lineTag?_eq {front rest : List String} {line : String}
    (split : comment.lines = front ++ line :: rest) :
    comment.lineTag? front.length =
      ((complete? line.toList).orElse fun _ =>
        if isDescribed rest then opening? line.toList else none).map fun hit =>
          hit.toTag comment front.length := by
  have here : comment.lines[front.length]? = some line := by simp [split]
  have below : comment.lines.drop (front.length + 1) = rest := by simp [split]
  rw [Comment.lineTag?, here, below, Option.bind_some]

-- A line that is read as a tag line adds its own tag, when what follows the line is read as the
-- lines below are read one by one.
theorem expectTag_eq {front rest : List String} {line : String}
    (split : comment.lines = front ++ line :: rest) {next : Option Tag → List Tag}
    {below : List Tag}
    (followed : ∀ pending,
      next pending = (if isDescribed rest then pending.toList else []) ++ below) :
    expectTag comment front.length line.toList next =
      (comment.lineTag? front.length).toList ++ below := by
  rw [lineTag?_eq split, expectTag]
  cases complete? line.toList with
  | some hit => simp [followed]
  | none =>
    simp only [followed]
    cases isDescribed rest <;> simp

theorem scan_eq {front rest : List String} (split : comment.lines = front ++ rest)
    (pending : Option Tag) :
    scan comment front.length pending rest =
      (if isDescribed rest then pending.toList else []) ++
        (List.range' front.length rest.length).filterMap comment.lineTag? := by
  induction rest generalizing front pending with
  | nil => cases pending <;> rfl
  | cons line rest ih =>
    have followed (pending : Option Tag) := @ih (front ++ [line]) (by simp [split]) pending
    simp only [List.length_append, List.length_singleton] at followed
    have read := expectTag_eq split followed
    rw [List.length_cons, List.range'_succ, List.filterMap_eq_flatMap_toList, List.flatMap_cons,
      ← List.filterMap_eq_flatMap_toList, ← read]
    cases pending with
    | none => simp [scan]
    | some tag =>
      rw [scan, isDescribed_cons]
      cases held : continuation? line.toList with
      | none =>
        -- The line holds nothing, so it gives no tag itself and the wait goes on.
        obtain ⟨incomplete, unopened⟩ := unread_of_continuation?_eq_none held
        rw [expectTag, incomplete, unopened]
        simp [followed]
      | some hit => cases hit <;> rfl

end Scan

end TagReader

theorem Comment.methodTags_eq_lineTags (comment : Comment) :
    comment.methodTags = (List.range comment.lines.length).filterMap comment.lineTag? := by
  have scanned := @TagReader.scan_eq comment [] comment.lines rfl none
  simpa [methodTags, List.range_eq_range'] using scanned

end DocAudit
