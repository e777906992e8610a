import DocAudit.CommentIndex
import Mathlib.Order.Bounds.Basic

set_option autoImplicit false

namespace DocAudit

def Text.IsOccupied (line : List Char) : Prop :=
  ∃ blanks c rest, line = blanks ++ c :: rest ∧ (∀ blank ∈ blanks, isBlank blank = true) ∧
    isBlank c = false ∧ ¬ ['/', '/'] <+: c :: rest

/-- Where the look-up may end: at the first line, or at an occupied line of the content. -/
def Text.IsStop (content : List Char) (number : Nat) : Prop :=
  number = 1 ∨ ∃ above line below, lines content = above ++ line :: below ∧
    above.length + 1 = number ∧ IsOccupied line

def Comment.IsJavadoc (comment : Comment) : Prop :=
  comment.style = .block ∧ comment.lines ≠ ["/**/"] ∧
    ∃ first rest, comment.lines = first :: rest ∧ "/**".toList <+: first.toList

def Comment.IsLastEndingAt (comments : List Comment) (line : Nat) (comment : Comment) : Prop :=
  ∃ before after, comments = before ++ comment :: after ∧
    (comment.IsJavadoc ∧ comment.endLine = line) ∧
    ∀ later ∈ after, ¬ (later.IsJavadoc ∧ later.endLine = line)

/-- The way up from a line to the one where the look-up ends, with the lines whose text it asks for,
the nearest first. -/
inductive CommentIndex.Ascends (index : CommentIndex) : Nat → List Nat → Nat → Prop
  | top {line : Nat} : line ≤ 1 → Ascends index line [] line
  | stop {line : Nat} : 1 < line → index.isSkippable line = false → Ascends index line [line] line
  | pass {line last : Nat} {asked : List Nat} : 1 < line → index.isSkippable line = true →
      Ascends index (line - 1) asked last → Ascends index line (line :: asked) last

namespace Text

theorem isOccupied_iff (line : List Char) :
    IsOccupied line ↔ CommentIndex.isSkippableText line = false := by
  constructor
  next =>
    rintro ⟨blanks, c, rest, rfl, blank, solid, apart⟩
    have trimmed : trimStart (blanks ++ c :: rest) = c :: rest :=
      trimStart_append blank (by simp [solid])
    rw [CommentIndex.isSkippableText, trimmed]
    split
    next empty => cases empty
    next comment body begun =>
      rw [begun] at apart
      exact absurd ⟨_, rfl⟩ apart
    next => rfl
  next =>
    intro held
    obtain ⟨blanks, blank, cut⟩ := exists_blanks line
    rw [CommentIndex.isSkippableText] at held
    cases trimmed : trimStart line with
    | nil => simp [trimmed] at held
    | cons c rest =>
      have solid : isBlank c = false := by
        have first := head_dropWhile isBlank line
        change (trimStart line).head?.all _ = true at first
        simpa [trimmed] using first
      refine ⟨blanks, c, rest, trimmed ▸ cut, blank, solid, ?_⟩
      rintro ⟨body, begun⟩
      simp [trimmed, ← begun] at held

end Text

namespace Comment

theorem isJavadoc_iff (comment : Comment) : comment.IsJavadoc ↔ comment.isJavadoc = true := by
  rw [IsJavadoc, isJavadoc, Bool.and_eq_true, beq_iff_eq]
  refine and_congr_right fun _ => ?_
  cases comment.lines with
  | nil => simp
  | cons first rest =>
    rw [Bool.and_eq_true, List.isPrefixOf_iff_prefix, and_comm]
    refine and_congr (by simp) ?_
    rw [Bool.not_eq_true', Bool.and_eq_false_iff, List.isEmpty_eq_false_iff, beq_eq_false_iff_ne,
      ne_eq, List.cons.injEq, not_and_or, or_comm]

theorem isLastEndingAt_iff (comments : List Comment) (line : Nat) (comment : Comment) :
    IsLastEndingAt comments line comment ↔
      (comments.filter fun comment => comment.isJavadoc && comment.endLine == line).getLast? =
        some comment := by
  have asked (comment : Comment) : comment.IsJavadoc ∧ comment.endLine = line ↔
      (comment.isJavadoc && comment.endLine == line) = true := by
    rw [isJavadoc_iff, Bool.and_eq_true, beq_iff_eq]
  simp only [IsLastEndingAt, asked]
  rw [← List.head?_reverse, ← List.filter_reverse, List.head?_filter,
    List.find?_eq_some_iff_append]
  constructor
  next =>
    rintro ⟨before, after, rfl, found, later⟩
    refine ⟨found, after.reverse, before.reverse, by simp, ?_⟩
    simpa only [List.mem_reverse, Bool.not_eq_true', Bool.not_eq_true] using later
  next =>
    rintro ⟨found, after, before, split, later⟩
    refine ⟨before.reverse, after.reverse, ?_, found, ?_⟩
    · rw [← List.reverse_reverse comments, split]
      simp
    · simpa only [List.mem_reverse, Bool.not_eq_true', Bool.not_eq_true] using later

end Comment

namespace CommentIndex

variable {index : CommentIndex}

theorem Ascends.unique {line last other : Nat} {asked others : List Nat}
    (way : index.Ascends line asked last) (again : index.Ascends line others other) :
    others = asked ∧ other = last := by
  induction way generalizing others other with
  | top low =>
    cases again with
    | top => exact ⟨rfl, rfl⟩
    | stop high => omega
    | pass high => omega
  | stop high occupied =>
    cases again with
    | top low => omega
    | stop => exact ⟨rfl, rfl⟩
    | pass _ skippable => simp [occupied] at skippable
  | pass high skippable _ ih =>
    cases again with
    | top low => omega
    | stop _ occupied => simp [skippable] at occupied
    | pass _ _ rest =>
      obtain ⟨rfl, rfl⟩ := ih rest
      exact ⟨rfl, rfl⟩

theorem exists_ascends (index : CommentIndex) (line : Nat) :
    ∃ asked, index.Ascends line asked (index.anchor line) ∧
      ∀ number ∈ asked, 2 ≤ number ∧ number ≤ line := by
  fun_induction anchor index line with
  | case1 => exact ⟨[], .top (by omega), by simp⟩
  | case2 => exact ⟨[], .top (by omega), by simp⟩
  | case3 line skippable ih =>
    obtain ⟨asked, way, bounds⟩ := ih
    refine ⟨(line + 2) :: asked, .pass (by omega) skippable way, ?_⟩
    rw [List.forall_mem_cons]
    refine ⟨by omega, fun number member => ?_⟩
    have within := bounds number member
    omega
  | case4 line occupied =>
    exact ⟨[line + 2], .stop (by omega) (by simpa using occupied), by simp⟩

theorem isStop_iff (unit : CompilationUnit) (content : List Char) (number : Nat) :
    Text.IsStop content (number + 1) ↔
      number = 0 ∨ (ofUnit unit content).isSkippable (number + 1) = false := by
  have lines : (ofUnit unit content).lines = Text.lines content := rfl
  rw [Text.IsStop, isSkippable, lines, Nat.add_sub_cancel, Nat.add_eq_right]
  refine or_congr_right ?_
  constructor
  next =>
    rintro ⟨above, line, below, split, place, occupied⟩
    obtain rfl : above.length = number := by omega
    simpa [split, ← Text.isOccupied_iff] using occupied
  next =>
    intro occupied
    cases found : (Text.lines content)[number]? with
    | none => simp [found] at occupied
    | some line =>
      obtain ⟨inside, rfl⟩ := List.getElem?_eq_some_iff.mp found
      refine ⟨(Text.lines content).take number, _, (Text.lines content).drop (number + 1), ?_, ?_,
        (Text.isOccupied_iff _).mpr (by simpa [found] using occupied)⟩
      · rw [List.getElem_cons_drop, List.take_append_drop]
      · rw [List.length_take_of_le inside.le]

theorem anchor_isGreatest (unit : CompilationUnit) (content : List Char) (line : Nat) :
    IsGreatest {number | number < line + 2 ∧ Text.IsStop content number}
      ((ofUnit unit content).anchor (line + 1)) := by
  induction line with
  | zero => exact ⟨⟨Nat.one_lt_two, .inl rfl⟩, fun number stop => Nat.le_of_lt_succ stop.1⟩
  | succ line ih =>
    by_cases skippable : (ofUnit unit content).isSkippable (line + 2) = true
    next =>
      rw [anchor, if_pos skippable]
      refine ⟨⟨Nat.lt_succ_of_lt ih.1.1, ih.1.2⟩, fun number stop => ih.2 ⟨?_, stop.2⟩⟩
      have passed : number ≠ line + 2 := by
        rintro rfl
        have occupied := (isStop_iff unit content (line + 1)).mp stop.2
        simp [skippable] at occupied
      have below : number < line + 3 := stop.1
      omega
    next =>
      rw [anchor, if_neg skippable]
      refine ⟨⟨Nat.lt_succ_self _, ?_⟩, fun number stop => Nat.le_of_lt_succ stop.1⟩
      exact (isStop_iff unit content (line + 1)).mpr (.inr (by simpa using skippable))

theorem endingAt?_ofUnit (unit : CompilationUnit) (content : List Char) (line : Nat) :
    (ofUnit unit content).endingAt? line =
      (unit.comments.filter fun comment =>
        comment.isJavadoc && comment.endLine == line).getLast? := by
  have block (comment : Comment) : (comment.isJavadoc && comment.style == .block) =
      comment.isJavadoc := by
    rw [Comment.isJavadoc, Bool.and_right_comm, Bool.and_self]
  simp only [endingAt?, ofUnit, CompilationUnit.commentsOf, List.filter_filter, block,
    Bool.and_comm]

theorem endingAt?_eq_none_iff (unit : CompilationUnit) (content : List Char) (line : Nat) :
    (ofUnit unit content).endingAt? line = none ↔
      ∀ comment ∈ unit.comments, ¬ (comment.IsJavadoc ∧ comment.endLine = line) := by
  rw [endingAt?_ofUnit, List.getLast?_eq_none_iff, List.filter_eq_nil_iff]
  simp only [Comment.isJavadoc_iff, Bool.and_eq_true, beq_iff_eq]

theorem javadocBefore?_nearest (unit : CompilationUnit) (content : List Char) :
    (ofUnit unit content).javadocBefore? 0 = none ∧
    ∀ line, 2 ≤ line → ∃ last asked,
      IsGreatest {number | number < line ∧ Text.IsStop content number} last ∧
      (∀ passed stop, (ofUnit unit content).Ascends (line - 1) passed stop ↔
        passed = asked ∧ stop = last) ∧
      (∀ number ∈ asked, 2 ≤ number ∧ number < line) ∧
      ((ofUnit unit content).javadocBefore? line = none ↔
        ∀ comment ∈ unit.comments, ¬ (comment.IsJavadoc ∧ comment.endLine = last)) ∧
      ∀ comment, (ofUnit unit content).javadocBefore? line = some comment ↔
        Comment.IsLastEndingAt unit.comments last comment := by
  refine ⟨rfl, fun line above => ?_⟩
  obtain ⟨line, rfl⟩ := Nat.exists_eq_add_of_le' above
  obtain ⟨asked, way, bounds⟩ := exists_ascends (ofUnit unit content) (line + 1)
  refine ⟨(ofUnit unit content).anchor (line + 1), asked, anchor_isGreatest unit content line,
    fun passed stop => ⟨way.unique, ?_⟩, fun number member => ?_,
    endingAt?_eq_none_iff unit content _, fun comment => ?_⟩
  next =>
    rintro ⟨rfl, rfl⟩
    exact way
  next =>
    have within := bounds number member
    omega
  next => rw [Comment.isLastEndingAt_iff, ← endingAt?_ofUnit unit content, javadocBefore?]

-- Two comments end on the first line; an empty line and a line comment stand below them.
private def crowdedUnit : CompilationUnit :=
  ⟨[], [⟨.block, 1, 0, 1, ["/** A. */"]⟩, ⟨.block, 1, 10, 1, ["/** B. */"]⟩,
    ⟨.line, 3, 0, 3, ["// note"]⟩], 4⟩

private def crowdedContent : List Char := "/** A. */ /** B. */\n\n// note\nclass A\n".toList

theorem javadocBefore?_crowded :
    2 ≤ 4 ∧ IsGreatest {number | number < 4 ∧ Text.IsStop crowdedContent number} 1 ∧
      Comment.IsLastEndingAt crowdedUnit.comments 1 ⟨.block, 1, 10, 1, ["/** B. */"]⟩ ∧
      (ofUnit crowdedUnit crowdedContent).javadocBefore? 4 =
        some ⟨.block, 1, 10, 1, ["/** B. */"]⟩ := by
  have found : (ofUnit crowdedUnit crowdedContent).javadocBefore? 4 =
      some ⟨.block, 1, 10, 1, ["/** B. */"]⟩ := by decide
  obtain ⟨last, _, greatest, _, _, _, found_iff⟩ :=
    (javadocBefore?_nearest crowdedUnit crowdedContent).2 4 (by decide)
  have ends := (found_iff _).mp found
  obtain ⟨_, _, _, ⟨_, rfl⟩, _⟩ := id ends
  exact ⟨by decide, greatest, ends, found⟩

end CommentIndex

end DocAudit
