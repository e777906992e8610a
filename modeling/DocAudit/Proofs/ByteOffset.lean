import DocAudit.SourceFile
import Mathlib.Data.List.Basic

set_option autoImplicit false

namespace DocAudit

namespace Text

/-- Line ends that are written with a carriage return. -/
def returnedEnds : List Char → Nat
  | '\r' :: '\n' :: rest => returnedEnds rest + 1
  | _ :: rest => returnedEnds rest
  | [] => 0

structure LineAt (text : List Char) (number : Nat) (before line after : List Char) : Prop where
  split : text = before ++ line ++ after
  above : before.count '\n' + 1 = number
  whole : before = [] ∨ before.getLast? = some '\n'

theorem returnedEnds_eq_zero_iff (text : List Char) :
    returnedEnds text = 0 ↔ ¬ ['\r', '\n'] <:+: text := by
  fun_induction returnedEnds text with
  | case1 rest ih =>
    have here : ['\r', '\n'] <:+: '\r' :: '\n' :: rest := ⟨[], rest, rfl⟩
    simp [here]
  | case2 c rest apart ih =>
    have here : ¬ ['\r', '\n'] <+: c :: rest := by
      rintro ⟨later, split⟩
      obtain ⟨rfl, rfl⟩ := List.cons.inj split
      exact apart later rfl rfl
    rw [ih, List.infix_cons_iff, or_iff_right here]
  | case3 => simp

theorem returnedEnds_cons {c : Char} {rest : List Char}
    (apart : c ≠ '\r' ∨ rest.head? ≠ some '\n') :
    returnedEnds (c :: rest) = returnedEnds rest := by
  rw [returnedEnds.eq_2]
  rintro later rfl rfl
  rcases apart with apart | apart <;> exact apart rfl

theorem dropBytes?_append (before after : List Char) :
    dropBytes? (byteLength before) (before ++ after) = some after := by
  induction before with
  | nil => simp [dropBytes?]
  | cons c before ih =>
    obtain ⟨size, held⟩ := Nat.exists_eq_add_one.mpr c.utf8Size_pos
    have total : byteLength (c :: before) = size + byteLength before + 1 := by
      rw [byteLength_cons, held]
      omega
    have left : size + byteLength before + 1 - c.utf8Size = byteLength before := by omega
    have fits : c.utf8Size ≤ size + byteLength before + 1 := by omega
    rw [total, List.cons_append, dropBytes?, if_pos fits, left, ih]

section Lines

variable {full : List Char}

theorem linesFrom_lineFeed (unbroken : '\n' ∉ full) (current rest : List Char) :
    linesFrom current (full ++ '\n' :: rest) =
      (dropCarriageReturn (full.reverse ++ current)).reverse :: lines rest := by
  induction full generalizing current with
  | nil => rfl
  | cons c full ih =>
    obtain ⟨other, unbroken⟩ := not_or.mp (List.mem_cons.not.mp unbroken)
    simp [linesFrom, Ne.symm other, ih unbroken]

theorem linesFrom_unbroken (unbroken : '\n' ∉ full) (current : List Char) :
    linesFrom current full =
      if (full.reverse ++ current).isEmpty then [] else [(full.reverse ++ current).reverse] := by
  induction full generalizing current with
  | nil => rfl
  | cons c full ih =>
    obtain ⟨other, unbroken⟩ := not_or.mp (List.mem_cons.not.mp unbroken)
    simp [linesFrom, Ne.symm other, ih unbroken]

theorem lines_unbroken (unbroken : '\n' ∉ full) :
    lines full = if full.isEmpty then [] else [full] := by
  rw [lines, linesFrom_unbroken unbroken, List.append_nil, List.reverse_reverse,
    List.isEmpty_reverse]

theorem returnedEnds_append (unbroken : '\n' ∉ full) {rest : List Char}
    (apart : rest.head? ≠ some '\n') : returnedEnds (full ++ rest) = returnedEnds rest := by
  induction full with
  | nil => rfl
  | cons c full ih =>
    obtain ⟨_, unbroken⟩ := not_or.mp (List.mem_cons.not.mp unbroken)
    have next : (full ++ rest).head? ≠ some '\n' := by
      cases full with
      | nil => exact apart
      | cons d full => simpa using (List.ne_of_not_mem_cons unbroken).symm
    rw [List.cons_append, returnedEnds_cons (.inr next), ih unbroken]

-- The carriage return at the end of a line, if it has one, is what offsets leave out.
theorem exists_stripped (unbroken : '\n' ∉ full) : ∃ line returned, full = line ++ returned ∧
    (∀ rest, lines (full ++ '\n' :: rest) = line :: lines rest) ∧
    ∀ rest, returnedEnds (full ++ '\n' :: rest) = byteLength returned + returnedEnds rest := by
  have cut (rest : List Char) : lines (full ++ '\n' :: rest) =
      (dropCarriageReturn full.reverse).reverse :: lines rest := by
    rw [lines, linesFrom_lineFeed unbroken, List.append_nil]
  rcases List.eq_nil_or_concat' full with rfl | ⟨line, c, rfl⟩
  next => exact ⟨[], [], rfl, cut, fun rest => by simp [returnedEnds]⟩
  next =>
    have start : '\n' ∉ line := fun member => unbroken (by simp [member])
    have last : c ≠ '\n' := fun same => unbroken (by simp [same])
    have counted (rest : List Char) : returnedEnds (line ++ [c] ++ '\n' :: rest) =
        returnedEnds (c :: '\n' :: rest) := by
      rw [List.append_assoc]
      exact returnedEnds_append start (by simpa using last)
    by_cases returned : c = '\r'
    next =>
      subst returned
      refine ⟨line, ['\r'], rfl, fun rest => ?_, fun rest => ?_⟩
      · rw [cut, List.reverse_concat, dropCarriageReturn, List.reverse_reverse]
      · rw [counted, returnedEnds, Nat.add_comm]
        rfl
    next =>
      refine ⟨line ++ [c], [], (List.append_nil _).symm, fun rest => ?_, fun rest => ?_⟩
      · rw [cut, List.reverse_concat]
        simp [dropCarriageReturn, returned]
      · rw [counted, returnedEnds_cons (.inl returned), byteLength_nil, Nat.zero_add]
        rfl

end Lines

theorem lines_induction {motive : List Char → Prop}
    (unbroken : ∀ text, '\n' ∉ text → motive text)
    (lineFeed : ∀ full rest, '\n' ∉ full → motive rest → motive (full ++ '\n' :: rest))
    (text : List Char) : motive text := by
  by_cases broken : '\n' ∈ text
  next =>
    obtain ⟨full, rest, split, absent⟩ := List.eq_append_cons_of_mem broken
    have shorter : rest.length < text.length := by
      rw [split, List.length_append, List.length_cons]
      omega
    rw [split]
    exact lineFeed full rest absent (lines_induction unbroken lineFeed rest)
  next => exact unbroken text broken
termination_by text.length

theorem LineAt.below {text before line after : List Char} {number : Nat}
    (held : LineAt text number before line after) {full : List Char} (unbroken : '\n' ∉ full) :
    LineAt (full ++ '\n' :: text) (number + 1) (full ++ '\n' :: before) line after where
  split := by simp [held.split]
  above := by
    rw [List.count_append, List.count_eq_zero_of_not_mem unbroken, List.count_cons_self,
      ← held.above]
    omega
  whole := by
    refine .inr ?_
    rcases held.whole with rfl | last
    · simp
    · simp [List.getLast?_cons, last]

theorem exists_lineAt_first {text line after : List Char} (split : text = line ++ after)
    (later : List (List Char)) :
    ∃ before after, LineAt text 1 before line after ∧
      ∀ column ≤ byteLength line, ∀ start,
        SourceFile.offsetIn column 0 (line :: later) start + returnedEnds before =
          start + byteLength before + column := by
  refine ⟨[], after, ⟨split, rfl, .inl rfl⟩, fun column inside start => ?_⟩
  simp [SourceFile.offsetIn, returnedEnds, inside]

-- Every line has its place in the text, and its offsets fall short by the returns above it.
theorem exists_lineAt {text line : List Char} {index : Nat}
    (present : (lines text)[index]? = some line) :
    ∃ before after, LineAt text (index + 1) before line after ∧
      ∀ column ≤ byteLength line, ∀ start,
        SourceFile.offsetIn column index (lines text) start + returnedEnds before =
          start + byteLength before + column := by
  induction text using lines_induction generalizing index with
  | unbroken text unbroken =>
    rw [lines_unbroken unbroken] at present ⊢
    split at present
    next => simp at present
    next nonempty =>
      obtain ⟨rfl, rfl⟩ : index = 0 ∧ text = line := by
        simpa [List.getElem?_singleton] using present
      simpa [nonempty] using exists_lineAt_first (List.append_nil text).symm []
  | lineFeed full rest unbroken ih =>
    obtain ⟨first, returned, rfl, cut, counted⟩ := exists_stripped unbroken
    rw [cut] at present ⊢
    cases index with
    | zero =>
      obtain rfl : first = line := by simpa using present
      exact exists_lineAt_first (List.append_assoc ..) _
    | succ index =>
      obtain ⟨before, after, held, short⟩ := ih present
      refine ⟨_, after, held.below unbroken, fun column inside start => ?_⟩
      have below := short column inside (start + byteLength first + 1)
      have lineFeed : '\n'.utf8Size = 1 := rfl
      rw [SourceFile.offsetIn, counted, byteLength_append, byteLength_append, byteLength_cons]
      omega

end Text

namespace SourceFile

open Text

theorem offset_of_line (file : SourceFile) {number column : Nat} {line : List Char}
    (positive : 1 ≤ number) (present : (lines file.content)[number - 1]? = some line) :
    file.offset number column = offsetIn column (number - 1) (lines file.content) 0 := by
  obtain ⟨index, rfl⟩ := Nat.exists_eq_add_of_le' positive
  obtain ⟨within, _⟩ := List.getElem?_eq_some_iff.mp present
  exact if_pos within

-- An offset falls short of the bytes in front of its place by one for every line end above it
-- that is written with a carriage return. Without one, the text from the offset on is the rest of
-- the line.
theorem offset_exact_iff (file : SourceFile) (number column : Nat) (line : List Char)
    (positive : 1 ≤ number) (present : (lines file.content)[number - 1]? = some line)
    (inside : column ≤ byteLength line) :
    ∃ before after, LineAt file.content number before line after ∧
      file.offset number column + returnedEnds before = byteLength before + column ∧
      (file.offset number column = byteLength before + column ↔
        ¬ ['\r', '\n'] <:+: before) ∧
      (¬ ['\r', '\n'] <:+: before →
        ∀ head tail, line = head ++ tail → byteLength head = column →
          dropBytes? (file.offset number column) file.content = some (tail ++ after)) := by
  obtain ⟨before, after, held, short⟩ := exists_lineAt present
  have missing : file.offset number column + returnedEnds before = byteLength before + column := by
    rw [file.offset_of_line positive present, short column inside 0, Nat.zero_add]
  have exact_iff : file.offset number column = byteLength before + column ↔
      ¬ ['\r', '\n'] <:+: before := by
    rw [← returnedEnds_eq_zero_iff]
    omega
  rw [Nat.sub_add_cancel positive] at held
  refine ⟨before, after, held, missing, exact_iff, fun plain head tail split reached => ?_⟩
  have split : file.content = (before ++ head) ++ (tail ++ after) := by
    rw [held.split, split]
    simp
  rw [exact_iff.mpr plain, ← reached, ← byteLength_append, split, dropBytes?_append]

private def mixedEnds : SourceFile := ⟨⟨[]⟩, "é\nab\r\nc".toList⟩

theorem offset_mixedEnds :
    1 ≤ 3 ∧ (lines mixedEnds.content)[3 - 1]? = some ['c'] ∧ 1 ≤ byteLength ['c'] ∧
      mixedEnds.offset 3 1 = 7 ∧
      ∃ before after, LineAt mixedEnds.content 3 before ['c'] after ∧
        mixedEnds.offset 3 1 + returnedEnds before = byteLength before + 1 := by
  obtain ⟨before, after, held, short, _⟩ := offset_exact_iff mixedEnds 3 1 ['c']
    (by decide) (by decide) (by decide)
  exact ⟨by decide, by decide, by decide, by decide, before, after, held, short⟩

-- The second line starts behind three bytes, and its offset points at the line feed above it.
theorem offset_belowReturn :
    LineAt "a\r\nb".toList 2 "a\r\n".toList ['b'] [] ∧
      (lines "a\r\nb".toList)[2 - 1]? = some ['b'] ∧
      byteLength "a\r\n".toList + 0 = 3 ∧
      (⟨⟨[]⟩, "a\r\nb".toList⟩ : SourceFile).offset 2 0 = 2 ∧
      dropBytes? 2 "a\r\nb".toList = some ['\n', 'b'] :=
  ⟨⟨by decide, by decide, by decide⟩, by decide, by decide, by decide,
    dropBytes?_append ['a', '\r'] ['\n', 'b']⟩

end SourceFile

end DocAudit
