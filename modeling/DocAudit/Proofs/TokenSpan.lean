import DocAudit.Proofs.TextBytes
import Mathlib.Data.List.TakeWhile

set_option autoImplicit false

namespace DocAudit

namespace SourceFile

open Text (StandsAt byteLength lines)

/-- A token at a byte of the file: whole characters that end no token, up to one that does or to the
end of the file. -/
structure Covers (file : SourceFile) (offset length : Nat) (token : List Char) : Prop where
  stands : StandsAt file.content token offset
  size : token.utf8Encode.size = length
  bytes : file.content.utf8Encode.extract offset (offset + length) = token.utf8Encode
  solid : ∀ c ∈ token, Text.isBlank c = false ∧ c ≠ '('
  stops : offset + length = file.content.utf8Encode.size ∨
    ∃ c, (Text.isBlank c = true ∨ c = '(') ∧ StandsAt file.content [c] (offset + length)

-- Every line but the last is followed by one byte at least, which is what the sum adds for it.
theorem offsetIn_le {text : List Char} {index : Nat} (present : index < (lines text).length)
    (column start : Nat) :
    offsetIn column index (lines text) start ≤ start + byteLength text := by
  induction text using Text.lines_induction generalizing index start with
  | unbroken text unbroken =>
    rw [Text.lines_unbroken unbroken] at present ⊢
    split at present
    next => simp at present
    next nonempty =>
      obtain rfl : index = 0 := by simpa using present
      rw [if_neg nonempty, offsetIn]
      omega
  | lineFeed full rest unbroken ih =>
    obtain ⟨line, returned, rfl, cut, _⟩ := Text.exists_stripped unbroken
    rw [cut] at present ⊢
    rw [Text.byteLength_append, Text.byteLength_append, Text.byteLength_cons]
    cases index with
    | zero =>
      rw [offsetIn]
      omega
    | succ index =>
      have below := ih (by simpa using present) (start + byteLength line + 1)
      have lineFeed : '\n'.utf8Size = 1 := rfl
      rw [offsetIn]
      omega

theorem offset_le (file : SourceFile) (line column : Nat) :
    file.offset line column ≤ file.content.utf8Encode.size := by
  rw [← Text.byteLength_eq_size]
  cases line with
  | zero => exact Nat.zero_le _
  | succ index =>
    simp only [offset]
    split
    next present => simpa using offsetIn_le present column 0
    next => exact Nat.min_le_right _ _

theorem endsToken_eq_false_iff {c : Char} :
    endsToken c = false ↔ Text.isBlank c = false ∧ c ≠ '(' := by
  rw [endsToken, Bool.or_eq_false_iff, beq_eq_false_iff_ne]

theorem covers_takeWhile {file : SourceFile} {before rest : List Char}
    (split : file.content = before ++ rest) :
    file.Covers (byteLength before) (file.tokenLength (byteLength before))
      (rest.takeWhile fun c => !endsToken c) := by
  have length : file.tokenLength (byteLength before) =
      (rest.takeWhile fun c => !endsToken c).utf8Encode.size := by
    rw [tokenLength, split, Text.dropBytes?_append, Option.elim_some, Text.byteLength_eq_size]
  have cut : file.content = before ++ (rest.takeWhile fun c => !endsToken c) ++
      rest.dropWhile fun c => !endsToken c := by
    rw [List.append_assoc, List.takeWhile_append_dropWhile, split]
  have stands : StandsAt file.content (rest.takeWhile fun c => !endsToken c) (byteLength before) :=
    cut ▸ Text.standsAt_append ..
  refine ⟨stands, length.symm, length ▸ stands.bytes, fun c member => ?_, ?_⟩
  next => exact endsToken_eq_false_iff.mp (by simpa using List.mem_takeWhile_imp member)
  next =>
    rw [length, Text.byteLength_eq_size, ← ByteArray.size_append, ← List.utf8Encode_append]
    cases left : rest.dropWhile fun c => !endsToken c with
    | nil => exact .inl (by rw [cut, left, List.append_nil])
    | cons c after =>
      have ends := Text.head_dropWhile (fun c => !endsToken c) rest
      rw [left] at ends
      refine .inr ⟨c, by simpa [endsToken] using ends, _, after, ?_, rfl⟩
      rw [cut, left, List.append_cons]

theorem tokenLength_of_not_standsAt {file : SourceFile} {offset : Nat}
    (within : ¬ StandsAt file.content [] offset) : file.tokenLength offset = 0 := by
  rw [Text.standsAt_nil_iff, not_not] at within
  rw [tokenLength, within, Option.elim_none]

theorem exists_covers {file : SourceFile} {offset : Nat}
    (between : StandsAt file.content [] offset) :
    ∃ token, file.Covers offset (file.tokenLength offset) token := by
  obtain ⟨before, rest, split, rfl⟩ := between
  rw [List.append_nil] at split
  rw [← Text.byteLength_eq_size]
  exact ⟨_, covers_takeWhile split⟩

theorem location_inside (file : SourceFile) (line column : Nat) :
    let place := file.location line column
    place.offset + place.length ≤ file.content.utf8Encode.size ∧
      (¬ StandsAt file.content [] place.offset → place.length = 0) ∧
      (0 < place.length ∨ StandsAt file.content [] place.offset →
        ∃ token, file.Covers place.offset place.length token) := by
  intro place
  by_cases between : StandsAt file.content [] place.offset
  next =>
    have covers : ∃ token, file.Covers place.offset place.length token := exists_covers between
    obtain ⟨token, covered⟩ := covers
    refine ⟨?_, fun within => absurd between within, fun _ => ⟨token, covered⟩⟩
    rw [← covered.size]
    exact covered.stands.inside
  next =>
    have inside : place.offset ≤ file.content.utf8Encode.size := file.offset_le line column
    have empty : place.length = 0 := tokenLength_of_not_standsAt between
    refine ⟨by omega, fun _ => empty, ?_⟩
    rintro (longer | stands)
    · omega
    · exact absurd stands between

-- The carriage return above moves every offset of the second line one byte to the front: the last
-- byte of the é is taken for the blank behind it.
private def drifted : SourceFile := ⟨⟨[]⟩, "a\r\né b".toList⟩

theorem location_drifted :
    (drifted.location 2 1).offset = 3 ∧ 0 < (drifted.location 2 1).length ∧
      (∃ token, drifted.Covers 3 (drifted.location 2 1).length token) ∧
      (drifted.location 2 2).offset = 4 ∧ ¬ StandsAt drifted.content [] 4 ∧
      (drifted.location 2 2).length = 0 := by
  have longer : 0 < (drifted.location 2 1).length := by decide +kernel
  have within : ¬ StandsAt drifted.content [] 4 := by
    rw [Text.standsAt_nil_iff, not_not]
    decide +kernel
  obtain ⟨_, _, covers⟩ := location_inside drifted 2 1
  obtain ⟨_, empty, _⟩ := location_inside drifted 2 2
  exact ⟨by decide, longer, covers (.inl longer), by decide, within, empty within⟩

end SourceFile

end DocAudit
