import DocAudit.Proofs.ByteOffset

set_option autoImplicit false

namespace DocAudit.Text

def StandsAt (text part : List Char) (position : Nat) : Prop :=
  ∃ before after, text = before ++ part ++ after ∧ before.utf8Encode.size = position

theorem byteLength_eq_size (text : List Char) : byteLength text = text.utf8Encode.size := by
  induction text with
  | nil => rfl
  | cons c text ih =>
    have single : [c].utf8Encode.size = c.utf8Size := by
      rw [List.utf8Encode_singleton, List.size_toByteArray, String.length_utf8EncodeChar]
    rw [byteLength_cons, List.utf8Encode_cons, ByteArray.size_append, single, ih]

theorem standsAt_append (before part after : List Char) :
    StandsAt (before ++ part ++ after) part (byteLength before) :=
  ⟨before, after, rfl, (byteLength_eq_size before).symm⟩

section Places

variable {text part : List Char} {position : Nat}

theorem StandsAt.inside (stands : StandsAt text part position) :
    position + part.utf8Encode.size ≤ text.utf8Encode.size := by
  obtain ⟨before, after, rfl, rfl⟩ := stands
  simp only [List.utf8Encode_append, ByteArray.size_append]
  omega

theorem StandsAt.bytes (stands : StandsAt text part position) :
    text.utf8Encode.extract position (position + part.utf8Encode.size) = part.utf8Encode := by
  obtain ⟨before, after, rfl, rfl⟩ := stands
  have behind := @ByteArray.extract_append_size_add before.utf8Encode
    (part.utf8Encode ++ after.utf8Encode) 0 part.utf8Encode.size
  rw [Nat.add_zero] at behind
  rw [List.append_assoc, List.utf8Encode_append, List.utf8Encode_append, behind,
    ByteArray.extract_append_eq_left rfl]

theorem dropBytes?_eq_some_iff {rest : List Char} :
    dropBytes? position text = some rest ↔
      ∃ before, text = before ++ rest ∧ byteLength before = position := by
  constructor
  next =>
    intro found
    fun_induction dropBytes? position text with
    | case1 text => exact ⟨[], by simpa using found, rfl⟩
    | case2 => cases found
    | case3 n c rest fits ih =>
      obtain ⟨before, rfl, length⟩ := ih found
      refine ⟨c :: before, rfl, ?_⟩
      rw [byteLength_cons, length]
      omega
    | case4 => cases found
  next =>
    rintro ⟨before, rfl, rfl⟩
    exact dropBytes?_append before rest

-- Nothing stands anywhere but between two characters.
theorem standsAt_nil_iff : StandsAt text [] position ↔ dropBytes? position text ≠ none := by
  rw [Option.ne_none_iff_exists']
  constructor
  next =>
    rintro ⟨before, after, split, reached⟩
    rw [List.append_nil] at split
    exact ⟨after, dropBytes?_eq_some_iff.mpr ⟨before, split, by rw [byteLength_eq_size, reached]⟩⟩
  next =>
    rintro ⟨after, found⟩
    obtain ⟨before, rfl, rfl⟩ := dropBytes?_eq_some_iff.mp found
    exact ⟨before, after, by simp, (byteLength_eq_size before).symm⟩

end Places

end DocAudit.Text
