set_option autoImplicit false

namespace DocAudit.Text

def suffixes : List Char → List (List Char)
  | [] => [[]]
  | c :: rest => (c :: rest) :: suffixes rest

theorem mem_suffixes {text part : List Char} : part ∈ suffixes text ↔ part <:+ text := by
  induction text with
  | nil => simp [suffixes]
  | cons c rest ih => simp [suffixes, ih, List.suffix_cons_iff]

def contains (text part : List Char) : Bool := (suffixes text).any part.isPrefixOf

theorem contains_iff_infix {text part : List Char} :
    contains text part = true ↔ part <:+: text := by
  simp only [contains, List.any_eq_true, mem_suffixes, List.isPrefixOf_iff_prefix]
  constructor
  · rintro ⟨rest, h₁, h₂⟩
    exact h₂.isInfix.trans h₁.isInfix
  · rintro ⟨front, back, rfl⟩
    exact ⟨part ++ back, ⟨front, by simp⟩, ⟨back, rfl⟩⟩

def splitFrom (separator : Char) (current : List Char) : List Char → List (List Char)
  | [] => [current.reverse]
  | c :: rest =>
    if c = separator then current.reverse :: splitFrom separator [] rest
    else splitFrom separator (c :: current) rest

def split (separator : Char) (text : List Char) : List (List Char) := splitFrom separator [] text

theorem splitFrom_append (separator : Char) (current front rest : List Char) :
    splitFrom separator current (front ++ separator :: rest) =
      splitFrom separator current front ++ split separator rest := by
  induction front generalizing current with
  | nil => simp [splitFrom, split]
  | cons c front ih =>
    by_cases separates : c = separator
    · simp [splitFrom, separates, ih]
    · simp [splitFrom, separates, ih]

theorem split_append (separator : Char) (front rest : List Char) :
    split separator (front ++ separator :: rest) = split separator front ++ split separator rest :=
  splitFrom_append separator [] front rest

theorem splitFrom_of_notMem {separator : Char} {text : List Char} (absent : separator ∉ text)
    (current : List Char) : splitFrom separator current text = [current.reverse ++ text] := by
  induction text generalizing current with
  | nil => simp [splitFrom]
  | cons c rest ih =>
    have other : separator ≠ c := List.ne_of_not_mem_cons absent
    simp [splitFrom, other.symm, ih (List.not_mem_of_not_mem_cons absent)]

theorem split_of_notMem {separator : Char} {text : List Char} (absent : separator ∉ text) :
    split separator text = [text] :=
  splitFrom_of_notMem absent []

theorem splitFrom_ne_nil (separator : Char) (current text : List Char) :
    splitFrom separator current text ≠ [] := by
  induction text generalizing current with
  | nil => simp [splitFrom]
  | cons c rest ih =>
    rw [splitFrom]
    split
    · simp
    · exact ih (c :: current)

theorem notMem_of_mem_splitFrom {separator : Char} {current text part : List Char}
    (absent : separator ∉ current) (member : part ∈ splitFrom separator current text) :
    separator ∉ part := by
  induction text generalizing current with
  | nil =>
    rw [List.mem_singleton.mp member]
    simpa using absent
  | cons c rest ih =>
    rw [splitFrom] at member
    split at member
    · rcases List.mem_cons.mp member with rfl | member
      · simpa using absent
      · exact ih List.not_mem_nil member
    · next other => exact ih (List.not_mem_cons_of_ne_of_not_mem (Ne.symm other) absent) member

theorem flatMap_splitFrom (separator : Char) (current text : List Char) :
    (splitFrom separator current text).flatMap (separator :: ·) =
      separator :: (current.reverse ++ text) := by
  induction text generalizing current with
  | nil => simp [splitFrom]
  | cons c rest ih =>
    rw [splitFrom]
    split
    · next separates => simp [separates, ih]
    · simp [ih]

def padded (width : Nat) (text : String) : String :=
  text ++ String.ofList (List.replicate (width - text.length) ' ')

end DocAudit.Text
