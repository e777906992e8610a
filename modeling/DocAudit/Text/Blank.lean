set_option autoImplicit false

namespace DocAudit.Text

def isBlank (c : Char) : Bool :=
  let n := c.toNat
  (9 ≤ n && n ≤ 13) || n == 0x20 || n == 0x85 || n == 0xA0 || n == 0x1680 ||
    (0x2000 ≤ n && n ≤ 0x200A) || n == 0x2028 || n == 0x2029 || n == 0x202F ||
    n == 0x205F || n == 0x3000

def trimStart (text : List Char) : List Char := text.dropWhile isBlank

def trimEnd (text : List Char) : List Char := (text.reverse.dropWhile isBlank).reverse

def trim (text : List Char) : List Char := trimEnd (trimStart text)

theorem length_trimStart_le (text : List Char) : (trimStart text).length ≤ text.length :=
  (List.dropWhile_sublist isBlank).length_le

theorem dropWhile_of_head {p : Char → Bool} {text : List Char}
    (apart : text.head?.all (!p ·) = true) : text.dropWhile p = text := by
  cases text with
  | nil => rfl
  | cons c rest => exact List.dropWhile_cons_of_neg (by simpa using apart)

theorem head_dropWhile (p : Char → Bool) (text : List Char) :
    (text.dropWhile p).head?.all (!p ·) = true := by
  induction text with
  | nil => rfl
  | cons c rest ih =>
    by_cases passed : p c = true
    · rwa [List.dropWhile_cons_of_pos passed]
    · simp [List.dropWhile_cons_of_neg passed, passed]

theorem trimStart_append {blanks text : List Char} (blank : ∀ c ∈ blanks, isBlank c = true)
    (apart : text.head?.all (!isBlank ·) = true) :
    trimStart (blanks ++ text) = text := by
  rw [trimStart, List.dropWhile_append_of_pos blank, dropWhile_of_head apart]

theorem exists_blanks (text : List Char) :
    ∃ blanks : List Char, (∀ c ∈ blanks, isBlank c = true) ∧
      text = blanks ++ trimStart text :=
  ⟨text.takeWhile isBlank, List.all_eq_true.mp List.all_takeWhile,
    List.takeWhile_append_dropWhile.symm⟩

end DocAudit.Text
