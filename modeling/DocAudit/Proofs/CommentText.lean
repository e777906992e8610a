import DocAudit.Proofs.AttachedComment

set_option autoImplicit false

namespace DocAudit

namespace Text

def unifyEnds : List Char → List Char
  | [] => []
  | '\r' :: '\n' :: rest => '\n' :: unifyEnds rest
  | c :: rest => c :: unifyEnds rest

/-- A text that is not empty gets a line feed at its end, unless it has one there. -/
def ended (text : List Char) : List Char :=
  if text = [] ∨ text.getLast? = some '\n' then text else text ++ ['\n']

def innerFeeds (text : List Char) : Nat :=
  text.count '\n' - if text.getLast? = some '\n' then 1 else 0

variable {full : List Char}

theorem unifyEnds_unbroken (unbroken : '\n' ∉ full) : unifyEnds full = full := by
  fun_induction unifyEnds full with
  | case1 => rfl
  | case2 => simp at unbroken
  | case3 c rest _ ih => rw [ih (List.not_mem_of_not_mem_cons unbroken)]

theorem unifyEnds_cons {c : Char} {rest : List Char}
    (apart : c ≠ '\r' ∨ rest.head? ≠ some '\n') : unifyEnds (c :: rest) = c :: unifyEnds rest := by
  rw [unifyEnds]
  rintro after rfl rfl
  simp at apart

theorem dropCarriageReturn_append {line : List Char} (held : line ≠ []) (before : List Char) :
    dropCarriageReturn (line ++ before) = dropCarriageReturn line ++ before := by
  obtain ⟨c, line, rfl⟩ := List.exists_cons_of_ne_nil held
  by_cases returned : c = '\r' <;> simp [dropCarriageReturn, returned]

theorem unifyEnds_lineFeed (unbroken : '\n' ∉ full) (rest : List Char) :
    unifyEnds (full ++ '\n' :: rest) =
      (dropCarriageReturn full.reverse).reverse ++ '\n' :: unifyEnds rest := by
  have feed : unifyEnds ('\n' :: rest) = '\n' :: unifyEnds rest := unifyEnds_cons (.inl (by decide))
  induction full with
  | nil => exact feed
  | cons c full ih =>
    have ih := ih (List.not_mem_of_not_mem_cons unbroken)
    cases full with
    | nil =>
      by_cases returned : c = '\r'
      · subst returned
        rfl
      · simp [unifyEnds_cons (.inl returned), feed, dropCarriageReturn, returned]
    | cons d full =>
      have other : d ≠ '\n' := by
        rintro rfl
        simp at unbroken
      have apart : (d :: full ++ '\n' :: rest).head? ≠ some '\n' := by simpa using other
      rw [List.cons_append, unifyEnds_cons (.inr apart), ih, List.reverse_cons (a := c),
        dropCarriageReturn_append (by simp)]
      simp

theorem ended_lineFeed (front rest : List Char) :
    ended (front ++ '\n' :: rest) = front ++ '\n' :: ended rest := by
  rcases List.eq_nil_or_concat' rest with rfl | ⟨rest, c, rfl⟩
  · simp [ended]
  · have last : (front ++ '\n' :: (rest ++ [c])).getLast? = some c := by
      rw [← List.cons_append, ← List.append_assoc, List.getLast?_concat]
    rw [ended, ended, last, List.getLast?_concat]
    by_cases feed : c = '\n' <;> simp [feed]

theorem flatMap_lines (text : List Char) :
    (lines text).flatMap (· ++ ['\n']) = ended (unifyEnds text) := by
  induction text using lines_induction with
  | unbroken text unbroken =>
    have last : text.getLast? ≠ some '\n' := fun last => unbroken (List.mem_of_getLast? last)
    rw [lines_unbroken unbroken, unifyEnds_unbroken unbroken, ended]
    cases text <;> simp_all
  | lineFeed full rest unbroken ih =>
    rw [lines, linesFrom_lineFeed unbroken, List.append_nil, List.flatMap_cons, ih,
      unifyEnds_lineFeed unbroken, ended_lineFeed]
    simp

example : ended (unifyEnds "a\r\r\n\nb\r".toList) = "a\r\n\nb\r\n".toList := by decide

theorem length_lines_pred (text : List Char) : (lines text).length - 1 = innerFeeds text := by
  rcases List.eq_nil_or_concat' text with rfl | ⟨front, c, rfl⟩
  · rfl
  · rw [lines, length_linesFrom_concat, innerFeeds]
    by_cases feed : c = '\n' <;> simp [feed]

end Text

namespace Comment

theorem joinedText_ofText (style : CommentStyle) (line column : Nat) (text : String) :
    (ofText style line column text).joinedText = Text.ended (Text.unifyEnds text.toList) := by
  rw [← Text.flatMap_lines, joinedText, ofText, Text.lineStrings, List.flatMap_map]
  simp

theorem endLine_ofText (style : CommentStyle) (line column : Nat) (text : String) :
    (ofText style line column text).endLine = line + Text.innerFeeds text.toList := by
  rw [← Text.length_lines_pred, ofText, Text.lineStrings, List.length_map]

end Comment

end DocAudit
