import DocAudit.Proofs.DescriptorGrammar
import DocAudit.Rule.TypeDoc
import Mathlib.Data.List.TakeWhile

set_option autoImplicit false

namespace DocAudit

namespace BlockTagReader

def IsMargin (front : List Char) : Prop :=
  ∃ outer stars inner, front = outer ++ (stars ++ inner) ∧ (∀ c ∈ outer, Text.isBlank c = true) ∧
    (∀ c ∈ stars, c = '*') ∧ ∀ c ∈ inner, Text.isBlank c = true

structure Writes (line front name content : List Char) : Prop where
  whole : line = front ++ '@' :: (name ++ content)
  margin : IsMargin front
  named : name ≠ [] ∧ ∀ c ∈ name, c.isAlpha = true
  ends : content.head?.any Text.isBlank = true

-- What is left of a line without its margin.
abbrev unmargined (line : List Char) : List Char :=
  Text.trimStart ((Text.trimStart line).dropWhile (· == '*'))

theorem exists_margin (line : List Char) :
    ∃ front, IsMargin front ∧ line = front ++ unmargined line := by
  obtain ⟨outer, outerBlank, cut⟩ := Text.exists_blanks line
  obtain ⟨inner, innerBlank, rest⟩ :=
    Text.exists_blanks ((Text.trimStart line).dropWhile (· == '*'))
  refine ⟨outer ++ ((Text.trimStart line).takeWhile (· == '*') ++ inner),
    ⟨outer, _, inner, rfl, outerBlank, fun c member => ?_, innerBlank⟩, ?_⟩
  · simpa using List.mem_takeWhile_imp member
  · rw [List.append_assoc, List.append_assoc, ← rest, List.takeWhile_append_dropWhile, ← cut]

theorem dropWhile_star {blanks : List Char} (blank : ∀ c ∈ blanks, Text.isBlank c = true)
    (tail : List Char) :
    (blanks ++ '@' :: tail).dropWhile (· == '*') = blanks ++ '@' :: tail := by
  apply Text.dropWhile_of_head
  cases blanks with
  | nil => rfl
  | cons c rest =>
    have here := blank c (List.mem_cons_self ..)
    have other : c ≠ '*' := by
      intro same
      rw [same] at here
      exact absurd here (by decide)
    simpa using other

theorem unmargined_append {front : List Char} (margin : IsMargin front) (tail : List Char) :
    unmargined (front ++ '@' :: tail) = '@' :: tail := by
  obtain ⟨outer, stars, inner, rfl, outerBlank, starry, innerBlank⟩ := margin
  have trimmed : Text.trimStart (outer ++ (stars ++ inner) ++ '@' :: tail) =
      Text.trimStart (stars ++ (inner ++ '@' :: tail)) := by
    rw [List.append_assoc, List.append_assoc]
    exact List.dropWhile_append_of_pos outerBlank
  have behind : Text.trimStart (inner ++ '@' :: tail) = '@' :: tail :=
    Text.trimStart_append innerBlank rfl
  rw [unmargined, trimmed]
  cases stars with
  | nil =>
    rw [List.nil_append, behind]
    rfl
  | cons star stars =>
    obtain rfl := starry star (List.mem_cons_self ..)
    have kept : Text.trimStart ('*' :: stars ++ (inner ++ '@' :: tail)) =
        '*' :: stars ++ (inner ++ '@' :: tail) := rfl
    rw [kept, List.dropWhile_append_of_pos (by simpa using starry), dropWhile_star innerBlank,
      behind]

theorem isAlpha_of_isBlank {c : Char} (blank : Text.isBlank c = true) : c.isAlpha = false := by
  have word := AllowList.isKeywordChar_of_isBlank blank
  simp only [AllowList.isKeywordChar, Char.isAlphanum, Bool.or_eq_false_iff] at word
  exact word.1.1

theorem Writes.read? {line front name content : List Char}
    (written : Writes line front name content) :
    read? line = some ⟨Text.byteLength front, name, some (Text.trim (dropClosing content))⟩ := by
  obtain ⟨rfl, margin, ⟨nonempty, letters⟩, ends⟩ := written
  have stop : content.head?.all (!Char.isAlpha ·) = true := by
    cases content with
    | nil => rfl
    | cons c rest => simpa using isAlpha_of_isBlank (by simpa using ends)
  have taken : (name ++ content).takeWhile Char.isAlpha = name := by
    rw [List.takeWhile_append_of_pos letters]
    cases content with
    | nil => simp
    | cons c rest => rw [List.takeWhile_cons_of_neg (by simpa using stop), List.append_nil]
  have left : (name ++ content).dropWhile Char.isAlpha = content := by
    rw [List.dropWhile_append_of_pos letters, Text.dropWhile_of_head stop]
  have inner := unmargined_append margin (name ++ content)
  unfold BlockTagReader.read?
  simp [inner, taken, left, ends, nonempty, Text.byteLength_append]

theorem exists_writes {line : List Char} {hit : TagHit}
    (found : BlockTagReader.read? line = some hit) :
    ∃ front name content, Writes line front name content := by
  obtain ⟨front, margin, cut⟩ := exists_margin line
  unfold BlockTagReader.read? at found
  dsimp only at found
  split at found
  next rest inner =>
    split at found
    next held =>
      rw [Bool.and_eq_true] at held
      refine ⟨front, rest.takeWhile Char.isAlpha, rest.dropWhile Char.isAlpha, ?_, margin,
        ⟨by simpa using held.1, fun c member => List.mem_takeWhile_imp member⟩, held.2⟩
      rw [List.takeWhile_append_dropWhile, ← inner, ← cut]
    next => cases found
  next => cases found

theorem read?_eq_none_iff {line : List Char} : BlockTagReader.read? line = none ↔
    ∀ front name content, ¬ Writes line front name content := by
  constructor
  next =>
    intro absent front name content written
    cases written.read?.symm.trans absent
  next =>
    intro absent
    apply Option.eq_none_iff_forall_ne_some.mpr
    intro hit found
    obtain ⟨front, name, content, written⟩ := exists_writes found
    exact absent front name content written

end BlockTagReader

namespace TypeDoc

def InBrackets (argument name : List Char) : Prop :=
  ∃ blanks after, argument = blanks ++ '<' :: (name ++ '>' :: after) ∧
    (∀ c ∈ blanks, Text.isBlank c = true) ∧ (name ≠ [] ∧ '>' ∉ name) ∧ '\n' ∉ after

theorem bracketedName?_eq_some_iff {argument name : List Char} :
    bracketedName? argument = some name ↔ InBrackets argument name := by
  constructor
  next =>
    intro found
    obtain ⟨blanks, blank, cut⟩ := Text.exists_blanks argument
    unfold bracketedName? at found
    split at found
    next rest opened =>
      dsimp only at found
      split at found
      next after closed =>
        split at found
        next => cases found
        next held =>
          cases found
          simp only [Bool.or_eq_true, not_or, List.isEmpty_iff] at held
          refine ⟨blanks, after, ?_, blank, ⟨held.1, fun member => ?_⟩, by simpa using held.2⟩
          · rw [← closed, List.takeWhile_append_dropWhile, ← opened, ← cut]
          · simpa using List.mem_takeWhile_imp member
      next => cases found
    next => cases found
  next =>
    intro bracketed
    obtain ⟨blanks, after, rfl, blank, ⟨nonempty, closed⟩, oneLine⟩ := bracketed
    have opened : Text.trimStart (blanks ++ '<' :: (name ++ '>' :: after)) =
        '<' :: (name ++ '>' :: after) := Text.trimStart_append blank rfl
    have inside : ∀ c ∈ name, (c != '>') = true := by
      intro c member
      exact bne_iff_ne.mpr fun same => closed (same ▸ member)
    unfold bracketedName?
    simp only [opened, List.takeWhile_append_of_pos inside, List.dropWhile_append_of_pos inside]
    simp [nonempty, oneLine]

end TypeDoc

end DocAudit
