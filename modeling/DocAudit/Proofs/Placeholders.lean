import DocAudit.Message
import DocAudit.Text.Parts
import Mathlib.Data.List.Infix

set_option autoImplicit false

namespace DocAudit

namespace Message

/-- All placeholders of a template replaced at once by the arguments of their numbers. What is put
in is not searched. -/
inductive Fills (arguments : List String) : List Char → List Char → Prop
  | nil : Fills arguments [] []
  | slot {index : Nat} {argument : String} {template text : List Char} :
      arguments[index]? = some argument → Fills arguments template text →
      Fills arguments (placeholder index ++ template) (argument.toList ++ text)
  | char {c : Char} {template text : List Char} :
      (∀ index < arguments.length, ¬ placeholder index <+: c :: template) →
      Fills arguments template text → Fills arguments (c :: template) (c :: text)

def shown (arguments : List String) (index : Nat) : List Char :=
  arguments[index]?.elim (placeholder index) String.toList

inductive Carries (count : Nat) (arguments : List String) : List Char → List Char → Prop
  | nil : Carries count arguments [] []
  | char {c : Char} {template text : List Char} : c ≠ '{' →
      Carries count arguments template text → Carries count arguments (c :: template) (c :: text)
  | slot {index : Nat} {template text : List Char} : index < count →
      Carries count arguments template text →
      Carries count arguments (placeholder index ++ template) (shown arguments index ++ text)

structure IsLaidOut (count : Nat) (template : List Char) : Prop where
  opens : ∀ part ∈ Text.suffixes template, part.head? = some '{' →
    ∃ index < count, placeholder index <+: part
  occurs : ∀ index < count, placeholder index <:+: template

instance (count : Nat) (template : List Char) : Decidable (IsLaidOut count template) :=
  decidable_of_iff (_ ∧ _) ⟨fun ⟨opens, occurs⟩ => ⟨opens, occurs⟩, fun ⟨opens, occurs⟩ =>
    ⟨opens, occurs⟩⟩

section Placeholder

theorem digits_plain {index : Nat} {c : Char} (member : c ∈ (toString index).toList) :
    c ≠ '{' ∧ c ≠ '}' := by
  have digit : c.isDigit = true :=
    Nat.isDigit_of_mem_toDigits (by decide) (by decide) (Nat.toList_repr ▸ member)
  constructor
  · rintro rfl
    exact absurd digit (by decide)
  · rintro rfl
    exact absurd digit (by decide)

theorem placeholder_tail (index : Nat) :
    ∃ tail, placeholder index = '{' :: tail ∧ '{' ∉ tail := by
  refine ⟨(toString index).toList ++ ['}'], rfl, fun member => ?_⟩
  rcases List.mem_append.mp member with digit | close
  · exact (digits_plain digit).1 rfl
  · exact absurd close (by decide)

theorem not_prefix_of_ne {c : Char} (other : c ≠ '{') (index : Nat) (rest : List Char) :
    ¬ placeholder index <+: c :: rest := by
  rintro ⟨tail, split⟩
  exact other (List.cons.inj split).1.symm

theorem closed_inj {first second left right : List Char} (before : '}' ∉ first)
    (after : '}' ∉ second) (same : first ++ '}' :: left = second ++ '}' :: right) :
    first = second ∧ left = right := by
  induction first generalizing second with
  | nil =>
    cases second with
    | nil => exact ⟨rfl, (List.cons.inj same).2⟩
    | cons d second => exact absurd (List.mem_cons.mpr (.inl (List.cons.inj same).1)) after
  | cons c first ih =>
    cases second with
    | nil => exact absurd (List.mem_cons.mpr (.inl (List.cons.inj same).1.symm)) before
    | cons d second =>
      obtain ⟨rfl, behind⟩ := List.cons.inj same
      obtain ⟨rfl, rfl⟩ := ih (List.not_mem_of_not_mem_cons before)
        (List.not_mem_of_not_mem_cons after) behind
      exact ⟨rfl, rfl⟩

theorem placeholder_append_inj {first second : Nat} {left right : List Char}
    (same : placeholder first ++ left = placeholder second ++ right) :
    first = second ∧ left = right := by
  have numbers : (toString first).toList ++ '}' :: left =
      (toString second).toList ++ '}' :: right := by
    simpa [placeholder] using same
  have absent (index : Nat) : '}' ∉ (toString index).toList := fun member =>
    (digits_plain member).2 rfl
  obtain ⟨digits, rest⟩ := closed_inj (absent first) (absent second) numbers
  have digits : Nat.toDigits 10 first = Nat.toDigits 10 second := by
    rw [← Nat.toList_repr, ← Nat.toList_repr]
    exact digits
  refine ⟨?_, rest⟩
  rw [← @Nat.ofDigitChars_ten_toDigits first, digits, Nat.ofDigitChars_ten_toDigits]

theorem placeholder_starts {first second : Nat} {rest : List Char}
    (starts : placeholder first <+: placeholder second ++ rest) : first = second := by
  obtain ⟨left, split⟩ := starts
  exact (placeholder_append_inj split).1

end Placeholder

section Replace

variable {pattern replacement : List Char}

theorem replaceAll_cons {c : Char} {rest : List Char} (absent : ¬ pattern <+: c :: rest) :
    replaceAll pattern replacement (c :: rest) = c :: replaceAll pattern replacement rest := by
  rw [← List.isPrefixOf_iff_prefix] at absent
  rw [replaceAll, replaceAll.go, if_neg absent, replaceAll]

theorem replaceAll_skip (front rest : List Char) :
    replaceAll.go pattern replacement front.length (front ++ rest) =
      replaceAll pattern replacement rest := by
  induction front with
  | nil => rfl
  | cons c front ih => exact ih

theorem replaceAll_append {c : Char} {tail : List Char} (rest : List Char) :
    replaceAll (c :: tail) replacement (c :: tail ++ rest) =
      replacement ++ replaceAll (c :: tail) replacement rest := by
  have here : (c :: tail).isPrefixOf (c :: (tail ++ rest)) = true := by
    rw [List.isPrefixOf_iff_prefix]
    exact ⟨rest, rfl⟩
  rw [List.cons_append, replaceAll, replaceAll.go, if_pos here]
  exact congrArg _ (replaceAll_skip tail rest)

theorem replaceAll_placeholder (index : Nat) (replacement rest : List Char) :
    replaceAll (placeholder index) replacement (placeholder index ++ rest) =
      replacement ++ replaceAll (placeholder index) replacement rest :=
  replaceAll_append rest

-- Where there is no brace nothing is replaced.
theorem replaceAll_plain {plain : List Char} (unbraced : '{' ∉ plain) (index : Nat)
    (replacement rest : List Char) :
    replaceAll (placeholder index) replacement (plain ++ rest) =
      plain ++ replaceAll (placeholder index) replacement rest := by
  induction plain with
  | nil => rfl
  | cons c plain ih =>
    have other : c ≠ '{' := (List.ne_of_not_mem_cons unbraced).symm
    rw [List.cons_append, replaceAll_cons (not_prefix_of_ne other index _),
      ih (List.not_mem_of_not_mem_cons unbraced), List.cons_append]

theorem replaceAll_other {index other : Nat} (apart : other ≠ index)
    (replacement rest : List Char) :
    replaceAll (placeholder index) replacement (placeholder other ++ rest) =
      placeholder other ++ replaceAll (placeholder index) replacement rest := by
  obtain ⟨tail, braced, unbraced⟩ := placeholder_tail other
  have absent : ¬ placeholder index <+: '{' :: (tail ++ rest) := by
    intro starts
    rw [← List.cons_append, ← braced] at starts
    exact apart (placeholder_starts starts).symm
  rw [braced, List.cons_append, replaceAll_cons absent, replaceAll_plain unbraced, List.cons_append]

end Replace

section Carries

variable {count : Nat} {arguments : List String} {template text : List Char}

theorem replaceAll_shown (unbraced : ∀ argument ∈ arguments, '{' ∉ argument.toList)
    (argument : String) (index : Nat) (rest : List Char) :
    replaceAll (placeholder arguments.length) argument.toList (shown arguments index ++ rest) =
      shown (arguments ++ [argument]) index ++
        replaceAll (placeholder arguments.length) argument.toList rest := by
  rcases Nat.lt_trichotomy index arguments.length with put | rfl | later
  next =>
    have plain : '{' ∉ (arguments[index]).toList := unbraced _ (List.getElem_mem put)
    have before : shown arguments index = (arguments[index]).toList := by simp [shown, put]
    have after : shown (arguments ++ [argument]) index = (arguments[index]).toList := by
      simp [shown, List.getElem?_append_left put, put]
    rw [before, after, replaceAll_plain plain]
  next =>
    have before : shown arguments arguments.length = placeholder arguments.length := by
      simp [shown]
    have after : shown (arguments ++ [argument]) arguments.length = argument.toList := by
      simp [shown]
    rw [before, after, replaceAll_placeholder]
  next =>
    have before : shown arguments index = placeholder index := by simp [shown, later.le]
    have after : shown (arguments ++ [argument]) index = placeholder index := by
      have beyond : (arguments ++ [argument]).length ≤ index := by
        rw [List.length_append, List.length_singleton]
        omega
      simp [shown, List.getElem?_eq_none beyond]
    rw [before, after, replaceAll_other later.ne']

-- One round of the replacement puts in the next argument, wherever its placeholder stands.
theorem Carries.replaced (carries : Carries count arguments template text)
    (unbraced : ∀ argument ∈ arguments, '{' ∉ argument.toList) (argument : String) :
    Carries count (arguments ++ [argument]) template
      (replaceAll (placeholder arguments.length) argument.toList text) := by
  induction carries with
  | nil => exact .nil
  | char other _ ih =>
    rw [replaceAll_cons (not_prefix_of_ne other _ _)]
    exact .char other ih
  | slot inside _ ih =>
    rw [replaceAll_shown unbraced]
    exact .slot inside ih

theorem fill_concat (index : Nat) (arguments : List String) (argument : String)
    (text : List Char) :
    fill index (arguments ++ [argument]) text =
      replaceAll (placeholder (index + arguments.length)) argument.toList
        (fill index arguments text) := by
  induction arguments generalizing index text with
  | nil => rfl
  | cons first arguments ih =>
    rw [List.cons_append, fill, ih, fill, List.length_cons]
    congr 2
    omega

-- Whenever an argument is put in, those before it are followed by one, so they hold no brace.
theorem Carries.filled (carries : Carries count [] template template)
    (unbraced : ∀ argument ∈ arguments.dropLast, '{' ∉ argument.toList) :
    Carries count arguments template (fill 0 arguments template) := by
  induction arguments using List.reverseRecOn with
  | nil => exact carries
  | append_singleton arguments argument ih =>
    rw [List.dropLast_concat] at unbraced
    have put := ih fun argument member => unbraced argument (List.mem_of_mem_dropLast member)
    rw [fill_concat, Nat.zero_add]
    exact put.replaced unbraced argument

theorem Carries.fills (carries : Carries arguments.length arguments template text) :
    Fills arguments template text := by
  induction carries with
  | nil => exact .nil
  | char other _ ih => exact .char (fun index _ => not_prefix_of_ne other index _) ih
  | slot inside _ ih =>
    rw [shown, List.getElem?_eq_getElem inside, Option.elim_some]
    exact .slot (List.getElem?_eq_getElem inside) ih

theorem within_of_unbraced {plain rest : List Char} (unbraced : '{' ∉ plain) {index : Nat}
    (occurs : placeholder index <:+: plain ++ rest) : placeholder index <:+: rest := by
  induction plain with
  | nil => exact occurs
  | cons c plain ih =>
    have other : c ≠ '{' := (List.ne_of_not_mem_cons unbraced).symm
    rw [List.cons_append, List.infix_cons_iff] at occurs
    rcases occurs with starts | occurs
    · exact absurd starts (not_prefix_of_ne other index _)
    · exact ih (List.not_mem_of_not_mem_cons unbraced) occurs

theorem Carries.shown_within (carries : Carries count arguments template text) {index : Nat}
    (occurs : placeholder index <:+: template) : shown arguments index <:+: text := by
  induction carries with
  | nil =>
    obtain ⟨tail, braced, _⟩ := placeholder_tail index
    rw [braced] at occurs
    simp at occurs
  | @char c template text other _ ih =>
    have unbraced : '{' ∉ [c] := by simpa using other.symm
    exact (ih (within_of_unbraced unbraced occurs)).trans (List.suffix_cons _ _).isInfix
  | @slot found template text _ _ ih =>
    by_cases same : index = found
    next => exact same ▸ (List.prefix_append _ _).isInfix
    next =>
      obtain ⟨tail, braced, unbraced⟩ := placeholder_tail found
      rw [braced, List.cons_append, List.infix_cons_iff, ← List.cons_append, ← braced] at occurs
      rcases occurs with starts | occurs
      · exact absurd (placeholder_starts starts) same
      · exact (ih (within_of_unbraced unbraced occurs)).trans (List.suffix_append _ _).isInfix

theorem carries_self (whole : List Char) (opens : ∀ part ∈ Text.suffixes whole,
    part.head? = some '{' → ∃ index < count, placeholder index <+: part) :
    Carries count [] whole whole := by
  match whole with
  | [] => exact .nil
  | c :: rest =>
    have later {behind : List Char} (ends : behind <:+ c :: rest) :
        ∀ part ∈ Text.suffixes behind, part.head? = some '{' →
          ∃ index < count, placeholder index <+: part := fun part member =>
      opens part (Text.mem_suffixes.mpr ((Text.mem_suffixes.mp member).trans ends))
    by_cases brace : c = '{'
    next =>
      obtain ⟨index, inside, behind, split⟩ :=
        opens (c :: rest) (Text.mem_suffixes.mpr List.suffix_rfl) (congrArg some brace)
      have shorter : behind.length < (c :: rest).length := by
        obtain ⟨tail, braced, _⟩ := placeholder_tail index
        rw [← split, braced, List.length_append, List.length_cons]
        omega
      have ends : behind <:+ c :: rest := ⟨_, split⟩
      rw [← split]
      exact .slot inside (carries_self behind (later ends))
    next => exact .char brace (carries_self rest (later (List.suffix_cons c rest)))
termination_by whole.length
decreasing_by
  · exact shorter
  · exact Nat.lt_succ_self rest.length

end Carries

theorem Fills.unique {arguments : List String} {template text other : List Char}
    (fills : Fills arguments template text) (again : Fills arguments template other) :
    other = text := by
  induction fills generalizing other with
  | nil =>
    cases again
    rfl
  | @slot index argument template text found _ ih =>
    generalize held : placeholder index ++ template = whole at again
    cases again with
    | nil => cases held
    | slot found' again =>
      obtain ⟨rfl, rfl⟩ := placeholder_append_inj held
      rw [found] at found'
      cases found'
      rw [ih again]
    | char absent _ =>
      obtain ⟨inside, _⟩ := List.getElem?_eq_some_iff.mp found
      exact absurd ⟨_, held⟩ (absent index inside)
  | @char c template text absent _ ih =>
    generalize held : c :: template = whole at again
    cases again with
    | nil => cases held
    | slot found _ =>
      obtain ⟨inside, _⟩ := List.getElem?_eq_some_iff.mp found
      exact absurd ⟨_, held.symm⟩ (absent _ inside)
    | char _ again =>
      obtain ⟨rfl, rfl⟩ := List.cons.inj held
      rw [ih again]

theorem fills_nothing (template : List Char) : Fills [] template template := by
  induction template with
  | nil => exact .nil
  | cons c template ih => exact .char (fun index none => absurd none (Nat.not_lt_zero index)) ih

section Fill

variable {arguments : List String} {template : List Char}

theorem IsLaidOut.carries (laid : IsLaidOut arguments.length template)
    (unbraced : ∀ argument ∈ arguments.dropLast, '{' ∉ argument.toList) :
    Carries arguments.length arguments template (fill 0 arguments template) :=
  (carries_self template laid.opens).filled unbraced

theorem IsLaidOut.within (laid : IsLaidOut arguments.length template)
    (unbraced : ∀ argument ∈ arguments.dropLast, '{' ∉ argument.toList) {argument : String}
    (member : argument ∈ arguments) : argument.toList <:+: fill 0 arguments template := by
  obtain ⟨index, inside, rfl⟩ := List.getElem_of_mem member
  have put := (laid.carries unbraced).shown_within (laid.occurs index inside)
  rwa [shown, List.getElem?_eq_getElem inside, Option.elim_some] at put

end Fill

end Message

end DocAudit
