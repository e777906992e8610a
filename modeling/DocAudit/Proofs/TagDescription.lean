import DocAudit.Proofs.TagText

set_option autoImplicit false

namespace DocAudit

namespace TagReader

/-- A character of a description: no blank and no asterisk, with neither a closing delimiter nor
an at-sign up to it. -/
def Describes (text : List Char) : Prop :=
  ∃ front c rest, text = front ++ c :: rest ∧ c ≠ '*' ∧ Text.isBlank c = false ∧
    '@' ∉ front ++ [c] ∧ ¬ "*/".toList <:+: front ++ [c]

/-- The first line that holds more than blanks and asterisks starts with a description. -/
def DescribedBelow (later : List String) : Prop :=
  ∃ passed line rest, later = passed ++ line :: rest ∧
    (∀ empty ∈ passed, ∀ c ∈ empty.toList, c = '*' ∨ Text.isBlank c = true) ∧
    Describes line.toList

theorem describes_cons {c : Char} {rest : List Char} (passed : c = '*' ∨ Text.isBlank c = true)
    (apart : ∀ tail, c = '*' → rest = '/' :: tail → False) :
    Describes (c :: rest) ↔ Describes rest := by
  constructor
  next =>
    rintro ⟨front, d, later, split, solid, visible, before, unclosed⟩
    cases front with
    | nil =>
      obtain ⟨rfl, rfl⟩ := List.cons.inj split
      rcases passed with star | blank
      · exact absurd star solid
      · exact absurd blank (by simp [visible])
    | cons first front =>
      obtain ⟨rfl, rfl⟩ := List.cons.inj split
      refine ⟨front, d, later, rfl, solid, visible, fun member => before ?_, fun closing => ?_⟩
      · exact List.mem_cons_of_mem _ member
      · exact unclosed (closing.trans (List.suffix_cons _ _).isInfix)
  next =>
    rintro ⟨front, d, later, rfl, solid, visible, before, unclosed⟩
    refine ⟨c :: front, d, later, rfl, solid, visible, ?_, ?_⟩
    next =>
      rw [List.cons_append, List.mem_cons, not_or]
      refine ⟨?_, before⟩
      rintro rfl
      exact absurd passed (by decide)
    next =>
      rw [List.cons_append, List.infix_cons_iff, not_or]
      refine ⟨?_, unclosed⟩
      rintro ⟨tail, split⟩
      obtain ⟨star, slash⟩ := List.cons.inj split
      refine apart (tail ++ later) star.symm ?_
      rw [List.append_cons, ← slash]
      rfl

theorem not_describes_closing (rest : List Char) : ¬ Describes ('*' :: '/' :: rest) := by
  rintro ⟨front, d, later, split, solid, _, _, unclosed⟩
  match front with
  | [] => exact solid (List.cons.inj split).1.symm
  | [first] =>
    simp only [List.cons_append, List.nil_append, List.cons.injEq] at split
    obtain ⟨rfl, rfl, _⟩ := split
    exact unclosed List.infix_rfl
  | first :: second :: front =>
    simp only [List.cons_append, List.cons.injEq] at split
    obtain ⟨rfl, rfl, _⟩ := split
    exact unclosed ⟨[], front ++ [d], rfl⟩

theorem not_describes_at_sign (rest : List Char) : ¬ Describes ('@' :: rest) := by
  rintro ⟨front, d, later, split, _, _, before, _⟩
  cases front with
  | nil => exact before (List.mem_singleton.mpr (List.cons.inj split).1)
  | cons first front => exact before (List.mem_cons.mpr (.inl (List.cons.inj split).1))

theorem continuation?_eq_text_iff (text : List Char) :
    continuation? text = some .text ↔ Describes text := by
  fun_induction continuation? text with
  | case1 => simp [Describes]
  | case2 rest => exact iff_of_false (by simp) (not_describes_closing rest)
  | case3 c rest apart passed ih => rw [ih, describes_cons passed apart]
  | case4 rest apart loud => exact iff_of_false (by simp) (not_describes_at_sign rest)
  | case5 c rest apart loud other =>
    obtain ⟨solid, visible⟩ := not_or.mp loud
    refine iff_of_true rfl ⟨[], c, rest, rfl, solid, by simpa using visible, ?_, ?_⟩
    · simpa using Ne.symm other
    · exact fun closing => absurd closing.length_le (by simp)

theorem continuation?_eq_none_iff (text : List Char) :
    continuation? text = none ↔ ∀ c ∈ text, c = '*' ∨ Text.isBlank c = true := by
  fun_induction continuation? text with
  | case1 => simp
  | case2 rest =>
    refine iff_of_false (by simp) fun quiet => ?_
    exact absurd (quiet '/' (by simp)) (by decide)
  | case3 c rest apart passed ih => rw [ih, List.forall_mem_cons, and_iff_right passed]
  | case4 rest apart loud =>
    exact iff_of_false (by simp) fun quiet => loud (quiet _ List.mem_cons_self)
  | case5 c rest apart loud other =>
    exact iff_of_false (by simp) fun quiet => loud (quiet _ List.mem_cons_self)

theorem isDescribed_iff (later : List String) :
    isDescribed later = true ↔ DescribedBelow later := by
  induction later with
  | nil => exact iff_of_false (by decide) (by simp [DescribedBelow])
  | cons line later ih =>
    rw [isDescribed_cons]
    cases held : continuation? line.toList with
    | none =>
      -- The line is passed over, whichever way the lines are looked at.
      rw [ih]
      constructor
      next =>
        rintro ⟨passed, found, rest, rfl, quiet, described⟩
        refine ⟨line :: passed, found, rest, rfl, ?_, described⟩
        exact List.forall_mem_cons.mpr ⟨(continuation?_eq_none_iff _).mp held, quiet⟩
      next =>
        rintro ⟨passed, found, rest, split, quiet, described⟩
        cases passed with
        | nil =>
          obtain ⟨rfl, rfl⟩ := List.cons.inj split
          rw [← continuation?_eq_text_iff, held] at described
          cases described
        | cons first passed =>
          obtain ⟨rfl, rfl⟩ := List.cons.inj split
          exact ⟨passed, found, rest, rfl, (List.forall_mem_cons.mp quiet).2, described⟩
    | some hit =>
      rw [decide_eq_true_iff, ← Option.some_inj, ← held, continuation?_eq_text_iff]
      constructor
      next =>
        intro described
        exact ⟨[], line, later, rfl, by simp, described⟩
      next =>
        rintro ⟨passed, found, rest, split, quiet, described⟩
        cases passed with
        | nil =>
          obtain ⟨rfl, rfl⟩ := List.cons.inj split
          exact described
        | cons first passed =>
          obtain ⟨rfl, rfl⟩ := List.cons.inj split
          have empty := (continuation?_eq_none_iff _).mpr (List.forall_mem_cons.mp quiet).1
          rw [held] at empty
          cases empty

theorem not_describes_of_blank {text : List Char} (blank : text.all Text.isBlank = true) :
    ¬ Describes text := by
  rintro ⟨front, c, rest, rfl, _, visible, _⟩
  have member : c ∈ front ++ c :: rest := by simp
  rw [List.all_eq_true.mp blank c member] at visible
  cases visible

theorem Writes.filled_or_open {name text behind : List Char} {argument : Option (List Char)}
    (written : Writes name argument text behind) :
    isFilled argument behind = true ∨ isOpen argument behind = true := by
  have ends : behind.head?.all Text.isBlank = true := by cases written <;> assumption
  by_cases blank : behind.all Text.isBlank = true
  next => exact .inr blank
  next =>
    cases behind with
    | nil => exact absurd rfl blank
    | cons c rest =>
      have first : Text.isBlank c = true := by simpa using ends
      exact .inl (by simp [isFilled, first, blank])

instance (text : List Char) : Decidable (Describes text) :=
  decidable_of_iff _ (continuation?_eq_text_iff text)

instance (later : List String) : Decidable (DescribedBelow later) :=
  decidable_of_iff _ (isDescribed_iff later)

end TagReader

namespace TagSite

variable {comment : Comment} {tag : Tag}

def IsDescribed (site : TagSite comment tag) : Prop :=
  TagReader.Describes site.behind ∨ TagReader.DescribedBelow site.below

/-- The tag counts as complete on its line, and is not described. -/
def IsBare (site : TagSite comment tag) : Prop :=
  TagReader.isFilled site.argument site.behind = true ∧ ¬ site.IsDescribed

def IsSole (site : TagSite comment tag) : Prop :=
  (site.front ++ site.text).count '@' = 1

instance (site : TagSite comment tag) : Decidable site.IsDescribed :=
  inferInstanceAs (Decidable (_ ∨ _))

instance (site : TagSite comment tag) : Decidable site.IsBare :=
  inferInstanceAs (Decidable (_ ∧ _))

instance (site : TagSite comment tag) : Decidable site.IsSole :=
  inferInstanceAs (Decidable (_ = _))

theorem isDescribed_or_isBare_iff (site : TagSite comment tag) :
    site.IsDescribed ∨ site.IsBare ↔
      TagReader.isFilled site.argument site.behind = true ∨
        TagReader.isOpen site.argument site.behind = true ∧
          TagReader.isDescribed site.below = true := by
  rw [TagReader.isDescribed_iff]
  constructor
  next =>
    rintro ((here | below) | ⟨filled, _⟩)
    next =>
      refine site.written.filled_or_open.imp_right fun blank => ?_
      exact absurd here (TagReader.not_describes_of_blank blank)
    next => exact site.written.filled_or_open.imp_right fun blank => ⟨blank, below⟩
    next => exact .inl filled
  next =>
    rintro (filled | ⟨_, below⟩)
    next =>
      by_cases described : site.IsDescribed
      · exact .inl described
      · exact .inr ⟨filled, described⟩
    next => exact .inl (.inr below)

theorem not_isInheritDoc (site : TagSite comment tag) : tag.isInheritDoc = false := by
  have kinds : ∀ name ∈ TagReader.argumentNames ++ TagReader.plainNames,
      TagKind.ofName (String.ofList name) ≠ .inheritDoc := by decide
  rw [site.read]
  exact beq_eq_false_iff_ne.mpr (kinds site.name site.written.listed)

theorem mem_methodTags (site : TagSite comment tag) (sole : site.IsSole)
    (taken : site.IsDescribed ∨ site.IsBare) : tag ∈ comment.methodTags := by
  rw [Comment.mem_methodTags_iff]
  refine ⟨site.above, _, site.below, site.lines, ?_⟩
  rw [Comment.lineTag?_eq_some_iff site.lines]
  refine ⟨_, site.read, ?_⟩
  rw [String.toList_ofList, TagReader.complete?_sole site.written sole,
    TagReader.opening?_sole site.written sole]
  rcases site.isDescribed_or_isBare_iff.mp taken with filled | ⟨blank, below⟩
  next => exact .inl (if_pos filled)
  next =>
    by_cases filled : TagReader.isFilled site.argument site.behind = true
    · exact .inl (if_pos filled)
    · exact .inr ⟨if_neg filled, below, if_pos blank⟩

theorem exists_of_mem (member : tag ∈ comment.methodTags) (other : tag.isInheritDoc = false) :
    ∃ site : TagSite comment tag, site.IsDescribed ∨ site.IsBare := by
  obtain ⟨above, line, below, split, given⟩ := Comment.mem_methodTags_iff.mp member
  obtain ⟨hit, rfl, found⟩ := (Comment.lineTag?_eq_some_iff split).mp given
  have named : hit.name ≠ "inheritDoc".toList := by
    intro inline
    simp [TagHit.toTag, Tag.isInheritDoc, inline, TagKind.ofName] at other
  have cut : ∃ front text behind, line.toList = front ++ text ∧
      hit.offset = Text.byteLength front ∧
      TagReader.Writes hit.name hit.argument text behind ∧
      (TagReader.isFilled hit.argument behind = true ∨
        TagReader.isOpen hit.argument behind = true ∧ TagReader.isDescribed below = true) := by
    rcases found with complete | ⟨_, described, opening⟩
    next =>
      obtain ⟨front, text, behind, line_eq, place, written, filled⟩ :=
        TagReader.complete?_writes complete named
      exact ⟨front, text, behind, line_eq, place, written, .inl filled⟩
    next =>
      obtain ⟨front, text, behind, line_eq, place, written, blank⟩ :=
        TagReader.opening?_writes opening
      exact ⟨front, text, behind, line_eq, place, written, .inr ⟨blank, described⟩⟩
  obtain ⟨front, text, behind, line_eq, place, written, taken⟩ := cut
  exact ⟨ofHit split line_eq place written, (isDescribed_or_isBare_iff _).mpr taken⟩

end TagSite

theorem Comment.methodTags_described_or_bare (comment : Comment) (tag : Tag) :
    (tag ∈ comment.methodTags → tag.isInheritDoc = false → Nonempty (TagSite comment tag)) ∧
    ∀ site : TagSite comment tag,
      (tag ∈ comment.methodTags → site.IsDescribed ∨ site.IsBare) ∧
      (site.IsSole → site.IsDescribed ∨ site.IsBare → tag ∈ comment.methodTags) := by
  refine ⟨fun member other => (TagSite.exists_of_mem member other).nonempty, fun site => ⟨?_, ?_⟩⟩
  next =>
    intro member
    obtain ⟨found, taken⟩ := TagSite.exists_of_mem member site.not_isInheritDoc
    rwa [Subsingleton.elim site found]
  next => exact site.mem_methodTags

-- The first tag is described two lines below it; the second has only the closing delimiter.
theorem Comment.methodTags_described_later :
    let comment : Comment :=
      ⟨.block, 7, 4, 11, ["/**", " * @param x", " *", " *   the x", " * @return */"]⟩
    (∃ site : TagSite comment ⟨8, 3, .param, some "x"⟩, site.IsSole ∧ site.IsDescribed ∧
      ⟨8, 3, .param, some "x"⟩ ∈ comment.methodTags) ∧
    ⟨11, 3, .returns, none⟩ ∈ comment.methodTags ∧
      Nonempty (TagSite comment ⟨11, 3, .returns, none⟩) ∧
      ∃ site : TagSite comment ⟨11, 3, .returns, none⟩, ¬ site.IsDescribed ∧
        (site.IsDescribed ∨ site.IsBare) := by
  intro comment
  have read : (⟨11, 3, .returns, none⟩ : Tag) ∈ comment.methodTags := by decide
  refine ⟨⟨⟨["/**"], " * ".toList, "@param x".toList, "param".toList, some ['x'], [],
    [" *", " *   the x", " * @return */"], rfl, ?named, rfl⟩, ?sole, ?described,
      ((methodTags_described_or_bare _ _).2 _).2 ?sole (.inl ?described)⟩,
    read, (methodTags_described_or_bare _ _).1 read rfl,
    ⟨["/**", " * @param x", " *", " *   the x"], " * ".toList, "@return */".toList,
      "return".toList, none, " */".toList, [], rfl, .plain (by decide) rfl, rfl⟩, ?bare,
      ((methodTags_described_or_bare _ _).2 _).1 read⟩
  case named =>
    exact @TagReader.Writes.argument _ [' '] ['x'] [] (by decide)
      ⟨by simp, List.forall_mem_singleton.mpr rfl⟩ ⟨by simp, List.forall_mem_singleton.mpr rfl⟩ rfl
  all_goals decide

-- A blank behind the argument passes for a description.
theorem Comment.methodTags_trailingBlank :
    let comment : Comment := ⟨.block, 1, 0, 3, ["/**", " * @param x ", " */"]⟩
    ⟨2, 3, .param, some "x"⟩ ∈ comment.methodTags ∧
      ∃ site : TagSite comment ⟨2, 3, .param, some "x"⟩, ¬ site.IsDescribed := by
  intro comment
  refine ⟨by decide, ⟨["/**"], " * ".toList, "@param x ".toList, "param".toList, some ['x'], [' '],
    [" */"], rfl, ?_, rfl⟩, ?_⟩
  · exact @TagReader.Writes.argument _ [' '] ['x'] [' '] (by decide)
      ⟨by simp, List.forall_mem_singleton.mpr rfl⟩ ⟨by simp, List.forall_mem_singleton.mpr rfl⟩ rfl
  · decide

end DocAudit
