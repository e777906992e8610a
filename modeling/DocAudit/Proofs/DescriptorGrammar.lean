import DocAudit.AllowList
import DocAudit.Pattern.Parser
import Mathlib.Data.List.Chain
import Mathlib.Data.List.TakeWhile

set_option autoImplicit false

namespace DocAudit.AllowList

structure WrittenPattern where
  gap : List Char
  delimiter : Char
  source : List Char
  gap_blank : ∀ c ∈ gap, Text.isBlank c = true
  delimits : isDelimiter delimiter = true
  delimiter_notMem : delimiter ∉ source
  lineFeed_notMem : '\n' ∉ source

def WrittenPattern.text (pattern : WrittenPattern) : List Char :=
  pattern.gap ++ pattern.delimiter :: (pattern.source ++ [pattern.delimiter])

structure WrittenClause where
  lead : List Char
  context : Context
  pattern : Option WrittenPattern
  lead_blank : ∀ c ∈ lead, Text.isBlank c = true

def WrittenClause.text (clause : WrittenClause) : List Char :=
  clause.lead ++ (clause.context.keyword.toList ++ clause.pattern.elim [] WrittenPattern.text)

/-- Clauses one after the other, and blanks behind them. Two keywords are kept apart. -/
structure Written where
  clauses : List WrittenClause
  tail : List Char
  tail_blank : ∀ c ∈ tail, Text.isBlank c = true
  separate : clauses.IsChain fun first second => first.pattern = none → second.lead ≠ []

def textOf (clauses : List WrittenClause) : List Char := clauses.flatMap (·.text)

section Meaning

variable [Pattern.Reader]

def WrittenClause.allowed (clause : WrittenClause) : AllowClause where
  context := clause.context
  format := clause.pattern.bind fun pattern =>
    (Pattern.Reader.wholeWithLineEnds? pattern.source).map fun regex => (pattern.source, regex)

def allowedOf (clauses : List WrittenClause) : AllowList := clauses.map (·.allowed)

structure WrittenClause.Means (clause : WrittenClause) (allowed : AllowClause) : Prop where
  context : allowed.context = clause.context
  source : allowed.format.map (·.1) = clause.pattern.map (·.source)
  regex : ∀ format ∈ allowed.format, Pattern.Reader.wholeWithLineEnds? format.1 = some format.2

def isReadInPlace (source : List Char) : Bool :=
  (Pattern.Reader.wholeWithLineEnds? source).isSome

def isPattern (source : List Char) : Bool := (Pattern.Reader.read? source).isSome

end Meaning

def WrittenClause.refused? (accepts : List Char → Bool) (clause : WrittenClause) :
    Option (List Char) :=
  (clause.pattern.map (·.source)).filter (!accepts ·)

def refused? (accepts : List Char → Bool) (clauses : List WrittenClause) : Option (List Char) :=
  clauses.findSome? (·.refused? accepts)

def endsWord (text : List Char) : Bool := text.head?.all fun c => !isKeywordChar c

def StartsClause (text : List Char) : Prop :=
  ∃ (context : Context) (after : List Char),
    text = context.keyword.toList ++ after ∧ endsWord after = true

def StartsPattern (text : List Char) : Prop :=
  ∃ (pattern : WrittenPattern) (after : List Char), text = pattern.text ++ after

section Characters

theorem isKeywordChar_range {c : Char} (word : isKeywordChar c = true) :
    48 ≤ c.toNat ∧ c.toNat ≤ 122 := by
  delta isKeywordChar Char.isAlphanum Char.isAlpha Char.isUpper Char.isLower Char.isDigit at word
  simp only [Bool.or_eq_true, Bool.and_eq_true, decide_eq_true_eq, beq_iff_eq, ge_iff_le,
    UInt32.le_iff_toNat_le, Char.toNat_val, Char.reduceToNat] at word
  rcases word with word | rfl
  · omega
  · decide

theorem isKeywordChar_of_isBlank {c : Char} (blank : Text.isBlank c = true) :
    isKeywordChar c = false := by
  rw [Bool.eq_false_iff]
  intro word
  have range := isKeywordChar_range word
  simp only [Text.isBlank, Bool.or_eq_true, Bool.and_eq_true, decide_eq_true_eq,
    beq_iff_eq] at blank
  omega

theorem isKeywordChar_keyword (context : Context) :
    ∀ c ∈ context.keyword.toList, isKeywordChar c = true := by
  rw [← List.all_eq_true]
  cases context <;> rfl

end Characters

section Readers

theorem keyword_of_ofKeyword? {word : String} {context : Context}
    (known : Context.ofKeyword? word = some context) : context.keyword = word := by
  unfold Context.ofKeyword? at known
  simpa using List.find?_some known

theorem keyword?_eq_some_iff {text after : List Char} {context : Context} :
    keyword? text = some (context, after) ↔
      text = context.keyword.toList ++ after ∧ endsWord after = true := by
  constructor
  next =>
    intro read
    obtain ⟨found, known, same⟩ := Option.map_eq_some_iff.mp read
    cases same
    rw [keyword_of_ofKeyword? known, String.toList_ofList, List.takeWhile_append_dropWhile]
    exact ⟨rfl, Text.head_dropWhile isKeywordChar text⟩
  next =>
    rintro ⟨rfl, ends⟩
    have stops : after.takeWhile isKeywordChar = [] := by
      cases after with
      | nil => rfl
      | cons c rest => exact List.takeWhile_cons_of_neg (by simpa [endsWord] using ends)
    rw [keyword?, List.takeWhile_append_of_pos (isKeywordChar_keyword context),
      List.dropWhile_append_of_pos (isKeywordChar_keyword context), Text.dropWhile_of_head ends,
      stops, List.append_nil, String.ofList_toList, Context.ofKeyword?_keyword, Option.map_some]

theorem keyword?_eq_none_iff {text : List Char} :
    keyword? text = none ↔ ¬ StartsClause text := by
  rw [← Option.not_isSome_iff_eq_none, Option.isSome_iff_exists, StartsClause]
  simp only [Prod.exists, keyword?_eq_some_iff]

theorem delimited?_eq_some_iff {text source after : List Char} :
    delimited? text = some (source, after) ↔
      ∃ delimiter, isDelimiter delimiter = true ∧ delimiter ∉ source ∧ '\n' ∉ source ∧
        text = delimiter :: (source ++ delimiter :: after) := by
  constructor
  next =>
    intro read
    rcases text with _ | ⟨delimiter, body⟩
    · simp [delimited?] at read
    by_cases delimits : isDelimiter delimiter = true
    next =>
      rw [delimited?, if_pos delimits] at read
      split at read
      next c rest found =>
        by_cases closes : c = delimiter
        next =>
          rw [if_pos closes, Option.some.injEq, Prod.mk.injEq] at read
          obtain ⟨rfl, rfl⟩ := read
          subst closes
          refine ⟨c, delimits, ?_, ?_, ?_⟩
          · intro member
            simpa using List.mem_takeWhile_imp member
          · intro member
            simpa using List.mem_takeWhile_imp member
          · rw [← found, List.takeWhile_append_dropWhile]
        next => simp [closes] at read
      next => simp at read
    next => simp [delimited?, delimits] at read
  next =>
    rintro ⟨delimiter, delimits, apart, oneLine, rfl⟩
    have inside : ∀ c ∈ source, (!(c == delimiter || c == '\n')) = true := by
      intro c member
      have other : c ≠ delimiter := fun same => apart (same ▸ member)
      have visible : c ≠ '\n' := fun same => oneLine (same ▸ member)
      simp [other, visible]
    rw [delimited?, if_pos delimits, List.dropWhile_append_of_pos inside,
      List.takeWhile_append_of_pos inside]
    simp

theorem WrittenPattern.delimiter_visible (pattern : WrittenPattern) :
    isKeywordChar pattern.delimiter = false ∧ Text.isBlank pattern.delimiter = false := by
  simpa [isDelimiter] using pattern.delimits

theorem WrittenPattern.delimited?_text (pattern : WrittenPattern) (after : List Char) :
    delimited? (Text.trimStart (pattern.text ++ after)) = some (pattern.source, after) := by
  have split : pattern.text ++ after =
      pattern.gap ++ pattern.delimiter :: (pattern.source ++ pattern.delimiter :: after) := by
    simp [text]
  rw [split, Text.trimStart_append pattern.gap_blank (by simp [pattern.delimiter_visible.2])]
  exact delimited?_eq_some_iff.mpr ⟨pattern.delimiter, pattern.delimits,
    pattern.delimiter_notMem, pattern.lineFeed_notMem, rfl⟩

theorem exists_pattern {text source after : List Char}
    (read : delimited? (Text.trimStart text) = some (source, after)) :
    ∃ pattern : WrittenPattern, text = pattern.text ++ after := by
  obtain ⟨delimiter, delimits, apart, oneLine, split⟩ := delimited?_eq_some_iff.mp read
  obtain ⟨gap, gap_blank, cut⟩ := Text.exists_blanks text
  rw [split] at cut
  refine ⟨⟨gap, delimiter, source, gap_blank, delimits, apart, oneLine⟩, ?_⟩
  simpa [WrittenPattern.text] using cut

theorem delimited?_eq_none_iff {text : List Char} :
    delimited? (Text.trimStart text) = none ↔ ¬ StartsPattern text := by
  rw [← Option.not_isSome_iff_eq_none, not_iff_not, Option.isSome_iff_exists]
  constructor
  · rintro ⟨⟨source, after⟩, read⟩
    obtain ⟨pattern, split⟩ := exists_pattern read
    exact ⟨pattern, after, split⟩
  · rintro ⟨pattern, after, rfl⟩
    exact ⟨_, pattern.delimited?_text after⟩

end Readers

section Texts

/-- A clause is read as far as it goes: no pattern follows a bare keyword, and no word goes on. -/
def WrittenClause.EndsBefore (clause : WrittenClause) (after : List Char) : Prop :=
  clause.pattern = none → endsWord after = true ∧ ¬ StartsPattern after

def Ends : List WrittenClause → List Char → Prop
  | [], _ => True
  | clause :: rest, tail => clause.EndsBefore (textOf rest ++ tail) ∧ Ends rest tail

theorem textOf_cons (clause : WrittenClause) (rest : List WrittenClause) (tail : List Char) :
    textOf (clause :: rest) ++ tail = clause.text ++ (textOf rest ++ tail) := by
  simp [textOf]

theorem keyword_head (context : Context) (after : List Char) :
    (context.keyword.toList ++ after).head?.all (!Text.isBlank ·) = true := by
  cases context <;> rfl

theorem endsWord_keyword (context : Context) (after : List Char) :
    endsWord (context.keyword.toList ++ after) = false := by
  cases context <;> rfl

theorem WrittenPattern.endsWord_text (pattern : WrittenPattern) (after : List Char) :
    endsWord (pattern.text ++ after) = true := by
  rcases gap : pattern.gap with _ | ⟨c, more⟩
  next => simp [endsWord, text, gap, pattern.delimiter_visible.1]
  next =>
    have blank := pattern.gap_blank c (by simp [gap])
    simp [endsWord, text, gap, isKeywordChar_of_isBlank blank]

theorem WrittenClause.keyword?_text {clause : WrittenClause} {after : List Char}
    (ends : clause.EndsBefore after) :
    keyword? (Text.trimStart (clause.text ++ after)) =
      some (clause.context, clause.pattern.elim [] WrittenPattern.text ++ after) := by
  have trimmed : Text.trimStart (clause.text ++ after) =
      clause.context.keyword.toList ++ (clause.pattern.elim [] WrittenPattern.text ++ after) := by
    rw [text, List.append_assoc, List.append_assoc]
    exact Text.trimStart_append clause.lead_blank (keyword_head _ _)
  rw [trimmed, keyword?_eq_some_iff]
  refine ⟨rfl, ?_⟩
  cases written : clause.pattern with
  | none => exact (ends written).1
  | some pattern => exact pattern.endsWord_text after

theorem refused?_cons (accepts : List Char → Bool) (clause : WrittenClause)
    (rest : List WrittenClause) :
    refused? accepts (clause :: rest) = (clause.refused? accepts).or (refused? accepts rest) := by
  rw [refused?, List.findSome?_cons]
  cases clause.refused? accepts <;> rfl

end Texts

section Parse

variable [Pattern.Reader]

theorem parse_blank {text : List Char} (blank : Text.trimStart text = []) :
    parse text = .ok [] := by
  rw [parse, if_pos blank]

theorem parse_garbage {text : List Char} (held : Text.trimStart text ≠ [])
    (unknown : ¬ StartsClause (Text.trimStart text)) :
    parse text = .error (.trailingGarbage (Text.trimStart text)) := by
  rw [← keyword?_eq_none_iff] at unknown
  rw [parse, if_neg held]
  split
  · rfl
  · simp_all

theorem parse_keyword {text rest : List Char} {context : Context}
    (known : keyword? (Text.trimStart text) = some (context, rest)) :
    parse text = match delimited? (Text.trimStart rest) with
      | none => (parse (Text.trimStart rest)).map (⟨context, none⟩ :: ·)
      | some (source, after) =>
        match Pattern.Reader.wholeWithLineEnds? source with
        | none => .error (.badFormat source)
        | some regex => (parse after).map (⟨context, some (source, regex)⟩ :: ·) := by
  have held : Text.trimStart text ≠ [] := by
    intro empty
    have shorter := length_keyword_rest known
    simp [empty] at shorter
  rw [parse, if_neg held]
  split
  next unknown => simp [known] at unknown
  next context' rest' found =>
    cases known.symm.trans found
    split
    next absent => rw [absent]
    next source after read =>
      rewrite [read]
      rfl

theorem parse_trimStart (text : List Char) : parse (Text.trimStart text) = parse text := by
  have again : Text.trimStart (Text.trimStart text) = Text.trimStart text :=
    Text.dropWhile_of_head (Text.head_dropWhile Text.isBlank text)
  by_cases held : Text.trimStart text = []
  next => rw [parse_blank held, parse_blank (again.trans held)]
  next =>
    rcases known : keyword? (Text.trimStart text) with _ | ⟨context, rest⟩
    next =>
      have unknown := keyword?_eq_none_iff.mp known
      rw [parse_garbage held unknown, parse_garbage (again.symm ▸ held) (again.symm ▸ unknown),
        again]
    next => rw [parse_keyword known, parse_keyword (again.symm ▸ known)]

theorem parse_clause {clause : WrittenClause} {after : List Char}
    (ends : clause.EndsBefore after) :
    parse (clause.text ++ after) =
      match clause.refused? isReadInPlace with
      | some source => .error (.badFormat source)
      | none => (parse after).map (clause.allowed :: ·) := by
  rw [parse_keyword (WrittenClause.keyword?_text ends)]
  cases written : clause.pattern with
  | none =>
    have bare : delimited? (Text.trimStart after) = none :=
      delimited?_eq_none_iff.mpr (ends written).2
    simp [bare, parse_trimStart, WrittenClause.refused?, WrittenClause.allowed, written]
  | some pattern =>
    cases read : Pattern.Reader.wholeWithLineEnds? pattern.source with
    | none =>
      simp [pattern.delimited?_text, WrittenClause.refused?, Option.filter_some, isReadInPlace,
        written, read]
    | some regex =>
      simp [pattern.delimited?_text, WrittenClause.refused?, Option.filter_some, isReadInPlace,
        WrittenClause.allowed, written, read]

theorem parse_textOf {clauses : List WrittenClause} {tail : List Char}
    (ends : Ends clauses tail) :
    parse (textOf clauses ++ tail) =
      match refused? isReadInPlace clauses with
      | some source => .error (.badFormat source)
      | none => (parse tail).map (allowedOf clauses ++ ·) := by
  induction clauses with
  | nil =>
    change parse tail = (parse tail).map (allowedOf [] ++ ·)
    cases parse tail <;> rfl
  | cons clause rest ih =>
    rw [textOf_cons, parse_clause ends.1, ih ends.2, refused?_cons]
    cases clause.refused? isReadInPlace with
    | some source => rfl
    | none =>
      cases refused? isReadInPlace rest with
      | some source => rfl
      | none => cases parse tail <;> rfl

end Parse

section Reading

theorem exists_clause {text rest : List Char} {context : Context}
    (known : keyword? (Text.trimStart text) = some (context, rest)) :
    ∃ (clause : WrittenClause) (after : List Char),
      text = clause.text ++ after ∧ clause.EndsBefore after ∧ after.length < text.length := by
  obtain ⟨lead, lead_blank, cut⟩ := Text.exists_blanks text
  have shorter : rest.length < text.length :=
    Nat.lt_of_lt_of_le (length_keyword_rest known) (Text.length_trimStart_le text)
  obtain ⟨split, ends⟩ := keyword?_eq_some_iff.mp known
  rw [split] at cut
  by_cases opens : StartsPattern rest
  next =>
    obtain ⟨pattern, after, rfl⟩ := opens
    refine ⟨⟨lead, context, some pattern, lead_blank⟩, after, ?_, ?_, ?_⟩
    · simpa [WrittenClause.text] using cut
    · intro bare
      cases bare
    · rw [List.length_append] at shorter
      omega
  next =>
    refine ⟨⟨lead, context, none, lead_blank⟩, rest, ?_, fun _ => ⟨ends, opens⟩, shorter⟩
    simpa [WrittenClause.text] using cut

theorem exists_ends (text : List Char) :
    ∃ (clauses : List WrittenClause) (tail : List Char),
      text = textOf clauses ++ tail ∧ Ends clauses tail ∧ ¬ StartsClause (Text.trimStart tail) := by
  cases known : keyword? (Text.trimStart text) with
  | none => exact ⟨[], text, rfl, trivial, keyword?_eq_none_iff.mp known⟩
  | some read =>
    obtain ⟨clause, after, rfl, ends, shorter⟩ := exists_clause known
    obtain ⟨clauses, tail, rfl, more, stops⟩ := exists_ends after
    exact ⟨clause :: clauses, tail, (textOf_cons clause clauses tail).symm, ⟨ends, more⟩, stops⟩
termination_by text.length

theorem not_startsPattern {text : List Char}
    (apart : (Text.trimStart text).head?.all (!isDelimiter ·) = true) : ¬ StartsPattern text := by
  rw [← delimited?_eq_none_iff]
  cases trimmed : Text.trimStart text with
  | nil => rfl
  | cons c rest =>
    have other : isDelimiter c = false := by simpa [trimmed] using apart
    simp [delimited?, other]

theorem endsWord_append {blanks : List Char} (blank : ∀ c ∈ blanks, Text.isBlank c = true)
    (held : blanks ≠ []) (text : List Char) : endsWord (blanks ++ text) = true := by
  obtain ⟨c, more, rfl⟩ := List.exists_cons_of_ne_nil held
  simp [endsWord, isKeywordChar_of_isBlank (blank c List.mem_cons_self)]

theorem endsBefore_clause (first second : WrittenClause) (after : List Char) :
    first.EndsBefore (second.text ++ after) ↔ (first.pattern = none → second.lead ≠ []) := by
  constructor
  next =>
    -- a keyword right behind a keyword would be one word with it
    intro ends bare joined
    have apart := (ends bare).1
    rw [WrittenClause.text, joined, List.nil_append, List.append_assoc, endsWord_keyword] at apart
    cases apart
  next =>
    intro apart bare
    rw [WrittenClause.text, List.append_assoc]
    refine ⟨endsWord_append second.lead_blank (apart bare) _, not_startsPattern ?_⟩
    rw [List.append_assoc, Text.trimStart_append second.lead_blank (keyword_head _ _)]
    cases second.context <;> rfl

theorem endsBefore_blank (clause : WrittenClause) {blanks : List Char}
    (blank : ∀ c ∈ blanks, Text.isBlank c = true) : clause.EndsBefore blanks := by
  intro _
  have trimmed : Text.trimStart blanks = [] := by
    rw [← List.append_nil blanks]
    exact Text.trimStart_append blank rfl
  refine ⟨?_, not_startsPattern (by simp [trimmed])⟩
  by_cases held : blanks = []
  · rw [held]
    rfl
  · simpa using endsWord_append blank held []

theorem ends_iff (clauses : List WrittenClause) (tail : List Char) :
    Ends clauses tail ↔
      clauses.IsChain (fun first second => first.pattern = none → second.lead ≠ []) ∧
        ∀ last, clauses.getLast? = some last → last.EndsBefore tail := by
  induction clauses with
  | nil => simp [Ends]
  | cons clause rest ih =>
    rw [Ends, ih]
    cases rest with
    | nil => simp [textOf]
    | cons next rest =>
      rw [textOf_cons, endsBefore_clause, List.isChain_cons_cons, List.getLast?_cons_cons,
        and_assoc]

end Reading

namespace Written

def text (written : Written) : List Char := textOf written.clauses ++ written.tail

structure Reads (written : Written) (text rest : List Char) : Prop where
  split : text = written.text ++ rest
  visible : rest.head?.all (!Text.isBlank ·) = true
  noClause : ¬ StartsClause rest
  closed : ∀ last, written.clauses.getLast? = some last → last.EndsBefore (written.tail ++ rest)

theorem reads_text (written : Written) : written.Reads written.text [] where
  split := (List.append_nil _).symm
  visible := rfl
  noClause := by
    rintro ⟨context, after, split, _⟩
    cases context <;> cases split
  closed last _ := by
    rw [List.append_nil]
    exact endsBefore_blank last written.tail_blank

theorem exists_reads (text : List Char) :
    ∃ (written : Written) (rest : List Char), written.Reads text rest := by
  obtain ⟨clauses, after, rfl, ends, stops⟩ := exists_ends text
  obtain ⟨separate, closed⟩ := (ends_iff clauses after).mp ends
  obtain ⟨tail, tail_blank, cut⟩ := Text.exists_blanks after
  refine ⟨⟨clauses, tail, tail_blank, separate⟩, Text.trimStart after, ?_,
    Text.head_dropWhile Text.isBlank after, stops, ?_⟩
  · rw [Written.text, List.append_assoc, ← cut]
  · rwa [← cut]

variable [Pattern.Reader]

def answer (written : Written) (accepts : List Char → Bool) (rest : List Char) :
    Except DescriptorError AllowList :=
  match refused? accepts written.clauses with
  | some source => .error (.badFormat source)
  | none => if rest = [] then .ok (allowedOf written.clauses) else .error (.trailingGarbage rest)

theorem Reads.parse_eq {written : Written} {text rest : List Char}
    (reads : written.Reads text rest) : parse text = written.answer isReadInPlace rest := by
  have ends : Ends written.clauses (written.tail ++ rest) :=
    (ends_iff _ _).mpr ⟨written.separate, reads.closed⟩
  have trimmed : Text.trimStart (written.tail ++ rest) = rest :=
    Text.trimStart_append written.tail_blank reads.visible
  rw [reads.split, Written.text, List.append_assoc, parse_textOf ends, answer]
  by_cases empty : rest = []
  next =>
    rw [parse_blank (trimmed.trans empty), if_pos empty, Except.map, List.append_nil]
  next =>
    have unknown : ¬ StartsClause (Text.trimStart (written.tail ++ rest)) := by
      rw [trimmed]
      exact reads.noClause
    rw [parse_garbage (by rwa [trimmed]) unknown, if_neg empty, trimmed]
    rfl

theorem answer_eq_ok_iff {written : Written} {accepts : List Char → Bool} {rest : List Char}
    {allowed : AllowList} :
    written.answer accepts rest = .ok allowed ↔
      refused? accepts written.clauses = none ∧ rest = [] ∧
        allowedOf written.clauses = allowed := by
  rw [answer]
  cases refused? accepts written.clauses <;> by_cases empty : rest = [] <;> simp [empty]

theorem answer_eq_trailingGarbage_iff {written : Written} {accepts : List Char → Bool}
    {rest garbage : List Char} :
    written.answer accepts rest = .error (.trailingGarbage garbage) ↔
      refused? accepts written.clauses = none ∧ rest ≠ [] ∧ rest = garbage := by
  rw [answer]
  cases refused? accepts written.clauses <;> by_cases empty : rest = [] <;> simp [empty]

theorem answer_eq_badFormat_iff {written : Written} {accepts : List Char → Bool}
    {rest source : List Char} :
    written.answer accepts rest = .error (.badFormat source) ↔
      refused? accepts written.clauses = some source := by
  rw [answer]
  cases refused? accepts written.clauses <;> by_cases empty : rest = [] <;> simp [empty]

theorem answer_eq_answer_iff {written : Written} {accepts accepts' : List Char → Bool}
    {rest : List Char} :
    written.answer accepts rest = written.answer accepts' rest ↔
      refused? accepts written.clauses = refused? accepts' written.clauses := by
  constructor
  next =>
    intro same
    apply Option.ext
    intro source
    have first : written.answer accepts rest = .error (.badFormat source) ↔ _ :=
      answer_eq_badFormat_iff
    rw [same, answer_eq_badFormat_iff] at first
    exact first.symm
  next =>
    intro same
    rw [answer, answer, same]

end Written

section Answers

variable [Pattern.Reader]

theorem WrittenClause.means_iff {clause : WrittenClause} {allowed : AllowClause} :
    clause.Means allowed ↔ clause.refused? isReadInPlace = none ∧ clause.allowed = allowed := by
  obtain ⟨context, format⟩ := allowed
  constructor
  next =>
    rintro ⟨rfl, source, regex⟩
    cases written : clause.pattern <;> rcases format with _ | ⟨source, regex⟩ <;>
      simp_all [WrittenClause.refused?, WrittenClause.allowed, isReadInPlace]
  next =>
    rintro ⟨accepted, same⟩
    cases same
    cases written : clause.pattern with
    | none => constructor <;> simp [written]
    | some pattern =>
      have compiles : isReadInPlace pattern.source = true := by
        simpa [WrittenClause.refused?, written] using accepted
      obtain ⟨regex, read⟩ := Option.isSome_iff_exists.mp compiles
      constructor <;> simp [written, read]

theorem forall₂_means_iff {clauses : List WrittenClause} {allowed : AllowList} :
    List.Forall₂ WrittenClause.Means clauses allowed ↔
      refused? isReadInPlace clauses = none ∧ allowedOf clauses = allowed := by
  induction clauses generalizing allowed with
  | nil => simp [refused?, allowedOf, eq_comm]
  | cons clause rest ih =>
    simp only [List.forall₂_cons_left_iff, WrittenClause.means_iff, ih, refused?_cons,
      Option.or_eq_none_iff, allowedOf, List.map_cons]
    constructor
    · rintro ⟨_, _, ⟨first, rfl⟩, ⟨others, rfl⟩, rfl⟩
      exact ⟨⟨first, others⟩, rfl⟩
    · rintro ⟨⟨first, others⟩, rfl⟩
      exact ⟨_, _, ⟨first, rfl⟩, ⟨others, rfl⟩, rfl⟩

theorem parse_eq_ok_iff {text : List Char} {allowed : AllowList} :
    parse text = .ok allowed ↔
      ∃ written : Written, written.text = text ∧
        List.Forall₂ WrittenClause.Means written.clauses allowed := by
  constructor
  next =>
    intro read
    obtain ⟨written, rest, reads⟩ := Written.exists_reads text
    rw [reads.parse_eq, Written.answer_eq_ok_iff] at read
    obtain ⟨accepted, rfl, meant⟩ := read
    have whole := reads.split
    rw [List.append_nil] at whole
    exact ⟨written, whole.symm, forall₂_means_iff.mpr ⟨accepted, meant⟩⟩
  next =>
    rintro ⟨written, rfl, means⟩
    obtain ⟨accepted, meant⟩ := forall₂_means_iff.mp means
    rw [written.reads_text.parse_eq, Written.answer_eq_ok_iff]
    exact ⟨accepted, rfl, meant⟩

theorem parse_eq_trailingGarbage_iff {text rest : List Char} :
    parse text = .error (.trailingGarbage rest) ↔
      rest ≠ [] ∧ ∃ written : Written, written.Reads text rest ∧
        ∃ allowed, parse written.text = .ok allowed := by
  constructor
  next =>
    intro read
    obtain ⟨written, rest', reads⟩ := Written.exists_reads text
    rw [reads.parse_eq, Written.answer_eq_trailingGarbage_iff] at read
    obtain ⟨accepted, held, rfl⟩ := read
    refine ⟨held, written, reads, allowedOf written.clauses, ?_⟩
    rw [written.reads_text.parse_eq, Written.answer_eq_ok_iff]
    exact ⟨accepted, rfl, rfl⟩
  next =>
    rintro ⟨held, written, reads, allowed, before⟩
    rw [written.reads_text.parse_eq, Written.answer_eq_ok_iff] at before
    rw [reads.parse_eq, Written.answer_eq_trailingGarbage_iff]
    exact ⟨before.1, held, rfl⟩

theorem parse_eq_badFormat_iff {text source : List Char} :
    parse text = .error (.badFormat source) ↔
      ∃ (written : Written) (rest : List Char), written.Reads text rest ∧
        refused? isReadInPlace written.clauses = some source := by
  constructor
  next =>
    intro read
    obtain ⟨written, rest, reads⟩ := Written.exists_reads text
    rw [reads.parse_eq, Written.answer_eq_badFormat_iff] at read
    exact ⟨written, rest, reads, read⟩
  next =>
    rintro ⟨written, rest, reads, refused⟩
    rwa [reads.parse_eq, Written.answer_eq_badFormat_iff]

/-- What comes of a text is told by what is written in it, up to the patterns: these are refused
where they stand, and it makes no difference only as long as the same one is refused first. -/
theorem parse_readings (text : List Char) :
    (∀ allowed, parse text = .ok allowed ↔
      ∃ written : Written, written.text = text ∧
        List.Forall₂ WrittenClause.Means written.clauses allowed) ∧
    (∀ rest, parse text = .error (.trailingGarbage rest) ↔
      rest ≠ [] ∧ ∃ written : Written, written.Reads text rest ∧
        ∃ allowed, parse written.text = .ok allowed) ∧
    (∀ source, parse text = .error (.badFormat source) ↔
      ∃ (written : Written) (rest : List Char), written.Reads text rest ∧
        refused? isReadInPlace written.clauses = some source) ∧
    (∃ (written : Written) (rest : List Char), written.Reads text rest) ∧
    ∀ (written : Written) (rest : List Char), written.Reads text rest →
      (parse text = written.answer isPattern rest ↔
        refused? isReadInPlace written.clauses = refused? isPattern written.clauses) := by
  refine ⟨fun _ => parse_eq_ok_iff, fun _ => parse_eq_trailingGarbage_iff,
    fun _ => parse_eq_badFormat_iff, Written.exists_reads text, ?_⟩
  intro written rest reads
  rw [reads.parse_eq]
  exact Written.answer_eq_answer_iff

end Answers

-- Two words, then a pattern with a word right behind it.
private def glued : Written where
  clauses := [⟨[], .classBody, none, by simp⟩,
    ⟨[' '], .signature, some ⟨['\n'], '#', "a.".toList, List.all_eq_true.mp rfl, by decide,
      by decide, by decide⟩, List.all_eq_true.mp rfl⟩,
    ⟨[], .statements, none, by simp⟩]
  tail := [' ']
  tail_blank := List.all_eq_true.mp rfl
  separate := by simp

theorem parse_readings_glued :
    glued.Reads "class func\n#a.#stmts +".toList ['+'] ∧
      parse "class func\n#a.#stmts +".toList = glued.answer isPattern ['+'] := by
  have reads : glued.Reads "class func\n#a.#stmts +".toList ['+'] :=
    { split := by decide
      visible := by decide
      noClause := keyword?_eq_none_iff.mp (by decide)
      closed := by
        intro last found
        cases found
        exact fun _ => ⟨by decide, delimited?_eq_none_iff.mp (by decide)⟩ }
  exact ⟨reads, ((parse_readings _).2.2.2.2 glued ['+'] reads).mpr (by decide +kernel)⟩

-- A pattern that closes the group it is set in, and opens another one.
private def unbalanced : Written where
  clauses := [⟨[], .signature, some ⟨[], '#', "a)|(?:b".toList, by simp, by decide, by decide,
    by decide⟩, by simp⟩]
  tail := []
  tail_blank := by simp
  separate := .singleton _

-- A pattern that ends in a remark, which runs on over what is set behind it.
private def remarked : Written where
  clauses := [⟨[], .signature, some ⟨[], '|', "(?x)a#".toList, by simp, by decide, by decide,
    by decide⟩, by simp⟩]
  tail := []
  tail_blank := by simp
  separate := .singleton _

theorem parse_patternInPlace :
    (∃ allowed, parse "func#a)|(?:b#".toList = .ok allowed) ∧
      isPattern "a)|(?:b".toList = false ∧
      parse "func|(?x)a#|".toList = .error (.badFormat "(?x)a#".toList) ∧
      isPattern "(?x)a#".toList = true := by
  have accepted : refused? isReadInPlace unbalanced.clauses = none := by decide +kernel
  have refused : refused? isReadInPlace remarked.clauses = some "(?x)a#".toList := by
    decide +kernel
  refine ⟨⟨allowedOf unbalanced.clauses, ?_⟩, by decide +kernel, ?_, by decide +kernel⟩
  · exact unbalanced.reads_text.parse_eq.trans
      (Written.answer_eq_ok_iff.mpr ⟨accepted, rfl, rfl⟩)
  · exact remarked.reads_text.parse_eq.trans (Written.answer_eq_badFormat_iff.mpr refused)

end DocAudit.AllowList
