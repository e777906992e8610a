import DocAudit.Proofs.ByteOffset
import DocAudit.Proofs.TagLines
import Mathlib.Data.List.TakeWhile

set_option autoImplicit false

namespace DocAudit

namespace TagReader

inductive Writes (name : List Char) : Option (List Char) → List Char → List Char → Prop
  | plain {behind : List Char} (listed : name ∈ plainNames)
    (ends : behind.head?.all Text.isBlank = true) :
    Writes name none ('@' :: (name ++ behind)) behind
  | argument {gap word behind : List Char} (listed : name ∈ argumentNames)
    (spaced : gap ≠ [] ∧ ∀ c ∈ gap, Text.isBlank c = true)
    (solid : word ≠ [] ∧ ∀ c ∈ word, Text.isBlank c = false)
    (ends : behind.head?.all Text.isBlank = true) :
    Writes name (some word) ('@' :: (name ++ (gap ++ (word ++ behind)))) behind

def isFilled (argument : Option (List Char)) (behind : List Char) : Bool :=
  behind.head?.any Text.isBlank && (argument.isSome || !behind.all Text.isBlank)

def isOpen (_argument : Option (List Char)) (behind : List Char) : Bool :=
  behind.all Text.isBlank

section Parts

theorem after?_eq_some_iff {pattern text rest : List Char} :
    after? pattern text = some rest ↔ text = pattern ++ rest := by
  fun_induction after? pattern text with
  | case1 text => simp
  | case2 => simp
  | case3 pattern c text ih => simp [ih]
  | case4 p pattern c text apart => simp [Ne.symm apart]

abbrev Apart (names : List (List Char)) : Prop :=
  names.Pairwise fun first second => ¬ first <+: second ∧ ¬ second <+: first

theorem name?_eq_some_iff {names : List (List Char)} (apart : Apart names)
    {text name rest : List Char} :
    name? names text = some (name, rest) ↔ name ∈ names ∧ text = name ++ rest := by
  induction names with
  | nil => simp [name?]
  | cons first names ih =>
    obtain ⟨here, later⟩ := List.pairwise_cons.mp apart
    have next : name? (first :: names) text =
        ((after? first text).map fun rest => (first, rest)).or (name? names text) := by
      rw [name?, List.findSome?_cons, name?]
      cases after? first text <;> rfl
    rw [next]
    cases found : after? first text with
    | none =>
      have unlike : ¬ (name = first ∧ text = name ++ rest) := by
        rintro ⟨rfl, split⟩
        rw [after?_eq_some_iff.mpr split] at found
        cases found
      rw [Option.map_none, Option.none_or, ih later, List.mem_cons, or_and_right,
        or_iff_right unlike]
    | some left =>
      have split := after?_eq_some_iff.mp found
      have other : name ∈ names → text ≠ name ++ rest := by
        intro listed same
        rcases List.prefix_or_prefix_of_prefix ⟨left, split.symm⟩ ⟨rest, same.symm⟩ with
          shorter | longer
        · exact (here name listed).1 shorter
        · exact (here name listed).2 longer
      rw [Option.map_some, Option.some_or, Option.some_inj, Prod.mk.injEq, List.mem_cons]
      constructor
      next =>
        rintro ⟨rfl, rfl⟩
        exact ⟨.inl rfl, split⟩
      next =>
        rintro ⟨rfl | listed, same⟩
        · exact ⟨rfl, List.append_cancel_left (split.symm.trans same)⟩
        · exact absurd same (other listed)

theorem argument?_eq_some_iff {text word rest : List Char} :
    argument? text = some (word, rest) ↔
      ∃ gap, (gap ≠ [] ∧ ∀ c ∈ gap, Text.isBlank c = true) ∧
        (word ≠ [] ∧ ∀ c ∈ word, Text.isBlank c = false) ∧
        rest.head?.all Text.isBlank = true ∧ text = gap ++ (word ++ rest) := by
  constructor
  next =>
    intro read
    cases text with
    | nil => cases read
    | cons c text =>
      simp only [argument?] at read
      split at read
      next blank =>
        split at read
        next => cases read
        next held =>
          cases read
          obtain ⟨gap, gap_blank, cut⟩ := Text.exists_blanks (c :: text)
          have visible := Text.head_dropWhile Text.isBlank (c :: text)
          have spaced : gap ≠ [] := by
            rintro rfl
            rw [List.nil_append] at cut
            change (Text.trimStart (c :: text)).head?.all _ = true at visible
            rw [← cut] at visible
            simp [blank] at visible
          refine ⟨gap, ⟨spaced, gap_blank⟩, ⟨by simpa using held, fun d member => ?_⟩, ?_, ?_⟩
          next => simpa using List.all_eq_true.mp List.all_takeWhile d member
          next =>
            simpa using Text.head_dropWhile (fun d => !Text.isBlank d) (Text.trimStart (c :: text))
          next => rwa [List.takeWhile_append_dropWhile]
      next => cases read
  next =>
    rintro ⟨gap, ⟨spaced, gap_blank⟩, ⟨held, solid⟩, ends, rfl⟩
    have visible : (word ++ rest).head?.all (!Text.isBlank ·) = true := by
      obtain ⟨d, word, rfl⟩ := List.exists_cons_of_ne_nil held
      simp [solid d List.mem_cons_self]
    have dense : ∀ c ∈ word, (!Text.isBlank c) = true := by
      intro c member
      simp [solid c member]
    have stops : rest.takeWhile (fun c => !Text.isBlank c) = [] := by
      cases rest with
      | nil => rfl
      | cons c rest => exact List.takeWhile_cons_of_neg (by simpa using ends)
    have trimmed := Text.trimStart_append gap_blank visible
    obtain ⟨c, gap, rfl⟩ := List.exists_cons_of_ne_nil spaced
    rw [List.cons_append] at trimmed ⊢
    simp only [argument?, gap_blank c List.mem_cons_self, if_true, trimmed,
      List.takeWhile_append_of_pos dense, List.dropWhile_append_of_pos dense, stops,
      List.append_nil, List.isEmpty_iff, held, if_false]
    rw [Text.dropWhile_of_head (by simpa using ends)]

theorem names_apart : Apart (argumentNames ++ plainNames) := by decide

theorem argumentNames_apart : Apart argumentNames := (List.pairwise_append.mp names_apart).1

theorem plainNames_apart : Apart plainNames := (List.pairwise_append.mp names_apart).2.1

theorem argumentNames_disjoint {name : List Char} (plain : name ∈ plainNames) :
    name ∉ argumentNames := fun argued =>
  ((List.pairwise_append.mp names_apart).2.2 name argued name plain).1 List.prefix_rfl

end Parts

section Writes

variable {name text behind : List Char} {argument : Option (List Char)}

theorem Writes.tail (written : Writes name argument text behind) :
    ∃ tail, text = '@' :: (name ++ tail) ∧
      ((name ∈ plainNames ∧ argument = none ∧ behind = tail) ∨
        (name ∈ argumentNames ∧ ∃ word, argument = some word ∧
          argument? tail = some (word, behind))) := by
  cases written with
  | plain listed ends => exact ⟨behind, rfl, .inl ⟨listed, rfl, rfl⟩⟩
  | argument listed spaced solid ends =>
    exact ⟨_, rfl, .inr ⟨listed, _, rfl, argument?_eq_some_iff.mpr ⟨_, spaced, solid, ends, rfl⟩⟩⟩

theorem Writes.listed (written : Writes name argument text behind) :
    name ∈ argumentNames ++ plainNames := by
  cases written with
  | plain listed _ => exact List.mem_append_right _ listed
  | argument listed _ _ _ => exact List.mem_append_left _ listed

theorem Writes.unique (written : Writes name argument text behind) {name' behind' : List Char}
    {argument' : Option (List Char)} (again : Writes name' argument' text behind') :
    name' = name ∧ argument' = argument ∧ behind' = behind := by
  obtain ⟨tail, rfl, read⟩ := written.tail
  obtain ⟨tail', same, read'⟩ := again.tail
  have first := (name?_eq_some_iff names_apart).mpr ⟨written.listed, Eq.refl (name ++ tail)⟩
  have second := (name?_eq_some_iff names_apart).mpr ⟨again.listed, (List.cons.inj same).2⟩
  obtain ⟨rfl, rfl⟩ := Prod.mk.inj (Option.some.inj (second.symm.trans first))
  rcases read with ⟨plain, rfl, rfl⟩ | ⟨takes, word, rfl, argued⟩ <;>
    rcases read' with ⟨plain', rfl, rfl⟩ | ⟨takes', word', rfl, argued'⟩
  · exact ⟨rfl, rfl, rfl⟩
  · exact absurd takes' (argumentNames_disjoint plain)
  · exact absurd takes (argumentNames_disjoint plain')
  · obtain ⟨rfl, rfl⟩ := Prod.mk.inj (Option.some.inj (argued'.symm.trans argued))
    exact ⟨rfl, rfl, rfl⟩

end Writes

section Readers

-- The readers of tags with an argument differ in what they ask of the text behind it.
theorem readArgument_eq_some_iff (test : List Char → Bool) {text name : List Char}
    {argument : Option (List Char)} :
    (do
      let (name, rest) ← name? argumentNames text
      let (argument, rest) ← argument? rest
      if test rest then some (name, some argument) else none) = some (name, argument) ↔
      ∃ behind, argument.isSome = true ∧ Writes name argument ('@' :: text) behind ∧
        test behind = true := by
  simp only [Option.bind_eq_bind, Option.bind_eq_some_iff, Prod.exists]
  constructor
  next =>
    rintro ⟨found, rest, named, word, behind, argued, taken⟩
    obtain ⟨listed, rfl⟩ := (name?_eq_some_iff argumentNames_apart).mp named
    obtain ⟨gap, spaced, solid, ends, rfl⟩ := argument?_eq_some_iff.mp argued
    split at taken
    next asked =>
      cases taken
      exact ⟨behind, rfl, .argument listed spaced solid ends, asked⟩
    next => cases taken
  next =>
    rintro ⟨behind, takes, written, asked⟩
    cases written with
    | plain => cases takes
    | @argument gap word _ listed spaced solid ends =>
      refine ⟨name, gap ++ (word ++ behind), (name?_eq_some_iff argumentNames_apart).mpr
        ⟨listed, rfl⟩, word, behind, argument?_eq_some_iff.mpr ⟨gap, spaced, solid, ends, rfl⟩, ?_⟩
      rw [if_pos asked]

theorem readPlain_eq_some_iff (test : List Char → Bool)
    (ends : ∀ behind, test behind = true → behind.head?.all Text.isBlank = true)
    {text name : List Char} {argument : Option (List Char)} :
    (do
      let (name, rest) ← name? plainNames text
      if test rest then some (name, none) else none) = some (name, argument) ↔
      ∃ behind, argument.isSome = false ∧ Writes name argument ('@' :: text) behind ∧
        test behind = true := by
  simp only [Option.bind_eq_bind, Option.bind_eq_some_iff, Prod.exists]
  constructor
  next =>
    rintro ⟨found, behind, named, taken⟩
    obtain ⟨listed, rfl⟩ := (name?_eq_some_iff plainNames_apart).mp named
    split at taken
    next asked =>
      cases taken
      exact ⟨behind, rfl, .plain listed (ends behind asked), asked⟩
    next => cases taken
  next =>
    rintro ⟨behind, takes, written, asked⟩
    cases written with
    | argument => cases takes
    | plain listed _ =>
      exact ⟨name, behind, (name?_eq_some_iff plainNames_apart).mpr ⟨listed, rfl⟩, if_pos asked⟩

abbrev Reader := List Char → Option (List Char × Option (List Char))

def Takes (read : Reader) (argued : Bool) (holds : Option (List Char) → List Char → Bool) : Prop :=
  ∀ text name argument, read text = some (name, argument) ↔
    ∃ behind, argument.isSome = argued ∧ Writes name argument text behind ∧
      holds argument behind = true

theorem head_blank_of_all {text : List Char} (blank : text.all Text.isBlank = true) :
    text.head?.all Text.isBlank = true := by
  cases text with
  | nil => rfl
  | cons c rest => exact (Bool.and_eq_true_iff.mp blank).1

theorem trimStart_isEmpty (text : List Char) :
    (Text.trimStart text).isEmpty = text.all Text.isBlank := by
  rw [Bool.eq_iff_iff, List.isEmpty_iff, Text.trimStart, List.dropWhile_eq_nil_iff,
    List.all_eq_true]

-- A reader that stops at any other character is known by what it does at an at-sign.
theorem takes_of_at_sign {read : Reader} {argued : Bool}
    {holds : Option (List Char) → List Char → Bool} (nothing : read [] = none)
    (other : ∀ c rest, c ≠ '@' → read (c :: rest) = none)
    (here : ∀ rest name argument, read ('@' :: rest) = some (name, argument) ↔
      ∃ behind, argument.isSome = argued ∧ Writes name argument ('@' :: rest) behind ∧
        holds argument behind = true) :
    Takes read argued holds := by
  intro text name argument
  by_cases sign : ∃ rest, text = '@' :: rest
  next =>
    obtain ⟨rest, rfl⟩ := sign
    exact here rest name argument
  next =>
    have unread : read text = none := by
      cases text with
      | nil => exact nothing
      | cons c rest => exact other c rest fun same => sign ⟨rest, same ▸ rfl⟩
    rw [unread]
    refine iff_of_false (by simp) ?_
    rintro ⟨behind, _, written, _⟩
    obtain ⟨tail, same, _⟩ := written.tail
    exact sign ⟨_, same⟩

theorem argumentTag_takes : Takes argumentTag? true isFilled := by
  refine takes_of_at_sign rfl
    (fun c rest other => read_eq_none other rest argumentTag? (by simp)) fun rest _ _ => ?_
  rw [argumentTag?, readArgument_eq_some_iff fun behind => behind.head?.any Text.isBlank]
  refine exists_congr fun behind => and_congr_right fun argued => ?_
  simp [isFilled, argued]

theorem plainTag_takes : Takes plainTag? false isFilled := by
  refine takes_of_at_sign rfl
    (fun c rest other => read_eq_none other rest plainTag? (by simp)) fun rest _ _ => ?_
  rw [plainTag?, readPlain_eq_some_iff fun behind =>
    behind.head?.any Text.isBlank && !(Text.trimStart behind).isEmpty]
  next =>
    refine exists_congr fun behind => and_congr_right fun argued => ?_
    simp only [trimStart_isEmpty, isFilled, argued, Bool.false_or]
  next =>
    intro behind asked
    cases behind with
    | nil => rfl
    | cons c behind => simpa using (Bool.and_eq_true_iff.mp asked).1

theorem argumentTagStart_takes : Takes argumentTagStart? true isOpen := by
  refine takes_of_at_sign rfl
    (fun c rest other => read_eq_none other rest argumentTagStart? (by simp)) fun rest _ _ => ?_
  rw [argumentTagStart?, readArgument_eq_some_iff fun behind => behind.all Text.isBlank]
  rfl

theorem plainTagStart_takes : Takes plainTagStart? false isOpen := by
  refine takes_of_at_sign rfl
    (fun c rest other => read_eq_none other rest plainTagStart? (by simp)) fun rest _ _ => ?_
  rw [plainTagStart?, readPlain_eq_some_iff _ fun _ => head_blank_of_all]
  rfl

end Readers

section Lines

theorem leftmost?_eq_some {read : Reader} {line : List Char} {offset : Nat} {hit : TagHit}
    (found : leftmost? read offset line = some hit) :
    ∃ front text, line = front ++ text ∧ read text = some (hit.name, hit.argument) ∧
      hit.offset = offset + Text.byteLength front := by
  induction line generalizing offset with
  | nil => cases found
  | cons c rest ih =>
    rw [leftmost?] at found
    split at found
    next name argument read =>
      cases found
      exact ⟨[], c :: rest, rfl, read, rfl⟩
    next =>
      obtain ⟨front, text, rfl, read, place⟩ := ih found
      exact ⟨c :: front, text, rfl, read, by rw [place, Text.byteLength_cons, Nat.add_assoc]⟩

theorem leftmost?_sole {read : Reader} (other : ∀ c rest, c ≠ '@' → read (c :: rest) = none)
    {front rest : List Char} (before : '@' ∉ front) (after : '@' ∉ rest) (offset : Nat) :
    leftmost? read offset (front ++ '@' :: rest) =
      (read ('@' :: rest)).map fun found => ⟨offset + Text.byteLength front, found.1, found.2⟩ := by
  induction front generalizing offset with
  | nil =>
    rw [List.nil_append, leftmost?]
    cases read ('@' :: rest) with
    | some found => rfl
    | none =>
      refine leftmost?_eq_none (fun c member later => ?_) _
      exact other c later (ne_of_mem_of_not_mem member after)
  | cons c front ih =>
    obtain ⟨here, before⟩ := not_or.mp (List.mem_cons.not.mp before)
    rw [List.cons_append, leftmost?, other c _ (Ne.symm here)]
    rw [ih before, Text.byteLength_cons, Nat.add_assoc]

theorem inheritDocTag?_eq_some {line name : List Char} {skipped : Nat}
    (read : inheritDocTag? line = some (skipped, name)) :
    ∃ front rest, line = front ++ '@' :: ("inheritDoc".toList ++ rest) ∧
      skipped = Text.byteLength front ∧ name = "inheritDoc".toList := by
  unfold inheritDocTag? at read
  split at read
  next text =>
    simp only [Option.bind_eq_bind, Option.bind_eq_some_iff] at read
    obtain ⟨rest, inner, closed⟩ := read
    split at closed
    next =>
      cases closed
      have braced : text = text.takeWhile Text.isBlank ++ Text.trimStart text :=
        List.takeWhile_append_dropWhile.symm
      rw [after?_eq_some_iff.mp inner] at braced
      refine ⟨'{' :: text.takeWhile Text.isBlank, rest, ?_, rfl, rfl⟩
      rw [List.cons_append]
      exact congrArg _ braced
    next => cases closed
  next => cases read

theorem leftmostInheritDoc?_eq_some {line : List Char} {offset : Nat} {hit : TagHit}
    (found : leftmostInheritDoc? offset line = some hit) :
    ∃ front rest, line = front ++ '@' :: ("inheritDoc".toList ++ rest) ∧
      hit = ⟨offset + Text.byteLength front, "inheritDoc".toList, none⟩ := by
  induction line generalizing offset with
  | nil => cases found
  | cons c line ih =>
    rw [leftmostInheritDoc?] at found
    split at found
    next skipped name read =>
      cases found
      obtain ⟨front, rest, split, rfl, rfl⟩ := inheritDocTag?_eq_some read
      exact ⟨front, rest, split, rfl⟩
    next =>
      obtain ⟨front, rest, rfl, rfl⟩ := ih found
      exact ⟨c :: front, rest, rfl, by rw [Text.byteLength_cons, Nat.add_assoc]⟩

variable {name text behind front : List Char} {argument : Option (List Char)}

theorem sole_split {front rest : List Char} (sole : (front ++ '@' :: rest).count '@' = 1) :
    '@' ∉ front ∧ '@' ∉ rest := by
  rw [List.count_append, List.count_cons_self] at sole
  rw [← List.count_eq_zero, ← List.count_eq_zero]
  omega

theorem leftmostInheritDoc?_sole (written : Writes name argument text behind)
    (sole : (front ++ text).count '@' = 1) :
    leftmostInheritDoc? 0 (front ++ text) = none := by
  rw [Option.eq_none_iff_forall_ne_some]
  intro hit found
  obtain ⟨front', rest, split, _⟩ := leftmostInheritDoc?_eq_some found
  obtain ⟨tail, rfl, _⟩ := written.tail
  obtain ⟨before, after⟩ := sole_split sole
  have same := (List.append_cons_inj_of_notMem before after).mp split
  have apart : ∀ name ∈ argumentNames ++ plainNames,
      ¬ name <+: "inheritDoc".toList ∧ ¬ "inheritDoc".toList <+: name := by decide
  rcases List.prefix_or_prefix_of_prefix ⟨tail, same.2.2⟩ ⟨rest, rfl⟩ with shorter | longer
  · exact (apart name written.listed).1 shorter
  · exact (apart name written.listed).2 longer

variable {read : Reader} {argued : Bool} {holds : Option (List Char) → List Char → Bool}

theorem Takes.writes (takes : Takes read argued holds) {line : List Char} {hit : TagHit}
    (found : leftmost? read 0 line = some hit) :
    ∃ front text behind, line = front ++ text ∧ hit.offset = Text.byteLength front ∧
      Writes hit.name hit.argument text behind ∧ holds hit.argument behind = true := by
  obtain ⟨front, text, rfl, taken, place⟩ := leftmost?_eq_some found
  obtain ⟨behind, _, written, held⟩ := (takes text _ _).mp taken
  exact ⟨front, text, behind, rfl, by rw [place, Nat.zero_add], written, held⟩

theorem Takes.none_of_ne (takes : Takes read argued holds) {c : Char} (other : c ≠ '@')
    (rest : List Char) : read (c :: rest) = none := by
  rw [Option.eq_none_iff_forall_ne_some]
  rintro ⟨name, argument⟩ taken
  obtain ⟨behind, _, written, _⟩ := (takes _ _ _).mp taken
  obtain ⟨tail, same, _⟩ := written.tail
  exact other (List.cons.inj same).1

theorem Takes.sole (takes : Takes read argued holds) (written : Writes name argument text behind)
    (sole : (front ++ text).count '@' = 1) :
    leftmost? read 0 (front ++ text) =
      if argument.isSome = argued ∧ holds argument behind = true then
        some ⟨Text.byteLength front, name, argument⟩
      else none := by
  have taken : read text =
      if argument.isSome = argued ∧ holds argument behind = true then some (name, argument)
      else none := by
    refine Option.ext fun (name', argument') => ?_
    rw [takes]
    constructor
    next =>
      rintro ⟨behind', kind, again, held⟩
      obtain ⟨rfl, rfl, rfl⟩ := written.unique again
      rw [if_pos ⟨kind, held⟩]
    next =>
      intro found
      split at found
      next asked =>
        cases found
        exact ⟨behind, asked.1, written, asked.2⟩
      next => cases found
  obtain ⟨tail, rfl, _⟩ := written.tail
  obtain ⟨before, after⟩ := sole_split sole
  rw [leftmost?_sole (fun c rest other => takes.none_of_ne other rest) before after, taken]
  split
  next => rw [Option.map_some, Nat.zero_add]
  next => rfl

theorem complete?_writes {line : List Char} {hit : TagHit} (found : complete? line = some hit)
    (other : hit.name ≠ "inheritDoc".toList) :
    ∃ front text behind, line = front ++ text ∧ hit.offset = Text.byteLength front ∧
      Writes hit.name hit.argument text behind ∧ isFilled hit.argument behind = true := by
  simp only [complete?, Option.orElse_eq_or, Option.or_eq_some_iff] at found
  rcases found with argued | ⟨_, plain | ⟨_, inline⟩⟩
  · exact argumentTag_takes.writes argued
  · exact plainTag_takes.writes plain
  · obtain ⟨front, rest, _, rfl⟩ := leftmostInheritDoc?_eq_some inline
    exact absurd rfl other

theorem opening?_writes {line : List Char} {hit : TagHit} (found : opening? line = some hit) :
    ∃ front text behind, line = front ++ text ∧ hit.offset = Text.byteLength front ∧
      Writes hit.name hit.argument text behind ∧ isOpen hit.argument behind = true := by
  simp only [opening?, Option.orElse_eq_or, Option.or_eq_some_iff] at found
  rcases found with argued | ⟨_, plain⟩
  · exact argumentTagStart_takes.writes argued
  · exact plainTagStart_takes.writes plain

theorem complete?_sole (written : Writes name argument text behind)
    (sole : (front ++ text).count '@' = 1) :
    complete? (front ++ text) =
      if isFilled argument behind then some ⟨Text.byteLength front, name, argument⟩ else none := by
  rw [complete?, argumentTag_takes.sole written sole, plainTag_takes.sole written sole,
    leftmostInheritDoc?_sole written sole]
  cases argument <;> cases isFilled _ behind <;> rfl

theorem opening?_sole (written : Writes name argument text behind)
    (sole : (front ++ text).count '@' = 1) :
    opening? (front ++ text) =
      if isOpen argument behind then some ⟨Text.byteLength front, name, argument⟩ else none := by
  rw [opening?, argumentTagStart_takes.sole written sole, plainTagStart_takes.sole written sole]
  cases argument <;> cases isOpen _ behind <;> rfl

end Lines

end TagReader

/-- Where a comment holds a tag: the lines above and below, what stands in front of the tag on its
line, and what is written from there on. -/
structure TagSite (comment : Comment) (tag : Tag) where
  above : List String
  front : List Char
  text : List Char
  name : List Char
  argument : Option (List Char)
  behind : List Char
  below : List String
  lines : comment.lines = above ++ String.ofList (front ++ text) :: below
  written : TagReader.Writes name argument text behind
  read : tag = TagHit.toTag ⟨Text.byteLength front, name, argument⟩ comment above.length

namespace TagSite

variable {comment : Comment} {tag : Tag}

def ofHit {above below : List String} {line : String} {hit : TagHit} {front text behind : List Char}
    (split : comment.lines = above ++ line :: below) (cut : line.toList = front ++ text)
    (place : hit.offset = Text.byteLength front)
    (written : TagReader.Writes hit.name hit.argument text behind) :
    TagSite comment (hit.toTag comment above.length) where
  above := above
  front := front
  text := text
  name := hit.name
  argument := hit.argument
  behind := behind
  below := below
  lines := by rw [split, ← cut, String.ofList_toList]
  written := written
  read := by rw [← place]

-- A tag's position tells where it was read.
instance : Subsingleton (TagSite comment tag) where
  allEq := by
    rintro ⟨above, front, text, name, argument, behind, below, lines, written, read⟩
      ⟨above', front', text', name', argument', behind', below', lines', written', read'⟩
    have same := read.symm.trans read'
    have height : above.length = above'.length := Nat.add_left_cancel (congrArg Tag.line same)
    rw [lines] at lines'
    obtain ⟨rfl, here⟩ := List.append_inj lines' height
    obtain ⟨line, rfl⟩ := List.cons.inj here
    have width : Text.byteLength front = Text.byteLength front' := by
      have column := congrArg Tag.column same
      simp only [TagHit.toTag] at column
      split at column <;> omega
    have line : front ++ text = front' ++ text' := String.ofList_injective line
    have rest := Text.dropBytes?_append front text
    rw [line, width, Text.dropBytes?_append] at rest
    obtain rfl := Option.some.inj rest
    obtain rfl := List.append_cancel_right line
    obtain ⟨rfl, rfl, rfl⟩ := written.unique written'
    rfl

end TagSite

section MethodTags

variable {comment : Comment} {tag : Tag}

theorem Comment.lineTag?_eq_some_iff {above below : List String} {line : String}
    (split : comment.lines = above ++ line :: below) :
    comment.lineTag? above.length = some tag ↔
      ∃ hit : TagHit, tag = hit.toTag comment above.length ∧
        (TagReader.complete? line.toList = some hit ∨ TagReader.complete? line.toList = none ∧
          TagReader.isDescribed below = true ∧ TagReader.opening? line.toList = some hit) := by
  rw [TagReader.lineTag?_eq split, Option.map_eq_some_iff]
  refine exists_congr fun hit => ?_
  rw [and_comm, eq_comm, Option.orElse_eq_or, Option.or_eq_some_iff, Option.ite_none_right_eq_some]

theorem Comment.mem_methodTags_iff : tag ∈ comment.methodTags ↔
    ∃ above line below, comment.lines = above ++ line :: below ∧
      comment.lineTag? above.length = some tag := by
  have scanned := @TagReader.scan_eq comment [] comment.lines rfl none
  simp only [List.length_nil, Option.toList_none, ite_self, List.nil_append] at scanned
  rw [methodTags, scanned, ← List.range_eq_range', List.mem_filterMap]
  constructor
  next =>
    rintro ⟨index, inside, given⟩
    have inside := List.mem_range.mp inside
    refine ⟨comment.lines.take index, comment.lines[index], comment.lines.drop (index + 1), ?_, ?_⟩
    next => rw [List.getElem_cons_drop, List.take_append_drop]
    next => rwa [List.length_take_of_le inside.le]
  next =>
    rintro ⟨above, line, below, split, given⟩
    exact ⟨above.length, List.mem_range.mpr (by simp [split]), given⟩

end MethodTags

end DocAudit
