import DocAudit.Proofs.TypeReport
import Mathlib.Data.List.DropRight

set_option autoImplicit false

namespace DocAudit

namespace Text

theorem trim_begins (text : List Char) : trim text <+: trimStart text :=
  List.rdropWhile_prefix isBlank (trimStart text)

theorem head_trim (text : List Char) : (trim text).head?.all (!isBlank ·) = true := by
  obtain ⟨tail, cut⟩ := trim_begins text
  have visible := head_dropWhile isBlank text
  rw [← trimStart, ← cut] at visible
  cases trimmed : trim text with
  | nil => rfl
  | cons c rest => simpa [trimmed] using visible

theorem mem_of_mem_trim {text : List Char} {c : Char} (held : c ∈ trim text) : c ∈ text :=
  (List.dropWhile_sublist isBlank).mem ((trim_begins text).mem held)

theorem trim_of_visible {text : List Char} (visible : ∀ c ∈ text, isBlank c = false) :
    trim text = text := by
  have kept : ∀ {part : List Char}, (∀ c ∈ part, isBlank c = false) →
      part.dropWhile isBlank = part := by
    intro part visible
    cases part with
    | nil => rfl
    | cons c rest => exact List.dropWhile_cons_of_neg (by simp [visible c])
  rw [trim, trimStart, kept visible, trimEnd, kept (by simpa using visible), List.reverse_reverse]

end Text

theorem BlockTagReader.mem_of_mem_dropClosing {text : List Char} {c : Char}
    (held : c ∈ dropClosing text) : c ∈ text := by
  unfold dropClosing at held
  split at held
  next rest ends =>
    rw [← List.mem_reverse, ends]
    exact List.mem_cons_of_mem _ (List.mem_cons_of_mem _ (List.mem_reverse.mp held))
  next => exact held

namespace Tag

def Names (tag : Tag) (name : String) : Prop :=
  ∃ inner, TypeDoc.InBrackets tag.argumentText.toList inner ∧ String.ofList (Text.trim inner) = name

/-- The argument names a type parameter, with nothing around the name. -/
def NamesTightly (tag : Tag) (name : String) : Prop :=
  TypeDoc.InBrackets tag.argumentText.toList name.toList

instance (tag : Tag) (name : String) : Decidable (tag.Names name) :=
  decidable_of_iff (((TypeDoc.bracketedName? tag.argumentText.toList).any fun inner =>
      String.ofList (Text.trim inner) == name) = true) <| by
    simp [Names, Option.any_eq_true, TypeDoc.bracketedName?_eq_some_iff]

instance (tag : Tag) (name : String) : Decidable (tag.NamesTightly name) :=
  decidable_of_iff _ TypeDoc.bracketedName?_eq_some_iff

end Tag

def Identifier.IsPlain (param : Identifier) : Prop :=
  param.text ≠ "" ∧ ∀ c ∈ param.text.toList, c ≠ '>' ∧ Text.isBlank c = false

instance (param : Identifier) : Decidable param.IsPlain :=
  decidable_of_iff (param.text ≠ "" ∧ (param.text.toList.all fun c =>
      c != '>' && !Text.isBlank c) = true) <| by
    simp [Identifier.IsPlain]

theorem Tag.NamesTightly.names {tag : Tag} {param : Identifier} (plain : param.IsPlain)
    (tight : tag.NamesTightly param.text) : tag.Names param.text := by
  refine ⟨_, tight, ?_⟩
  rw [Text.trim_of_visible fun c held => (plain.2 c held).2, String.ofList_toList]

def Message.isUnused : Message → Bool
  | .unusedTag _ _ => true
  | .unusedTagGeneral => true
  | _ => false

namespace Comment

theorem ReadsTags.line_le {comment : Comment} {index : Nat} {lines : List String}
    {tags : List (String × Tag)} (read : comment.ReadsTags index lines tags) :
    ∀ entry ∈ tags, comment.startLine + index ≤ entry.2.line := by
  induction read with
  | done => simp
  | plain _ _ ih =>
    intro entry listed
    have later := ih entry listed
    omega
  | tag _ _ ih =>
    intro entry listed
    cases listed with
    | head => exact le_rfl
    | tail _ listed =>
      have later := ih entry listed
      omega

theorem ReadsTags.ordered {comment : Comment} {index : Nat} {lines : List String}
    {tags : List (String × Tag)} (read : comment.ReadsTags index lines tags) :
    tags.Pairwise fun first second => first.2.line < second.2.line := by
  induction read with
  | done => exact .nil
  | plain _ _ ih => exact ih
  | tag _ rest ih =>
    apply List.Pairwise.cons _ ih
    intro entry listed
    have later := rest.line_le entry listed
    dsimp only
    omega

theorem ReadsTags.argument {comment : Comment} {index : Nat} {lines : List String}
    {tags : List (String × Tag)} (read : comment.ReadsTags index lines tags) :
    ∀ entry ∈ tags, ∃ line ∈ lines, ∃ content ⊆ line.toList,
      entry.2.argumentText.toList = Text.trim content := by
  induction read with
  | done => simp
  | plain _ _ ih =>
    intro entry listed
    obtain ⟨line, held, cut⟩ := ih entry listed
    exact ⟨line, List.mem_cons_of_mem _ held, cut⟩
  | @tag index line rest tags front name content written _ ih =>
    intro entry listed
    cases listed with
    | head =>
      refine ⟨line, List.mem_cons_self, BlockTagReader.dropClosing content, fun c held => ?_, ?_⟩
      · rw [written.whole]
        simp [BlockTagReader.mem_of_mem_dropClosing held]
      · simp [Tag.argumentText]
    | tail _ listed =>
      obtain ⟨line, held, cut⟩ := ih entry listed
      exact ⟨line, List.mem_cons_of_mem _ held, cut⟩

end Comment

namespace TypeDoc

def missingParamNote (decl : TypeDecl) (name : String) : Note :=
  ⟨decl.line, 0, .missingTypeTag ("@param <" ++ name ++ ">")⟩

variable {rule : TypeDoc} {decl : TypeDecl} {comment : Comment}

theorem unknownTagNotes_message {note : Note} (listed : note ∈ rule.unknownTagNotes comment) :
    ∃ name, note.message = .unknownTag name := by
  unfold unknownTagNotes at listed
  split at listed
  next => cases listed
  next =>
    obtain ⟨tag, -, rfl⟩ := List.mem_map.mp listed
    exact ⟨_, rfl⟩

theorem requirementNotes_message {line : Nat} {tags : List Tag} {kind : TagKind} {display : String}
    {requirement : TagRequirement} {note : Note}
    (listed : note ∈ requirementNotes line tags kind display requirement) :
    note.message = .missingTypeTag display ∨
      ∃ source, note.message = .typeTagFormat display source := by
  have report := (requirementReport_iff rfl).mpr (Eq.refl
    (requirementNotes line tags kind display requirement))
  generalize requirementNotes line tags kind display requirement = notes at report listed
  cases report with
  | idle => cases listed
  | missing => exact .inl (by rw [List.mem_singleton.mp listed])
  | present => cases listed
  | formatted =>
    obtain ⟨tag, -, rfl⟩ := List.mem_map.mp listed
    exact .inr ⟨_, rfl⟩

theorem missingParamNotes_message {note : Note} {tags : List Tag}
    (listed : note ∈ rule.missingParamNotes decl tags) :
    ∃ text, note.message = .missingTypeTag text := by
  unfold missingParamNotes at listed
  split at listed
  next => cases listed
  next =>
    obtain ⟨tag, -, rfl⟩ := List.mem_map.mp listed
    exact ⟨_, rfl⟩

theorem paramTagNotes_message {tag : Tag} {note : Note} (listed : note ∈ paramTagNotes decl tag) :
    note.line = tag.line ∧ note.message.isUnused = true := by
  have report := (paramReport_iff decl tag _).mpr rfl
  generalize paramTagNotes decl tag = notes at report listed
  cases report with
  | declared => cases listed
  | undeclared =>
    rw [List.mem_singleton.mp listed]
    exact ⟨rfl, rfl⟩
  | unnamed =>
    rw [List.mem_singleton.mp listed]
    exact ⟨rfl, rfl⟩

theorem mem_checkOutermost_unused {note : Note} (unused : note.message.isUnused = true) :
    note ∈ rule.checkOutermost decl comment ↔
      ∃ tag ∈ Tag.named "param" comment.blockTags, note ∈ paramTagNotes decl tag := by
  have unknown : note ∉ rule.unknownTagNotes comment := by
    intro listed
    obtain ⟨name, message⟩ := unknownTagNotes_message listed
    simp [message, Message.isUnused] at unused
  have asked : ∀ kind display requirement,
      note ∉ requirementNotes decl.line comment.knownBlockTags kind display requirement := by
    intro kind display requirement listed
    rcases requirementNotes_message listed with message | ⟨source, message⟩
    · simp [message, Message.isUnused] at unused
    · simp [message, Message.isUnused] at unused
  have missing : note ∉ rule.missingParamNotes decl comment.knownBlockTags := by
    intro listed
    obtain ⟨text, message⟩ := missingParamNotes_message listed
    simp [message, Message.isUnused] at unused
  simp [checkOutermost, unknown, asked, missing, List.filter_reverse,
    comment.knownBlockTags_params]

theorem mem_checkOutermost_missing (strict : rule.allowMissingParam = false) (name : String) :
    missingParamNote decl name ∈ rule.checkOutermost decl comment ↔
      (∃ param ∈ decl.typeParams, param.text = name) ∧
        ∀ tag ∈ Tag.named "param" comment.blockTags,
          ¬ ("<" ++ name ++ ">").toList <+: tag.argumentText.toList := by
  have unknown : missingParamNote decl name ∉ rule.unknownTagNotes comment := by
    intro listed
    obtain ⟨other, message⟩ := unknownTagNotes_message listed
    cases message
  have asked : ∀ kind requirement, ∀ display ∈ ["@author", "@version"],
      missingParamNote decl name ∉
        requirementNotes decl.line comment.knownBlockTags kind display requirement := by
    intro kind requirement display other listed
    rcases requirementNotes_message listed with message | ⟨source, message⟩
    · have same := congrArg String.toList (Message.missingTypeTag.inj message)
      simp only [List.mem_cons, List.not_mem_nil, or_false] at other
      rcases other with rfl | rfl <;> simp at same
    · cases message
  have unused : ∀ tag, missingParamNote decl name ∉ paramTagNotes decl tag := by
    intro tag listed
    cases (paramTagNotes_message listed).2
  have here : missingParamNote decl name ∈ rule.checkOutermost decl comment ↔
      missingParamNote decl name ∈ rule.missingParamNotes decl comment.knownBlockTags := by
    simp [checkOutermost, unknown, asked, unused]
  rw [here, missingParamNotes_eq, strict, if_neg Bool.false_ne_true, List.mem_map]
  simp only [missingParamNote, List.mem_filter, decide_eq_true_eq, Note.mk.injEq, true_and,
    Message.missingTypeTag.injEq, String.append_left_inj, String.append_right_inj]
  constructor
  · rintro ⟨param, ⟨listed, absent⟩, rfl⟩
    exact ⟨⟨param, listed, rfl⟩, absent⟩
  · rintro ⟨⟨param, listed, rfl⟩, absent⟩
    exact ⟨param, ⟨listed, absent⟩, rfl⟩

theorem silent_iff_names {tag : Tag} :
    paramTagNotes decl tag = [] ↔ ∃ param ∈ decl.typeParams, tag.Names param.text := by
  rw [eq_comm, ← paramReport_iff]
  constructor
  · intro report
    cases report with
    | declared inside known =>
      obtain ⟨param, listed, same⟩ := known
      exact ⟨param, listed, _, inside, same.symm⟩
  · intro ⟨param, listed, inner, inside, same⟩
    exact .declared inside ⟨param, listed, same.symm⟩

theorem starts_iff_namesTightly {tag : Tag} {param : Identifier} (plain : param.IsPlain)
    (visible : tag.argumentText.toList.head?.all (!Text.isBlank ·) = true)
    (oneLine : '\n' ∉ tag.argumentText.toList) :
    ("<" ++ param.text ++ ">").toList <+: tag.argumentText.toList ↔
      tag.NamesTightly param.text := by
  have written : ("<" ++ param.text ++ ">").toList = '<' :: (param.text.toList ++ ['>']) := by simp
  rw [written]
  constructor
  next =>
    intro ⟨after, cut⟩
    refine ⟨[], after, by simp [← cut], by simp, ⟨by simpa using plain.1, fun held => ?_⟩,
      fun held => ?_⟩
    · exact (plain.2 _ held).1 rfl
    · exact oneLine (by simp [← cut, held])
  next =>
    intro ⟨blanks, after, cut, blank, _⟩
    cases blanks with
    | nil => exact ⟨after, by simp [cut]⟩
    | cons c rest => simp [cut, blank c] at visible

-- Each line holds one tag.
theorem named_unique {name : String} {first second : Tag}
    (among : first ∈ Tag.named name comment.blockTags)
    (within : second ∈ Tag.named name comment.blockTags) (line : first.line = second.line) :
    first = second := by
  have read := Comment.readsTags_blockTags.mpr (Eq.refl comment.blockTags)
  have apart : ((Tag.named name comment.blockTags).map Tag.line).Nodup := by
    rw [Tag.named, List.map_map]
    apply List.pairwise_map.mpr
    exact (read.ordered.filter _).imp fun below => ne_of_lt below
  exact List.inj_on_of_nodup_map apart among within line

theorem argument_of_mem (oneLine : ∀ line ∈ comment.lines, '\n' ∉ line.toList) {name : String}
    {tag : Tag} (among : tag ∈ Tag.named name comment.blockTags) :
    tag.argumentText.toList.head?.all (!Text.isBlank ·) = true ∧
      '\n' ∉ tag.argumentText.toList := by
  obtain ⟨entry, listed, rfl⟩ := List.mem_map.mp among
  have read := Comment.readsTags_blockTags.mpr (Eq.refl comment.blockTags)
  obtain ⟨line, held, content, within, cut⟩ := read.argument entry (List.mem_of_mem_filter listed)
  rw [cut]
  exact ⟨Text.head_trim content, fun here => oneLine line held (within (Text.mem_of_mem_trim here))⟩

theorem quiet_iff_names {tag : Tag} (listed : tag ∈ Tag.named "param" comment.blockTags) :
    (∀ note ∈ rule.checkOutermost decl comment, note.message.isUnused = true →
      note.line ≠ tag.line) ↔ ∃ param ∈ decl.typeParams, tag.Names param.text := by
  rw [← silent_iff_names]
  constructor
  next =>
    intro quiet
    apply List.eq_nil_iff_forall_not_mem.mpr
    intro note noted
    have ⟨line, unused⟩ := paramTagNotes_message noted
    exact quiet note ((mem_checkOutermost_unused unused).mpr ⟨tag, listed, noted⟩) unused line
  next =>
    intro silent note reported unused line
    obtain ⟨other, among, noted⟩ := (mem_checkOutermost_unused unused).mp reported
    have same : other = tag :=
      named_unique among listed ((paramTagNotes_message noted).1.symm.trans line)
    rw [same, silent] at noted
    cases noted

theorem missing_iff_namesTightly (strict : rule.allowMissingParam = false)
    (oneLine : ∀ line ∈ comment.lines, '\n' ∉ line.toList) {param : Identifier}
    (listed : param ∈ decl.typeParams) (plain : param.IsPlain) :
    missingParamNote decl param.text ∈ rule.checkOutermost decl comment ↔
      ∀ tag ∈ Tag.named "param" comment.blockTags, ¬ tag.NamesTightly param.text := by
  rw [mem_checkOutermost_missing strict, and_iff_right ⟨param, listed, rfl⟩]
  apply forall₂_congr
  intro tag among
  have ⟨visible, whole⟩ := argument_of_mem oneLine among
  rw [starts_iff_namesTightly plain visible whole]

theorem paramTags_agree_iff {comments : CommentIndex}
    (checked : rule.filter.shouldCheck (Scope.effective decl.modifiers none)
      (Scope.surrounding []) = true)
    (found : comments.javadocBefore? decl.line = some comment)
    (strict : rule.allowMissingParam = false)
    (oneLine : ∀ line ∈ comment.lines, '\n' ∉ line.toList) :
    (∀ tag ∈ Tag.named "param" comment.blockTags,
      (∀ note ∈ rule.checkType comments [] decl, note.message.isUnused = true →
        note.line ≠ tag.line) ↔ ∃ param ∈ decl.typeParams, tag.Names param.text) ∧
    ∀ param ∈ decl.typeParams, param.IsPlain →
      (missingParamNote decl param.text ∈ rule.checkType comments [] decl ↔
        ∀ tag ∈ Tag.named "param" comment.blockTags, ¬ tag.NamesTightly param.text) ∧
      ((missingParamNote decl param.text ∈ rule.checkType comments [] decl ↔
          ∀ tag ∈ Tag.named "param" comment.blockTags, ¬ tag.Names param.text) ↔
        ((∃ tag ∈ Tag.named "param" comment.blockTags, tag.Names param.text) →
          ∃ tag ∈ Tag.named "param" comment.blockTags, tag.NamesTightly param.text)) := by
  have report : rule.checkType comments [] decl = rule.checkOutermost decl comment := by
    simp [checkType, checked, found]
  rw [report]
  refine ⟨fun tag listed => quiet_iff_names listed, fun param listed plain => ?_⟩
  have missing := missing_iff_namesTightly strict oneLine listed plain
  refine ⟨missing, ?_⟩
  rw [missing]
  constructor
  next =>
    intro agree named
    obtain ⟨tag, among, named⟩ := named
    by_contra absent
    exact agree.mp (fun other within tight => absent ⟨other, within, tight⟩) tag among named
  next =>
    intro covered
    constructor
    · intro absent tag among named
      obtain ⟨other, within, tight⟩ := covered ⟨tag, among, named⟩
      exact absent other within tight
    · intro absent tag among tight
      exact absent tag among (tight.names plain)

-- A comment that holds the given lines, and below it a class with two type parameters.
private def pairComment (tags : List String) : Comment :=
  ⟨.block, 1, 0, tags.length + 2, "/**" :: (tags ++ [" */"])⟩

private def pairClass (tags : List String) : TypeDecl :=
  ⟨.classType, "Pair", tags.length + 3, 0, tags.length + 4, .none,
    [⟨"K", tags.length + 3, 11⟩, ⟨"V", tags.length + 3, 14⟩], none, []⟩

private def pairIndex (tags : List String) : CommentIndex :=
  ⟨(pairComment tags).lines.map String.toList ++ ["class Pair<K, V> \x7b".toList, "\x7d".toList],
    [pairComment tags]⟩

-- Both parameters have a tag, the second one with blanks around the name; the third tag has none.
theorem paramTags_agree_pair :
    let tags := [" * @param <K> the key", " * @param < V > the value", " * @param <W> none"]
    let notes := standard.checkType (pairIndex tags) [] (pairClass tags)
    (∀ note ∈ notes, note.message.isUnused = true → note.line ≠ 3) ∧
      (¬ ∀ note ∈ notes, note.message.isUnused = true → note.line ≠ 4) ∧
      ⟨6, 0, .missingTypeTag "@param <K>"⟩ ∉ notes ∧
      (⟨6, 0, .missingTypeTag "@param <K>"⟩ ∈ notes ↔
        ∀ tag ∈ Tag.named "param" (pairComment tags).blockTags, ¬ tag.Names "K") ∧
      ⟨6, 0, .missingTypeTag "@param <V>"⟩ ∈ notes := by
  intro tags notes
  obtain ⟨alone, reported⟩ := @paramTags_agree_iff standard (pairClass tags) (pairComment tags)
    (pairIndex tags) (by decide) (by decide +kernel) rfl (by decide +kernel)
  have key := reported ⟨"K", 6, 11⟩ (by decide) (by decide +kernel)
  have value := reported ⟨"V", 6, 14⟩ (by decide) (by decide +kernel)
  refine ⟨?_, ?_, ?_, ?_, ?_⟩
  · exact (alone ⟨3, 3, .param, some "< V > the value"⟩ (by decide +kernel)).mpr (by decide +kernel)
  · exact (alone ⟨4, 3, .param, some "<W> none"⟩ (by decide +kernel)).not.mpr (by decide +kernel)
  · exact key.1.not.mpr (by decide +kernel)
  · exact key.2.mpr (by decide +kernel)
  · exact value.1.mpr (by decide +kernel)

theorem paramTags_disagree :
    let tags := [" * @param <K> the key", " * @param < V > the value"]
    (pairIndex tags).javadocBefore? (pairClass tags).line = some (pairComment tags) ∧
      standard.checkType (pairIndex tags) [] (pairClass tags) =
        [⟨5, 0, .missingTypeTag "@param <V>"⟩] ∧
      ¬ (⟨5, 0, .missingTypeTag "@param <V>"⟩ ∈
          standard.checkType (pairIndex tags) [] (pairClass tags) ↔
        ∀ tag ∈ Tag.named "param" (pairComment tags).blockTags, ¬ tag.Names "V") := by
  decide +kernel

end TypeDoc

end DocAudit
