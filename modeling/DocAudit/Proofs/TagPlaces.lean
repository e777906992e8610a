import DocAudit.Proofs.TagText
import DocAudit.Proofs.TextBytes
import DocAudit.Proofs.TypeParamTags

set_option autoImplicit false

namespace DocAudit

/-- The tag's position is that of an at-sign of the comment, counted in bytes from the start of its
line, or of the file's line for the first one. Behind it stands the name that made the kind. -/
def Comment.Marks (comment : Comment) (tag : Tag) (name : String) : Prop :=
  comment.startLine ≤ tag.line ∧ tag.kind = .ofName name ∧
    ∃ line position, comment.lines[tag.line - comment.startLine]? = some line ∧
      tag.column = position + (if tag.line = comment.startLine then comment.startColumn else 0) ∧
      Text.StandsAt line.toList ('@' :: name.toList) position

def Tag.unknownNote? (tag : Tag) : Option Note :=
  match tag.kind with
  | .other name => some ⟨tag.line, tag.column, .unknownTag name⟩
  | _ => none

theorem TagHit.marks {comment : Comment} {hit : TagHit} {index : Nat} {line : String}
    (present : comment.lines[index]? = some line)
    (stands : Text.StandsAt line.toList ('@' :: hit.name) hit.offset) :
    comment.Marks (hit.toTag comment index) (String.ofList hit.name) := by
  refine ⟨Nat.le_add_right _ _, rfl, line, hit.offset, ?_, ?_, ?_⟩
  · simpa [toTag] using present
  · by_cases first : index = 0 <;> simp [toTag, first]
  · rwa [String.toList_ofList]

section Readers

variable {line : List Char} {hit : TagHit}

theorem TagReader.Takes.standsAt {read : Reader} {argued : Bool}
    {holds : Option (List Char) → List Char → Bool} (takes : Takes read argued holds)
    (found : leftmost? read 0 line = some hit) :
    Text.StandsAt line ('@' :: hit.name) hit.offset := by
  obtain ⟨front, text, behind, rfl, place, written, _⟩ := takes.writes found
  obtain ⟨tail, rfl, _⟩ := written.tail
  rw [place]
  simpa using Text.standsAt_append front ('@' :: hit.name) tail

theorem TagReader.complete?_standsAt (found : complete? line = some hit) :
    Text.StandsAt line ('@' :: hit.name) hit.offset := by
  simp only [complete?, Option.orElse_eq_or, Option.or_eq_some_iff] at found
  rcases found with argued | ⟨_, plain | ⟨_, inline⟩⟩
  · exact argumentTag_takes.standsAt argued
  · exact plainTag_takes.standsAt plain
  · obtain ⟨front, rest, rfl, rfl⟩ := leftmostInheritDoc?_eq_some inline
    simpa using Text.standsAt_append front ('@' :: "inheritDoc".toList) rest

theorem TagReader.opening?_standsAt (found : opening? line = some hit) :
    Text.StandsAt line ('@' :: hit.name) hit.offset := by
  simp only [opening?, Option.orElse_eq_or, Option.or_eq_some_iff] at found
  rcases found with argued | ⟨_, plain⟩
  · exact argumentTagStart_takes.standsAt argued
  · exact plainTagStart_takes.standsAt plain

theorem BlockTagReader.read?_standsAt (found : read? line = some hit) :
    Text.StandsAt line ('@' :: hit.name) hit.offset := by
  obtain ⟨front, name, content, written⟩ := exists_writes found
  cases found.symm.trans written.read?
  rw [written.whole]
  simpa using Text.standsAt_append front ('@' :: name) content

end Readers

namespace Comment

variable {comment : Comment}

theorem lineTag?_marks {index : Nat} {tag : Tag} (given : comment.lineTag? index = some tag) :
    tag.line = comment.startLine + index ∧ ∃ name, comment.Marks tag name := by
  rw [lineTag?, Option.bind_eq_some_iff] at given
  obtain ⟨line, present, given⟩ := given
  rw [Option.map_eq_some_iff] at given
  obtain ⟨hit, found, rfl⟩ := given
  refine ⟨rfl, _, TagHit.marks present ?_⟩
  rw [Option.orElse_eq_or, Option.or_eq_some_iff, Option.ite_none_right_eq_some] at found
  rcases found with complete | ⟨_, _, opening⟩
  · exact TagReader.complete?_standsAt complete
  · exact TagReader.opening?_standsAt opening

theorem methodTags_ordered (comment : Comment) :
    comment.methodTags.Pairwise fun first second => first.line < second.line := by
  have scanned := @TagReader.scan_eq comment [] comment.lines rfl none
  simp only [List.length_nil, Option.toList_none, ite_self, List.nil_append] at scanned
  rw [methodTags, scanned, ← List.range_eq_range', List.pairwise_filterMap]
  refine List.pairwise_lt_range.imp fun above tag given later below => ?_
  rw [(lineTag?_marks given).1, (lineTag?_marks below).1]
  omega

theorem blockTags_ordered (comment : Comment) :
    comment.blockTags.Pairwise fun first second => first.2.line < second.2.line :=
  (readsTags_blockTags.mpr rfl).ordered

theorem blockTags_marks {entry : String × Tag} (listed : entry ∈ comment.blockTags) :
    comment.Marks entry.2 entry.1 := by
  obtain ⟨⟨line, index⟩, within, made⟩ := List.mem_filterMap.mp listed
  obtain ⟨hit, found, rfl⟩ := Option.map_eq_some_iff.mp made
  exact TagHit.marks (List.mem_zipIdx_iff_getElem?.mp within)
    (BlockTagReader.read?_standsAt found)

theorem blockTags_line_inj {first second : String × Tag} (listed : first ∈ comment.blockTags)
    (also : second ∈ comment.blockTags) (same : first.2.line = second.2.line) :
    first = second := by
  have distinct : (comment.blockTags.map (·.2.line)).Nodup :=
    List.pairwise_map.mpr (comment.blockTags_ordered.imp Nat.ne_of_lt)
  exact List.inj_on_of_nodup_map distinct listed also same

theorem mem_knownBlockTags {tag : Tag} : tag ∈ comment.knownBlockTags ↔
    ∃ name ∈ standardTagNames, (name, tag) ∈ comment.blockTags := by
  simp [knownBlockTags, and_comm]

theorem mem_unknownBlockTags {tag : Tag} : tag ∈ comment.unknownBlockTags ↔
    ∃ name ∉ standardTagNames, (name, tag) ∈ comment.blockTags := by
  simp [unknownBlockTags, and_comm]

theorem chosenTags_ordered (comment : Comment) (chosen : String × Tag → Bool) :
    ((comment.blockTags.filter chosen).map (·.2)).Pairwise fun first second =>
      first.line < second.line :=
  List.pairwise_map.mpr (comment.blockTags_ordered.filter chosen)

end Comment

-- Every kind but the last is that of a name that is known.
theorem TagKind.ofName_unknown {name : String} (unknown : name ∉ standardTagNames) :
    ofName name = .other name := by
  simp only [standardTagNames, List.mem_cons, not_or] at unknown
  simp [ofName, unknown]

theorem Comment.unknownBlockTags_kind {comment : Comment} {tag : Tag}
    (listed : tag ∈ comment.unknownBlockTags) :
    ∃ name, tag.kind = .other name ∧ comment.Marks tag name := by
  obtain ⟨name, unknown, listed⟩ := mem_unknownBlockTags.mp listed
  have marks := blockTags_marks listed
  refine ⟨name, ?_, marks⟩
  rw [marks.2.1, TagKind.ofName_unknown unknown]

theorem TypeDoc.unknownTagNotes_byKind (rule : TypeDoc) (comment : Comment) :
    rule.unknownTagNotes comment =
      if rule.allowUnknown then [] else comment.unknownBlockTags.filterMap Tag.unknownNote? := by
  rw [unknownTagNotes, ← List.filterMap_eq_map]
  congr 1
  apply List.filterMap_congr
  intro tag listed
  obtain ⟨name, kind, _⟩ := Comment.unknownBlockTags_kind listed
  simp [Tag.unknownNote?, kind, TagKind.name]

theorem Comment.tags_placed (comment : Comment) :
    (∀ tag ∈ comment.methodTags ++ (comment.knownBlockTags ++ comment.unknownBlockTags),
      ∃ name, comment.Marks tag name) ∧
    (∀ tags ∈ [comment.methodTags, comment.knownBlockTags, comment.unknownBlockTags],
      tags.Pairwise fun first second => first.line < second.line) ∧
    (∀ known ∈ comment.knownBlockTags, ∀ unknown ∈ comment.unknownBlockTags,
      known.line ≠ unknown.line) ∧
    (∀ tag ∈ comment.unknownBlockTags, ∃ name, tag.kind = .other name ∧ comment.Marks tag name) ∧
    ∀ rule : TypeDoc, rule.allowUnknown = false →
      rule.unknownTagNotes comment = comment.unknownBlockTags.filterMap Tag.unknownNote? ∧
      (rule.unknownTagNotes comment).length = comment.unknownBlockTags.length := by
  refine ⟨fun tag listed => ?marked, ?ordered, fun known first unknown second => ?apart,
    fun tag => unknownBlockTags_kind, fun rule strict => ⟨?byKind, ?counted⟩⟩
  case marked =>
    rcases List.mem_append.mp listed with method | block
    · obtain ⟨above, line, below, split, given⟩ := mem_methodTags_iff.mp method
      exact (lineTag?_marks given).2
    rcases List.mem_append.mp block with known | unknown
    · obtain ⟨name, _, listed⟩ := mem_knownBlockTags.mp known
      exact ⟨name, blockTags_marks listed⟩
    · obtain ⟨name, _, marks⟩ := unknownBlockTags_kind unknown
      exact ⟨name, marks⟩
  case ordered =>
    simp only [List.forall_mem_cons]
    exact ⟨comment.methodTags_ordered, comment.chosenTags_ordered _, comment.chosenTags_ordered _,
      List.forall_mem_nil _⟩
  case apart =>
    intro same
    obtain ⟨name, standard, listed⟩ := mem_knownBlockTags.mp first
    obtain ⟨other, foreign, also⟩ := mem_unknownBlockTags.mp second
    cases blockTags_line_inj listed also same
    exact foreign standard
  case byKind => rw [rule.unknownTagNotes_byKind, strict, if_neg Bool.false_ne_true]
  case counted => simp [TypeDoc.unknownTagNotes, strict]

-- The first line starts behind four columns and holds a character of two bytes; the tag on the
-- second line is described below it.
theorem Comment.tags_placed_accented :
    let comment : Comment := ⟨.block, 7, 4, 11,
      ["/** é @return it", " * @param x", " *   the x", " * @custom now", " */"]⟩
    (⟨7, 11, .returns, none⟩ ∈ comment.methodTags ∧
      ∃ name, comment.Marks ⟨7, 11, .returns, none⟩ name) ∧
    (⟨10, 3, .other "custom", some "now"⟩ ∈ comment.unknownBlockTags ∧
      ∃ name, comment.Marks ⟨10, 3, .other "custom", some "now"⟩ name) ∧
    TypeDoc.standard.allowUnknown = false ∧
      (TypeDoc.standard.unknownTagNotes comment).length = 1 := by
  intro comment
  have method : (⟨7, 11, .returns, none⟩ : Tag) ∈ comment.methodTags := by decide
  have unknown : comment.unknownBlockTags = [⟨10, 3, .other "custom", some "now"⟩] := by decide
  obtain ⟨marked, _, _, kinds, reported⟩ := tags_placed comment
  obtain ⟨name, _, marks⟩ := kinds _ (unknown ▸ List.mem_singleton_self _)
  refine ⟨⟨method, marked _ (List.mem_append_left _ method)⟩,
    ⟨unknown ▸ List.mem_singleton_self _, name, marks⟩, rfl, ?_⟩
  rw [(reported TypeDoc.standard rfl).2, unknown]
  rfl

end DocAudit
