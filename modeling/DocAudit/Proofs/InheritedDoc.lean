import DocAudit.Proofs.SubclassTolerance
import DocAudit.Rule.MethodDoc.Check
import Mathlib.Data.List.Basic

set_option autoImplicit false

namespace DocAudit

def Message.isExpectation (message : Message) : Bool :=
  message.key == "javadoc.expectedTag" || message.key == "javadoc.return.expected"

def settled (notes : List Note) : List Note := notes.filter (!·.message.isExpectation)

def ownTags (tags : List Tag) : List Tag := tags.filter (!·.isInheritDoc)

section Settled

@[simp] theorem settled_append (first second : List Note) :
    settled (first ++ second) = settled first ++ settled second :=
  List.filter_append ..

theorem settled_eq_self {notes : List Note}
    (silent : ∀ note ∈ notes, note.message.isExpectation = false) : settled notes = notes :=
  List.filter_eq_self.mpr fun note member => by simp [silent note member]

theorem settled_map {α : Type} (values : List α) (note : α → Note)
    (silent : ∀ value, (note value).message.isExpectation = false) :
    settled (values.map note) = values.map note := by
  refine settled_eq_self fun found member => ?_
  obtain ⟨value, _, rfl⟩ := List.mem_map.mp member
  exact silent value

theorem settled_eq_nil {notes : List Note}
    (asking : ∀ note ∈ notes, note.message.isExpectation = true) : settled notes = [] :=
  List.filter_eq_nil_iff.mpr fun note member => by simp [asking note member]

theorem Message.isExpectation_of_isClassInfo {message : Message}
    (info : message.isClassInfo = true) : message.isExpectation = false := by
  cases message <;> simp_all [isClassInfo, isExpectation, key]

theorem Message.isExpectation_of_isExpectedThrows {message : Message}
    (missing : message.isExpectedThrows = true) : message.isExpectation = true := by
  cases message <;> simp_all [isExpectedThrows, isExpectation, key]

end Settled

section OwnTags

theorem Tag.kinds_of_isInheritDoc {tag : Tag} (inherits : tag.isInheritDoc = true) :
    tag.isParam = false ∧ tag.isThrows = false ∧ tag.isReturn = false := by
  have kind : tag.kind = .inheritDoc := by simpa [isInheritDoc] using inherits
  simp [isParam, isThrows, isReturn, kind]

-- What a check takes is no inheriting tag.
theorem filter_ownTags {takes : Tag → Bool}
    (apart : ∀ tag, tag.isInheritDoc = true → takes tag = false) (tags : List Tag) :
    (ownTags tags).filter takes = tags.filter takes := by
  rw [ownTags, List.filter_filter]
  refine List.filter_congr fun tag _ => ?_
  cases inherits : tag.isInheritDoc with
  | false => simp
  | true => simp [apart tag inherits]

theorem ownTags_filter (test : Tag → Bool) (tags : List Tag) :
    ownTags (tags.filter test) = (ownTags tags).filter test := by
  simp only [ownTags, List.filter_filter, Bool.and_comm]

-- A tag that documents a parameter does not inherit.
theorem documents_own (text : String) :
    (fun tag => Tag.documents text tag && !tag.isInheritDoc) = Tag.documents text := by
  funext tag
  cases inherits : tag.isInheritDoc with
  | false => simp
  | true => simp [Tag.documents, (Tag.kinds_of_isInheritDoc inherits).1]

theorem any_documents_ownTags (text : String) (tags : List Tag) :
    (ownTags tags).any (Tag.documents text) = tags.any (Tag.documents text) := by
  rw [ownTags, List.any_filter]
  simp only [Bool.and_comm (!Tag.isInheritDoc _), documents_own]

theorem eraseP_documents_ownTags (text : String) (tags : List Tag) :
    (ownTags tags).eraseP (Tag.documents text) = ownTags (tags.eraseP (Tag.documents text)) := by
  rw [ownTags, List.eraseP_filter, documents_own, ownTags]

end OwnTags

-- A scan that reports nothing missing, beside one that does and has not seen the inheriting tags.
structure ParamScan.Excuses (inheriting plain : ParamScan) : Prop where
  tags : ownTags inheriting.tags = plain.tags
  tagFound : inheriting.tagFound = plain.tagFound
  narrativeFound : inheriting.narrativeFound = plain.narrativeFound
  notes : inheriting.notes = settled plain.notes

namespace MethodDoc

variable (rule : MethodDoc)

theorem scanParam_excuses (lines : List String) (entry : Identifier × String)
    {inheriting plain : ParamScan} (excuses : inheriting.Excuses plain) :
    (rule.scanParam lines false inheriting entry).Excuses
      (rule.scanParam lines true plain entry) := by
  have found : inheriting.tags.any (Tag.documents entry.2) =
      plain.tags.any (Tag.documents entry.2) := by
    rw [← excuses.tags, any_documents_ownTags]
  have tags : ownTags (inheriting.tags.eraseP (Tag.documents entry.2)) =
      plain.tags.eraseP (Tag.documents entry.2) := by
    rw [← excuses.tags, eraseP_documents_ownTags]
  simp only [scanParam, found, Bool.and_false, Bool.and_true, Bool.false_eq_true, if_false]
  split
  next => exact ⟨tags, excuses.tagFound, excuses.narrativeFound, excuses.notes⟩
  split
  next => exact ⟨tags, rfl, excuses.narrativeFound, excuses.notes⟩
  split
  next => exact ⟨tags, excuses.tagFound, rfl, excuses.notes⟩
  split
  next =>
    -- Only here do the scans differ: one of them asks for the tag.
    refine ⟨tags, excuses.tagFound, excuses.narrativeFound, ?_⟩
    have asked : settled [(⟨entry.1.line, entry.1.column, .expectedTag "@param" entry.2⟩ : Note)] =
        [] := rfl
    rw [settled_append, asked, List.append_nil]
    exact excuses.notes
  next => exact ⟨tags, excuses.tagFound, excuses.narrativeFound, excuses.notes⟩

theorem scanParam_run_excuses (lines : List String) (entries : List (Identifier × String))
    {inheriting plain : ParamScan} (excuses : inheriting.Excuses plain) :
    (entries.foldl (rule.scanParam lines false) inheriting).Excuses
      (entries.foldl (rule.scanParam lines true) plain) := by
  induction entries generalizing inheriting plain with
  | nil => exact excuses
  | cons entry rest ih => exact ih (rule.scanParam_excuses lines entry excuses)

-- The results of a check, with inheriting tags and without.
structure Excuses (inheriting plain : List Note × List Tag) : Prop where
  notes : inheriting.1 = settled plain.1
  rest : ownTags inheriting.2 = plain.2

theorem checkParams_excuses (decl : MethodDecl) (lines : List String) (tags : List Tag) :
    Excuses (rule.checkParams decl lines false tags)
      (rule.checkParams decl lines true (ownTags tags)) := by
  have start : ParamScan.Excuses ⟨tags, false, false, []⟩ ⟨ownTags tags, false, false, []⟩ :=
    ⟨rfl, rfl, rfl, rfl⟩
  have excuses := rule.scanParam_run_excuses lines decl.documentable start
  have mixed (scan : ParamScan) :
      settled (mixedStyleNotes decl scan) = mixedStyleNotes decl scan := by
    refine settled_eq_self fun note member => ?_
    unfold mixedStyleNotes at member
    split at member
    · rw [List.mem_singleton.mp member]
      rfl
    · cases member
  have params (tags : List Tag) : (ownTags tags).filter Tag.isParam = tags.filter Tag.isParam :=
    filter_ownTags (fun _ inherits => (Tag.kinds_of_isInheritDoc inherits).1) tags
  simp only [checkParams, List.partition_eq_filter_filter]
  refine ⟨?_, ?_⟩
  next =>
    rw [settled_append, settled_append, mixed, settled_map _ _ fun _ => rfl, ← excuses.notes,
      ← excuses.tags, params, mixedStyleNotes, mixedStyleNotes, excuses.tagFound,
      excuses.narrativeFound]
  next => rw [ownTags_filter, excuses.tags]

theorem checkThrows_excuses (classes : ClassHierarchy) (decl : MethodDecl) (tags : List Tag) :
    Excuses (rule.checkThrows classes decl false tags)
      (rule.checkThrows classes decl true (ownTags tags)) := by
  have documented : (ownTags tags).filter Tag.isThrows = tags.filter Tag.isThrows :=
    filter_ownTags (fun _ inherits => (Tag.kinds_of_isInheritDoc inherits).2.1) tags
  have silent := rule.scanThrows_reports classes decl.throws (tags.filter Tag.isThrows)
    (fun _ => false) (fun _ => false)
  have asking := rule.undocumentedNotes_isExpectedThrows classes decl true (ownTags tags)
  rw [checkThrows_eq, checkThrows_eq, documented]
  refine ⟨?_, ownTags_filter _ tags⟩
  rw [settled_append, settled_eq_self, settled_eq_nil]
  next => simp [undocumentedNotes]
  next => exact fun note member => Message.isExpectation_of_isExpectedThrows (asking note member)
  next =>
    intro note member
    rcases silent note member with info | ⟨name, unused⟩
    · exact Message.isExpectation_of_isClassInfo info
    · rw [unused]
      rfl

theorem checkReturn_excuses (decl : MethodDecl) (lines : List String) (tags : List Tag) :
    Excuses (rule.checkReturn decl lines false tags)
      (rule.checkReturn decl lines true (ownTags tags)) := by
  have returns : (ownTags tags).filter Tag.isReturn = tags.filter Tag.isReturn :=
    filter_ownTags (fun _ inherits => (Tag.kinds_of_isInheritDoc inherits).2.2) tags
  simp only [checkReturn, List.partition_eq_filter_filter, returns]
  refine ⟨?_, ownTags_filter _ tags⟩
  have asked (missing : Bool) :
      settled (if missing then [(⟨decl.line, 0, .expectedReturn⟩ : Note)] else []) = [] := by
    cases missing <;> rfl
  rw [settled_append, settled_map _ _ fun _ => rfl, asked]
  simp

theorem checkSignature_excuses (classes : ClassHierarchy) (decl : MethodDecl) (lines : List String)
    {tags : List Tag} (inherits : tags.any Tag.isInheritDoc = true) :
    Excuses (rule.checkSignature classes decl lines tags)
      (rule.checkSignature classes decl lines (ownTags tags)) := by
  have plain : (ownTags tags).any Tag.isInheritDoc = false := by
    simp [ownTags, List.any_filter]
  have params := rule.checkParams_excuses decl lines tags
  have throws := rule.checkThrows_excuses classes decl (rule.checkParams decl lines false tags).2
  rw [params.rest] at throws
  have returns := rule.checkReturn_excuses decl lines (rule.checkThrows classes decl false
    (rule.checkParams decl lines false tags).2).2
  rw [throws.rest] at returns
  simp only [checkSignature, inherits, plain, Bool.not_true, Bool.not_false]
  split
  next =>
    refine ⟨?_, returns.rest⟩
    rw [settled_append, settled_append, ← params.notes, ← throws.notes, ← returns.notes]
  next =>
    refine ⟨?_, throws.rest⟩
    rw [List.append_nil, List.append_nil, settled_append, ← params.notes, ← throws.notes]

theorem leftoverNotes_ownTags (tags : List Tag) :
    leftoverNotes (ownTags tags) = leftoverNotes tags := by
  rw [leftoverNotes, filter_ownTags, leftoverNotes]
  intro tag inherits
  have kind : tag.kind = .inheritDoc := by simpa [Tag.isInheritDoc] using inherits
  simp [Tag.isSeeOrInheritDoc, kind]

theorem settled_leftoverNotes (tags : List Tag) :
    settled (leftoverNotes tags) = leftoverNotes tags :=
  settled_map _ _ fun _ => rfl

theorem checkComment_settled (classes : ClassHierarchy) (decl : MethodDecl) (lines : List String)
    {tags : List Tag} (inherits : tags.any Tag.isInheritDoc = true) (several : 2 ≤ tags.length) :
    rule.checkComment classes decl lines tags =
      settled (rule.checkComment classes decl lines (ownTags tags)) := by
  have notSole : (tags.length == 1 && tags.all Tag.isInheritDoc) = false := by
    have length : tags.length ≠ 1 := by omega
    simp [length]
  -- A comment with one tag of its own is looked into, as one without any is.
  have notSoleOwn :
      ((ownTags tags).length == 1 && (ownTags tags).all Tag.isInheritDoc) = false := by
    cases own : ownTags tags with
    | nil => rfl
    | cons tag rest =>
      have plain : tag.isInheritDoc = false := by
        simpa using (List.mem_filter.mp (own ▸ List.mem_cons_self : tag ∈ ownTags tags)).2
      simp [plain]
  simp only [checkComment, notSole, notSoleOwn, Bool.false_eq_true, if_false]
  split
  next => rw [settled_leftoverNotes, leftoverNotes_ownTags]
  next =>
    have signature := rule.checkSignature_excuses classes decl lines inherits
    rw [settled_append, settled_leftoverNotes, ← signature.notes, ← signature.rest,
      leftoverNotes_ownTags]

theorem checkComment_inheriting (classes : ClassHierarchy) (decl : MethodDecl) (lines : List String)
    {tags inheriting : List Tag} (inserted : ownTags inheriting = tags)
    (inherits : inheriting.any Tag.isInheritDoc = true) (several : 2 ≤ inheriting.length)
    (file : SourceFile) :
    (rule.checkComment classes decl lines inheriting).map (rule.reporter.finding file) =
      ((rule.checkComment classes decl lines tags).map (rule.reporter.finding file)).filter
        fun finding => !(finding.hasKey "javadoc.expectedTag" ||
          finding.hasKey "javadoc.return.expected") := by
  subst inserted
  rw [rule.checkComment_settled classes decl lines inherits several, List.filter_map]
  rfl

private def readMethod : MethodDecl where
  kind := .method
  name := ⟨"read", 9, 8⟩
  line := 9
  column := 4
  endLine := 9
  modifiers := .none
  typeParams := []
  params := [⟨"source", 9, 20⟩, ⟨"limit", 9, 32⟩]
  throws := [⟨"Lost", 9, 46⟩]
  result := .value
  body := none

private def givenTags : List Tag :=
  [⟨3, 7, .param, some "limit"⟩, ⟨4, 7, .param, some "size"⟩, ⟨6, 7, .exception, some "Gone"⟩]

private def givenAndInherited : List Tag :=
  [⟨2, 8, .inheritDoc, none⟩, ⟨3, 7, .param, some "limit"⟩, ⟨4, 7, .param, some "size"⟩,
    ⟨5, 8, .inheritDoc, none⟩, ⟨6, 7, .exception, some "Gone"⟩]

theorem checkComment_inheriting_read :
    (ownTags givenAndInherited = givenTags ∧ givenAndInherited.any Tag.isInheritDoc = true ∧
      2 ≤ givenAndInherited.length) ∧
    (checkComment standard .standard readMethod [] givenTags).map (·.message.key) =
      ["javadoc.expectedTag", "javadoc.unusedTag", "javadoc.unusedTag", "javadoc.expectedTag",
        "javadoc.return.expected"] ∧
    (checkComment standard .standard readMethod [] givenAndInherited).map (·.message.key) =
      ["javadoc.unusedTag", "javadoc.unusedTag"] ∧
    (checkComment standard .standard readMethod [] givenAndInherited).map
        (standard.reporter.finding ⟨.ofString "Reader.java", []⟩) =
      ((checkComment standard .standard readMethod [] givenTags).map
        (standard.reporter.finding ⟨.ofString "Reader.java", []⟩)).filter
          fun finding => !(finding.hasKey "javadoc.expectedTag" ||
            finding.hasKey "javadoc.return.expected") :=
  ⟨⟨by decide, by decide, by decide⟩, by decide +kernel, by decide +kernel,
    checkComment_inheriting _ _ _ _ (by decide) (by decide) (by decide) _⟩

end MethodDoc

end DocAudit
