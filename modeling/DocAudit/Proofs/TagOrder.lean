import DocAudit.Proofs.ThrowsMatching
import DocAudit.Rule.MethodDoc.Check

set_option autoImplicit false

namespace DocAudit

def Note.content (note : Note) : String × List String :=
  (note.message.key, note.message.arguments)

section Params

def paramTexts (tags : List Tag) : List String := (tags.filter Tag.isParam).map Tag.argumentText

theorem any_documents_iff (text : String) (tags : List Tag) :
    tags.any (Tag.documents text) = true ↔ text ∈ paramTexts tags := by
  simp [paramTexts, Tag.documents, List.any_eq_true, and_assoc]

-- A parameter takes the first of the tags that name it. Which of them it is cannot be told from
-- the texts, so for the texts it is just one less.
theorem paramTexts_eraseP (text : String) (tags : List Tag) :
    paramTexts (tags.eraseP (Tag.documents text)) = (paramTexts tags).erase text := by
  induction tags with
  | nil => rfl
  | cons tag rest ih =>
    cases param : tag.isParam with
    | false => simpa [paramTexts, Tag.documents, param, List.eraseP_cons] using ih
    | true =>
      by_cases same : tag.argumentText = text
      · simp [paramTexts, Tag.documents, param, same]
      · simpa [paramTexts, Tag.documents, param, same, List.eraseP_cons, List.erase_cons] using ih

theorem others_eraseP (text : String) (tags : List Tag) :
    (tags.eraseP (Tag.documents text)).filter (!·.isParam) = tags.filter (!·.isParam) := by
  induction tags with
  | nil => rfl
  | cons tag rest ih =>
    by_cases names : Tag.documents text tag = true
    · have param : tag.isParam = true := (Bool.and_eq_true_iff.mp names).1
      simp [names, param]
    · rw [List.eraseP_cons_of_neg names, List.filter_cons, List.filter_cons, ih]

end Params

-- Two scans that have seen the same tags, up to order and to where parameter tags stand.
structure ParamScan.Agrees (first second : ParamScan) : Prop where
  params : (paramTexts first.tags).Perm (paramTexts second.tags)
  others : (first.tags.filter (!·.isParam)).Perm (second.tags.filter (!·.isParam))
  tagFound : first.tagFound = second.tagFound
  narrativeFound : first.narrativeFound = second.narrativeFound
  notes : first.notes = second.notes

namespace MethodDoc

variable (rule : MethodDoc)

theorem scanParam_agrees (lines : List String) (report : Bool) (entry : Identifier × String)
    {first second : ParamScan} (agrees : first.Agrees second) :
    (rule.scanParam lines report first entry).Agrees
      (rule.scanParam lines report second entry) := by
  have found : first.tags.any (Tag.documents entry.2) =
      second.tags.any (Tag.documents entry.2) := by
    rw [Bool.eq_iff_iff, any_documents_iff, any_documents_iff]
    exact agrees.params.mem_iff
  have params : (paramTexts (first.tags.eraseP (Tag.documents entry.2))).Perm
      (paramTexts (second.tags.eraseP (Tag.documents entry.2))) := by
    rw [paramTexts_eraseP, paramTexts_eraseP]
    exact agrees.params.erase entry.2
  have others : ((first.tags.eraseP (Tag.documents entry.2)).filter (!·.isParam)).Perm
      ((second.tags.eraseP (Tag.documents entry.2)).filter (!·.isParam)) := by
    rw [others_eraseP, others_eraseP]
    exact agrees.others
  simp only [scanParam, found]
  split
  next => exact ⟨params, others, agrees.tagFound, agrees.narrativeFound, agrees.notes⟩
  split
  next => exact ⟨params, others, rfl, agrees.narrativeFound, agrees.notes⟩
  split
  next => exact ⟨params, others, agrees.tagFound, rfl, agrees.notes⟩
  split
  next =>
    exact ⟨params, others, agrees.tagFound, agrees.narrativeFound, by rw [agrees.notes]⟩
  next => exact ⟨params, others, agrees.tagFound, agrees.narrativeFound, agrees.notes⟩

theorem scanParam_run_agrees (lines : List String) (report : Bool)
    (entries : List (Identifier × String)) {first second : ParamScan}
    (agrees : first.Agrees second) :
    (entries.foldl (rule.scanParam lines report) first).Agrees
      (entries.foldl (rule.scanParam lines report) second) := by
  induction entries generalizing first second with
  | nil => exact agrees
  | cons entry rest ih => exact ih (rule.scanParam_agrees lines report entry agrees)

-- A check whose messages and whose leftover tags are the same for both orders.
structure SameReport (first second : List Note × List Tag) : Prop where
  messages : (first.1.map (·.message)).Perm (second.1.map (·.message))
  rest : first.2.Perm second.2

variable {tags tags' : List Tag}

theorem checkParams_reordered (reordered : tags.Perm tags') (decl : MethodDecl)
    (lines : List String) (report : Bool) :
    SameReport (rule.checkParams decl lines report tags)
      (rule.checkParams decl lines report tags') := by
  have start : ParamScan.Agrees ⟨tags, false, false, []⟩ ⟨tags', false, false, []⟩ :=
    ⟨(reordered.filter _).map _, reordered.filter _, rfl, rfl, rfl⟩
  have agrees := rule.scanParam_run_agrees lines report decl.documentable start
  have unused (scan : ParamScan) : ((scan.tags.filter Tag.isParam).map fun tag =>
      (⟨tag.line, tag.column, .unusedTag "@param" tag.argumentText⟩ : Note)).map (·.message) =
        (paramTexts scan.tags).map (.unusedTag "@param") := by
    simp [paramTexts, Function.comp_def]
  simp only [checkParams, List.partition_eq_filter_filter]
  refine ⟨?_, agrees.others⟩
  rw [List.map_append, List.map_append, List.map_append, List.map_append, unused, unused,
    mixedStyleNotes, mixedStyleNotes, agrees.notes, agrees.tagFound, agrees.narrativeFound]
  exact (agrees.params.map _).append_left _

theorem checkThrows_reordered (reordered : tags.Perm tags') (classes : ClassHierarchy)
    (decl : MethodDecl) (report : Bool) :
    SameReport (rule.checkThrows classes decl report tags)
      (rule.checkThrows classes decl report tags') := by
  have documented : (tags.filter Tag.isThrows).Perm (tags'.filter Tag.isThrows) :=
    reordered.filter _
  have marked : rule.markedBy classes decl.throws tags = rule.markedBy classes decl.throws tags' :=
    funext fun index => documented.any_eq
  have passed : rule.passedBy classes decl.throws tags = rule.passedBy classes decl.throws tags' :=
    funext fun index => documented.any_eq
  rw [checkThrows_eq, checkThrows_eq]
  refine ⟨List.Perm.map _ (List.Perm.append ?_ (.of_eq ?_)), reordered.filter _⟩
  next =>
    refine (rule.scanThrows_run_notes classes decl.throws _ _ _ _).trans ?_
    refine .trans ?_ (rule.scanThrows_run_notes classes decl.throws _ _ _ _).symm
    simp only [Bool.not_false, Bool.and_true]
    exact ((documented.flatMap_right _).append_left _).append
      (.of_eq (congrArg (rule.newsNotes decl.throws) passed))
  next => rw [undocumentedNotes, undocumentedNotes, marked, passed]

theorem checkReturn_reordered (reordered : tags.Perm tags') (decl : MethodDecl)
    (lines : List String) (report : Bool) :
    SameReport (rule.checkReturn decl lines report tags)
      (rule.checkReturn decl lines report tags') := by
  have returns : (tags.filter Tag.isReturn).Perm (tags'.filter Tag.isReturn) := reordered.filter _
  simp only [checkReturn, List.partition_eq_filter_filter]
  refine ⟨?_, reordered.filter _⟩
  -- All duplicates say the same, so only their number counts.
  simp [Function.comp_def, List.map_const', returns.length_eq, returns.isEmpty_eq]

theorem leftoverNotes_reordered (reordered : tags.Perm tags') :
    ((leftoverNotes tags).map (·.message)).Perm ((leftoverNotes tags').map (·.message)) := by
  simp only [leftoverNotes, List.map_map]
  exact (reordered.filter _).map _

theorem checkSignature_reordered (reordered : tags.Perm tags') (classes : ClassHierarchy)
    (decl : MethodDecl) (lines : List String) :
    SameReport (rule.checkSignature classes decl lines tags)
      (rule.checkSignature classes decl lines tags') := by
  have report : tags.any Tag.isInheritDoc = tags'.any Tag.isInheritDoc := reordered.any_eq
  have params := rule.checkParams_reordered reordered decl lines (!tags.any Tag.isInheritDoc)
  have throws := rule.checkThrows_reordered params.rest classes decl (!tags.any Tag.isInheritDoc)
  have returns := rule.checkReturn_reordered throws.rest decl lines (!tags.any Tag.isInheritDoc)
  simp only [checkSignature, ← report]
  split
  next =>
    refine ⟨?_, returns.rest⟩
    simp only [List.map_append]
    exact (params.messages.append throws.messages).append returns.messages
  next =>
    refine ⟨?_, throws.rest⟩
    simp only [List.append_nil, List.map_append]
    exact params.messages.append throws.messages

theorem checkComment_reordered (classes : ClassHierarchy) (decl : MethodDecl) (lines : List String)
    (tags tags' : List Tag) (reordered : tags.Perm tags') :
    ((rule.checkComment classes decl lines tags).map Note.content).Perm
      ((rule.checkComment classes decl lines tags').map Note.content) := by
  suffices messages : ((rule.checkComment classes decl lines tags).map (·.message)).Perm
      ((rule.checkComment classes decl lines tags').map (·.message)) by
    have contents := messages.map fun message => (message.key, message.arguments)
    rw [List.map_map, List.map_map] at contents
    exact contents
  simp only [checkComment, reordered.length_eq, reordered.all_eq]
  split
  next => exact .refl _
  split
  next => exact leftoverNotes_reordered reordered
  next =>
    have signature := rule.checkSignature_reordered reordered classes decl lines
    simp only [List.map_append]
    exact signature.messages.append (leftoverNotes_reordered signature.rest)

private def throwingMethod : MethodDecl where
  kind := .method
  name := ⟨"read", 9, 8⟩
  line := 9
  column := 4
  endLine := 9
  modifiers := .none
  typeParams := []
  params := [⟨"source", 9, 20⟩, ⟨"limit", 9, 32⟩]
  throws := [⟨"Lost", 9, 46⟩, ⟨"IOException", 9, 52⟩]
  result := .value
  body := some ⟨9, 9, []⟩

private def writtenTags : List Tag :=
  [⟨3, 7, .param, some "source"⟩, ⟨4, 7, .param, some "source"⟩, ⟨5, 7, .throws, some "Gone"⟩,
    ⟨6, 7, .exception, some "java.io.IOException"⟩, ⟨7, 7, .returns, none⟩, ⟨8, 7, .returns, none⟩]

-- The reports differ as lists: the doubled tags are found at other lines.
theorem checkComment_reversedTags :
    writtenTags.Perm writtenTags.reverse ∧
      checkComment { standard with logUnresolved := true } .standard throwingMethod [] writtenTags ≠
        checkComment { standard with logUnresolved := true } .standard throwingMethod []
          writtenTags.reverse ∧
      ((checkComment { standard with logUnresolved := true } .standard throwingMethod []
        writtenTags).map Note.content).Perm
        ((checkComment { standard with logUnresolved := true } .standard throwingMethod []
          writtenTags.reverse).map Note.content) :=
  ⟨by decide +kernel, by decide +kernel,
    checkComment_reordered _ _ _ _ _ _ (by decide +kernel)⟩

end MethodDoc

end DocAudit
