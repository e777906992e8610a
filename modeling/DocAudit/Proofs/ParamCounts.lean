import DocAudit.Proofs.TagAccounting

set_option autoImplicit false

namespace DocAudit

def MethodDecl.namedBy (decl : MethodDecl) (text : String) : List Identifier :=
  decl.params.filter (·.text == text) ++ decl.typeParams.filter ("<" ++ ·.text ++ ">" == text)

theorem MethodDecl.documentable_filter (decl : MethodDecl) (text : String) :
    (decl.documentable.filter (·.2 == text)).map (·.1) = decl.namedBy text := by
  simp [documentable, namedBy, List.filter_map, Function.comp_def]

theorem MethodDecl.documentable_count (decl : MethodDecl) (text : String) :
    (decl.documentable.map (·.2)).count text = (decl.namedBy text).length := by
  rw [← documentable_filter, List.length_map, ← List.countP_eq_length_filter, List.count,
    List.countP_map]
  rfl

namespace MethodDoc

/-- No parameter is exempt, none may be told of in the text, and none may go without a tag. -/
structure AsksForEveryParam (rule : MethodDoc) : Prop where
  noExempt : rule.unusedParams = none
  noNarrative : rule.allowNarrativeParam = false
  noMissing : rule.allowMissingParam = false

theorem untaken_documents (texts : List String) (tags : List Tag) (text : String) :
    (untaken texts tags).filter (Tag.documents text) =
      (tags.filter (Tag.documents text)).drop (texts.count text) := by
  induction tags generalizing texts with
  | nil => simp [untaken]
  | cons tag rest ih =>
    by_cases names : Tag.documents text tag = true
    next =>
      obtain ⟨param, same⟩ : tag.isParam = true ∧ tag.argumentText = text := by
        simpa [Tag.documents] using names
      by_cases left : text ∈ texts
      next =>
        have some : 0 < texts.count text := List.count_pos_iff.mpr left
        obtain ⟨fewer, count⟩ := Nat.exists_eq_add_one.mpr some
        simp [untaken, names, param, same, left, ih, count]
      next => simp [untaken, names, param, same, left, ih, List.count_eq_zero.mpr left]
    next =>
      rw [List.filter_cons_of_neg names]
      by_cases taken : (tag.isParam && texts.contains tag.argumentText) = true
      next =>
        have other : tag.argumentText ≠ text := by
          intro same
          exact names (by simp_all [Tag.documents])
        rw [untaken, if_pos taken, ih, List.count_erase_of_ne other.symm]
      next => rw [untaken, if_neg taken, List.filter_cons_of_neg names, ih]

theorem countP_eraseP_documents (text other : String) (tags : List Tag) :
    (tags.eraseP (Tag.documents other)).countP (Tag.documents text) =
      if other = text then tags.countP (Tag.documents text) - 1
      else tags.countP (Tag.documents text) := by
  have counted (tags : List Tag) :
      tags.countP (Tag.documents text) = (paramTexts tags).count text := by
    rw [paramTexts, List.count, List.countP_map, List.countP_filter]
    exact List.countP_congr fun tag _ => by simp [Tag.documents, and_comm]
  rw [counted, counted, paramTexts_eraseP]
  by_cases same : other = text
  · rw [if_pos same, same, List.count_erase_self]
  · rw [if_neg same, List.count_erase_of_ne (Ne.symm same)]

section Missing

variable {rule : MethodDoc} (asks : rule.AsksForEveryParam) (text : String)

def missingParamNote (text : String) (param : Identifier) : Note :=
  ⟨param.line, param.column, .expectedTag "@param" text⟩

include asks

theorem scanParam_missing (lines : List String) (scan : ParamScan)
    (entry : Identifier × String) :
    (rule.scanParam lines true scan entry).tags = scan.tags.eraseP (Tag.documents entry.2) ∧
      (rule.scanParam lines true scan entry).notes = scan.notes ++
        if scan.tags.any (Tag.documents entry.2) then []
        else [missingParamNote entry.2 entry.1] := by
  have exempt : rule.isUnusedParam entry.1 = false := by simp [isUnusedParam, asks.noExempt]
  cases found : scan.tags.any (Tag.documents entry.2) <;>
    simp [scanParam, exempt, found, asks.noNarrative, asks.noMissing, missingParamNote]

-- Each parameter that the text names uses up one tag while there are any, so the first ones go
-- without a note and the others get one each.
theorem scanParam_run_missing (lines : List String) (entries : List (Identifier × String))
    (scan : ParamScan) :
    (entries.foldl (rule.scanParam lines true) scan).notes.filter
        (·.message == .expectedTag "@param" text) =
      scan.notes.filter (·.message == .expectedTag "@param" text) ++
        (((entries.filter (·.2 == text)).map (·.1)).drop
          (scan.tags.countP (Tag.documents text))).map (missingParamNote text) := by
  induction entries generalizing scan with
  | nil => simp
  | cons entry rest ih =>
    obtain ⟨tags, notes⟩ := scanParam_missing asks lines scan entry
    rw [List.foldl_cons, ih, tags, notes, countP_eraseP_documents, List.filter_append,
      List.append_assoc]
    congr 1
    by_cases same : entry.2 = text
    next =>
      by_cases found : scan.tags.any (Tag.documents text) = true
      next =>
        have some : 0 < scan.tags.countP (Tag.documents text) := by
          simpa [List.countP_pos_iff] using found
        obtain ⟨fewer, count⟩ := Nat.exists_eq_add_one.mpr some
        simp [same, found, count]
      next =>
        have none : scan.tags.countP (Tag.documents text) = 0 := by
          simpa [List.countP_eq_zero] using found
        simp [same, found, none, missingParamNote]
    next =>
      have silent : (if scan.tags.any (Tag.documents entry.2) then []
          else [missingParamNote entry.2 entry.1]).filter
            (·.message == .expectedTag "@param" text) = [] := by
        split
        · rfl
        · simp [missingParamNote, same]
      rw [silent, if_neg same]
      simp [same]

theorem checkParams_missing (decl : MethodDecl) (lines : List String) (tags : List Tag) :
    (rule.checkParams decl lines true tags).1.filter (·.message == .expectedTag "@param" text) =
      ((decl.namedBy text).drop (tags.countP (Tag.documents text))).map
        (missingParamNote text) := by
  have mixed (scan : ParamScan) :
      (mixedStyleNotes decl scan).filter (·.message == .expectedTag "@param" text) = [] := by
    unfold mixedStyleNotes
    split <;> simp
  have unused (left : List Tag) : (left.map fun tag => (⟨tag.line, tag.column,
      .unusedTag "@param" tag.argumentText⟩ : Note)).filter
        (·.message == .expectedTag "@param" text) = [] := by
    simp [List.filter_map, Function.comp_def]
  simp only [checkParams, List.partition_eq_filter_filter, List.filter_append, mixed, unused,
    scanParam_run_missing asks, MethodDecl.documentable_filter, List.filter_nil, List.nil_append,
    List.append_nil]

end Missing

def unusedParamNote (text : String) (tag : Tag) : Note :=
  ⟨tag.line, tag.column, .unusedTag "@param" text⟩

theorem checkParams_unused (rule : MethodDoc) (decl : MethodDecl) (lines : List String)
    (report : Bool) (tags : List Tag) (text : String) :
    (rule.checkParams decl lines report tags).1.filter (·.message == .unusedTag "@param" text) =
      ((tags.filter (Tag.documents text)).drop (decl.namedBy text).length).map
        (unusedParamNote text) := by
  have concerned (notes : List Note) : notes.filter (·.message == .unusedTag "@param" text) =
      (tagFindings notes).filter (·.message == .unusedTag "@param" text) := by
    rw [tagFindings, List.filter_filter]
    refine List.filter_congr fun note _ => ?_
    by_cases same : note.message = .unusedTag "@param" text <;> simp [same, Message.concernsTag]
  rw [concerned, (rule.checkParams_findings decl lines report tags).1, unusedParamNotes,
    List.filter_map, List.filter_filter, ← MethodDecl.documentable_count, ← untaken_documents]
  have documents : (fun tag : Tag => (Message.unusedTag "@param" tag.argumentText ==
      .unusedTag "@param" text) && tag.isParam) = Tag.documents text := by
    funext tag
    simp [Tag.documents, Bool.and_comm, Bool.beq_eq_decide_eq]
  simp only [Function.comp_def, documents]
  refine List.map_congr_left fun tag member => ?_
  obtain ⟨_, same⟩ := Bool.and_eq_true_iff.mp (List.mem_filter.mp member).2
  rw [eq_of_beq same, unusedParamNote]

theorem checkParams_counts (rule : MethodDoc) (decl : MethodDecl) (lines : List String)
    (tags : List Tag) :
    (∀ report,
      (∀ text, (rule.checkParams decl lines report tags).1.filter
          (·.message == .unusedTag "@param" text) =
        ((tags.filter (Tag.documents text)).drop (decl.namedBy text).length).map
          (unusedParamNote text)) ∧
      (rule.checkParams decl lines report tags).2 = tags.filter (!·.isParam)) ∧
    (rule.AsksForEveryParam → tags.any Tag.isInheritDoc = false →
      ∀ text, (rule.checkParams decl lines (!tags.any Tag.isInheritDoc) tags).1.filter
          (·.message == .expectedTag "@param" text) =
        ((decl.namedBy text).drop (tags.countP (Tag.documents text))).map
          (missingParamNote text)) := by
  refine ⟨fun report => ⟨?_, ?_⟩, fun asks plain text => ?_⟩
  · exact rule.checkParams_unused decl lines report tags
  · exact (rule.checkParams_findings decl lines report tags).2
  · rw [plain]
    exact checkParams_missing asks text decl lines tags

private def repeatedNames : MethodDecl where
  kind := .method
  name := ⟨"swap", 9, 20⟩
  line := 9
  column := 4
  endLine := 9
  modifiers := .none
  typeParams := [⟨"T", 9, 5⟩]
  params := [⟨"cell", 9, 27⟩, ⟨"cell", 9, 35⟩]
  throws := []
  result := .nothing
  body := some ⟨9, 9, []⟩

private def repeatedTags : List Tag :=
  [⟨2, 7, .param, some "<T>"⟩, ⟨3, 7, .see, none⟩, ⟨4, 7, .param, some "cell"⟩,
    ⟨5, 7, .param, some "<T>"⟩]

theorem checkParams_counts_repeated :
    standard.AsksForEveryParam ∧ repeatedTags.any Tag.isInheritDoc = false ∧
      (standard.checkParams repeatedNames [] (!repeatedTags.any Tag.isInheritDoc)
          repeatedTags).1.filter (·.message == .expectedTag "@param" "cell") =
        [⟨9, 35, .expectedTag "@param" "cell"⟩] ∧
      (standard.checkParams repeatedNames [] true repeatedTags).1.filter
          (·.message == .unusedTag "@param" "<T>") = [⟨5, 7, .unusedTag "@param" "<T>"⟩] := by
  have asks : standard.AsksForEveryParam := ⟨rfl, rfl, rfl⟩
  have plain : repeatedTags.any Tag.isInheritDoc = false := by decide
  obtain ⟨unused, missing⟩ := checkParams_counts standard repeatedNames [] repeatedTags
  refine ⟨asks, plain, ?_, ?_⟩
  · rw [missing asks plain "cell"]
    decide
  · rw [(unused true).1 "<T>"]
    decide

end MethodDoc

end DocAudit
