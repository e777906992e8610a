import DocAudit.Proofs.TagOrder

set_option autoImplicit false

namespace DocAudit

def Message.concernsTag : Message → Bool
  | .unusedTag _ _ | .duplicateTag _ | .unusedTagGeneral => true
  | _ => false

-- The checks ask for four kinds of tags, and no tag is of two of them.
theorem Tag.one_kind (tag : Tag) :
    (tag.isParam = true ∧ tag.isThrows = false ∧ tag.isReturn = false ∧
        tag.isSeeOrInheritDoc = false) ∨
      (tag.isParam = false ∧ tag.isThrows = true ∧ tag.isReturn = false ∧
        tag.isSeeOrInheritDoc = false) ∨
      (tag.isParam = false ∧ tag.isThrows = false ∧ tag.isReturn = true ∧
        tag.isSeeOrInheritDoc = false) ∨
      (tag.isParam = false ∧ tag.isThrows = false ∧ tag.isReturn = false) := by
  obtain ⟨line, column, kind, argument⟩ := tag
  cases kind <;> simp [isParam, isThrows, isReturn, isSeeOrInheritDoc]

namespace MethodDoc

def tagFindings (notes : List Note) : List Note := notes.filter (·.message.concernsTag)

section Account

variable (rule : MethodDoc) (classes : ClassHierarchy) (decl : MethodDecl)

def isTaken (earlier : List Tag) (tag : Tag) : Bool :=
  ((decl.documentable.map (·.2)).diff (paramTexts earlier)).contains tag.argumentText

def isAccepted (tag : Tag) : Bool :=
  decl.throws.any (·.text == tag.argumentText) ||
    decl.throws.any (rule.stopsAt classes (classes.resolve? tag.argumentText)) ||
    rule.allowUndeclaredUnchecked && (classes.resolve? tag.argumentText).any classes.isUnchecked

/-- The finding on a tag, if there is one. Of the tags before it, those of its own kind count. -/
def verdict? (earlier : List Tag) (tag : Tag) : Option Note :=
  if tag.isSeeOrInheritDoc then none
  else if decl.kind = .annotationElement then some ⟨tag.line, 0, .unusedTagGeneral⟩
  else if tag.isParam then
    if isTaken decl earlier tag then none
    else some ⟨tag.line, tag.column, .unusedTag "@param" tag.argumentText⟩
  else if tag.isThrows then
    if rule.isAccepted classes decl tag then none
    else some ⟨tag.line, tag.column, .unusedTag "@throws" tag.argumentText⟩
  else if tag.isReturn && decl.isFunction then
    if earlier.any Tag.isReturn then some ⟨tag.line, tag.column, .duplicateTag "@return"⟩ else none
  else some ⟨tag.line, 0, .unusedTagGeneral⟩

def verdicts (earlier : List Tag) : List Tag → List Note
  | [] => []
  | tag :: rest =>
    (rule.verdict? classes decl earlier tag).toList ++ verdicts (earlier ++ [tag]) rest

end Account

-- The tags that are left when every text takes the first one that names it.
def untaken (texts : List String) : List Tag → List Tag
  | [] => []
  | tag :: rest =>
    if tag.isParam && texts.contains tag.argumentText then
      untaken (texts.erase tag.argumentText) rest
    else tag :: untaken texts rest

-- Going through the parameters or through the tags comes to the same.
theorem untaken_cons (text : String) (texts : List String) (tags : List Tag) :
    untaken (text :: texts) tags = untaken texts (tags.eraseP (Tag.documents text)) := by
  induction tags generalizing texts with
  | nil => rfl
  | cons tag rest ih =>
    by_cases param : tag.isParam = true
    next =>
      by_cases same : tag.argumentText = text
      next => simp [untaken, Tag.documents, param, same]
      next =>
        have erased : (text :: texts).erase tag.argumentText =
            text :: texts.erase tag.argumentText :=
          List.erase_cons_tail (by simpa using Ne.symm same)
        by_cases left : tag.argumentText ∈ texts
        · simp [untaken, Tag.documents, param, same, left, erased, ih]
        · simp [untaken, Tag.documents, param, same, left, ih]
    next => simp [untaken, Tag.documents, param, ih]

@[simp] theorem untaken_nil (tags : List Tag) : untaken [] tags = tags := by
  induction tags with
  | nil => rfl
  | cons tag rest ih => simp [untaken, ih]

theorem untaken_others (texts : List String) (tags : List Tag) :
    (untaken texts tags).filter (!·.isParam) = tags.filter (!·.isParam) := by
  induction tags generalizing texts with
  | nil => rfl
  | cons tag rest ih =>
    cases param : tag.isParam with
    | false => simp [untaken, param, ih]
    | true =>
      by_cases left : tag.argumentText ∈ texts
      · simp [untaken, param, left, ih]
      · simp [untaken, param, left, ih]

@[simp] theorem tagFindings_append (first second : List Note) :
    tagFindings (first ++ second) = tagFindings first ++ tagFindings second := List.filter_append ..

theorem tagFindings_all {α : Type} (values : List α) (note : α → Note)
    (concerns : ∀ value, (note value).message.concernsTag = true) :
    tagFindings (values.map note) = values.map note := by
  refine List.filter_eq_self.mpr fun found member => ?_
  obtain ⟨value, _, rfl⟩ := List.mem_map.mp member
  exact concerns value

theorem tagFindings_none {α : Type} (values : List α) (note : α → Note)
    (silent : ∀ value, (note value).message.concernsTag = false) :
    tagFindings (values.map note) = [] := by
  refine List.filter_eq_nil_iff.mpr fun found member => ?_
  obtain ⟨value, _, rfl⟩ := List.mem_map.mp member
  simp [silent value]

section Stages

variable (rule : MethodDoc) (classes : ClassHierarchy) (decl : MethodDecl)

theorem scanParam_step (lines : List String) (report : Bool) (scan : ParamScan)
    (entry : Identifier × String) :
    (rule.scanParam lines report scan entry).tags = scan.tags.eraseP (Tag.documents entry.2) ∧
      tagFindings (rule.scanParam lines report scan entry).notes = tagFindings scan.notes := by
  simp only [scanParam]
  repeat' split
  all_goals simp [tagFindings, Message.concernsTag]

theorem scanParam_run (lines : List String) (report : Bool)
    (entries : List (Identifier × String)) (scan : ParamScan) :
    (entries.foldl (rule.scanParam lines report) scan).tags =
        untaken (entries.map (·.2)) scan.tags ∧
      tagFindings (entries.foldl (rule.scanParam lines report) scan).notes =
        tagFindings scan.notes := by
  induction entries generalizing scan with
  | nil => simp
  | cons entry rest ih =>
    obtain ⟨tags, notes⟩ := rule.scanParam_step lines report scan entry
    rw [List.foldl_cons, (ih _).1, (ih _).2, tags, notes, List.map_cons, untaken_cons]
    exact ⟨rfl, rfl⟩

def unusedParamNotes (texts : List String) (tags : List Tag) : List Note :=
  ((untaken texts tags).filter Tag.isParam).map fun tag =>
    ⟨tag.line, tag.column, .unusedTag "@param" tag.argumentText⟩

theorem checkParams_findings (lines : List String) (report : Bool) (tags : List Tag) :
    tagFindings (rule.checkParams decl lines report tags).1 =
        unusedParamNotes (decl.documentable.map (·.2)) tags ∧
      (rule.checkParams decl lines report tags).2 = tags.filter (!·.isParam) := by
  have run := rule.scanParam_run lines report decl.documentable ⟨tags, false, false, []⟩
  have mixed (scan : ParamScan) : tagFindings (mixedStyleNotes decl scan) = [] := by
    unfold mixedStyleNotes
    split <;> rfl
  simp only [checkParams, List.partition_eq_filter_filter, tagFindings_append, run.1, run.2, mixed]
  refine ⟨?_, untaken_others _ tags⟩
  exact tagFindings_all _ _ fun tag => rfl

theorem newsNotes_findings (throws : List Identifier) (fresh : Nat → Bool) :
    tagFindings (rule.newsNotes throws fresh) = [] :=
  filter_isClassInfo (fun _ _ => rfl) (rule.newsNotes_isClassInfo throws fresh)

def unusedThrowsNotes (tags : List Tag) : List Note :=
  (tags.filter Tag.isThrows).flatMap fun tag =>
    if rule.isAccepted classes decl tag then []
    else [⟨tag.line, tag.column, .unusedTag "@throws" tag.argumentText⟩]

theorem isUnusedThrows_eq (tag : Tag) :
    rule.isUnusedThrows classes decl.throws tag.argumentText =
      !rule.isAccepted classes decl tag := by
  simp only [isUnusedThrows, isAccepted, textIndex?, classIndex?, ← Option.not_isSome,
    List.findIdx?_isSome, Bool.not_or]

theorem unresolvedTagNotes_findings (tag : Tag) :
    tagFindings (rule.unresolvedTagNotes classes decl.throws tag) = [] :=
  filter_isClassInfo (fun _ _ => rfl) (rule.unresolvedTagNotes_isClassInfo classes decl.throws tag)

theorem unusedTagNotes_findings (tag : Tag) :
    tagFindings (rule.unusedTagNotes classes decl.throws tag) =
      if rule.isAccepted classes decl tag then []
      else [⟨tag.line, tag.column, .unusedTag "@throws" tag.argumentText⟩] := by
  rw [unusedTagNotes, isUnusedThrows_eq]
  cases rule.isAccepted classes decl tag <;> rfl

theorem undocumentedNotes_findings (report : Bool) (tags : List Tag) :
    tagFindings (rule.undocumentedNotes classes decl report tags) = [] := by
  unfold undocumentedNotes
  split
  · exact tagFindings_none _ _ fun entry => rfl
  · rfl

theorem checkThrows_findings (report : Bool) (tags : List Tag) :
    (tagFindings (rule.checkThrows classes decl report tags).1).Perm
        (rule.unusedThrowsNotes classes decl tags) ∧
      (rule.checkThrows classes decl report tags).2 = tags.filter (!·.isThrows) := by
  rw [checkThrows_eq]
  refine ⟨?_, rfl⟩
  rw [tagFindings_append, undocumentedNotes_findings, List.append_nil]
  refine ((rule.scanThrows_run_notes classes decl.throws _ _ _ _).filter _).trans (.of_eq ?_)
  change tagFindings _ = _
  rw [List.nil_append, tagFindings_append, newsNotes_findings, List.append_nil, tagFindings,
    List.filter_flatMap]
  refine List.flatMap_congr fun tag _ => ?_
  change tagFindings _ = _
  rw [tagFindings_append, unresolvedTagNotes_findings, unusedTagNotes_findings, List.nil_append]

def duplicateNotes (seen : Bool) (tags : List Tag) : List Note :=
  ((tags.filter Tag.isReturn).drop (if seen then 0 else 1)).map fun tag =>
    ⟨tag.line, tag.column, .duplicateTag "@return"⟩

theorem checkReturn_findings (lines : List String) (report : Bool) (tags : List Tag) :
    tagFindings (rule.checkReturn decl lines report tags).1 = duplicateNotes false tags ∧
      (rule.checkReturn decl lines report tags).2 = tags.filter (!·.isReturn) := by
  simp only [checkReturn, List.partition_eq_filter_filter, tagFindings_append]
  refine ⟨?_, rfl⟩
  rw [tagFindings_all _ _ fun tag => rfl]
  split <;> simp [tagFindings, Message.concernsTag, duplicateNotes]

def isUnclaimed (tag : Tag) : Bool :=
  !tag.isParam && !tag.isThrows && !(tag.isReturn && decl.isFunction)

-- What a single tag adds to each of the four reports; at most one of them is not empty.
def paramPart (earlier : List Tag) (tag : Tag) : List Note :=
  if tag.isParam && !isTaken decl earlier tag then
    [⟨tag.line, tag.column, .unusedTag "@param" tag.argumentText⟩]
  else []

def throwsPart (tag : Tag) : List Note :=
  if tag.isThrows && !rule.isAccepted classes decl tag then
    [⟨tag.line, tag.column, .unusedTag "@throws" tag.argumentText⟩]
  else []

def returnPart (earlier : List Tag) (tag : Tag) : List Note :=
  if tag.isReturn && decl.isFunction && earlier.any Tag.isReturn then
    [⟨tag.line, tag.column, .duplicateTag "@return"⟩]
  else []

def leftoverPart (tag : Tag) : List Note :=
  if isUnclaimed decl tag && !tag.isSeeOrInheritDoc then [⟨tag.line, 0, .unusedTagGeneral⟩] else []

theorem verdict?_parts (signature : decl.kind ≠ .annotationElement) (earlier : List Tag)
    (tag : Tag) :
    (rule.verdict? classes decl earlier tag).toList =
      paramPart decl earlier tag ++ rule.throwsPart classes decl tag ++
        returnPart decl earlier tag ++ leftoverPart decl tag := by
  simp only [verdict?, if_neg signature, paramPart, throwsPart, returnPart, leftoverPart]
  rcases tag.one_kind with ⟨param, throws, returns, quiet⟩ | ⟨param, throws, returns, quiet⟩ |
    ⟨param, throws, returns, quiet⟩ | ⟨param, throws, returns⟩
  next => cases isTaken decl earlier tag <;> simp [isUnclaimed, param, throws, returns, quiet]
  next =>
    cases rule.isAccepted classes decl tag <;> simp [isUnclaimed, param, throws, returns, quiet]
  next =>
    cases function : decl.isFunction <;> cases earlier.any Tag.isReturn <;>
      simp [isUnclaimed, param, throws, returns, quiet, function]
  next => cases tag.isSeeOrInheritDoc <;> simp [isUnclaimed, param, throws, returns]

theorem unusedParamNotes_cons (earlier : List Tag) (tag : Tag) (rest : List Tag) :
    unusedParamNotes ((decl.documentable.map (·.2)).diff (paramTexts earlier)) (tag :: rest) =
      paramPart decl earlier tag ++
        unusedParamNotes ((decl.documentable.map (·.2)).diff (paramTexts (earlier ++ [tag])))
          rest := by
  cases param : tag.isParam with
  | false => simp [unusedParamNotes, untaken, paramPart, paramTexts, param]
  | true =>
    have texts : paramTexts (earlier ++ [tag]) = paramTexts earlier ++ [tag.argumentText] := by
      simp [paramTexts, param]
    rw [texts, List.diff_append, List.diff_cons, List.diff_nil]
    by_cases left : tag.argumentText ∈ (decl.documentable.map (·.2)).diff (paramTexts earlier)
    · simp [unusedParamNotes, untaken, paramPart, isTaken, param, left]
    · rw [List.erase_of_not_mem left]
      simp [unusedParamNotes, untaken, paramPart, isTaken, param, left]

theorem unusedThrowsNotes_cons (tag : Tag) (rest : List Tag) :
    rule.unusedThrowsNotes classes decl (tag :: rest) =
      rule.throwsPart classes decl tag ++ rule.unusedThrowsNotes classes decl rest := by
  cases throws : tag.isThrows <;> cases accepted : rule.isAccepted classes decl tag <;>
    simp [unusedThrowsNotes, throwsPart, throws, accepted]

theorem duplicateNotes_cons (earlier : List Tag) (tag : Tag) (rest : List Tag) :
    (if decl.isFunction then duplicateNotes (earlier.any Tag.isReturn) (tag :: rest) else []) =
      returnPart decl earlier tag ++
        if decl.isFunction then duplicateNotes ((earlier ++ [tag]).any Tag.isReturn) rest
        else [] := by
  cases function : decl.isFunction <;> cases returns : tag.isReturn <;>
    cases seen : earlier.any Tag.isReturn <;>
    simp [duplicateNotes, returnPart, function, returns, seen]

theorem leftoverNotes_cons (tag : Tag) (rest : List Tag) :
    leftoverNotes ((tag :: rest).filter (isUnclaimed decl)) =
      leftoverPart decl tag ++ leftoverNotes (rest.filter (isUnclaimed decl)) := by
  cases unclaimed : isUnclaimed decl tag <;> cases quiet : tag.isSeeOrInheritDoc <;>
    simp [leftoverNotes, leftoverPart, unclaimed, quiet]

theorem verdicts_parts (signature : decl.kind ≠ .annotationElement) (earlier tags : List Tag) :
    (rule.verdicts classes decl earlier tags).Perm
      (unusedParamNotes ((decl.documentable.map (·.2)).diff (paramTexts earlier)) tags ++
        rule.unusedThrowsNotes classes decl tags ++
        (if decl.isFunction then duplicateNotes (earlier.any Tag.isReturn) tags else []) ++
        leftoverNotes (tags.filter (isUnclaimed decl))) := by
  induction tags generalizing earlier with
  | nil =>
    simp [verdicts, unusedParamNotes, untaken, unusedThrowsNotes, duplicateNotes, leftoverNotes]
  | cons tag rest ih =>
    refine List.perm_iff_count.mpr fun note => ?_
    have later := (ih (earlier ++ [tag])).count_eq note
    rw [verdicts, rule.verdict?_parts classes decl signature, unusedParamNotes_cons,
      unusedThrowsNotes_cons, duplicateNotes_cons, leftoverNotes_cons]
    simp only [List.count_append] at later ⊢
    omega

-- Each check finds its own tags among those that the ones before have left.
theorem unusedThrowsNotes_others (tags : List Tag) :
    rule.unusedThrowsNotes classes decl (tags.filter (!·.isParam)) =
      rule.unusedThrowsNotes classes decl tags := by
  have same : (tags.filter (!·.isParam)).filter Tag.isThrows = tags.filter Tag.isThrows := by
    rw [List.filter_filter]
    refine List.filter_congr fun tag _ => ?_
    rcases tag.one_kind with kinds | kinds | kinds | kinds <;> simp [kinds]
  rw [unusedThrowsNotes, same, unusedThrowsNotes]

theorem duplicateNotes_others (seen : Bool) (tags : List Tag) :
    duplicateNotes seen ((tags.filter (!·.isParam)).filter (!·.isThrows)) =
      duplicateNotes seen tags := by
  have same : ((tags.filter (!·.isParam)).filter (!·.isThrows)).filter Tag.isReturn =
      tags.filter Tag.isReturn := by
    rw [List.filter_filter, List.filter_filter]
    refine List.filter_congr fun tag _ => ?_
    rcases tag.one_kind with kinds | kinds | kinds | kinds <;> simp [kinds]
  rw [duplicateNotes, same, duplicateNotes]

theorem checkSignature_findings (lines : List String) (tags : List Tag) :
    (tagFindings (rule.checkSignature classes decl lines tags).1).Perm
        (unusedParamNotes (decl.documentable.map (·.2)) tags ++
          rule.unusedThrowsNotes classes decl tags ++
          if decl.isFunction then duplicateNotes false tags else []) ∧
      (rule.checkSignature classes decl lines tags).2 = tags.filter (isUnclaimed decl) := by
  obtain ⟨params, others⟩ :=
    rule.checkParams_findings decl lines (!tags.any Tag.isInheritDoc) tags
  obtain ⟨throws, unclaimed⟩ := rule.checkThrows_findings classes decl
    (!tags.any Tag.isInheritDoc) (tags.filter (!·.isParam))
  obtain ⟨returns, rest⟩ := rule.checkReturn_findings decl lines (!tags.any Tag.isInheritDoc)
    ((tags.filter (!·.isParam)).filter (!·.isThrows))
  rw [unusedThrowsNotes_others] at throws
  rw [duplicateNotes_others] at returns
  simp only [checkSignature, others, unclaimed]
  cases function : decl.isFunction with
  | false =>
    have left : (tags.filter (!·.isParam)).filter (!·.isThrows) =
        tags.filter (isUnclaimed decl) := by
      rw [List.filter_filter]
      refine List.filter_congr fun tag _ => ?_
      simp [isUnclaimed, function, Bool.and_comm]
    simp only [Bool.false_eq_true, if_false, List.append_nil, tagFindings_append, params, left,
      and_true]
    exact throws.append_left _
  | true =>
    have left : ((tags.filter (!·.isParam)).filter (!·.isThrows)).filter (!·.isReturn) =
        tags.filter (isUnclaimed decl) := by
      rw [List.filter_filter, List.filter_filter]
      refine List.filter_congr fun tag _ => ?_
      simp [isUnclaimed, function, Bool.and_comm, Bool.and_left_comm]
    simp only [if_true, tagFindings_append, params, returns, rest, left, and_true]
    exact (throws.append_left _).append_right _

theorem verdicts_element (element : decl.kind = .annotationElement) (earlier tags : List Tag) :
    rule.verdicts classes decl earlier tags = leftoverNotes tags := by
  induction tags generalizing earlier with
  | nil => rfl
  | cons tag rest ih =>
    rw [verdicts, ih]
    cases quiet : tag.isSeeOrInheritDoc <;> simp [verdict?, leftoverNotes, element, quiet]

theorem leftoverNotes_findings (tags : List Tag) :
    tagFindings (leftoverNotes tags) = leftoverNotes tags :=
  tagFindings_all _ _ fun _ => rfl

end Stages

theorem checkComment_accounts (rule : MethodDoc) (classes : ClassHierarchy) (decl : MethodDecl)
    (lines : List String) (tags : List Tag)
    (several : ¬ ∃ tag, tags = [tag] ∧ tag.isInheritDoc = true) :
    (tagFindings (rule.checkComment classes decl lines tags)).Perm
        (rule.verdicts classes decl [] tags) ∧
      (decl.kind = .annotationElement →
        rule.checkComment classes decl lines tags = rule.verdicts classes decl [] tags) := by
  have inherited : ¬ (tags.length == 1 && tags.all Tag.isInheritDoc) = true := by
    intro single
    obtain ⟨one, inherits⟩ := Bool.and_eq_true_iff.mp single
    obtain ⟨tag, rfl⟩ := List.length_eq_one_iff.mp (beq_iff_eq.mp one)
    exact several ⟨tag, rfl, by simpa using inherits⟩
  rw [checkComment, if_neg inherited]
  split
  next element =>
    rw [leftoverNotes_findings, rule.verdicts_element classes decl element]
    exact ⟨.refl _, fun _ => rfl⟩
  next signature =>
    refine ⟨?_, fun element => absurd element signature⟩
    obtain ⟨findings, rest⟩ := rule.checkSignature_findings classes decl lines tags
    dsimp only
    rw [tagFindings_append, rest, leftoverNotes_findings]
    exact (findings.append_right _).trans (rule.verdicts_parts classes decl signature [] tags).symm

private def lookup : MethodDecl where
  kind := .method
  name := ⟨"find", 12, 8⟩
  line := 12
  column := 4
  endLine := 12
  modifiers := .none
  typeParams := [⟨"K", 12, 1⟩]
  params := [⟨"key", 12, 20⟩]
  throws := [⟨"IOException", 12, 32⟩]
  result := .value
  body := none

private def lookupTags : List Tag :=
  [⟨2, 7, .param, some "key"⟩, ⟨3, 7, .param, some "<K>"⟩, ⟨4, 7, .param, some "key"⟩,
    ⟨5, 7, .throws, some "java.io.IOException"⟩, ⟨6, 7, .exception, some "Error"⟩,
    ⟨7, 7, .see, none⟩, ⟨8, 7, .returns, none⟩, ⟨9, 7, .returns, none⟩]

theorem checkComment_lookupTags :
    (¬ ∃ tag, lookupTags = [tag] ∧ tag.isInheritDoc = true) ∧
      verdicts standard .standard lookup [] lookupTags =
        [⟨4, 7, .unusedTag "@param" "key"⟩, ⟨6, 7, .unusedTag "@throws" "Error"⟩,
          ⟨9, 7, .duplicateTag "@return"⟩] ∧
      (tagFindings (checkComment standard .standard lookup [] lookupTags)).Perm
        (verdicts standard .standard lookup [] lookupTags) := by
  have several : ¬ ∃ tag, lookupTags = [tag] ∧ tag.isInheritDoc = true := by
    rintro ⟨tag, single, _⟩
    cases single
  exact ⟨several, by decide +kernel,
    (checkComment_accounts standard .standard lookup [] lookupTags several).1⟩

end MethodDoc

end DocAudit
