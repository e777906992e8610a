import DocAudit.Proofs.BlockTagText
import DocAudit.Proofs.TypeOccurrence
import Mathlib.Data.List.Forall2

set_option autoImplicit false

namespace DocAudit

inductive Comment.ReadsTags (comment : Comment) : Nat → List String → List (String × Tag) → Prop
  | done {index : Nat} : ReadsTags comment index [] []
  | plain {index : Nat} {line : String} {rest : List String} {tags : List (String × Tag)} :
      (∀ front name content, ¬ BlockTagReader.Writes line.toList front name content) →
      ReadsTags comment (index + 1) rest tags → ReadsTags comment index (line :: rest) tags
  | tag {index : Nat} {line : String} {rest : List String} {tags : List (String × Tag)}
      {front name content : List Char} :
      BlockTagReader.Writes line.toList front name content →
      ReadsTags comment (index + 1) rest tags →
      ReadsTags comment index (line :: rest)
        ((String.ofList name, ⟨comment.startLine + index,
          if index = 0 then Text.byteLength front + comment.startColumn else Text.byteLength front,
          TagKind.ofName (String.ofList name),
          some (String.ofList (Text.trim (BlockTagReader.dropClosing content)))⟩) :: tags)

namespace Comment

theorem readsTags_iff {comment : Comment} {index : Nat} {lines : List String}
    {tags : List (String × Tag)} : comment.ReadsTags index lines tags ↔
      tags = (lines.zipIdx index).filterMap fun (line, index) =>
        (BlockTagReader.read? line.toList).map fun hit =>
          (String.ofList hit.name, hit.toTag comment index) := by
  induction lines generalizing index tags with
  | nil =>
    constructor
    · intro read
      cases read
      rfl
    · intro empty
      subst empty
      exact .done
  | cons line rest ih =>
    simp only [List.zipIdx_cons, List.filterMap_cons]
    constructor
    next =>
      intro read
      cases read with
      | plain absent later =>
        rw [BlockTagReader.read?_eq_none_iff.mpr absent]
        exact ih.mp later
      | tag written later =>
        rw [written.read?, ih.mp later]
        rfl
    next =>
      intro collected
      subst collected
      cases found : BlockTagReader.read? line.toList with
      | none => exact .plain (BlockTagReader.read?_eq_none_iff.mp found) (ih.mpr rfl)
      | some hit =>
        obtain ⟨front, name, content, written⟩ := BlockTagReader.exists_writes found
        cases found.symm.trans written.read?
        exact .tag written (ih.mpr rfl)

theorem readsTags_blockTags {comment : Comment} {tags : List (String × Tag)} :
    comment.ReadsTags 0 comment.lines tags ↔ tags = comment.blockTags :=
  readsTags_iff

theorem kind_of_mem_blockTags {comment : Comment} {entry : String × Tag}
    (listed : entry ∈ comment.blockTags) : entry.2.kind = TagKind.ofName entry.1 := by
  obtain ⟨source, -, made⟩ := List.mem_filterMap.mp listed
  obtain ⟨hit, -, rfl⟩ := Option.map_eq_some_iff.mp made
  rfl

end Comment

def Tag.named (name : String) (entries : List (String × Tag)) : List Tag :=
  (entries.filter (·.1 == name)).map (·.2)

namespace Comment

theorem knownBlockTags_filter (comment : Comment) (name : String)
    (known : name ∈ standardTagNames) :
    comment.knownBlockTags.filter (·.kind == .ofName name) = Tag.named name comment.blockTags := by
  rw [knownBlockTags, List.filter_map, List.filter_filter, Tag.named]
  congr 1
  apply List.filter_congr
  intro entry listed
  have spelled : TagKind.ofName entry.1 = TagKind.ofName name ↔ entry.1 = name := by
    constructor
    · intro same
      rw [← TagKind.name_ofName entry.1, same, TagKind.name_ofName]
    · exact congrArg TagKind.ofName
  rw [Bool.eq_iff_iff, Bool.and_eq_true, beq_iff_eq, Function.comp_apply, beq_iff_eq,
    kind_of_mem_blockTags listed, spelled, List.contains_iff_mem]
  constructor
  · exact And.left
  · intro same
    exact ⟨same, same ▸ known⟩

theorem knownBlockTags_params (comment : Comment) :
    comment.knownBlockTags.filter Tag.isParam = Tag.named "param" comment.blockTags :=
  comment.knownBlockTags_filter "param" (by decide)

end Comment

namespace TypeDoc

/-- What is said of a tag that may be asked for: that there is none, or of each one that lacks the
form, from the last to the first. -/
inductive RequirementReport (line : Nat) (display : String) (requirement : TagRequirement)
    (tags : List Tag) : List Note → Prop
  | idle : requirement.required = false → requirement.format = none →
      RequirementReport line display requirement tags []
  | missing : requirement.required = true ∨ requirement.format ≠ none → tags = [] →
      RequirementReport line display requirement tags [⟨line, 0, .missingTypeTag display⟩]
  | present : requirement.required = true → requirement.format = none → tags ≠ [] →
      RequirementReport line display requirement tags []
  | formatted {source : String} {regex : Pattern.Regex} :
      requirement.format = some (source, regex) → tags ≠ [] →
      RequirementReport line display requirement tags
        ((tags.reverse.filter fun tag => regex.matchesWithin tag.argumentText.toList = false).map
          fun _ => ⟨line, 0, .typeTagFormat display source⟩)

inductive ParamReport (decl : TypeDecl) (tag : Tag) : List Note → Prop
  | declared {name : List Char} : InBrackets tag.argumentText.toList name →
      (∃ param ∈ decl.typeParams, param.text = String.ofList (Text.trim name)) →
      ParamReport decl tag []
  | undeclared {name : List Char} : InBrackets tag.argumentText.toList name →
      (∀ param ∈ decl.typeParams, param.text ≠ String.ofList (Text.trim name)) →
      ParamReport decl tag [⟨tag.line, tag.column,
        .unusedTag "@param" ("<" ++ String.ofList (Text.trim name) ++ ">")⟩]
  | unnamed : (∀ name, ¬ InBrackets tag.argumentText.toList name) →
      ParamReport decl tag [⟨tag.line, tag.column, .unusedTagGeneral⟩]

def OutermostReport (rule : TypeDoc) (decl : TypeDecl) (tags : List (String × Tag))
    (notes : List Note) : Prop :=
  ∃ author version params,
    RequirementReport decl.line "@author" rule.author (Tag.named "author" tags) author ∧
    RequirementReport decl.line "@version" rule.version (Tag.named "version" tags) version ∧
    List.Forall₂ (ParamReport decl) (Tag.named "param" tags).reverse params ∧
    notes = (if rule.allowUnknown then [] else
        (tags.filter (·.1 ∉ standardTagNames)).map fun (name, tag) =>
          ⟨tag.line, tag.column, .unknownTag name⟩) ++ author ++ version ++
      (if rule.allowMissingParam then [] else
        (decl.typeParams.filter fun param => ∀ tag ∈ Tag.named "param" tags,
          ¬ ("<" ++ param.text ++ ">").toList <+: tag.argumentText.toList).map fun param =>
            ⟨decl.line, 0, .missingTypeTag ("@param <" ++ param.text ++ ">")⟩) ++ params.flatten

inductive TypeReport (rule : TypeDoc) (comments : CommentIndex) :
    List TypeDecl → TypeDecl → List Note → Prop
  | unchecked {enclosing : List TypeDecl} {decl : TypeDecl} :
      rule.filter.shouldCheck (Scope.effective decl.modifiers (enclosing.head?.map (·.kind)))
        (Scope.surrounding enclosing) = false →
      TypeReport rule comments enclosing decl []
  | uncommented {enclosing : List TypeDecl} {decl : TypeDecl} :
      rule.filter.shouldCheck (Scope.effective decl.modifiers (enclosing.head?.map (·.kind)))
        (Scope.surrounding enclosing) = true →
      comments.javadocBefore? decl.line = none →
      TypeReport rule comments enclosing decl [⟨decl.line, 0, .missingJavadoc⟩]
  | nested {outer : TypeDecl} {enclosing : List TypeDecl} {decl : TypeDecl} {comment : Comment} :
      rule.filter.shouldCheck (Scope.effective decl.modifiers (some outer.kind))
        (Scope.surrounding (outer :: enclosing)) = true →
      comments.javadocBefore? decl.line = some comment →
      TypeReport rule comments (outer :: enclosing) decl []
  | outermost {decl : TypeDecl} {comment : Comment} {tags : List (String × Tag)}
      {notes : List Note} :
      rule.filter.shouldCheck (Scope.effective decl.modifiers none) (Scope.surrounding []) = true →
      comments.javadocBefore? decl.line = some comment →
      comment.ReadsTags 0 comment.lines tags → rule.OutermostReport decl tags notes →
      TypeReport rule comments [] decl notes

/-- The findings in a file: the reached types come in the order of their addresses, each with the
findings on it. -/
def FileReport (rule : TypeDoc) (unit : CompilationUnit) (content : List Char)
    (notes : List Note) : Prop :=
  ∃ (reached : List TypeOccurrence) (groups : List (List Note)),
    reached.Pairwise (fun first second => first.address < second.address) ∧
    (∀ found, found ∈ reached ↔ unit.Reaches found.address found.enclosing found.decl) ∧
    List.Forall₂ (fun found => rule.TypeReport (.ofUnit unit content) found.enclosing found.decl)
      reached groups ∧
    notes = groups.flatten

variable {rule : TypeDoc} {decl : TypeDecl} {comment : Comment}

theorem isActive_iff (requirement : TagRequirement) : requirement.isActive = true ↔
    requirement.required = true ∨ requirement.format ≠ none := by
  rw [TagRequirement.isActive, Bool.or_eq_true, Option.isSome_iff_ne_none]

theorem requirementReport_iff {line : Nat} {display : String} {requirement : TagRequirement}
    {kind : TagKind} {tags present : List Tag} {notes : List Note}
    (chosen : tags.filter (·.kind == kind) = present) :
    RequirementReport line display requirement present notes ↔
      notes = requirementNotes line tags kind display requirement := by
  simp only [requirementNotes, List.filter_reverse, chosen, List.isEmpty_reverse]
  constructor
  next =>
    intro report
    cases report with
    | idle optional free => simp [TagRequirement.isActive, optional, free]
    | missing asked absent => simp [(isActive_iff requirement).mpr asked, absent]
    | present asked free held => simp [TagRequirement.isActive, asked, free, held]
    | formatted formed held => simp [TagRequirement.isActive, formed, held]
  next =>
    intro said
    subst said
    split
    next inactive =>
      rw [Bool.not_eq_true', ← Bool.not_eq_true, isActive_iff, not_or, not_not] at inactive
      exact .idle (Bool.not_eq_true _ ▸ inactive.1) inactive.2
    next active =>
      have asked := (isActive_iff requirement).mp (by simpa using active)
      split
      next absent => exact .missing asked (List.isEmpty_iff.mp absent)
      next held =>
        have held : present ≠ [] := by simpa using held
        split
        next free => exact .present (asked.resolve_right (not_not.mpr free)) free held
        next source regex formed => simpa using RequirementReport.formatted formed held

theorem paramReport_iff (decl : TypeDecl) (tag : Tag) (notes : List Note) :
    ParamReport decl tag notes ↔ notes = paramTagNotes decl tag := by
  rw [paramTagNotes]
  constructor
  next =>
    intro report
    cases report with
    | declared inside known => simp [bracketedName?_eq_some_iff.mpr inside, known]
    | undeclared inside unknown =>
      simpa [bracketedName?_eq_some_iff.mpr inside, bracketed] using unknown
    | unnamed outside =>
      have absent : bracketedName? tag.argumentText.toList = none := by
        apply Option.eq_none_iff_forall_ne_some.mpr
        intro name found
        exact outside name (bracketedName?_eq_some_iff.mp found)
      rw [absent]
  next =>
    intro said
    subst said
    split
    next name found =>
      have inside := bracketedName?_eq_some_iff.mp found
      dsimp only
      split
      next known => exact .declared inside (by simpa using known)
      next unknown => exact .undeclared inside (by simpa using unknown)
    next absent =>
      apply ParamReport.unnamed
      intro name inside
      rw [bracketedName?_eq_some_iff.mpr inside] at absent
      cases absent

theorem unknownTagNotes_eq (rule : TypeDoc) (comment : Comment) :
    rule.unknownTagNotes comment = if rule.allowUnknown then [] else
      (comment.blockTags.filter (·.1 ∉ standardTagNames)).map fun (name, tag) =>
        ⟨tag.line, tag.column, .unknownTag name⟩ := by
  have chosen : (comment.blockTags.filter fun entry => !standardTagNames.contains entry.1) =
      comment.blockTags.filter (·.1 ∉ standardTagNames) := by
    simp
  rw [unknownTagNotes, Comment.unknownBlockTags, List.map_map, chosen]
  congr 1
  apply List.map_congr_left
  intro entry listed
  have kind := Comment.kind_of_mem_blockTags (List.mem_of_mem_filter listed)
  simp [kind, TagKind.name_ofName]

theorem isDocumented_iff {param : Identifier} : isDocumented comment.knownBlockTags param = true ↔
    ∃ tag ∈ Tag.named "param" comment.blockTags,
      ("<" ++ param.text ++ ">").toList <+: tag.argumentText.toList := by
  rw [← Comment.knownBlockTags_params, isDocumented, List.any_eq_true]
  simp only [Bool.and_eq_true, List.isPrefixOf_iff_prefix, List.mem_filter, bracketed, and_assoc]

theorem missingParamNotes_eq (rule : TypeDoc) (decl : TypeDecl) (comment : Comment) :
    rule.missingParamNotes decl comment.knownBlockTags = if rule.allowMissingParam then [] else
      (decl.typeParams.filter fun param => ∀ tag ∈ Tag.named "param" comment.blockTags,
        ¬ ("<" ++ param.text ++ ">").toList <+: tag.argumentText.toList).map fun param =>
          ⟨decl.line, 0, .missingTypeTag ("@param <" ++ param.text ++ ">")⟩ := by
  rw [missingParamNotes]
  congr 1
  have chosen : (decl.typeParams.filter (!isDocumented comment.knownBlockTags ·)) =
      decl.typeParams.filter fun param => ∀ tag ∈ Tag.named "param" comment.blockTags,
        ¬ ("<" ++ param.text ++ ">").toList <+: tag.argumentText.toList := by
    apply List.filter_congr
    intro param _
    rw [Bool.eq_iff_iff, Bool.not_eq_true', ← Bool.not_eq_true, isDocumented_iff]
    simp
  rw [chosen]
  apply List.map_congr_left
  intro param _
  rw [bracketed, ← String.append_assoc, ← String.append_assoc]
  rfl

-- A report on each value by a rule that leaves no choice.
theorem forall₂_iff_map {α β : Type} {relation : α → β → Prop} {answer : α → β}
    (settled : ∀ value result, relation value result ↔ result = answer value)
    {values : List α} {results : List β} :
    List.Forall₂ relation values results ↔ results = values.map answer := by
  induction values generalizing results with
  | nil => simp
  | cons value rest ih => simp [List.forall₂_cons_left_iff, settled, ih]

theorem outermostReport_iff {notes : List Note} :
    rule.OutermostReport decl comment.blockTags notes ↔
      notes = rule.checkOutermost decl comment := by
  have author := comment.knownBlockTags_filter "author" (by decide)
  have version := comment.knownBlockTags_filter "version" (by decide)
  have params : ∀ groups, List.Forall₂ (ParamReport decl)
      (Tag.named "param" comment.blockTags).reverse groups ↔ groups = _ :=
    fun _ => forall₂_iff_map (paramReport_iff decl)
  simp only [OutermostReport, requirementReport_iff author, requirementReport_iff version, params,
    ← unknownTagNotes_eq, ← missingParamNotes_eq, ↓existsAndEq, true_and]
  rw [checkOutermost, List.filter_reverse, comment.knownBlockTags_params, List.flatMap_def]
  rfl

theorem typeReport_iff {comments : CommentIndex} {enclosing : List TypeDecl} {notes : List Note} :
    rule.TypeReport comments enclosing decl notes ↔
      notes = rule.checkType comments enclosing decl := by
  constructor
  next =>
    intro report
    cases report with
    | unchecked outside => simp [checkType, outside]
    | uncommented inside absent => simp [checkType, inside, absent]
    | nested inside found => simp [checkType, inside, found]
    | outermost inside found read noted =>
      rw [Comment.readsTags_blockTags.mp read] at noted
      simp [checkType, inside, found, outermostReport_iff.mp noted]
  next =>
    intro said
    subst said
    unfold checkType
    dsimp only
    split
    next outside => exact .unchecked (by simpa using outside)
    next inside =>
      have inside := Bool.not_eq_false _ ▸ (Bool.not_eq_true' _ ▸ inside)
      split
      next absent => exact .uncommented inside absent
      next comment found =>
        cases enclosing with
        | nil =>
          exact .outermost inside found (Comment.readsTags_blockTags.mpr rfl)
            (outermostReport_iff.mpr rfl)
        | cons outer rest => exact .nested inside found

theorem fileReport_iff {unit : CompilationUnit} {content : List Char} {notes : List Note} :
    rule.FileReport unit content notes ↔ notes = rule.notes unit content := by
  have settled : ∀ (found : TypeOccurrence) (group : List Note),
      rule.TypeReport (.ofUnit unit content) found.enclosing found.decl group ↔
        group = rule.checkType (.ofUnit unit content) found.enclosing found.decl :=
    fun _ _ => typeReport_iff
  rw [notes_occurrences, List.flatMap_def]
  constructor
  next =>
    intro ⟨reached, groups, ordered, complete, noted, said⟩
    rw [said, (forall₂_iff_map settled).mp noted,
      CompilationUnit.eq_typeOccurrences ordered complete]
  next =>
    intro said
    exact ⟨unit.typeOccurrences, _, unit.typeOccurrences_ordered,
      fun found => CompilationUnit.mem_typeOccurrences_iff, (forall₂_iff_map settled).mpr rfl, said⟩

theorem check_reports (rule : TypeDoc) (file : SourceFile) (unit : CompilationUnit) :
    (∃ findings, rule.check file unit = .ok findings) ∧
      ∀ findings, rule.check file unit = .ok findings ↔
        ∃ notes, rule.FileReport unit file.content notes ∧
          findings = notes.map (rule.reporter.finding file) := by
  constructor
  · exact ⟨_, rfl⟩
  · intro findings
    simp only [fileReport_iff, exists_eq_left, check, Except.ok.injEq]
    exact eq_comm

end TypeDoc

end DocAudit
