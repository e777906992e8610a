import DocAudit.Proofs.MethodWalk
import DocAudit.Proofs.Placeholders
import DocAudit.Proofs.RuleContributions
import DocAudit.Proofs.TypeOccurrence

set_option autoImplicit false

namespace DocAudit

namespace Message

def namedTags : List String := ["@param", "@throws", "@author", "@version"]

def LeadsWithTags (message : Message) : Prop :=
  ∀ argument ∈ message.arguments.dropLast, argument ∈ namedTags

instance (message : Message) : Decidable message.LeadsWithTags :=
  inferInstanceAs (Decidable (∀ argument ∈ message.arguments.dropLast, argument ∈ namedTags))

theorem leadsWithTags_short {message : Message} (short : message.arguments.length ≤ 1) :
    message.LeadsWithTags := by
  intro argument member
  have positive := List.length_pos_of_mem member
  rw [List.length_dropLast] at positive
  omega

theorem leadsWithTags_pair {message : Message} {tag name : String}
    (held : message.arguments = [tag, name]) (named : tag ∈ namedTags) :
    message.LeadsWithTags := by
  intro argument member
  rw [held] at member
  rwa [List.mem_singleton.mp member]

theorem isLaidOut (message : Message) : message.arguments.length = 0 ∨
    IsLaidOut message.arguments.length (template message.key).toList := by
  cases message <;> dsimp only [arguments, key, List.length] <;> decide +kernel

theorem LeadsWithTags.unbraced {message : Message} (leads : message.LeadsWithTags) :
    ∀ argument ∈ message.arguments.dropLast, '{' ∉ argument.toList := by
  have plain : ∀ argument ∈ namedTags, '{' ∉ argument.toList := by decide
  exact fun argument member => plain argument (leads argument member)

theorem text_eq (message : Message) :
    message.text.toList = fill 0 message.arguments (template message.key).toList := by
  rw [text, render, String.toList_ofList]

theorem LeadsWithTags.fills {message : Message} (leads : message.LeadsWithTags) :
    Fills message.arguments (template message.key).toList message.text.toList := by
  rw [text_eq]
  rcases message.isLaidOut with none | laid
  next =>
    rw [List.eq_nil_of_length_eq_zero none]
    exact fills_nothing _
  next => exact (laid.carries leads.unbraced).fills

theorem LeadsWithTags.within {message : Message} (leads : message.LeadsWithTags) {argument : String}
    (member : argument ∈ message.arguments) : argument.toList <:+: message.text.toList := by
  rw [text_eq]
  rcases message.isLaidOut with none | laid
  next =>
    rw [List.eq_nil_of_length_eq_zero none] at member
    cases member
  next => exact laid.within leads.unbraced member

end Message

def Note.AllLead (notes : List Note) : Prop := ∀ note ∈ notes, note.message.LeadsWithTags

namespace Note

theorem allLead_append {first second : List Note} :
    AllLead (first ++ second) ↔ AllLead first ∧ AllLead second := List.forall_mem_append

theorem allLead_nil : AllLead [] := List.forall_mem_nil _

theorem allLead_singleton {note : Note} : AllLead [note] ↔ note.message.LeadsWithTags :=
  List.forall_mem_singleton

theorem allLead_map {α : Type} {items : List α} {note : α → Note}
    (leads : ∀ item, (note item).message.LeadsWithTags) : AllLead (items.map note) := by
  intro found listed
  obtain ⟨item, _, rfl⟩ := List.mem_map.mp listed
  exact leads item

theorem allLead_flatMap {α : Type} {items : List α} {notes : α → List Note}
    (leads : ∀ item, AllLead (notes item)) : AllLead (items.flatMap notes) := by
  intro found listed
  obtain ⟨item, _, member⟩ := List.mem_flatMap.mp listed
  exact leads item found member

theorem allLead_unless {held : Prop} [Decidable held] {notes : List Note} (leads : AllLead notes) :
    AllLead (if held then notes else []) := by
  split
  · exact leads
  · exact allLead_nil

end Note

open Message (leadsWithTags_short leadsWithTags_pair)

namespace MethodDoc

open Note

variable {rule : MethodDoc} {classes : ClassHierarchy}

theorem scanParam_lead {lines : List String} {report : Bool} {scan : ParamScan}
    (leads : AllLead scan.notes) (entry : Identifier × String) :
    AllLead (rule.scanParam lines report scan entry).notes := by
  unfold scanParam
  dsimp only
  split
  next => exact leads
  split
  next => exact leads
  split
  next => exact leads
  split
  next =>
    rw [allLead_append, allLead_singleton]
    exact ⟨leads, leadsWithTags_pair rfl (by decide)⟩
  next => exact leads

theorem checkParams_lead (decl : MethodDecl) (lines : List String) (report : Bool)
    (tags : List Tag) : AllLead (rule.checkParams decl lines report tags).1 := by
  have scanned : AllLead
      (decl.documentable.foldl (rule.scanParam lines report) ⟨tags, false, false, []⟩).notes :=
    List.foldlRecOn (motive := fun scan : ParamScan => AllLead scan.notes) _ _ allLead_nil
      fun _ leads entry _ => scanParam_lead leads entry
  rw [checkParams, List.partition_eq_filter_filter]
  simp only [allLead_append]
  refine ⟨⟨scanned, allLead_unless (allLead_singleton.mpr (leadsWithTags_short (Nat.zero_le 1)))⟩,
    allLead_map fun tag => leadsWithTags_pair rfl (by decide)⟩

theorem unresolvedNotes_lead (line column : Nat) (name : String) :
    AllLead (rule.unresolvedNotes line column name) :=
  allLead_unless (allLead_singleton.mpr (leadsWithTags_pair rfl (by decide)))

theorem matchClass_lead (documented : Option String) (declared : List DeclaredException) :
    AllLead (rule.matchClass classes documented declared).notes := by
  induction declared with
  | nil => exact allLead_nil
  | cons entry rest ih =>
    unfold matchClass
    extract_lets isNews notes seen
    have here : AllLead notes := allLead_unless (unresolvedNotes_lead _ _ _)
    split
    next =>
      split
      next => exact here
      split
      next => exact here
      next => exact allLead_append.mpr ⟨here, ih⟩
    next => exact allLead_append.mpr ⟨here, ih⟩

theorem scanThrows_lead {scan : ThrowsScan} (leads : AllLead scan.notes) (tag : Tag) :
    AllLead (rule.scanThrows classes scan tag).notes := by
  unfold scanThrows
  split
  next => exact leads
  next =>
    simp only [allLead_append]
    refine ⟨⟨⟨leads, allLead_unless (unresolvedNotes_lead _ _ _)⟩, matchClass_lead _ _⟩, ?_⟩
    split
    next => exact allLead_nil
    next => exact allLead_singleton.mpr (leadsWithTags_pair rfl (by decide))

theorem checkThrows_lead (decl : MethodDecl) (report : Bool) (tags : List Tag) :
    AllLead (rule.checkThrows classes decl report tags).1 := by
  have scanned : AllLead ((tags.filter Tag.isThrows).foldl (rule.scanThrows classes)
      ⟨declaredExceptions classes decl, []⟩).notes :=
    List.foldlRecOn (motive := fun scan : ThrowsScan => AllLead scan.notes) _ _ allLead_nil
      fun _ leads tag _ => scanThrows_lead leads tag
  rw [checkThrows, List.partition_eq_filter_filter]
  exact allLead_append.mpr ⟨scanned,
    allLead_unless (allLead_map fun entry => leadsWithTags_pair rfl (by decide))⟩

theorem checkReturn_lead (decl : MethodDecl) (lines : List String) (report : Bool)
    (tags : List Tag) : AllLead (rule.checkReturn decl lines report tags).1 := by
  rw [checkReturn, List.partition_eq_filter_filter]
  exact allLead_append.mpr ⟨allLead_map fun tag => leadsWithTags_short (Nat.le_refl 1),
    allLead_unless (allLead_singleton.mpr (leadsWithTags_short (Nat.zero_le 1)))⟩

theorem leftoverNotes_lead (tags : List Tag) : AllLead (leftoverNotes tags) :=
  allLead_map fun _ => leadsWithTags_short (Nat.zero_le 1)

theorem checkSignature_lead (decl : MethodDecl) (lines : List String) (tags : List Tag) :
    AllLead (rule.checkSignature classes decl lines tags).1 := by
  unfold checkSignature
  simp only [allLead_append]
  refine ⟨⟨checkParams_lead _ _ _ _, checkThrows_lead _ _ _⟩, ?_⟩
  split
  next => exact checkReturn_lead _ _ _ _
  next => exact allLead_nil

theorem checkComment_lead (decl : MethodDecl) (lines : List String) (tags : List Tag) :
    AllLead (rule.checkComment classes decl lines tags) := by
  unfold checkComment
  split
  next =>
    split
    next => exact allLead_nil
    next => exact allLead_singleton.mpr (leadsWithTags_short (Nat.zero_le 1))
  split
  next => exact leftoverNotes_lead tags
  next => exact allLead_append.mpr ⟨checkSignature_lead decl lines tags, leftoverNotes_lead _⟩

theorem checkMethod_lead (shared : Surroundings) (enclosing : List TypeDecl) (decl : MethodDecl) :
    AllLead (rule.checkMethod shared enclosing decl) := by
  unfold checkMethod
  dsimp only
  split
  next => exact allLead_nil
  split
  next => exact allLead_nil
  split
  next => exact checkComment_lead _ _ _
  split
  next => exact allLead_nil
  next => exact allLead_singleton.mpr (leadsWithTags_short (Nat.zero_le 1))

theorem notes_lead (rule : MethodDoc) (unit : CompilationUnit) (content : List Char) :
    AllLead (rule.notes unit content) := by
  rw [notes_eq]
  exact allLead_flatMap fun occurrence => checkMethod_lead _ occurrence.enclosing occurrence.decl

end MethodDoc

namespace TypeDoc

open Note

variable {rule : TypeDoc}

theorem requirementNotes_lead (line : Nat) (tags : List Tag) (kind : TagKind) {display : String}
    (named : display ∈ Message.namedTags) (requirement : TagRequirement) :
    AllLead (requirementNotes line tags kind display requirement) := by
  unfold requirementNotes
  dsimp only
  split
  next => exact allLead_nil
  split
  next => exact allLead_singleton.mpr (leadsWithTags_short (Nat.le_refl 1))
  split
  next => exact allLead_nil
  next => exact allLead_map fun _ => leadsWithTags_pair rfl named

theorem paramTagNotes_lead (decl : TypeDecl) (tag : Tag) : AllLead (paramTagNotes decl tag) := by
  unfold paramTagNotes
  split
  next =>
    dsimp only
    split
    next => exact allLead_nil
    next => exact allLead_singleton.mpr (leadsWithTags_pair rfl (by decide))
  next => exact allLead_singleton.mpr (leadsWithTags_short (Nat.zero_le 1))

theorem checkOutermost_lead (decl : TypeDecl) (comment : Comment) :
    AllLead (rule.checkOutermost decl comment) := by
  unfold checkOutermost
  simp only [allLead_append]
  refine ⟨⟨⟨⟨?unknown, requirementNotes_lead _ _ _ (by decide) _⟩,
    requirementNotes_lead _ _ _ (by decide) _⟩, ?missing⟩,
    allLead_flatMap (paramTagNotes_lead decl)⟩
  case unknown =>
    unfold unknownTagNotes
    split
    · exact allLead_nil
    · exact allLead_map fun _ => leadsWithTags_short (Nat.le_refl 1)
  case missing =>
    unfold missingParamNotes
    split
    · exact allLead_nil
    · exact allLead_map fun _ => leadsWithTags_short (Nat.le_refl 1)

theorem checkType_lead (comments : CommentIndex) (enclosing : List TypeDecl) (decl : TypeDecl) :
    AllLead (rule.checkType comments enclosing decl) := by
  unfold checkType
  dsimp only
  split
  next => exact allLead_nil
  split
  next => exact allLead_singleton.mpr (leadsWithTags_short (Nat.zero_le 1))
  next => exact allLead_unless (checkOutermost_lead decl _)

theorem notes_lead (rule : TypeDoc) (unit : CompilationUnit) (content : List Char) :
    AllLead (rule.notes unit content) := by
  rw [notes_occurrences]
  exact allLead_flatMap fun found => checkType_lead _ found.enclosing found.decl

end TypeDoc

theorem CommentFinding.note_lead (finding : CommentFinding) :
    finding.note.message.LeadsWithTags := by
  obtain ⟨line, column, fault, style⟩ := finding
  cases fault <;> exact leadsWithTags_short (Nat.le_refl 1)

-- Every finding of a rule is made from a note, by the same reporter.
theorem Rule.check_lead {rule : Rule} {file : SourceFile} {unit : CompilationUnit}
    {found : List Finding} (checked : rule.check file unit = .ok found) :
    ∃ notes, Note.AllLead notes ∧ found = notes.map (rule.reporter.finding file) := by
  cases rule with
  | commentPlacement rule =>
    obtain ⟨findings, rfl⟩ := CommentPlacement.check_reported checked
    exact ⟨_, Note.allLead_map CommentFinding.note_lead, rfl⟩
  | methodDoc rule =>
    cases checked
    exact ⟨_, rule.notes_lead unit file.content, rfl⟩
  | typeDoc rule =>
    cases checked
    exact ⟨_, rule.notes_lead unit file.content, rfl⟩

theorem Rule.check_messages {rule : Rule} {file : SourceFile} {unit : CompilationUnit}
    {found : List Finding} (checked : rule.check file unit = .ok found) :
    ∀ finding ∈ found, ∃ key, finding.messageKey = some key ∧
      (∀ text, Message.Fills finding.arguments (Message.template key).toList text ↔
        text = finding.message.toList) ∧
      ∀ argument ∈ finding.arguments, argument.toList <:+: finding.message.toList := by
  obtain ⟨notes, leads, rfl⟩ := check_lead checked
  intro finding listed
  obtain ⟨note, member, rfl⟩ := List.mem_map.mp listed
  have lead := leads note member
  refine ⟨note.message.key, rfl, fun text => ⟨lead.fills.unique, ?_⟩, fun argument => lead.within⟩
  rintro rfl
  exact lead.fills

-- The comment of a class describes a type parameter whose name is a placeholder.
private def bracedFile : SourceFile :=
  ⟨⟨[]⟩, "/**\n * @param <\x7b1\x7d> the key\n */\nclass A \x7b\x7d\n".toList⟩

private def bracedUnit : CompilationUnit :=
  ⟨[⟨.classType, "A", 4, 0, 4, .none, [], none, []⟩],
    [⟨.block, 1, 0, 3, ["/**", " * @param <\x7b1\x7d> the key", " */"]⟩], 4⟩

theorem Rule.check_messages_braced :
    ∃ found finding key, (Rule.typeDoc .standard).check bracedFile bracedUnit = .ok found ∧
      finding ∈ found ∧ finding.messageKey = some key ∧
      finding.message = "Unused @param tag for '<\x7b1\x7d>'." ∧
      Message.Fills finding.arguments (Message.template key).toList finding.message.toList := by
  have notes : TypeDoc.standard.notes bracedUnit bracedFile.content =
      [⟨2, 3, .unusedTag "@param" "<\x7b1\x7d>"⟩] := by decide +kernel
  have checked : (Rule.typeDoc .standard).check bracedFile bracedUnit =
      .ok [TypeDoc.standard.reporter.finding bracedFile
        ⟨2, 3, .unusedTag "@param" "<\x7b1\x7d>"⟩] := by
    rw [Rule.check, TypeDoc.check, notes]
    rfl
  obtain ⟨key, keyed, fills, _⟩ := Rule.check_messages checked _ (List.mem_singleton_self _)
  exact ⟨_, _, key, checked, List.mem_singleton_self _, keyed, by decide, (fills _).mpr rfl⟩

end DocAudit
