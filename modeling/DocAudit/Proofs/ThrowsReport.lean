import DocAudit.Proofs.ClassAncestry
import DocAudit.Proofs.SubclassTolerance

set_option autoImplicit false

namespace DocAudit

namespace Message

def isUnusedThrows : Message → Bool
  | .unusedTag tag _ => tag == "@throws"
  | _ => false

theorem isUnusedThrows_of_isExpectedThrows {message : Message}
    (missing : message.isExpectedThrows = true) : message.isUnusedThrows = false := by
  cases message <;> simp_all [isUnusedThrows, isExpectedThrows]

theorem isClassInfo_of_isExpectedThrows {message : Message}
    (missing : message.isExpectedThrows = true) : message.isClassInfo = false := by
  cases message <;> simp_all [isClassInfo, isExpectedThrows]

end Message

namespace ClassHierarchy

variable {hierarchy : ClassHierarchy}

/-- On the way up lies one of the two classes below which nothing has to be declared. -/
def Unchecked (hierarchy : ClassHierarchy) (name : String) : Prop :=
  ∃ root ∈ ["RuntimeException", "Error"], root ∈ hierarchy.names ∧ hierarchy.Reaches name root

theorem resolve?_eq_some_iff {name own : String} :
    hierarchy.resolve? name = some own ↔ simpleName name = own ∧ own ∈ hierarchy.names := by
  rw [resolve?]
  split
  next known =>
    rw [superclass?_isSome_iff] at known
    rw [Option.some.injEq]
    exact ⟨fun same => ⟨same, same ▸ known⟩, And.left⟩
  next unknown =>
    rw [superclass?_isSome_iff] at unknown
    simp only [reduceCtorEq, false_iff]
    rintro ⟨rfl, known⟩
    exact unknown known

theorem isUnchecked_iff (name : String) :
    hierarchy.isUnchecked name = true ↔ hierarchy.Unchecked name := by
  have simple : ∀ root ∈ ["RuntimeException", "Error"], simpleName root = root := by
    decide +kernel
  rw [isUnchecked, List.any_eq_true]
  refine exists_congr fun root => and_congr_right fun member => ?_
  rw [Option.any_eq_true]
  constructor
  · rintro ⟨own, resolved, below⟩
    obtain ⟨same, known⟩ := resolve?_eq_some_iff.mp resolved
    rw [simple root member] at same
    subst same
    exact ⟨known, (isSubclass_iff_reaches name root).mp below⟩
  · rintro ⟨known, reached⟩
    exact ⟨root, resolve?_eq_some_iff.mpr ⟨simple root member, known⟩,
      (isSubclass_iff_reaches name root).mpr reached⟩

end ClassHierarchy

namespace MethodDoc

/-- Nothing in the clause and no tolerance accounts for a tag with this text. -/
structure Unaccounted (rule : MethodDoc) (classes : ClassHierarchy) (throws : List Identifier)
    (text : String) : Prop where
  unnamed : ∀ name ∈ throws, name.text ≠ text
  unrelated : ∀ own, classes.resolve? text = some own → ∀ name ∈ throws, ∀ target,
    classes.resolve? name.text = some target →
      target ≠ own ∧ (rule.allowSubclassThrows = true → ¬ classes.Reaches own target)
  checked : rule.allowUndeclaredUnchecked = true →
    ∀ own, classes.resolve? text = some own → ¬ classes.Unchecked own

/-- The exception a tag stands for: the first one spelled like it, or where none is, the first
one of its class. -/
def Documents (classes : ClassHierarchy) (throws : List Identifier) (text : String)
    (index : Nat) : Prop :=
  throws.findIdx? (·.text == text) = some index ∨
    throws.findIdx? (·.text == text) = none ∧ ∃ own ∈ classes.resolve? text,
      throws.findIdx? (fun name => classes.resolve? name.text == some own) = some index

instance (classes : ClassHierarchy) (throws : List Identifier) (text : String) (index : Nat) :
    Decidable (Documents classes throws text index) :=
  inferInstanceAs (Decidable (_ ∨ _))

def LacksClass (classes : ClassHierarchy) (throws : List Identifier) (text : String) : Prop :=
  (∀ name ∈ throws, name.text ≠ text) ∧ classes.resolve? text = none

instance (classes : ClassHierarchy) (throws : List Identifier) (text : String) :
    Decidable (LacksClass classes throws text) :=
  inferInstanceAs (Decidable (_ ∧ _))

def unusedThrowsNote (tag : Tag) : Note :=
  ⟨tag.line, tag.column, .unusedTag "@throws" tag.argumentText⟩

def missingThrowsNote (name : Identifier) : Note :=
  ⟨name.line, name.column, .expectedTag "@throws" name.text⟩

def unknownTagClassNote (tag : Tag) : Note :=
  ⟨tag.line, tag.column, .classInfo "@throws" tag.argumentText⟩

def unknownClassNote (name : Identifier) : Note :=
  ⟨name.line, name.column, .classInfo "@throws" name.text⟩

section Accounts

variable {rule : MethodDoc} {classes : ClassHierarchy} {throws : List Identifier}

theorem stopsAt_iff (own : String) (name : Identifier) :
    rule.stopsAt classes (some own) name = true ↔ ∃ target,
      classes.resolve? name.text = some target ∧
        (target = own ∨ rule.allowSubclassThrows = true ∧ classes.Reaches own target) := by
  cases resolved : classes.resolve? name.text with
  | none => simp [stopsAt, resolved]
  | some target =>
    simp only [stopsAt, resolved, Bool.or_eq_true, Bool.and_eq_true, beq_iff_eq,
      ClassHierarchy.isSubclass_iff_reaches, Option.some.injEq, exists_eq_left']
    rw [eq_comm]

theorem stopsAt_unresolved (name : Identifier) : rule.stopsAt classes none name = false := rfl

theorem textIndex?_eq_none_iff (text : String) :
    textIndex? throws text = none ↔ ∀ name ∈ throws, name.text ≠ text := by
  simp [textIndex?, List.findIdx?_eq_none_iff]

theorem classIndex?_eq_none_iff (documented : Option String) :
    rule.classIndex? classes throws documented = none ↔
      ∀ own, documented = some own → ∀ name ∈ throws, ∀ target,
        classes.resolve? name.text = some target →
          target ≠ own ∧ (rule.allowSubclassThrows = true → ¬ classes.Reaches own target) := by
  rw [classIndex?, List.findIdx?_eq_none_iff]
  cases documented with
  | none => simp [stopsAt_unresolved]
  | some own =>
    simp only [← Bool.not_eq_true, stopsAt_iff, Option.some.injEq, forall_eq']
    refine forall₂_congr fun name _ => ?_
    simp only [not_exists, not_and, not_or]

theorem isUnusedThrows_iff (text : String) :
    rule.isUnusedThrows classes throws text = true ↔
      Unaccounted rule classes throws text := by
  have tolerated : (!(rule.allowUndeclaredUnchecked &&
        (classes.resolve? text).any classes.isUnchecked)) = true ↔
      (rule.allowUndeclaredUnchecked = true →
        ∀ own, classes.resolve? text = some own → ¬ classes.Unchecked own) := by
    cases classes.resolve? text with
    | none => simp
    | some own =>
      simp only [Option.any_some, Option.some.injEq, forall_eq', ← ClassHierarchy.isUnchecked_iff]
      cases rule.allowUndeclaredUnchecked <;> simp
  rw [isUnusedThrows, Bool.and_eq_true, Bool.and_eq_true, Option.isNone_iff_eq_none,
    Option.isNone_iff_eq_none, textIndex?_eq_none_iff, classIndex?_eq_none_iff, tolerated]
  constructor
  · rintro ⟨⟨unnamed, unrelated⟩, checked⟩
    exact ⟨unnamed, unrelated, checked⟩
  · intro left
    exact ⟨⟨left.unnamed, left.unrelated⟩, left.checked⟩

instance (text : String) : Decidable (Unaccounted rule classes throws text) :=
  decidable_of_iff _ (isUnusedThrows_iff text)

-- Without tolerance the search for a class ends only at an exception of that very class.
theorem marks_iff_documents (off : rule.allowSubclassThrows = false) (text : String)
    (index : Nat) :
    rule.marks classes throws text index = true ↔ Documents classes throws text index := by
  rw [marks, Documents, ← textIndex?]
  cases textIndex? throws text with
  | some marked => simp
  | none =>
    simp only [reduceCtorEq, true_and, false_or, foundByClass, classIndex?]
    cases classes.resolve? text with
    | none =>
      have never : throws.findIdx? (rule.stopsAt classes none) = none :=
        List.findIdx?_eq_none_iff.mpr fun name _ => stopsAt_unresolved name
      simp [never]
    | some own =>
      have same : rule.stopsAt classes (some own) =
          fun name => classes.resolve? name.text == some own := by
        funext name
        rw [Bool.eq_iff_iff, stopsAt_strict off, beq_iff_eq]
      simp only [same, Option.mem_some_iff, exists_eq_left', Bool.and_eq_true, beq_iff_eq,
        and_iff_left_iff_imp]
      intro found
      obtain ⟨name, present, resolved, _⟩ := (findIdx?_first_iff _ _ _).mp found
      simpa [present] using resolved

end Accounts

section Filters

variable {rule : MethodDoc}

theorem flatMap_singleton_if {α : Type} (values : List α) (test : α → Bool) (note : α → Note) :
    (values.flatMap fun value => if test value then [note value] else []) =
      (values.filter test).map note := by
  induction values with
  | nil => rfl
  | cons value rest ih => cases here : test value <;> simp [here, ih]

theorem newsNotes_logged (on : rule.logUnresolved = true) (throws : List Identifier)
    (fresh : Nat → Bool) :
    rule.newsNotes throws fresh =
      ((throws.zipIdx.filter fun (_, index) => fresh index).map (·.1)).map unknownClassNote := by
  simp only [newsNotes, unresolvedNotes, on, if_true, List.map_map]
  exact flatMap_singleton_if _ _ _

end Filters

section Report

variable (rule : MethodDoc) (classes : ClassHierarchy) (throws : List Identifier)

theorem unusedTagNotes_eq (tag : Tag) :
    rule.unusedTagNotes classes throws tag =
      if Unaccounted rule classes throws tag.argumentText then [unusedThrowsNote tag] else [] := by
  simp only [unusedTagNotes, isUnusedThrows_iff]
  rfl

-- What a tag adds to the report on unused tags does not depend on the tags before it.
theorem scanThrows_unused (found reported : Nat → Bool) (notes : List Note) (tag : Tag) :
    (rule.scanThrows classes ⟨declaredState classes throws found reported, notes⟩
        tag).notes.filter (·.message.isUnusedThrows) =
      notes.filter (·.message.isUnusedThrows) ++
        if Unaccounted rule classes throws tag.argumentText then [unusedThrowsNote tag]
        else [] := by
  have noTag : (rule.unresolvedTagNotes classes throws tag).filter (·.message.isUnusedThrows) =
      [] :=
    filter_isClassInfo (fun _ _ => rfl) (rule.unresolvedTagNotes_isClassInfo classes throws tag)
  have noNews : ∀ fresh, (rule.newsNotes throws fresh).filter (·.message.isUnusedThrows) = [] :=
    fun fresh => filter_isClassInfo (fun _ _ => rfl) (rule.newsNotes_isClassInfo throws fresh)
  rw [scanThrows_state, unusedTagNotes_eq]
  simp only [List.filter_append, noTag, noNews, List.append_nil]
  split <;> simp [unusedThrowsNote, Message.isUnusedThrows]

theorem scanThrows_run_unused (tags : List Tag) (found reported : Nat → Bool)
    (notes : List Note) :
    (tags.foldl (rule.scanThrows classes)
        ⟨declaredState classes throws found reported, notes⟩).notes.filter
          (·.message.isUnusedThrows) =
      notes.filter (·.message.isUnusedThrows) ++
        (tags.filter fun tag => Unaccounted rule classes throws tag.argumentText).map
          unusedThrowsNote := by
  induction tags generalizing found reported notes with
  | nil => simp
  | cons tag rest ih =>
    have step := rule.scanThrows_unused classes throws found reported notes tag
    rw [scanThrows_state] at step
    rw [List.foldl_cons, scanThrows_state, ih, step, List.append_assoc]
    by_cases unaccounted : Unaccounted rule classes throws tag.argumentText <;> simp [unaccounted]

theorem missingThrowsNotes_state (found reported : Nat → Bool) :
    missingThrowsNotes (declaredState classes throws found reported) =
      (throws.zipIdx.filter fun (_, index) => !found index).map fun (name, _) =>
        missingThrowsNote name := by
  rw [missingThrowsNotes, declaredState, List.mapIdx_eq_zipIdx_map, List.filter_map, List.map_map]
  rfl

theorem markedBy_iff (off : rule.allowSubclassThrows = false) (tags : List Tag) (index : Nat) :
    rule.markedBy classes throws tags index = true ↔
      ∃ tag ∈ tags, tag.isThrows = true ∧ Documents classes throws tag.argumentText index := by
  simp only [markedBy, List.any_eq_true, List.mem_filter, marks_iff_documents off, and_assoc]

theorem unresolvedTagNotes_logged (on : rule.logUnresolved = true) (tag : Tag) :
    rule.unresolvedTagNotes classes throws tag =
      if LacksClass classes throws tag.argumentText then [unknownTagClassNote tag] else [] := by
  simp only [unresolvedTagNotes, unresolvedNotes, on, if_true, Bool.and_eq_true,
    Option.isNone_iff_eq_none, textIndex?_eq_none_iff]
  rfl

theorem isClassInfo_kept {notes : List Note}
    (about : ∀ note ∈ notes, note.message.isClassInfo = true) :
    notes.filter (·.message.isClassInfo) = notes :=
  List.filter_eq_self.mpr about

-- Each tag whose class is looked for in vain, and once each exception that some tag passes by.
theorem scanThrows_run_classInfo (on : rule.logUnresolved = true) (tags : List Tag)
    (found reported : Nat → Bool) :
    ((tags.foldl (rule.scanThrows classes)
        ⟨declaredState classes throws found reported, []⟩).notes.filter
          (·.message.isClassInfo)).Perm
      ((tags.filter fun tag => LacksClass classes throws tag.argumentText).map
          unknownTagClassNote ++
        rule.newsNotes throws fun index =>
          (tags.any fun tag => rule.passes classes throws tag.argumentText index) &&
            !reported index) := by
  refine ((rule.scanThrows_run_notes classes throws tags found reported []).filter _).trans
    (.of_eq ?_)
  rw [List.nil_append, List.filter_append, isClassInfo_kept (rule.newsNotes_isClassInfo throws _),
    List.filter_flatMap, ← flatMap_singleton_if]
  congr 1
  refine List.flatMap_congr fun tag _ => ?_
  rw [List.filter_append, isClassInfo_kept (rule.unresolvedTagNotes_isClassInfo classes throws tag),
    unusedTagNotes_eq, unresolvedTagNotes_logged rule classes throws on]
  split <;> split <;> simp_all [unusedThrowsNote, Message.isClassInfo]

theorem resolve?_of_passes {text : String} {index : Nat} {name : Identifier}
    (declared : throws[index]? = some name)
    (passed : rule.passes classes throws text index = true) :
    classes.resolve? name.text = none := by
  have unknown := (Bool.and_eq_true_iff.mp (Bool.and_eq_true_iff.mp passed).2).2
  simpa [declared] using unknown

theorem filter_isThrows (tags : List Tag) (test : Tag → Prop) [DecidablePred test] :
    ((tags.filter Tag.isThrows).filter fun tag => test tag) =
      tags.filter fun tag => tag.isThrows = true ∧ test tag := by
  simp [List.filter_filter, and_comm]

variable (decl : MethodDecl) (report : Bool) (tags : List Tag)

theorem filter_undocumentedNotes {test : Message → Bool}
    (silent : ∀ message : Message, message.isExpectedThrows = true → test message = false) :
    ((rule.undocumentedNotes classes decl report tags).filter fun note => test note.message) =
      [] := by
  refine List.filter_eq_nil_iff.mpr fun note member => ?_
  have missing := rule.undocumentedNotes_isExpectedThrows classes decl report tags note member
  simp [silent note.message missing]

theorem checkThrows_unused :
    (rule.checkThrows classes decl report tags).1.filter (·.message.isUnusedThrows) =
      (tags.filter fun tag => tag.isThrows = true ∧
        Unaccounted rule classes decl.throws tag.argumentText).map unusedThrowsNote := by
  have quiet := rule.filter_undocumentedNotes classes decl report tags
    fun _ => Message.isUnusedThrows_of_isExpectedThrows
  rw [checkThrows_eq, List.filter_append, scanThrows_run_unused, quiet, List.filter_nil,
    List.nil_append, List.append_nil, filter_isThrows]

theorem checkThrows_missing (strict : rule.allowSubclassThrows = false)
    (asks : rule.allowMissingThrows = false) :
    (rule.checkThrows classes decl true tags).1.filter (·.message.isExpectedThrows) =
      (decl.throws.zipIdx.filter fun (_, index) => ¬ ∃ tag ∈ tags, tag.isThrows = true ∧
        Documents classes decl.throws tag.argumentText index).map fun (name, _) =>
          missingThrowsNote name := by
  change rule.expectedThrows classes decl true tags = _
  rw [expectedThrows_eq, undocumentedNotes, asks]
  simp only [Bool.not_false, Bool.and_self, if_true]
  rw [missingThrowsNotes_state]
  congr 1
  apply List.filter_congr
  rintro ⟨_, index⟩ _
  simp only [← rule.markedBy_iff classes decl.throws strict]
  cases rule.markedBy classes decl.throws tags index <;> rfl

-- The exceptions of unknown class that the tags pass by, each taken once.
def passedNames : List Identifier :=
  (decl.throws.zipIdx.filter fun (_, index) => rule.passedBy classes decl.throws tags index).map
    (·.1)

theorem passedNames_sublist : (rule.passedNames classes decl tags).Sublist decl.throws := by
  have kept : (rule.passedNames classes decl tags).Sublist (decl.throws.zipIdx.map (·.1)) :=
    List.Sublist.map Prod.fst List.filter_sublist
  simpa using kept

theorem resolve?_of_mem_passedNames :
    ∀ name ∈ rule.passedNames classes decl tags, classes.resolve? name.text = none := by
  intro name member
  obtain ⟨⟨_, index⟩, kept, rfl⟩ := List.mem_map.mp member
  obtain ⟨listed, passed⟩ := List.mem_filter.mp kept
  obtain ⟨tag, _, passes⟩ := List.any_eq_true.mp passed
  exact rule.resolve?_of_passes classes decl.throws (List.mk_mem_zipIdx_iff_getElem?.mp listed)
    passes

theorem checkThrows_classInfo (logs : rule.logUnresolved = true) :
    ((rule.checkThrows classes decl report tags).1.filter (·.message.isClassInfo)).Perm
      ((tags.filter fun tag => tag.isThrows = true ∧
          LacksClass classes decl.throws tag.argumentText).map unknownTagClassNote ++
        (rule.passedNames classes decl tags).map unknownClassNote) := by
  have quiet := rule.filter_undocumentedNotes classes decl report tags
    fun _ => Message.isClassInfo_of_isExpectedThrows
  have run := rule.scanThrows_run_classInfo classes decl.throws logs (tags.filter Tag.isThrows)
    (fun _ => false) (fun _ => false)
  simp only [filter_isThrows, Bool.not_false, Bool.and_true] at run
  rw [checkThrows_eq, List.filter_append, quiet, List.append_nil, passedNames,
    ← newsNotes_logged logs]
  exact run

theorem checkThrows_quiet (off : rule.logUnresolved = false) :
    (rule.checkThrows classes decl report tags).1.filter (·.message.isClassInfo) = [] := by
  have quiet := rule.filter_undocumentedNotes classes decl report tags
    fun _ => Message.isClassInfo_of_isExpectedThrows
  have run := rule.scanThrows_run_notes classes decl.throws (tags.filter Tag.isThrows)
    (fun _ => false) (fun _ => false) []
  have silent : ∀ tag,
      (rule.unusedTagNotes classes decl.throws tag).filter (·.message.isClassInfo) = [] := by
    intro tag
    rw [unusedTagNotes_eq]
    split <;> rfl
  rw [checkThrows_eq, List.filter_append, quiet, List.append_nil]
  refine List.perm_nil.mp ((run.filter _).trans (.of_eq ?_))
  simp [newsNotes, unresolvedTagNotes, unresolvedNotes, off, List.filter_flatMap, silent]

end Report

theorem checkThrows_reports (rule : MethodDoc) (classes : ClassHierarchy) (decl : MethodDecl)
    (report : Bool) (tags : List Tag) :
    (rule.checkThrows classes decl report tags).1.filter (·.message.isUnusedThrows) =
        (tags.filter fun tag => tag.isThrows = true ∧
          Unaccounted rule classes decl.throws tag.argumentText).map unusedThrowsNote ∧
      (rule.allowSubclassThrows = false → rule.allowMissingThrows = false → report = true →
        (rule.checkThrows classes decl report tags).1.filter (·.message.isExpectedThrows) =
          (decl.throws.zipIdx.filter fun (_, index) => ¬ ∃ tag ∈ tags, tag.isThrows = true ∧
            Documents classes decl.throws tag.argumentText index).map fun (name, _) =>
              missingThrowsNote name) ∧
      (rule.logUnresolved = true → ∃ named : List Identifier, named.Sublist decl.throws ∧
        (∀ name ∈ named, classes.resolve? name.text = none) ∧
        ((rule.checkThrows classes decl report tags).1.filter (·.message.isClassInfo)).Perm
          ((tags.filter fun tag => tag.isThrows = true ∧
              LacksClass classes decl.throws tag.argumentText).map unknownTagClassNote ++
            named.map unknownClassNote)) ∧
      (rule.logUnresolved = false →
        (rule.checkThrows classes decl report tags).1.filter (·.message.isClassInfo) = []) := by
  refine ⟨rule.checkThrows_unused classes decl report tags, fun strict asks reports => ?_,
    fun logs => ?_, rule.checkThrows_quiet classes decl report tags⟩
  · rw [reports]
    exact rule.checkThrows_missing classes decl tags strict asks
  · exact ⟨rule.passedNames classes decl tags, rule.passedNames_sublist classes decl tags,
      rule.resolve?_of_mem_passedNames classes decl tags,
      rule.checkThrows_classInfo classes decl report tags logs⟩

private def fetch : MethodDecl where
  kind := .method
  name := ⟨"fetch", 9, 9⟩
  line := 9
  column := 4
  endLine := 9
  modifiers := .none
  typeParams := []
  params := []
  throws := [⟨"Missing", 9, 24⟩, ⟨"IOException", 9, 33⟩, ⟨"java.io.IOException", 9, 46⟩]
  result := .nothing
  body := none

private def fetchTags : List Tag :=
  [⟨2, 7, .throws, some "io.IOException"⟩, ⟨3, 7, .param, some "Gone"⟩,
    ⟨4, 7, .exception, some "Gone"⟩, ⟨5, 7, .throws, some "Gone"⟩]

-- One class behind two spellings, an exception and a repeated tag that no known class stands for.
theorem checkThrows_reports_fetch :
    (checkThrows { standard with logUnresolved := true } .standard fetch true
        fetchTags).1.filter (·.message.isExpectedThrows) =
        [⟨9, 24, .expectedTag "@throws" "Missing"⟩,
          ⟨9, 46, .expectedTag "@throws" "java.io.IOException"⟩] ∧
      (checkThrows { standard with logUnresolved := true } .standard fetch true
        fetchTags).1.filter (·.message.isUnusedThrows) =
        [⟨4, 7, .unusedTag "@throws" "Gone"⟩, ⟨5, 7, .unusedTag "@throws" "Gone"⟩] ∧
      ∃ named : List Identifier, named.Sublist fetch.throws ∧
        ((checkThrows { standard with logUnresolved := true } .standard fetch true
          fetchTags).1.filter (·.message.isClassInfo)).Perm
          ([⟨4, 7, .classInfo "@throws" "Gone"⟩, ⟨5, 7, .classInfo "@throws" "Gone"⟩] ++
            named.map unknownClassNote) ∧
        (checkThrows standard .standard fetch true fetchTags).1.filter (·.message.isClassInfo) =
          [] := by
  obtain ⟨unused, missing, classInfo, _⟩ :=
    checkThrows_reports { standard with logUnresolved := true } .standard fetch true fetchTags
  obtain ⟨_, _, _, quiet⟩ := checkThrows_reports standard .standard fetch true fetchTags
  obtain ⟨named, kept, _, reported⟩ := classInfo rfl
  refine ⟨?_, ?_, named, kept, ?_, quiet rfl⟩
  · rw [missing rfl rfl rfl]
    decide +kernel
  · rw [unused]
    decide +kernel
  · have lacking : (fetchTags.filter fun tag => tag.isThrows = true ∧
        LacksClass .standard fetch.throws tag.argumentText).map unknownTagClassNote =
        [⟨4, 7, .classInfo "@throws" "Gone"⟩, ⟨5, 7, .classInfo "@throws" "Gone"⟩] := by
      decide +kernel
    rwa [lacking] at reported

end MethodDoc

end DocAudit
