import DocAudit.Rule.MethodDoc.Throws
import Mathlib.Data.List.Perm.Basic

set_option autoImplicit false

namespace DocAudit

def Message.isClassInfo : Message → Bool
  | .classInfo _ _ => true
  | _ => false

namespace MethodDoc

variable (rule : MethodDoc) (classes : ClassHierarchy)

-- Whatever asks for other messages finds none among notes on unknown classes.
theorem filter_isClassInfo {notes : List Note} {test : Message → Bool}
    (silent : ∀ tag name, test (.classInfo tag name) = false)
    (about : ∀ note ∈ notes, note.message.isClassInfo = true) :
    (notes.filter fun note => test note.message) = [] := by
  refine List.filter_eq_nil_iff.mpr fun note member => ?_
  have info := about note member
  cases message : note.message with
  | classInfo tag name => simp [silent]
  | _ => simp [message, Message.isClassInfo] at info

theorem unresolvedNotes_isClassInfo (line column : Nat) (name : String) :
    ∀ note ∈ rule.unresolvedNotes line column name, note.message.isClassInfo = true := by
  intro note member
  unfold unresolvedNotes at member
  split at member
  · rw [List.mem_singleton.mp member]
    rfl
  · cases member

-- The class of a tag is looked for up to the first exception where this holds.
def stopsAt (documented : Option String) (name : Identifier) : Bool :=
  match documented, classes.resolve? name.text with
  | some child, some target =>
    child == target || (rule.allowSubclassThrows && classes.isSubclass child target)
  | _, _ => false

def textIndex? (throws : List Identifier) (text : String) : Option Nat :=
  throws.findIdx? (·.text == text)

def classIndex? (throws : List Identifier) (documented : Option String) : Option Nat :=
  throws.findIdx? (rule.stopsAt classes documented)

-- The exception that is found when the search for a class ends at it.
def foundByClass (throws : List Identifier) (documented : Option String) (index : Nat) : Bool :=
  rule.classIndex? classes throws documented == some index &&
    throws[index]?.any fun name => classes.resolve? name.text == documented

-- The exceptions of unknown class ahead of the end of that search.
def passedByClass (throws : List Identifier) (documented : Option String) (index : Nat) : Bool :=
  (rule.classIndex? classes throws documented).all (index < ·) &&
    throws[index]?.any fun name => (classes.resolve? name.text).isNone

def declaredState (throws : List Identifier) (found reported : Nat → Bool) :
    List DeclaredException :=
  throws.mapIdx fun index name => ⟨name, classes.resolve? name.text, found index, reported index⟩

@[simp] theorem declaredState_nil (found reported : Nat → Bool) :
    declaredState classes [] found reported = [] := rfl

@[simp] theorem declaredState_cons (name : Identifier) (rest : List Identifier)
    (found reported : Nat → Bool) :
    declaredState classes (name :: rest) found reported =
      ⟨name, classes.resolve? name.text, found 0, reported 0⟩ ::
        declaredState classes rest (fun index => found (index + 1))
          (fun index => reported (index + 1)) := by
  simp [declaredState, List.mapIdx_cons]

theorem declaredExceptions_state (decl : MethodDecl) :
    declaredExceptions classes decl =
      declaredState classes decl.throws (fun _ => false) (fun _ => false) := by
  rw [declaredExceptions]
  induction decl.throws with
  | nil => rfl
  | cons name rest ih => rw [List.map_cons, declaredState_cons, ih]

theorem markByText?_state (throws : List Identifier) (text : String)
    (found reported : Nat → Bool) :
    markByText? text (declaredState classes throws found reported) =
      (textIndex? throws text).map fun marked =>
        declaredState classes throws (fun index => found index || marked == index) reported := by
  induction throws generalizing found reported with
  | nil => rfl
  | cons name rest ih =>
    by_cases same : name.text = text
    next => simp [markByText?, textIndex?, List.findIdx?_cons, same]
    next =>
      have later := ih (fun index => found (index + 1)) (fun index => reported (index + 1))
      simp only [textIndex?] at later
      simp [markByText?, textIndex?, List.findIdx?_cons, same, later, Function.comp_def]

-- The reports on declared exceptions of unknown class that nobody has reported before.
def newsNotes (throws : List Identifier) (fresh : Nat → Bool) : List Note :=
  throws.zipIdx.flatMap fun (name, index) =>
    if fresh index then rule.unresolvedNotes name.line name.column name.text else []

theorem newsNotes_cons (name : Identifier) (rest : List Identifier) (fresh : Nat → Bool) :
    rule.newsNotes (name :: rest) fresh =
      (if fresh 0 then rule.unresolvedNotes name.line name.column name.text else []) ++
        rule.newsNotes rest fun index => fresh (index + 1) := by
  simp only [newsNotes, List.zipIdx_cons', List.flatMap_cons, List.flatMap_map]
  rfl

theorem newsNotes_none (throws : List Identifier) :
    (rule.newsNotes throws fun _ => false) = [] := by
  simp [newsNotes, List.flatMap_eq_nil_iff]

theorem newsNotes_isClassInfo (throws : List Identifier) (fresh : Nat → Bool) :
    ∀ note ∈ rule.newsNotes throws fresh, note.message.isClassInfo = true := by
  intro note member
  obtain ⟨⟨name, index⟩, _, member⟩ := List.mem_flatMap.mp member
  dsimp only at member
  split at member
  · exact rule.unresolvedNotes_isClassInfo _ _ _ note member
  · cases member

-- An exception of unknown class is reported by the first tag that passes it, and by no other.
theorem newsNotes_split (throws : List Identifier) (now later reported : Nat → Bool) :
    (rule.newsNotes throws (fun index => now index && !reported index) ++
        rule.newsNotes throws fun index => later index && !(reported index || now index)).Perm
      (rule.newsNotes throws fun index => (now index || later index) && !reported index) := by
  refine (List.flatMap_append_perm _ _ _).trans (.of_eq ?_)
  unfold newsNotes
  congr 1
  funext ⟨name, index⟩
  by_cases first : now index = true <;> by_cases second : later index = true <;>
    by_cases before : reported index = true <;> simp [first, second, before]

section Search

variable {rule classes} {documented : Option String} {name : Identifier}

theorem stopsAt_resolved (stops : rule.stopsAt classes documented name = true) :
    ∃ child target, documented = some child ∧ classes.resolve? name.text = some target := by
  unfold stopsAt at stops
  split at stops
  next child target resolved => exact ⟨child, target, rfl, resolved⟩
  next => cases stops

theorem foundByClass_here (stops : rule.stopsAt classes documented name = true)
    (rest : List Identifier) (index : Nat) :
    rule.foundByClass classes (name :: rest) documented index =
      (index == 0 && classes.resolve? name.text == documented) := by
  cases index <;> simp [foundByClass, classIndex?, List.findIdx?_cons, stops]

theorem passedByClass_here (stops : rule.stopsAt classes documented name = true)
    (rest : List Identifier) (index : Nat) :
    rule.passedByClass classes (name :: rest) documented index = false := by
  simp [passedByClass, classIndex?, List.findIdx?_cons, stops]

theorem classIndex?_later (goes : rule.stopsAt classes documented name = false)
    (rest : List Identifier) :
    rule.classIndex? classes (name :: rest) documented =
      (rule.classIndex? classes rest documented).map (· + 1) := by
  simp [classIndex?, List.findIdx?_cons, goes]

theorem foundByClass_zero (goes : rule.stopsAt classes documented name = false)
    (rest : List Identifier) : rule.foundByClass classes (name :: rest) documented 0 = false := by
  rw [foundByClass, classIndex?_later goes]
  cases rule.classIndex? classes rest documented <;> simp

theorem foundByClass_succ (goes : rule.stopsAt classes documented name = false)
    (rest : List Identifier) (index : Nat) :
    rule.foundByClass classes (name :: rest) documented (index + 1) =
      rule.foundByClass classes rest documented index := by
  rw [foundByClass, foundByClass, classIndex?_later goes]
  cases rule.classIndex? classes rest documented <;> simp

theorem passedByClass_zero (goes : rule.stopsAt classes documented name = false)
    (rest : List Identifier) :
    rule.passedByClass classes (name :: rest) documented 0 =
      (classes.resolve? name.text).isNone := by
  rw [passedByClass, classIndex?_later goes]
  cases rule.classIndex? classes rest documented <;> simp

theorem passedByClass_succ (goes : rule.stopsAt classes documented name = false)
    (rest : List Identifier) (index : Nat) :
    rule.passedByClass classes (name :: rest) documented (index + 1) =
      rule.passedByClass classes rest documented index := by
  rw [passedByClass, passedByClass, classIndex?_later goes]
  cases rule.classIndex? classes rest documented <;> simp

end Search

theorem matchClass_state (documented : Option String) (throws : List Identifier)
    (found reported : Nat → Bool) :
    rule.matchClass classes documented (declaredState classes throws found reported) =
      { matched := (rule.classIndex? classes throws documented).isSome
        declared := declaredState classes throws
          (fun index => found index || rule.foundByClass classes throws documented index)
          (fun index => reported index || rule.passedByClass classes throws documented index)
        notes := rule.newsNotes throws fun index =>
          rule.passedByClass classes throws documented index && !reported index } := by
  induction throws generalizing found reported with
  | nil => rfl
  | cons name rest ih =>
    cases stops : rule.stopsAt classes documented name with
    | true =>
      -- The search ends here: the exceptions behind this one keep their flags.
      obtain ⟨child, target, rfl, resolved⟩ := stopsAt_resolved stops
      have index : rule.classIndex? classes (name :: rest) (some child) = some 0 := by
        simp [classIndex?, List.findIdx?_cons, stops]
      simp only [index, foundByClass_here stops, passedByClass_here stops]
      simp only [stopsAt, resolved] at stops
      by_cases same : child = target
      · simp [matchClass, resolved, same, newsNotes]
      · have tolerated : rule.allowSubclassThrows = true ∧
            classes.isSubclass child target = true := by
          simpa [same] using stops
        simp [matchClass, resolved, same, Ne.symm same, tolerated, newsNotes]
    | false =>
      have later := ih (fun index => found (index + 1)) (fun index => reported (index + 1))
      simp only [declaredState_cons, newsNotes_cons, classIndex?_later stops, Option.isSome_map,
        foundByClass_zero stops, foundByClass_succ stops, passedByClass_zero stops,
        passedByClass_succ stops, Bool.or_false]
      cases documented with
      | none => cases reported 0 <;> simp [matchClass, later]
      | some child =>
        cases resolved : classes.resolve? name.text with
        | none => simp [matchClass, later]
        | some target =>
          simp only [stopsAt, resolved] at stops
          have apart : child ≠ target ∧
              ¬ (rule.allowSubclassThrows = true ∧ classes.isSubclass child target = true) := by
            simpa using stops
          simp [matchClass, later, apart]

-- The exception that a tag marks: the first one spelled like it, else one of its class.
def marks (throws : List Identifier) (text : String) (index : Nat) : Bool :=
  match textIndex? throws text with
  | some marked => marked == index
  | none => rule.foundByClass classes throws (classes.resolve? text) index

def passes (throws : List Identifier) (text : String) (index : Nat) : Bool :=
  (textIndex? throws text).isNone &&
    rule.passedByClass classes throws (classes.resolve? text) index

def unresolvedTagNotes (throws : List Identifier) (tag : Tag) : List Note :=
  if (textIndex? throws tag.argumentText).isNone &&
      (classes.resolve? tag.argumentText).isNone then
    rule.unresolvedNotes tag.line tag.column tag.argumentText
  else []

theorem unresolvedTagNotes_isClassInfo (throws : List Identifier) (tag : Tag) :
    ∀ note ∈ rule.unresolvedTagNotes classes throws tag, note.message.isClassInfo = true := by
  intro note member
  unfold unresolvedTagNotes at member
  split at member
  · exact rule.unresolvedNotes_isClassInfo _ _ _ note member
  · cases member

def isUnusedThrows (throws : List Identifier) (text : String) : Bool :=
  (textIndex? throws text).isNone &&
    (rule.classIndex? classes throws (classes.resolve? text)).isNone &&
    !(rule.allowUndeclaredUnchecked && (classes.resolve? text).any classes.isUnchecked)

def unusedTagNotes (throws : List Identifier) (tag : Tag) : List Note :=
  if rule.isUnusedThrows classes throws tag.argumentText then
    [⟨tag.line, tag.column, .unusedTag "@throws" tag.argumentText⟩]
  else []

-- The marks that all the tags of a comment leave, and the exceptions they pass by.
def markedBy (throws : List Identifier) (tags : List Tag) (index : Nat) : Bool :=
  (tags.filter Tag.isThrows).any fun tag => rule.marks classes throws tag.argumentText index

def passedBy (throws : List Identifier) (tags : List Tag) (index : Nat) : Bool :=
  (tags.filter Tag.isThrows).any fun tag => rule.passes classes throws tag.argumentText index

theorem scanThrows_state (throws : List Identifier) (found reported : Nat → Bool)
    (notes : List Note) (tag : Tag) :
    rule.scanThrows classes ⟨declaredState classes throws found reported, notes⟩ tag =
      { declared := declaredState classes throws
          (fun index => found index || rule.marks classes throws tag.argumentText index)
          (fun index => reported index || rule.passes classes throws tag.argumentText index)
        notes := notes ++ rule.unresolvedTagNotes classes throws tag ++
          (rule.newsNotes throws fun index =>
            rule.passes classes throws tag.argumentText index && !reported index) ++
          rule.unusedTagNotes classes throws tag } := by
  rw [scanThrows, markByText?_state]
  cases textual : textIndex? throws tag.argumentText with
  | some marked =>
    simp [marks, passes, unresolvedTagNotes, unusedTagNotes, isUnusedThrows, newsNotes, textual]
  | none =>
    have used : rule.isUnusedThrows classes throws tag.argumentText =
        !((rule.classIndex? classes throws (classes.resolve? tag.argumentText)).isSome ||
          rule.allowUndeclaredUnchecked &&
            (classes.resolve? tag.argumentText).any classes.isUnchecked) := by
      simp [isUnusedThrows, textual, Bool.not_or]
    simp only [Option.map_none, matchClass_state, marks, passes, unresolvedTagNotes, unusedTagNotes,
      textual, Option.isNone_none, Bool.true_and, used]
    cases (rule.classIndex? classes throws (classes.resolve? tag.argumentText)).isSome ||
      rule.allowUndeclaredUnchecked &&
        (classes.resolve? tag.argumentText).any classes.isUnchecked <;> rfl

theorem scanThrows_run_declared (throws : List Identifier) (tags : List Tag)
    (found reported : Nat → Bool) (notes : List Note) :
    (tags.foldl (rule.scanThrows classes)
        ⟨declaredState classes throws found reported, notes⟩).declared =
      declaredState classes throws
        (fun index => found index ||
          tags.any fun tag => rule.marks classes throws tag.argumentText index)
        (fun index => reported index ||
          tags.any fun tag => rule.passes classes throws tag.argumentText index) := by
  induction tags generalizing found reported notes with
  | nil => simp
  | cons tag rest ih => simp [scanThrows_state, ih, Bool.or_assoc]

-- What the tags say one by one, and once each exception of unknown class that some tag passes.
theorem scanThrows_run_notes (throws : List Identifier) (tags : List Tag)
    (found reported : Nat → Bool) (notes : List Note) :
    (tags.foldl (rule.scanThrows classes)
        ⟨declaredState classes throws found reported, notes⟩).notes.Perm
      (notes ++ (tags.flatMap fun tag => rule.unresolvedTagNotes classes throws tag ++
          rule.unusedTagNotes classes throws tag) ++
        rule.newsNotes throws fun index =>
          (tags.any fun tag => rule.passes classes throws tag.argumentText index) &&
            !reported index) := by
  induction tags generalizing found reported notes with
  | nil => simp [newsNotes_none]
  | cons tag rest ih =>
    rw [List.foldl_cons, scanThrows_state]
    refine List.perm_iff_count.mpr fun note => ?_
    have step := (ih (fun index => found index ||
        rule.marks classes throws tag.argumentText index)
      (fun index => reported index || rule.passes classes throws tag.argumentText index)
      (notes ++ rule.unresolvedTagNotes classes throws tag ++
        (rule.newsNotes throws fun index =>
          rule.passes classes throws tag.argumentText index && !reported index) ++
        rule.unusedTagNotes classes throws tag)).count_eq note
    have news := (rule.newsNotes_split throws
      (fun index => rule.passes classes throws tag.argumentText index)
      (fun index => rest.any fun tag => rule.passes classes throws tag.argumentText index)
      reported).count_eq note
    simp only [List.count_append, List.flatMap_cons, List.any_cons] at step news ⊢
    omega

-- The report on the exceptions that no tag has marked.
def undocumentedNotes (decl : MethodDecl) (report : Bool) (tags : List Tag) : List Note :=
  if !rule.allowMissingThrows && report then
    missingThrowsNotes (declaredState classes decl.throws
      (rule.markedBy classes decl.throws tags) (rule.passedBy classes decl.throws tags))
  else []

theorem checkThrows_eq (decl : MethodDecl) (report : Bool) (tags : List Tag) :
    rule.checkThrows classes decl report tags =
      (((tags.filter Tag.isThrows).foldl (rule.scanThrows classes)
          ⟨declaredState classes decl.throws (fun _ => false) (fun _ => false), []⟩).notes ++
        rule.undocumentedNotes classes decl report tags, tags.filter (!·.isThrows)) := by
  simp only [checkThrows, List.partition_eq_filter_filter, declaredExceptions_state,
    scanThrows_run_declared, Bool.false_or]
  rfl

end MethodDoc

end DocAudit
