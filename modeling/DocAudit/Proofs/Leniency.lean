import DocAudit.Proofs.MethodWalk
import Mathlib.Data.List.Basic

set_option autoImplicit false

namespace DocAudit

inductive Leniency where
  | missingComments
  | missingParams
  | missingThrows
  | missingReturns
  | undeclaredUnchecked
  | unresolvedClasses
deriving DecidableEq, Repr

namespace Leniency

def grant : Leniency → MethodDoc → MethodDoc
  | .missingComments, rule => { rule with allowMissing := true }
  | .missingParams, rule => { rule with allowMissingParam := true }
  | .missingThrows, rule => { rule with allowMissingThrows := true }
  | .missingReturns, rule => { rule with allowMissingReturn := true }
  | .undeclaredUnchecked, rule => { rule with allowUndeclaredUnchecked := true }
  | .unresolvedClasses, rule => { rule with logUnresolved := false }

def spares (leniency : Leniency) (classes : ClassHierarchy) (key : String)
    (arguments : List String) : Bool :=
  match leniency with
  | .missingComments => key == "javadoc.missing"
  | .missingParams => key == "javadoc.expectedTag" && arguments.head? == some "@param"
  | .missingThrows => key == "javadoc.expectedTag" && arguments.head? == some "@throws"
  | .missingReturns => key == "javadoc.return.expected"
  | .undeclaredUnchecked => key == "javadoc.unusedTag" && arguments.head? == some "@throws" &&
      arguments[1]?.any fun name => (classes.resolve? name).any classes.isUnchecked
  | .unresolvedClasses => key == "javadoc.classInfo"

def sparesFinding (leniency : Leniency) (classes : ClassHierarchy) (finding : Finding) : Bool :=
  finding.messageKey.any fun key => leniency.spares classes key finding.arguments

def sparesMessage (leniency : Leniency) (classes : ClassHierarchy) (message : Message) : Bool :=
  leniency.spares classes message.key message.arguments

section Options

variable (leniency : Leniency) (rule : MethodDoc)

@[simp] theorem grant_severity : (leniency.grant rule).severity = rule.severity := by
  cases leniency <;> rfl

@[simp] theorem grant_filter : (leniency.grant rule).filter = rule.filter := by
  cases leniency <;> rfl

@[simp] theorem grant_allowSubclassThrows :
    (leniency.grant rule).allowSubclassThrows = rule.allowSubclassThrows := by
  cases leniency <;> rfl

@[simp] theorem grant_allowNarrativeParam :
    (leniency.grant rule).allowNarrativeParam = rule.allowNarrativeParam := by
  cases leniency <;> rfl

@[simp] theorem grant_isNarrated (lines : List String) :
    (leniency.grant rule).isNarrated lines = rule.isNarrated lines := by
  cases leniency <;> rfl

@[simp] theorem grant_isUnusedParam (param : Identifier) :
    (leniency.grant rule).isUnusedParam param = rule.isUnusedParam param := by
  cases leniency <;> rfl

@[simp] theorem grant_isExempt (decl : MethodDecl) :
    (leniency.grant rule).isExempt decl = rule.isExempt decl := by
  cases leniency <;> rfl

variable (classes : ClassHierarchy)

-- Each finding is reported unless its own option is granted, or is reported in any case.

theorem grant_mayLackComment (decl : MethodDecl) :
    (leniency.grant rule).mayLackComment decl =
      (rule.mayLackComment decl || leniency.sparesMessage classes .missingJavadoc) := by
  cases leniency <;> simp [MethodDoc.mayLackComment, grant, sparesMessage, spares, Message.key]

theorem grant_allowMissingParam (name : String) :
    (leniency.grant rule).allowMissingParam =
      (rule.allowMissingParam || leniency.sparesMessage classes (.expectedTag "@param" name)) := by
  cases leniency <;> simp [grant, sparesMessage, spares, Message.key, Message.arguments]

theorem grant_allowMissingThrows :
    (leniency.grant rule).allowMissingThrows =
      (rule.allowMissingThrows || leniency == .missingThrows) := by
  cases leniency <;> simp [grant]

theorem sparesMessage_missingThrows (name : String) :
    leniency.sparesMessage classes (.expectedTag "@throws" name) =
      (leniency == .missingThrows) := by
  cases leniency <;> simp [sparesMessage, spares, Message.key, Message.arguments]

theorem grant_allowMissingReturn :
    (leniency.grant rule).allowMissingReturn =
      (rule.allowMissingReturn || leniency.sparesMessage classes .expectedReturn) := by
  cases leniency <;> simp [grant, sparesMessage, spares, Message.key]

theorem grant_tolerated (name : String) :
    ((leniency.grant rule).allowUndeclaredUnchecked &&
        (classes.resolve? name).any classes.isUnchecked) =
      (rule.allowUndeclaredUnchecked && (classes.resolve? name).any classes.isUnchecked ||
        leniency.sparesMessage classes (.unusedTag "@throws" name)) := by
  cases leniency <;> simp [grant, sparesMessage, spares, Message.key, Message.arguments]

theorem grant_logUnresolved (name : String) :
    (leniency.grant rule).logUnresolved =
      (rule.logUnresolved && !leniency.sparesMessage classes (.classInfo "@throws" name)) := by
  cases leniency <;> simp [grant, sparesMessage, spares, Message.key, Message.arguments]

end Options

def isFixed : Message → Bool
  | .mixedStyle | .duplicateTag _ | .unusedTagGeneral | .invalidInheritDoc => true
  | .unusedTag tag _ => tag == "@param"
  | _ => false

section Remaining

variable (leniency : Leniency) (classes : ClassHierarchy)

theorem sparesMessage_isFixed {message : Message} (fixed : isFixed message = true) :
    leniency.sparesMessage classes message = false := by
  cases message <;> simp only [isFixed, Bool.false_eq_true, beq_iff_eq] at fixed <;>
    cases leniency <;> simp [sparesMessage, spares, Message.key, Message.arguments, fixed]

def remaining (notes : List Note) : List Note :=
  notes.filter fun note => !leniency.sparesMessage classes note.message

@[simp] theorem remaining_nil : leniency.remaining classes [] = [] := rfl

@[simp] theorem remaining_append (first second : List Note) :
    leniency.remaining classes (first ++ second) =
      leniency.remaining classes first ++ leniency.remaining classes second :=
  List.filter_append ..

theorem remaining_if (reported : Bool) (note : Note) :
    leniency.remaining classes (if reported then [note] else []) =
      if reported && !leniency.sparesMessage classes note.message then [note] else [] := by
  cases reported <;> simp [remaining, List.filter_cons]

theorem remaining_unless (excused : Bool) (note : Note) :
    leniency.remaining classes (if excused then [] else [note]) =
      if excused || leniency.sparesMessage classes note.message then [] else [note] := by
  cases excused <;> cases spared : leniency.sparesMessage classes note.message <;>
    simp [remaining, spared]

theorem remaining_map {α : Type} (values : List α) (note : α → Note)
    (fixed : ∀ value, isFixed (note value).message = true) :
    leniency.remaining classes (values.map note) = values.map note := by
  refine List.filter_eq_self.mpr fun found member => ?_
  obtain ⟨value, _, rfl⟩ := List.mem_map.mp member
  rw [leniency.sparesMessage_isFixed classes (fixed value), Bool.not_false]

def relax (result : List Note × List Tag) : List Note × List Tag :=
  (leniency.remaining classes result.1, result.2)

end Remaining

section Params

variable (leniency : Leniency) (rule : MethodDoc) (classes : ClassHierarchy)

def relaxParams (scan : ParamScan) : ParamScan :=
  { scan with notes := leniency.remaining classes scan.notes }

theorem grant_scanParam (lines : List String) (report : Bool) (scan : ParamScan)
    (entry : Identifier × String) :
    (leniency.grant rule).scanParam lines report (leniency.relaxParams classes scan) entry =
      leniency.relaxParams classes (rule.scanParam lines report scan entry) := by
  simp only [MethodDoc.scanParam, relaxParams, grant_isUnusedParam, grant_allowNarrativeParam,
    leniency.grant_allowMissingParam rule classes entry.2]
  cases rule.isUnusedParam entry.1 with
  | true => rfl
  | false =>
    cases scan.tags.any (Tag.documents entry.2) with
    | true => rfl
    | false =>
      cases rule.allowNarrativeParam && isMentioned entry.1.text lines with
      | true => rfl
      | false =>
        cases rule.allowMissingParam <;> cases report <;>
          cases spared : leniency.sparesMessage classes (.expectedTag "@param" entry.2) <;>
          simp [remaining, spared]

theorem grant_scanParam_run (lines : List String) (report : Bool)
    (entries : List (Identifier × String)) (scan : ParamScan) :
    entries.foldl ((leniency.grant rule).scanParam lines report)
        (leniency.relaxParams classes scan) =
      leniency.relaxParams classes (entries.foldl (rule.scanParam lines report) scan) := by
  induction entries generalizing scan with
  | nil => rfl
  | cons entry rest ih => rw [List.foldl_cons, grant_scanParam, ih, List.foldl_cons]

theorem grant_checkParams (decl : MethodDecl) (lines : List String) (report : Bool)
    (tags : List Tag) :
    (leniency.grant rule).checkParams decl lines report tags =
      leniency.relax classes (rule.checkParams decl lines report tags) := by
  have run := leniency.grant_scanParam_run rule classes lines report decl.documentable
    ⟨tags, false, false, []⟩
  have mixed (scan : ParamScan) : leniency.remaining classes
      (MethodDoc.mixedStyleNotes decl scan) = MethodDoc.mixedStyleNotes decl scan := by
    unfold MethodDoc.mixedStyleNotes
    rw [remaining_if, leniency.sparesMessage_isFixed classes rfl, Bool.not_false, Bool.and_true]
  simp only [relaxParams, remaining_nil] at run
  simp only [MethodDoc.checkParams, run, relax, remaining_append, mixed]
  rw [remaining_map _ _ _ _ fun _ => rfl]
  rfl

end Params

section Throws

variable (leniency : Leniency) (rule : MethodDoc) (classes : ClassHierarchy)

theorem grant_unresolvedNotes (line column : Nat) (name : String) :
    (leniency.grant rule).unresolvedNotes line column name =
      leniency.remaining classes (rule.unresolvedNotes line column name) := by
  rw [MethodDoc.unresolvedNotes, leniency.grant_logUnresolved rule classes name,
    MethodDoc.unresolvedNotes, remaining_if]

theorem grant_unresolvedNotes_if (reported : Bool) (line column : Nat) (name : String) :
    (if reported then (leniency.grant rule).unresolvedNotes line column name else []) =
      leniency.remaining classes
        (if reported then rule.unresolvedNotes line column name else []) := by
  cases reported
  · rfl
  · exact leniency.grant_unresolvedNotes rule classes line column name

def relaxMatch (found : MethodDoc.ClassMatch) : MethodDoc.ClassMatch :=
  { found with notes := leniency.remaining classes found.notes }

theorem grant_matchClass (documented : Option String) (declared : List DeclaredException) :
    (leniency.grant rule).matchClass classes documented declared =
      leniency.relaxMatch classes (rule.matchClass classes documented declared) := by
  induction declared with
  | nil => rfl
  | cons entry rest ih =>
    simp only [MethodDoc.matchClass, leniency.grant_unresolvedNotes_if rule classes, ih,
      grant_allowSubclassThrows]
    split
    next child target _ =>
      split
      next => rfl
      next =>
        split
        next => rfl
        next => simp [relaxMatch]
    next => simp [relaxMatch]

def relaxThrows (scan : MethodDoc.ThrowsScan) : MethodDoc.ThrowsScan :=
  { scan with notes := leniency.remaining classes scan.notes }

theorem grant_scanThrows (scan : MethodDoc.ThrowsScan) (tag : Tag) :
    (leniency.grant rule).scanThrows classes (leniency.relaxThrows classes scan) tag =
      leniency.relaxThrows classes (rule.scanThrows classes scan tag) := by
  simp only [MethodDoc.scanThrows, relaxThrows]
  cases MethodDoc.markByText? tag.argumentText scan.declared with
  | some declared => rfl
  | none =>
    simp only [leniency.grant_unresolvedNotes_if rule classes, grant_matchClass, relaxMatch,
      remaining_append, remaining_unless, leniency.grant_tolerated rule classes, Bool.or_assoc]

theorem grant_scanThrows_run (tags : List Tag) (scan : MethodDoc.ThrowsScan) :
    tags.foldl ((leniency.grant rule).scanThrows classes) (leniency.relaxThrows classes scan) =
      leniency.relaxThrows classes (tags.foldl (rule.scanThrows classes) scan) := by
  induction tags generalizing scan with
  | nil => rfl
  | cons tag rest ih => rw [List.foldl_cons, grant_scanThrows, ih, List.foldl_cons]

theorem grant_missingThrowsNotes (report : Bool) (declared : List DeclaredException) :
    (if !(leniency.grant rule).allowMissingThrows && report then
        MethodDoc.missingThrowsNotes declared else []) =
      leniency.remaining classes
        (if !rule.allowMissingThrows && report then MethodDoc.missingThrowsNotes declared
          else []) := by
  have each : ∀ note ∈ MethodDoc.missingThrowsNotes declared,
      leniency.sparesMessage classes note.message = (leniency == .missingThrows) := by
    intro note member
    obtain ⟨entry, _, rfl⟩ := List.mem_map.mp member
    exact leniency.sparesMessage_missingThrows classes entry.name.text
  rw [grant_allowMissingThrows]
  cases granted : leniency == .missingThrows with
  | false =>
    have kept : leniency.remaining classes (MethodDoc.missingThrowsNotes declared) =
        MethodDoc.missingThrowsNotes declared :=
      List.filter_eq_self.mpr fun note member => by simp [each note member, granted]
    cases rule.allowMissingThrows <;> cases report <;> simp [kept]
  | true =>
    have none : leniency.remaining classes (MethodDoc.missingThrowsNotes declared) = [] :=
      List.filter_eq_nil_iff.mpr fun note member => by simp [each note member, granted]
    cases rule.allowMissingThrows <;> cases report <;> simp [none]

theorem grant_checkThrows (decl : MethodDecl) (report : Bool) (tags : List Tag) :
    (leniency.grant rule).checkThrows classes decl report tags =
      leniency.relax classes (rule.checkThrows classes decl report tags) := by
  have run := leniency.grant_scanThrows_run rule classes (tags.filter Tag.isThrows)
    ⟨MethodDoc.declaredExceptions classes decl, []⟩
  simp only [relaxThrows, remaining_nil] at run
  simp only [MethodDoc.checkThrows, List.partition_eq_filter_filter, run, relax, remaining_append,
    grant_missingThrowsNotes leniency rule classes]

end Throws

section Comment

variable (leniency : Leniency) (rule : MethodDoc) (classes : ClassHierarchy)

theorem grant_checkReturn (decl : MethodDecl) (lines : List String) (report : Bool)
    (tags : List Tag) :
    (leniency.grant rule).checkReturn decl lines report tags =
      leniency.relax classes (rule.checkReturn decl lines report tags) := by
  simp only [MethodDoc.checkReturn, grant_isNarrated,
    leniency.grant_allowMissingReturn rule classes, relax, remaining_append, remaining_if]
  rw [remaining_map _ _ _ _ fun _ => rfl]
  cases rule.allowMissingReturn <;> cases leniency.sparesMessage classes .expectedReturn <;> simp

theorem remaining_leftoverNotes (tags : List Tag) :
    leniency.remaining classes (MethodDoc.leftoverNotes tags) = MethodDoc.leftoverNotes tags :=
  leniency.remaining_map classes _ _ fun _ => rfl

theorem grant_checkSignature (decl : MethodDecl) (lines : List String) (tags : List Tag) :
    (leniency.grant rule).checkSignature classes decl lines tags =
      leniency.relax classes (rule.checkSignature classes decl lines tags) := by
  simp only [MethodDoc.checkSignature, leniency.grant_checkParams rule classes,
    grant_checkThrows, leniency.grant_checkReturn rule classes, relax]
  cases decl.isFunction <;> simp

theorem grant_checkComment (decl : MethodDecl) (lines : List String) (tags : List Tag) :
    (leniency.grant rule).checkComment classes decl lines tags =
      leniency.remaining classes (rule.checkComment classes decl lines tags) := by
  simp only [MethodDoc.checkComment, grant_checkSignature, relax]
  split
  next =>
    rw [remaining_unless, leniency.sparesMessage_isFixed classes rfl, Bool.or_false]
  next =>
    split
    next => rw [remaining_leftoverNotes]
    next => rw [remaining_append, remaining_leftoverNotes]

theorem grant_checkMethod (shared : MethodDoc.Surroundings) (enclosing : List TypeDecl)
    (decl : MethodDecl) :
    (leniency.grant rule).checkMethod shared enclosing decl =
      leniency.remaining shared.classes (rule.checkMethod shared enclosing decl) := by
  simp only [MethodDoc.checkMethod, grant_isExempt, grant_filter]
  split
  next => rfl
  next =>
    split
    next => rfl
    next =>
      split
      next => exact leniency.grant_checkComment rule shared.classes decl _ _
      next => rw [leniency.grant_mayLackComment rule shared.classes, remaining_unless]

theorem grant_notes (unit : CompilationUnit) (content : List Char) :
    (leniency.grant rule).notes unit content =
      leniency.remaining (.ofUnit unit) (rule.notes unit content) := by
  rw [MethodDoc.notes_eq, MethodDoc.notes_eq, remaining, List.filter_flatMap]
  refine List.flatMap_congr fun occurrence _ => ?_
  exact leniency.grant_checkMethod rule _ occurrence.enclosing occurrence.decl

end Comment

end Leniency

theorem MethodDoc.check_grant (leniency : Leniency) (rule : MethodDoc) (file : SourceFile)
    (unit : CompilationUnit) :
    (leniency.grant rule).check file unit = (rule.check file unit).map
      (List.filter fun finding => !leniency.sparesFinding (.ofUnit unit) finding) := by
  have reporter : (leniency.grant rule).reporter = rule.reporter := by
    rw [reporter, reporter, Leniency.grant_severity]
  rw [check, check, reporter, leniency.grant_notes]
  simp only [Except.map, List.filter_map]
  rfl

end DocAudit
