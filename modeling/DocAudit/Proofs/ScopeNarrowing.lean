import DocAudit.Proofs.InspectedTypes
import DocAudit.Proofs.MethodWalk
import Mathlib.Data.List.Flatten

set_option autoImplicit false

namespace DocAudit

namespace ScopeFilter

/-- Less is in the scope, and whatever the other filter excludes stays excluded. -/
structure Narrows (narrow wide : ScopeFilter) : Prop where
  scope : narrow.scope.isIn wide.scope = true
  exclude : ∀ scope ∈ wide.exclude, ∃ larger ∈ narrow.exclude, scope.isIn larger = true

theorem Narrows.shouldCheck {narrow wide : ScopeFilter} (narrows : narrow.Narrows wide)
    {declared : Scope} {surrounding : Option Scope}
    (checked : narrow.shouldCheck declared surrounding = true) :
    wide.shouldCheck declared surrounding = true := by
  simp only [ScopeFilter.shouldCheck, Bool.and_eq_true, Bool.not_eq_true', Bool.eq_false_iff,
    ne_eq, Option.any_eq_true] at checked ⊢
  obtain ⟨covered, unexcluded⟩ := checked
  refine ⟨covers_mono narrows.scope covered, ?_⟩
  rintro ⟨scope, excluded, hidden⟩
  obtain ⟨larger, among, within⟩ := narrows.exclude scope excluded
  exact unexcluded ⟨larger, among, covers_mono within hidden⟩

def admits (filter : ScopeFilter) (enclosing : List TypeDecl) (modifiers : Modifiers) : Bool :=
  filter.shouldCheck (Scope.effective modifiers (enclosing.head?.map (·.kind)))
    (Scope.surrounding enclosing)

end ScopeFilter

-- What is let through by the narrower test is reported under both.
theorem reported_sublist {narrow wide : Bool} (narrows : narrow = true → wide = true)
    (notes : List Note) :
    (if narrow then notes else []).Sublist (if wide then notes else []) := by
  cases narrow with
  | false => exact List.nil_sublist _
  | true => rw [narrows rfl]

namespace MethodDoc

variable (rule : MethodDoc)

def admits (enclosing : List TypeDecl) (decl : MethodDecl) : Bool :=
  !rule.isExempt decl && rule.filter.admits enclosing decl.modifiers

def notesOn (shared : Surroundings) (decl : MethodDecl) : List Note :=
  match shared.comments.javadocBefore? decl.line with
  | some comment => rule.checkComment shared.classes decl comment.lines comment.methodTags
  | none => if rule.mayLackComment decl then [] else [⟨decl.line, decl.column, .missingJavadoc⟩]

theorem checkMethod_eq (shared : Surroundings) (enclosing : List TypeDecl) (decl : MethodDecl) :
    rule.checkMethod shared enclosing decl =
      if rule.admits enclosing decl then rule.notesOn shared decl else [] := by
  unfold checkMethod admits
  change (if rule.isExempt decl then []
    else if !rule.filter.admits enclosing decl.modifiers then [] else rule.notesOn shared decl) = _
  cases rule.isExempt decl <;> cases rule.filter.admits enclosing decl.modifiers <;> rfl

def lookingAt (filter : ScopeFilter) (minLineCount : Int) (annotations : List String) : MethodDoc :=
  { rule with filter, minLineCount, allowedAnnotations := annotations }

section Reports

variable (filter : ScopeFilter) (minLineCount : Int) (annotations : List String)
  (classes : ClassHierarchy)

theorem matchClass_lookingAt (documented : Option String) (declared : List DeclaredException) :
    (rule.lookingAt filter minLineCount annotations).matchClass classes documented declared =
      rule.matchClass classes documented declared := by
  induction declared with
  | nil => rfl
  | cons entry rest ih =>
    simp only [matchClass, ih]
    rfl

theorem scanThrows_lookingAt :
    (rule.lookingAt filter minLineCount annotations).scanThrows classes =
      rule.scanThrows classes := by
  funext scan tag
  simp only [scanThrows, matchClass_lookingAt]
  rfl

theorem checkComment_lookingAt (decl : MethodDecl) (lines : List String) (tags : List Tag) :
    (rule.lookingAt filter minLineCount annotations).checkComment classes decl lines tags =
      rule.checkComment classes decl lines tags := by
  simp only [checkComment, checkSignature, checkThrows, scanThrows_lookingAt]
  rfl

theorem notesOn_lookingAt (shared : Surroundings) (decl : MethodDecl) :
    (rule.lookingAt filter minLineCount annotations).notesOn shared decl =
      rule.notesOn shared decl := by
  simp only [notesOn, checkComment_lookingAt]
  rfl

end Reports

section Narrowing

variable {narrow wide : ScopeFilter} {least less : Int} {annotations fewer : List String}

theorem isExempt_lookingAt (raised : less ≤ least) (added : fewer ⊆ annotations) {decl : MethodDecl}
    (exempt : (rule.lookingAt wide less fewer).isExempt decl = true) :
    (rule.lookingAt narrow least annotations).isExempt decl = true := by
  rw [isExempt, Bool.or_eq_true, Bool.and_eq_true, decide_eq_true_iff, List.any_eq_true] at exempt ⊢
  rcases exempt with ⟨element, short⟩ | ⟨marker, allowed, present⟩
  · exact .inl ⟨element, Int.le_trans short raised⟩
  · exact .inr ⟨marker, added allowed, present⟩

theorem admits_lookingAt (narrows : narrow.Narrows wide) (raised : less ≤ least)
    (added : fewer ⊆ annotations) {enclosing : List TypeDecl} {decl : MethodDecl}
    (admitted : (rule.lookingAt narrow least annotations).admits enclosing decl = true) :
    (rule.lookingAt wide less fewer).admits enclosing decl = true := by
  rw [admits, Bool.and_eq_true, Bool.not_eq_true', Bool.eq_false_iff] at admitted ⊢
  obtain ⟨subject, checked⟩ := admitted
  exact ⟨fun exempt => subject (rule.isExempt_lookingAt raised added exempt),
    narrows.shouldCheck checked⟩

theorem checkMethod_lookingAt (narrows : narrow.Narrows wide) (raised : less ≤ least)
    (added : fewer ⊆ annotations) (shared : Surroundings) (enclosing : List TypeDecl)
    (decl : MethodDecl) :
    ((rule.lookingAt narrow least annotations).checkMethod shared enclosing decl).Sublist
      ((rule.lookingAt wide less fewer).checkMethod shared enclosing decl) := by
  rw [checkMethod_eq, checkMethod_eq, notesOn_lookingAt, notesOn_lookingAt]
  exact reported_sublist (rule.admits_lookingAt narrows raised added) (rule.notesOn shared decl)

theorem notes_lookingAt (narrows : narrow.Narrows wide) (raised : less ≤ least)
    (added : fewer ⊆ annotations) (unit : CompilationUnit) (content : List Char) :
    ((rule.lookingAt narrow least annotations).notes unit content).Sublist
      ((rule.lookingAt wide less fewer).notes unit content) := by
  rw [notes_eq, notes_eq]
  exact List.Sublist.flatMap_right _ fun found _ =>
    rule.checkMethod_lookingAt narrows raised added _ found.enclosing found.decl

end Narrowing

end MethodDoc

namespace TypeDoc

variable (rule : TypeDoc)

def notesOn (comments : CommentIndex) (enclosing : List TypeDecl) (decl : TypeDecl) : List Note :=
  match comments.javadocBefore? decl.line with
  | none => [⟨decl.line, 0, .missingJavadoc⟩]
  | some comment => if enclosing.isEmpty then rule.checkOutermost decl comment else []

theorem checkType_eq (comments : CommentIndex) (enclosing : List TypeDecl) (decl : TypeDecl) :
    rule.checkType comments enclosing decl =
      if rule.filter.admits enclosing decl.modifiers then rule.notesOn comments enclosing decl
      else [] := by
  unfold checkType
  change (if !rule.filter.admits enclosing decl.modifiers then []
    else rule.notesOn comments enclosing decl) = _
  cases rule.filter.admits enclosing decl.modifiers <;> rfl

def lookingAt (filter : ScopeFilter) : TypeDoc := { rule with filter }

theorem checkType_lookingAt {narrow wide : ScopeFilter} (narrows : narrow.Narrows wide)
    (comments : CommentIndex) (enclosing : List TypeDecl) (decl : TypeDecl) :
    ((rule.lookingAt narrow).checkType comments enclosing decl).Sublist
      ((rule.lookingAt wide).checkType comments enclosing decl) := by
  rw [checkType_eq, checkType_eq]
  exact reported_sublist narrows.shouldCheck (rule.notesOn comments enclosing decl)

theorem notes_lookingAt {narrow wide : ScopeFilter} (narrows : narrow.Narrows wide)
    (unit : CompilationUnit) (content : List Char) :
    ((rule.lookingAt narrow).notes unit content).Sublist
      ((rule.lookingAt wide).notes unit content) := by
  rw [notes_eq, notes_eq]
  exact List.Sublist.flatMap_right _ fun found _ =>
    rule.checkType_lookingAt narrows _ found.1 found.2

end TypeDoc

theorem ScopeFilter.checks_narrowed {narrow wide : ScopeFilter} (narrows : narrow.Narrows wide)
    {least less : Int} (raised : less ≤ least) {annotations fewer : List String}
    (added : fewer ⊆ annotations) (file : SourceFile) (unit : CompilationUnit) :
    (∀ rule : MethodDoc, ∃ kept all,
      (rule.lookingAt narrow least annotations).check file unit = .ok kept ∧
      (rule.lookingAt wide less fewer).check file unit = .ok all ∧ kept.Sublist all) ∧
    (∀ rule : TypeDoc, ∃ kept all, (rule.lookingAt narrow).check file unit = .ok kept ∧
      (rule.lookingAt wide).check file unit = .ok all ∧ kept.Sublist all) ∧
    (∀ rule : MethodDoc, rule.check file unit =
      .ok ((unit.methodOccurrences.flatMap fun found =>
        if rule.admits found.enclosing found.decl then
          rule.notesOn ⟨.ofUnit unit file.content, .ofUnit unit⟩ found.decl
        else []).map (rule.reporter.finding file))) ∧
    (∀ rule : TypeDoc, rule.check file unit =
      .ok (((Nesting.inspected unit.nestings).flatMap fun found =>
        if rule.filter.admits found.1 found.2.modifiers then
          rule.notesOn (.ofUnit unit file.content) found.1 found.2
        else []).map (rule.reporter.finding file))) := by
  refine ⟨fun rule => ⟨_, _, rfl, rfl, ?_⟩, fun rule => ⟨_, _, rfl, rfl, ?_⟩, fun rule => ?_,
    fun rule => ?_⟩
  next => exact (rule.notes_lookingAt narrows raised added unit file.content).map _
  next => exact (rule.notes_lookingAt narrows unit file.content).map _
  next =>
    simp only [← MethodDoc.checkMethod_eq]
    rw [MethodDoc.check, rule.notes_eq]
    rfl
  next =>
    simp only [← TypeDoc.checkType_eq]
    rw [TypeDoc.check, rule.notes_eq]
    rfl

private def methodOn (line : Nat) (access : Option AccessModifier) : MethodDecl where
  kind := .method
  name := ⟨"m", line, 9⟩
  line := line
  column := 4
  endLine := line
  modifiers := { Modifiers.none with access }
  typeParams := []
  params := []
  throws := []
  result := .nothing
  body := none

private def classOn (line : Nat) (access : AccessModifier) (members : List Member) : TypeDecl where
  kind := .classType
  name := "C"
  line := line
  column := 0
  endLine := line + 3
  modifiers := { Modifiers.none with access := some access }
  typeParams := []
  superclass := none
  members := members

private def publicClass : TypeDecl :=
  classOn 1 .pub [.method (methodOn 2 (some .pub)),
    .type (classOn 3 .priv [.method (methodOn 4 none)])]

private def nestedClasses : CompilationUnit := ⟨[publicClass], [], 6⟩

private def unwritten : SourceFile := ⟨.ofString "C.java", []⟩

-- The public class is excluded. The private one in it, and the method in that, are not.
theorem ScopeFilter.checks_narrowed_nested :
    ScopeFilter.Narrows ⟨.priv, some .pub⟩ ⟨.anonInner, none⟩ ∧
      ScopeFilter.admits ⟨.priv, some .pub⟩ [] publicClass.modifiers = false ∧
      ((MethodDoc.standard.lookingAt ⟨.priv, some .pub⟩ 0 ["Override", "Test"]).notes nestedClasses
        []).map (·.line) = [4] ∧
      ((MethodDoc.standard.lookingAt ⟨.anonInner, none⟩ (-1) ["Override"]).notes nestedClasses
        []).map (·.line) = [2, 4] ∧
      ((TypeDoc.standard.lookingAt ⟨.priv, some .pub⟩).notes nestedClasses []).map (·.line) = [3] ∧
      ((TypeDoc.standard.lookingAt ⟨.anonInner, none⟩).notes nestedClasses []).map (·.line) =
        [1, 3] ∧
      ∃ kept all,
        (MethodDoc.standard.lookingAt ⟨.priv, some .pub⟩ 0 ["Override", "Test"]).check unwritten
          nestedClasses = .ok kept ∧
        (MethodDoc.standard.lookingAt ⟨.anonInner, none⟩ (-1) ["Override"]).check unwritten
          nestedClasses = .ok all ∧ kept.Sublist all := by
  have narrows : ScopeFilter.Narrows ⟨.priv, some .pub⟩ ⟨.anonInner, none⟩ := ⟨rfl, by simp⟩
  have narrowed := checks_narrowed narrows (show (-1 : Int) ≤ 0 by decide)
    (show ["Override"] ⊆ ["Override", "Test"] by simp) unwritten nestedClasses
  exact ⟨narrows, rfl, by decide +kernel, by decide +kernel, by decide +kernel, by decide +kernel,
    narrowed.1 .standard⟩

end DocAudit
