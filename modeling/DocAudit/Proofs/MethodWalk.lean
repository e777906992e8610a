import DocAudit.Proofs.MethodOccurrence
import DocAudit.Rule.MethodDoc.Check

set_option autoImplicit false

namespace DocAudit

-- What is left of a declaration without those inside it.
def Statement.bare (statement : Statement) : Statement := { statement with nested := [] }

def Block.bare (body : Block) : Block :=
  { body with statements := body.statements.map Statement.bare }

def MethodDecl.bare (decl : MethodDecl) : MethodDecl :=
  { decl with body := decl.body.map Block.bare }

def TypeDecl.header (decl : TypeDecl) : TypeDecl := { decl with members := [] }

namespace MethodDecl

theorem bodyLineCount_bare (decl : MethodDecl) : decl.bare.bodyLineCount = decl.bodyLineCount := by
  cases present : decl.body with
  | none => simp [bare, bodyLineCount, present]
  | some body => simp [bare, bodyLineCount, present, Block.bare]

theorem onlyStatementKind?_bare (decl : MethodDecl) :
    decl.bare.onlyStatementKind? = decl.onlyStatementKind? := by
  cases present : decl.body with
  | none => simp [bare, onlyStatementKind?, present]
  | some body =>
    obtain ⟨openLine, closeLine, statements⟩ := body
    match statements with
    | [] => simp [bare, onlyStatementKind?, present, Block.bare]
    | [statement] => simp [bare, onlyStatementKind?, present, Block.bare, Statement.bare]
    | first :: second :: rest => simp [bare, onlyStatementKind?, present, Block.bare]

theorem isSetter_bare (decl : MethodDecl) : decl.bare.isSetter = decl.isSetter := by
  simp only [isSetter, onlyStatementKind?_bare]
  rfl

theorem isGetter_bare (decl : MethodDecl) : decl.bare.isGetter = decl.isGetter := by
  simp only [isGetter, onlyStatementKind?_bare]
  rfl

end MethodDecl

theorem Scope.surrounding_header (enclosing : List TypeDecl) :
    Scope.surrounding (enclosing.map TypeDecl.header) = Scope.surrounding enclosing := by
  cases enclosing with
  | nil => rfl
  | cons decl rest =>
    simp only [List.map_cons, Scope.surrounding, List.foldl_map]
    rfl

namespace MethodDoc

section Locality

variable (rule : MethodDoc)

theorem isExempt_bare (decl : MethodDecl) : rule.isExempt decl.bare = rule.isExempt decl := by
  simp only [isExempt, MethodDecl.bodyLineCount_bare]
  rfl

theorem mayLackComment_bare (decl : MethodDecl) :
    rule.mayLackComment decl.bare = rule.mayLackComment decl := by
  simp only [mayLackComment, MethodDecl.isSetter_bare, MethodDecl.isGetter_bare]
  rfl

-- The tags are held against the signature, which is the same for the bare declaration.
theorem checkComment_bare (classes : ClassHierarchy) (decl : MethodDecl) (lines : List String)
    (tags : List Tag) :
    rule.checkComment classes decl.bare lines tags = rule.checkComment classes decl lines tags :=
  rfl

theorem checkMethod_bare (shared : Surroundings) (enclosing : List TypeDecl) (decl : MethodDecl) :
    rule.checkMethod shared enclosing decl =
      rule.checkMethod shared (enclosing.map TypeDecl.header) decl.bare := by
  have kinds : (enclosing.map TypeDecl.header).head?.map (·.kind) =
      enclosing.head?.map (·.kind) := by
    cases enclosing <;> rfl
  simp only [checkMethod, isExempt_bare, mayLackComment_bare, checkComment_bare,
    Scope.surrounding_header, kinds]
  rfl

end Locality

namespace Walk

theorem report_report (walk : Walk) (first second : List Note) :
    (walk.report first).report second = walk.report (first ++ second) := by
  simp [report, List.append_assoc]

theorem report_nil (walk : Walk) : walk.report [] = walk := by
  simp [report]

-- What was entered is left again, whatever was reported in between.
theorem leave_report_enter (walk : Walk) (decl : TypeDecl) (notes : List Note) :
    ((walk.enter decl).report notes).leave = walk.report notes := rfl

end Walk

section Traversal

variable (rule : MethodDoc) (shared : Surroundings)

def notesAt (occurrence : Occurrence) : List Note :=
  rule.checkMethod shared occurrence.enclosing occurrence.decl

def notesAmong (groups : List (List Occurrence)) : List Note :=
  (Occurrence.number 0 groups).flatMap (rule.notesAt shared)

theorem notesAmong_nil : rule.notesAmong shared [] = [] := rfl

theorem notesAmong_cons (group : List Occurrence) (rest : List (List Occurrence)) :
    rule.notesAmong shared (group :: rest) =
      group.flatMap (rule.notesAt shared) ++ rule.notesAmong shared rest := by
  have stable : ∀ index occurrence, rule.notesAt shared (Occurrence.under index occurrence) =
      rule.notesAt shared occurrence := fun _ _ => rfl
  simp only [notesAmong, Occurrence.flatMap_number _ stable, List.flatMap_cons]

theorem visitType_report {walk : Walk} {decl : TypeDecl}
    (inner : ∀ walk : Walk, rule.visitMembers shared walk decl.members =
      walk.report (rule.notesAmong shared (Occurrence.ofMembers walk.enclosing decl.members))) :
    rule.visitType shared walk decl =
      walk.report ((Occurrence.ofType walk.enclosing decl).flatMap (rule.notesAt shared)) := by
  obtain ⟨kind, name, line, column, endLine, modifiers, typeParams, superclass, members⟩ := decl
  rw [visitType, inner, Walk.leave_report_enter, Occurrence.ofType_eq]
  rfl

theorem visitMethod_report {walk : Walk} {decl : MethodDecl}
    (inner : ∀ body, decl.body = some body → ∀ walk : Walk,
      rule.visitStatements shared walk body.statements =
        walk.report (rule.notesAmong shared
          (Occurrence.ofStatements walk.enclosing body.statements))) :
    rule.visitMethod shared walk decl =
      walk.report ((Occurrence.ofMethod walk.enclosing decl).flatMap (rule.notesAt shared)) := by
  obtain ⟨kind, name, line, column, endLine, modifiers, typeParams, params, throws, result, body⟩ :=
    decl
  rw [Occurrence.ofMethod_eq, List.flatMap_cons]
  cases body with
  | none =>
    simp [visitMethod, notesAt, MethodDecl.statements, Occurrence.ofStatements, Occurrence.number]
  | some body =>
    obtain ⟨openLine, closeLine, statements⟩ := body
    rw [visitMethod, inner _ rfl, Walk.report_report]
    rfl

theorem visit_induction : DeclarationInduction
    (fun types => ∀ walk : Walk, rule.visitTypes shared walk types =
      walk.report (rule.notesAmong shared (Occurrence.ofTypes walk.enclosing types)))
    (fun members => ∀ walk : Walk, rule.visitMembers shared walk members =
      walk.report (rule.notesAmong shared (Occurrence.ofMembers walk.enclosing members)))
    (fun statements => ∀ walk : Walk, rule.visitStatements shared walk statements =
      walk.report
        (rule.notesAmong shared (Occurrence.ofStatements walk.enclosing statements))) where
  noTypes walk := by
    rw [visitTypes, Occurrence.ofTypes, notesAmong_nil, Walk.report_nil]
  addType decl rest inner later walk := by
    rw [visitTypes, later, rule.visitType_report shared inner, Walk.report_report,
      Occurrence.ofTypes, notesAmong_cons]
    rfl
  noMembers walk := by
    rw [visitMembers, Occurrence.ofMembers, notesAmong_nil, Walk.report_nil]
  addMethod decl rest inner later walk := by
    rw [visitMembers, later, visitMember, rule.visitMethod_report shared inner, Walk.report_report,
      Occurrence.ofMembers, Occurrence.ofMember, notesAmong_cons]
    rfl
  addStaticInit line body rest inner later walk := by
    have visited : rule.visitMember shared walk (.staticInit line body) =
        rule.visitStatements shared walk body.statements := by
      obtain ⟨⟩ := body
      rw [visitMember]
    rw [visitMembers, later, visited, inner, Walk.report_report, Occurrence.ofMembers,
      Occurrence.ofMember_staticInit, notesAmong_cons]
    rfl
  addMemberType decl rest inner later walk := by
    rw [visitMembers, later, visitMember, rule.visitType_report shared inner, Walk.report_report,
      Occurrence.ofMembers, Occurrence.ofMember, notesAmong_cons]
    rfl
  noStatements walk := by
    rw [visitStatements, Occurrence.ofStatements, notesAmong_nil, Walk.report_nil]
  addStatement statement rest inner later walk := by
    obtain ⟨line, endLine, kind, nested⟩ := statement
    rw [visitStatements, later, inner, Walk.report_report, Occurrence.ofStatements, notesAmong_cons]
    rfl

theorem notes_eq (unit : CompilationUnit) (content : List Char) :
    rule.notes unit content =
      unit.methodOccurrences.flatMap (rule.notesAt ⟨.ofUnit unit content, .ofUnit unit⟩) := by
  rw [notes, (visit_induction rule _).ofTypes]
  rfl

end Traversal

theorem check_eq_occurrences (rule : MethodDoc) (file : SourceFile) (unit : CompilationUnit) :
    rule.check file unit = .ok (unit.methodOccurrences.flatMap fun occurrence =>
        (rule.checkMethod ⟨.ofUnit unit file.content, .ofUnit unit⟩ occurrence.enclosing
          occurrence.decl).map (rule.reporter.finding file)) ∧
      (unit.methodOccurrences.Pairwise fun first second => first.address < second.address) ∧
      (∀ address enclosing decl, ⟨address, enclosing, decl⟩ ∈ unit.methodOccurrences ↔
        unit.methodAt? address = some (enclosing, decl)) ∧
      ∀ shared enclosing decl, rule.checkMethod shared enclosing decl =
        rule.checkMethod shared (enclosing.map TypeDecl.header) decl.bare := by
  refine ⟨?_, unit.methodOccurrences_ordered, unit.mem_methodOccurrences_iff,
    rule.checkMethod_bare⟩
  rw [check, notes_eq, List.map_flatMap]
  rfl

end MethodDoc

end DocAudit
