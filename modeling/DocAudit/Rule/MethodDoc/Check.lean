import DocAudit.CommentIndex
import DocAudit.Rule.MethodDoc.Params
import DocAudit.Rule.MethodDoc.Signature
import DocAudit.Rule.MethodDoc.Throws

set_option autoImplicit false

namespace DocAudit

namespace Pattern.Regex

def anyCase (text : String) : Regex :=
  text.toList.foldr (fun c rest => .seq (.char (.folded (.single c))) rest) .empty

def resultWord : Regex :=
  .seq (.boundary (.wordEdge false))
    (.seq (.alt (anyCase "return") (anyCase "yield"))
      (.seq (.alt (anyCase "s") (.alt (anyCase "ing") .empty)) (.boundary (.wordEdge false))))

end Pattern.Regex

namespace MethodDoc

def isNarrated (rule : MethodDoc) (lines : List String) : Bool :=
  rule.allowNarrativeReturn &&
    lines.any fun line => Pattern.Regex.resultWord.matchesWithin line.toList

def checkReturn (rule : MethodDoc) (decl : MethodDecl) (lines : List String) (report : Bool)
    (tags : List Tag) : List Note × List Tag :=
  let (returns, rest) := tags.partition Tag.isReturn
  let duplicates : List Note := (returns.drop 1).map fun tag =>
    ⟨tag.line, tag.column, .duplicateTag "@return"⟩
  let missing : List Note :=
    if returns.isEmpty && !rule.allowMissingReturn && report && !rule.isNarrated lines then
      [⟨decl.line, 0, .expectedReturn⟩]
    else []
  (duplicates ++ missing, rest)

def leftoverNotes (tags : List Tag) : List Note :=
  (tags.filter (!·.isSeeOrInheritDoc)).map fun tag => ⟨tag.line, 0, .unusedTagGeneral⟩

def checkSignature (rule : MethodDoc) (classes : ClassHierarchy) (decl : MethodDecl)
    (lines : List String) (tags : List Tag) : List Note × List Tag :=
  let report := !tags.any Tag.isInheritDoc
  let (paramNotes, tags) := rule.checkParams decl lines report tags
  let (throwsNotes, tags) := rule.checkThrows classes decl report tags
  let (returnNotes, tags) :=
    if decl.isFunction then rule.checkReturn decl lines report tags else ([], tags)
  (paramNotes ++ throwsNotes ++ returnNotes, tags)

/-- The findings on a comment. A comment whose only tag inherits another is not looked into. -/
def checkComment (rule : MethodDoc) (classes : ClassHierarchy) (decl : MethodDecl)
    (lines : List String) (tags : List Tag) : List Note :=
  if tags.length == 1 && tags.all Tag.isInheritDoc then
    if decl.canInheritDoc then [] else [⟨decl.line, decl.column, .invalidInheritDoc⟩]
  else if decl.kind = .annotationElement then leftoverNotes tags
  else
    let (notes, rest) := rule.checkSignature classes decl lines tags
    notes ++ leftoverNotes rest

structure Surroundings where
  comments : CommentIndex
  classes : ClassHierarchy

def checkMethod (rule : MethodDoc) (shared : Surroundings) (enclosing : List TypeDecl)
    (decl : MethodDecl) : List Note :=
  let declared := Scope.effective decl.modifiers (enclosing.head?.map (·.kind))
  if rule.isExempt decl then []
  else if !rule.filter.shouldCheck declared (Scope.surrounding enclosing) then []
  else
    match shared.comments.javadocBefore? decl.line with
    | some comment => rule.checkComment shared.classes decl comment.lines comment.methodTags
    | none => if rule.mayLackComment decl then [] else [⟨decl.line, decl.column, .missingJavadoc⟩]

structure Walk where
  enclosing : List TypeDecl
  notes : List Note

namespace Walk

def start : Walk := ⟨[], []⟩

def enter (walk : Walk) (decl : TypeDecl) : Walk :=
  { walk with enclosing := decl :: walk.enclosing }

def leave (walk : Walk) : Walk := { walk with enclosing := walk.enclosing.drop 1 }

def report (walk : Walk) (notes : List Note) : Walk := { walk with notes := walk.notes ++ notes }

end Walk

mutual

def visitType (rule : MethodDoc) (shared : Surroundings) (walk : Walk) : TypeDecl → Walk
  | ⟨kind, name, line, column, endLine, modifiers, typeParams, superclass, members⟩ =>
    (visitMembers rule shared (walk.enter
      ⟨kind, name, line, column, endLine, modifiers, typeParams, superclass, members⟩)
      members).leave

def visitMembers (rule : MethodDoc) (shared : Surroundings) (walk : Walk) : List Member → Walk
  | [] => walk
  | member :: rest => visitMembers rule shared (visitMember rule shared walk member) rest

def visitMember (rule : MethodDoc) (shared : Surroundings) (walk : Walk) : Member → Walk
  | .method decl => visitMethod rule shared walk decl
  | .staticInit _ ⟨_, _, statements⟩ => visitStatements rule shared walk statements
  | .type decl => visitType rule shared walk decl

def visitMethod (rule : MethodDoc) (shared : Surroundings) (walk : Walk) : MethodDecl → Walk
  | ⟨kind, name, line, column, endLine, modifiers, typeParams, params, throws, result, none⟩ =>
    walk.report (rule.checkMethod shared walk.enclosing
      ⟨kind, name, line, column, endLine, modifiers, typeParams, params, throws, result, none⟩)
  | ⟨kind, name, line, column, endLine, modifiers, typeParams, params, throws, result,
      some ⟨openLine, closeLine, statements⟩⟩ =>
    visitStatements rule shared
      (walk.report (rule.checkMethod shared walk.enclosing
        ⟨kind, name, line, column, endLine, modifiers, typeParams, params, throws, result,
          some ⟨openLine, closeLine, statements⟩⟩)) statements

def visitStatements (rule : MethodDoc) (shared : Surroundings) (walk : Walk) :
    List Statement → Walk
  | [] => walk
  | ⟨_, _, _, nested⟩ :: rest =>
    visitStatements rule shared (visitTypes rule shared walk nested) rest

def visitTypes (rule : MethodDoc) (shared : Surroundings) (walk : Walk) : List TypeDecl → Walk
  | [] => walk
  | decl :: rest => visitTypes rule shared (visitType rule shared walk decl) rest

end

def notes (rule : MethodDoc) (unit : CompilationUnit) (content : List Char) : List Note :=
  (rule.visitTypes ⟨.ofUnit unit content, .ofUnit unit⟩ .start unit.types).notes

def reporter (rule : MethodDoc) : Reporter := ⟨code, name, rule.severity⟩

def check (rule : MethodDoc) (file : SourceFile) (unit : CompilationUnit) :
    Except MalformedTree (List Finding) :=
  .ok ((rule.notes unit file.content).map (rule.reporter.finding file))

end MethodDoc

end DocAudit
