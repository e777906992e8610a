import DocAudit.CommentIndex
import DocAudit.Message
import DocAudit.Settings
import DocAudit.Tag

set_option autoImplicit false

namespace DocAudit

structure TagRequirement where
  required : Bool
  format : Option (String × Pattern.Regex)

namespace TagRequirement

def none : TagRequirement := ⟨false, .none⟩

def isActive (requirement : TagRequirement) : Bool :=
  requirement.required || requirement.format.isSome

end TagRequirement

structure TypeDoc where
  severity : Severity
  filter : ScopeFilter
  author : TagRequirement
  version : TagRequirement
  allowMissingParam : Bool
  allowUnknown : Bool

namespace TypeDoc

def code : String := "DL003"

def name : String := "javadoc-type"

def description : String := "Checks Javadoc of type declarations"

def standard : TypeDoc := ⟨.warning, .standard, .none, .none, false, false⟩

variable [Pattern.Reader]

def tagPattern (key text : String) : Except SettingsError (String × Pattern.Regex) :=
  match Pattern.Reader.read? text.toList with
  | some regex => .ok (text, regex)
  | none => .error (.invalidOption name key .pattern)

def withAuthorFormat (rule : TypeDoc) (text : String) : Except SettingsError TypeDoc := do
  let format ← tagPattern "author_format" text
  pure { rule with author := { rule.author with format := some format } }

def withVersionFormat (rule : TypeDoc) (text : String) : Except SettingsError TypeDoc := do
  let format ← tagPattern "version_format" text
  pure { rule with version := { rule.version with format := some format } }

def withRequiredAuthor (rule : TypeDoc) (required : Bool) : TypeDoc :=
  { rule with author := { rule.author with required } }

def withRequiredVersion (rule : TypeDoc) (required : Bool) : TypeDoc :=
  { rule with version := { rule.version with required } }

def ofSettings (settings : RuleSettings) : Except SettingsError TypeDoc := do
  let filter ← ScopeFilter.ofSettings name settings
  let rule : TypeDoc :=
    { standard with
      filter
      severity := settings.severity.getD standard.severity
      allowMissingParam := settings.flag "allow_missing_param_tags"
      allowUnknown := settings.flag "allow_unknown_tags" }
  let rule := rule.withRequiredAuthor (settings.flag "require_author")
  let rule := rule.withRequiredVersion (settings.flag "require_version")
  let rule ← (settings.string? "author_format").elim (.ok rule) rule.withAuthorFormat
  (settings.string? "version_format").elim (.ok rule) rule.withVersionFormat

def unknownTagNotes (rule : TypeDoc) (comment : Comment) : List Note :=
  if rule.allowUnknown then []
  else comment.unknownBlockTags.map fun tag => ⟨tag.line, tag.column, .unknownTag tag.kind.name⟩

def requirementNotes (line : Nat) (tags : List Tag) (kind : TagKind) (display : String)
    (requirement : TagRequirement) : List Note :=
  let present := tags.reverse.filter (·.kind == kind)
  if !requirement.isActive then []
  else if present.isEmpty then [⟨line, 0, .missingTypeTag display⟩]
  else
    match requirement.format with
    | none => []
    | some (source, regex) =>
      (present.filter fun tag => !regex.matchesWithin tag.argumentText.toList).map fun _ =>
        ⟨line, 0, .typeTagFormat display source⟩

def bracketed (name : String) : String := "<" ++ name ++ ">"

def isDocumented (tags : List Tag) (param : Identifier) : Bool :=
  tags.any fun tag =>
    tag.isParam && (bracketed param.text).toList.isPrefixOf tag.argumentText.toList

def missingParamNotes (rule : TypeDoc) (decl : TypeDecl) (tags : List Tag) : List Note :=
  if rule.allowMissingParam then []
  else
    (decl.typeParams.filter (!isDocumented tags ·)).map fun param =>
      ⟨decl.line, 0, .missingTypeTag ("@param " ++ bracketed param.text)⟩

def bracketedName? (argument : List Char) : Option (List Char) :=
  match Text.trimStart argument with
  | '<' :: rest =>
    let name := rest.takeWhile (· != '>')
    match rest.dropWhile (· != '>') with
    | '>' :: after => if name.isEmpty || after.contains '\n' then none else some name
    | _ => none
  | _ => none

def paramTagNotes (decl : TypeDecl) (tag : Tag) : List Note :=
  match bracketedName? tag.argumentText.toList with
  | some found =>
    let name := String.ofList (Text.trim found)
    if decl.typeParams.any (·.text == name) then []
    else [⟨tag.line, tag.column, .unusedTag "@param" (bracketed name)⟩]
  | none => [⟨tag.line, tag.column, .unusedTagGeneral⟩]

def checkOutermost (rule : TypeDoc) (decl : TypeDecl) (comment : Comment) : List Note :=
  let tags := comment.knownBlockTags
  rule.unknownTagNotes comment ++
    requirementNotes decl.line tags .author "@author" rule.author ++
    requirementNotes decl.line tags .version "@version" rule.version ++
    rule.missingParamNotes decl tags ++
    (tags.reverse.filter Tag.isParam).flatMap (paramTagNotes decl)

def checkType (rule : TypeDoc) (comments : CommentIndex) (enclosing : List TypeDecl)
    (decl : TypeDecl) : List Note :=
  let declared := Scope.effective decl.modifiers (enclosing.head?.map (·.kind))
  if !rule.filter.shouldCheck declared (Scope.surrounding enclosing) then []
  else
    match comments.javadocBefore? decl.line with
    | none => [⟨decl.line, 0, .missingJavadoc⟩]
    | some comment => if enclosing.isEmpty then rule.checkOutermost decl comment else []

structure Walk where
  enclosing : List TypeDecl
  notes : List Note

namespace Walk

def start : Walk := ⟨[], []⟩

def enter (walk : Walk) (decl : TypeDecl) : Walk :=
  { walk with enclosing := decl :: walk.enclosing }

def leave (walk : Walk) : Walk := { walk with enclosing := walk.enclosing.drop 1 }

def report (walk : Walk) (notes : List Note) : Walk := { walk with notes := walk.notes ++ notes }

end Walk

mutual

def visitType (rule : TypeDoc) (comments : CommentIndex) (walk : Walk) : TypeDecl → Walk
  | ⟨kind, name, line, column, endLine, modifiers, typeParams, superclass, members⟩ =>
    if kind = .anonymousBody then walk
    else
      let decl : TypeDecl :=
        ⟨kind, name, line, column, endLine, modifiers, typeParams, superclass, members⟩
      let walk := walk.report (rule.checkType comments walk.enclosing decl)
      (visitMembers rule comments (walk.enter decl) members).leave

def visitMembers (rule : TypeDoc) (comments : CommentIndex) (walk : Walk) : List Member → Walk
  | [] => walk
  | .type decl :: rest => visitMembers rule comments (visitType rule comments walk decl) rest
  | .method _ :: rest => visitMembers rule comments walk rest
  | .staticInit _ _ :: rest => visitMembers rule comments walk rest

end

def notes (rule : TypeDoc) (unit : CompilationUnit) (content : List Char) : List Note :=
  (unit.types.foldl (rule.visitType (.ofUnit unit content)) .start).notes

def reporter (rule : TypeDoc) : Reporter := ⟨code, name, rule.severity⟩

def check (rule : TypeDoc) (file : SourceFile) (unit : CompilationUnit) :
    Except MalformedTree (List Finding) :=
  .ok ((rule.notes unit file.content).map (rule.reporter.finding file))

end TypeDoc

end DocAudit
