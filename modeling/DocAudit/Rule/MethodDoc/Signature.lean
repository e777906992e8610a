import DocAudit.Rule.MethodDoc.Options

set_option autoImplicit false

namespace DocAudit.MethodDecl

def bodyLineCount (decl : MethodDecl) : Nat :=
  match decl.body with
  | some body =>
    if body.statements.isEmpty then 1 else body.closeLine - (body.openLine + 1)
  | none => 1

def hasPropertyName (words : List String) (name : String) : Bool :=
  words.any fun word =>
    word.toList.isPrefixOf name.toList &&
      ((name.toList.drop word.toList.length).head?).any Char.isUpper

def isPlain (decl : MethodDecl) : Bool :=
  decl.kind == .method && decl.typeParams.isEmpty && decl.throws.isEmpty

def onlyStatementKind? (decl : MethodDecl) : Option StatementKind :=
  match decl.body with
  | some { statements := [statement], .. } => some statement.kind
  | _ => none

def isSetter (decl : MethodDecl) : Bool :=
  decl.isPlain && hasPropertyName ["set"] decl.name.text && decl.result == .nothing &&
    decl.params.length == 1 && decl.onlyStatementKind? == some .assignment

def isGetter (decl : MethodDecl) : Bool :=
  decl.isPlain && hasPropertyName ["is", "get"] decl.name.text && decl.result == .value &&
    decl.params.isEmpty && decl.onlyStatementKind? == some (.returns true)

def canInheritDoc (decl : MethodDecl) : Bool :=
  decl.kind == .method && !decl.modifiers.isStatic && decl.modifiers.access != some .priv

end DocAudit.MethodDecl

namespace DocAudit.MethodDoc

def isExempt (rule : MethodDoc) (decl : MethodDecl) : Bool :=
  (decl.kind != .annotationElement && decl.bodyLineCount ≤ rule.minLineCount) ||
    rule.allowedAnnotations.any decl.modifiers.hasAnnotation

def mayLackComment (rule : MethodDoc) (decl : MethodDecl) : Bool :=
  rule.allowMissing || (rule.allowMissingProperty && (decl.isSetter || decl.isGetter)) ||
    rule.ignoreNames.any fun regex => regex.matchesWithin decl.name.text.toList

end DocAudit.MethodDoc
