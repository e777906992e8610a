import DocAudit.Rule.CommentPlacement
import DocAudit.Rule.MethodDoc.Check
import DocAudit.Rule.TypeDoc

set_option autoImplicit false

namespace DocAudit

inductive Rule where
  | commentPlacement (rule : CommentPlacement)
  | methodDoc (rule : MethodDoc)
  | typeDoc (rule : TypeDoc)

namespace Rule

def reporter : Rule → Reporter
  | .commentPlacement rule => rule.reporter
  | .methodDoc rule => rule.reporter
  | .typeDoc rule => rule.reporter

def code (rule : Rule) : String := rule.reporter.code

def name (rule : Rule) : String := rule.reporter.rule

def severity (rule : Rule) : Severity := rule.reporter.severity

def description : Rule → String
  | .commentPlacement _ => CommentPlacement.description
  | .methodDoc _ => MethodDoc.description
  | .typeDoc _ => TypeDoc.description

def check : Rule → SourceFile → CompilationUnit → Except MalformedTree (List Finding)
  | .commentPlacement rule => rule.check
  | .methodDoc rule => rule.check
  | .typeDoc rule => rule.check

variable [Pattern.Reader]

def ofSettings? (name : String) (settings : RuleSettings) : Except SettingsError (Option Rule) :=
  if name = CommentPlacement.name then
    (CommentPlacement.ofSettings settings).map fun rule => some (.commentPlacement rule)
  else if name = MethodDoc.name then
    (MethodDoc.ofSettings settings).map fun rule => some (.methodDoc rule)
  else if name = TypeDoc.name then
    (TypeDoc.ofSettings settings).map fun rule => some (.typeDoc rule)
  else .ok none

end Rule

end DocAudit
