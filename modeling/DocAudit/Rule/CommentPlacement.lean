import DocAudit.Message
import DocAudit.Settings

set_option autoImplicit false

namespace DocAudit

structure CommentPlacement where
  severity : Severity
  block : AllowList
  line : AllowList

namespace CommentPlacement

def code : String := "DL001"

def name : String := "internal-comments"

def description : String := "Restricts comment placement and format by lexical context"

def standard : CommentPlacement := ⟨.warning, .anywhere, .anywhere⟩

variable [Pattern.Reader]

def descriptor (key text : String) : Except SettingsError AllowList :=
  match AllowList.parse text.toList with
  | .ok allowed => .ok allowed
  | .error e => .error (.invalidOption name key (.descriptor e))

def withSeverity (rule : CommentPlacement) (severity : Severity) : CommentPlacement :=
  { rule with severity }

def withBlockFormats (rule : CommentPlacement) (text : String) :
    Except SettingsError CommentPlacement := do
  let block ← descriptor "allowed_block_formats" text
  pure { rule with block }

def withLineFormats (rule : CommentPlacement) (text : String) :
    Except SettingsError CommentPlacement := do
  let line ← descriptor "allowed_line_formats" text
  pure { rule with line }

def ofSettings (settings : RuleSettings) : Except SettingsError CommentPlacement := do
  let rule := standard.withSeverity (settings.severity.getD standard.severity)
  let rule ← (settings.string? "allowed_block_formats").elim (.ok rule) rule.withBlockFormats
  (settings.string? "allowed_line_formats").elim (.ok rule) rule.withLineFormats

def reporter (rule : CommentPlacement) : Reporter := ⟨code, name, rule.severity⟩

end CommentPlacement

def CommentFinding.note (finding : CommentFinding) : Note :=
  ⟨finding.line, finding.column,
    match finding.fault with
    | .neverAllowed => .commentNeverAllowed finding.style.delimiter
    | .notAllowed => .commentNotAllowed finding.style.delimiter
    | .badFormat => .commentBadFormat finding.style.delimiter⟩

namespace CommentPlacement

def check (rule : CommentPlacement) (file : SourceFile) (unit : CompilationUnit) :
    Except MalformedTree (List Finding) := do
  let map ← RegionMap.classify unit
  let findings ← AllowList.validate map unit rule.block rule.line
  pure (findings.map fun finding => rule.reporter.finding file finding.note)

end CommentPlacement

end DocAudit
