import DocAudit.Message
import DocAudit.Rule.MethodDoc.Options
import DocAudit.Tag
import DocAudit.Text.Uppercase

set_option autoImplicit false

namespace DocAudit

namespace Pattern.Regex

def word (text : List Char) : Regex :=
  .seq (.boundary (.wordEdge false))
    (text.foldr (fun c rest => .seq (.char (.single c)) rest) (.boundary (.wordEdge false)))

end Pattern.Regex

def isMentioned (name : String) (lines : List String) : Bool :=
  let regex := Pattern.Regex.word (Text.upper name.toList)
  lines.any fun line => regex.matchesWithin line.toList

namespace MethodDecl

/-- What wants a tag, with the argument of that tag: parameters, then type parameters. -/
def documentable (decl : MethodDecl) : List (Identifier × String) :=
  decl.params.map (fun param => (param, param.text)) ++
    decl.typeParams.map fun param => (param, "<" ++ param.text ++ ">")

end MethodDecl

def Tag.documents (text : String) (tag : Tag) : Bool := tag.isParam && tag.argumentText == text

structure ParamScan where
  tags : List Tag
  tagFound : Bool
  narrativeFound : Bool
  notes : List Note
deriving DecidableEq, Repr

namespace MethodDoc

def isUnusedParam (rule : MethodDoc) (param : Identifier) : Bool :=
  rule.unusedParams.any fun regex => regex.matchesWithin param.text.toList

/-- One parameter: it takes its tag also when none is asked of it. -/
def scanParam (rule : MethodDoc) (lines : List String) (report : Bool) (scan : ParamScan)
    (entry : Identifier × String) : ParamScan :=
  let found := scan.tags.any (Tag.documents entry.2)
  let scan := { scan with tags := scan.tags.eraseP (Tag.documents entry.2) }
  if rule.isUnusedParam entry.1 then scan
  else if found then { scan with tagFound := true }
  else if rule.allowNarrativeParam && isMentioned entry.1.text lines then
    { scan with narrativeFound := true }
  else if !rule.allowMissingParam && report then
    { scan with
      notes := scan.notes ++ [⟨entry.1.line, entry.1.column, .expectedTag "@param" entry.2⟩] }
  else scan

def mixedStyleNotes (decl : MethodDecl) (scan : ParamScan) : List Note :=
  if scan.tagFound && scan.narrativeFound then [⟨decl.line, decl.column, .mixedStyle⟩] else []

def checkParams (rule : MethodDoc) (decl : MethodDecl) (lines : List String) (report : Bool)
    (tags : List Tag) : List Note × List Tag :=
  let scan := decl.documentable.foldl (rule.scanParam lines report) ⟨tags, false, false, []⟩
  let (unused, rest) := scan.tags.partition Tag.isParam
  (scan.notes ++ mixedStyleNotes decl scan ++
    unused.map fun tag => ⟨tag.line, tag.column, .unusedTag "@param" tag.argumentText⟩, rest)

end MethodDoc

end DocAudit
