import DocAudit.SourceFile

set_option autoImplicit false

namespace DocAudit

def replaceAll (pattern replacement : List Char) (text : List Char) : List Char :=
  go 0 text
where
  go (skip : Nat) : List Char → List Char
    | [] => []
    | c :: rest =>
      match skip with
      | n + 1 => go n rest
      | 0 =>
        if pattern.isPrefixOf (c :: rest) then replacement ++ go (pattern.length - 1) rest
        else c :: go 0 rest

inductive Message where
  | commentNeverAllowed (style : String)
  | commentNotAllowed (style : String)
  | commentBadFormat (style : String)
  | missingJavadoc
  | expectedTag (tag name : String)
  | unusedTag (tag name : String)
  | unusedTagGeneral
  | expectedReturn
  | duplicateTag (tag : String)
  | invalidInheritDoc
  | mixedStyle
  | classInfo (tag name : String)
  | unknownTag (name : String)
  | missingTypeTag (tag : String)
  | typeTagFormat (tag pattern : String)
deriving DecidableEq, Repr

namespace Message

def key : Message → String
  | .commentNeverAllowed _ => "comment.neverAllowed"
  | .commentNotAllowed _ => "comment.notAllowed"
  | .commentBadFormat _ => "comment.badFormat"
  | .missingJavadoc => "javadoc.missing"
  | .expectedTag _ _ => "javadoc.expectedTag"
  | .unusedTag _ _ => "javadoc.unusedTag"
  | .unusedTagGeneral => "javadoc.unusedTagGeneral"
  | .expectedReturn => "javadoc.return.expected"
  | .duplicateTag _ => "javadoc.duplicateTag"
  | .invalidInheritDoc => "javadoc.invalidInheritDoc"
  | .mixedStyle => "javadoc.mixedStyle"
  | .classInfo _ _ => "javadoc.classInfo"
  | .unknownTag _ => "javadoc.unknownTag"
  | .missingTypeTag _ => "type.missingTag"
  | .typeTagFormat _ _ => "type.tagFormat"

def arguments : Message → List String
  | .commentNeverAllowed style | .commentNotAllowed style | .commentBadFormat style => [style]
  | .missingJavadoc | .unusedTagGeneral | .expectedReturn | .invalidInheritDoc | .mixedStyle => []
  | .expectedTag tag name | .unusedTag tag name | .classInfo tag name => [tag, name]
  | .duplicateTag tag => [tag]
  | .unknownTag name => [name]
  | .missingTypeTag tag => [tag]
  | .typeTagFormat tag pattern => [tag, pattern]

def templates : List (String × String) :=
  [("comment.neverAllowed", "'\x7b0\x7d' comments are not allowed anywhere."),
    ("comment.notAllowed", "'\x7b0\x7d' comments are not allowed here."),
    ("comment.badFormat", "Badly formatted '\x7b0\x7d' comment."),
    ("javadoc.missing", "Missing a Javadoc comment."),
    ("javadoc.expectedTag", "Expected \x7b0\x7d tag for '\x7b1\x7d'."),
    ("javadoc.unusedTag", "Unused \x7b0\x7d tag for '\x7b1\x7d'."),
    ("javadoc.unusedTagGeneral", "Unused Javadoc tag."),
    ("javadoc.return.expected", "Expected @return tag."),
    ("javadoc.duplicateTag", "Duplicate \x7b0\x7d tag."),
    ("javadoc.invalidInheritDoc", "Invalid use of the \x7b@inheritDoc\x7d tag."),
    ("javadoc.mixedStyle",
      "Parameters are documented with both @param tags and narrative text."),
    ("javadoc.classInfo", "Unable to get class information for \x7b0\x7d tag '\x7b1\x7d'."),
    ("javadoc.unknownTag", "Unknown tag '\x7b0\x7d'."),
    ("type.missingTag", "Type Javadoc comment is missing an \x7b0\x7d tag."),
    ("type.tagFormat", "Type Javadoc tag \x7b0\x7d must match pattern '\x7b1\x7d'.")]

def template (key : String) : String :=
  ((templates.find? (·.1 == key)).map (·.2)).getD "\x7b0\x7d"

def placeholder (index : Nat) : List Char := '{' :: (toString index).toList ++ ['}']

def fill : Nat → List String → List Char → List Char
  | _, [], text => text
  | index, argument :: rest, text =>
    fill (index + 1) rest (replaceAll (placeholder index) argument.toList text)

def render (key : String) (arguments : List String) : String :=
  String.ofList (fill 0 arguments (template key).toList)

def text (message : Message) : String := render message.key message.arguments

end Message

structure Note where
  line : Nat
  column : Nat
  message : Message
deriving DecidableEq, Repr

structure Reporter where
  code : String
  rule : String
  severity : Severity
deriving DecidableEq, Repr

def Reporter.finding (reporter : Reporter) (file : SourceFile) (note : Note) : Finding :=
  ⟨reporter.code, reporter.rule, reporter.severity, file.location note.line note.column,
    note.message.text, some note.message.key, note.message.arguments⟩

end DocAudit
