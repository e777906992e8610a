import DocAudit.Java.Grammar.Phrase

set_option autoImplicit false

namespace DocAudit.Java.Grammar

open Phrase

def primitiveNames : List String :=
  ["byte", "short", "int", "long", "char", "float", "double", "boolean"]

def modifierNames : List String :=
  ["public", "protected", "private", "abstract", "static", "final", "strictfp", "default",
    "synchronized", "native", "transient", "volatile"]

def declarationWords : List String := modifierNames ++ ["class", "interface", "enum"]

def dottedWords : List String := ["class", "this", "super", "new"]

def dottedName : Phrase := .node "scoped_identifier" (list1 "." (identifier []))

def primitive : Phrase := .choice (primitiveNames.map Phrase.exact)

def dimension : Phrase := .seq [.many Symbol.annotationUse, "[", "]"]

def dimensions : Phrase := many1 dimension

def classType : Phrase :=
  .seq [.word "type_identifier" (declarationWords ++ "void" :: primitiveNames),
    .optional Symbol.typeArguments,
    .many (.seq [".", .many Symbol.annotationUse, .word "type_identifier" dottedWords,
      .optional Symbol.typeArguments])]

def simpleType : Phrase := .node "simple_type" (.choice [primitive, "void", classType])

def typeUse : Phrase :=
  .choice [.node "void_type" (.seq ["void", .notAhead dimension]),
    .node "unannotated_type" (.seq [.choice [primitive, "void", classType], .many dimension])]

def annotatedType : Phrase :=
  .choice [.node "annotated_type" (.seq [many1 Symbol.annotationUse, Symbol.typeUse]),
    Symbol.typeUse]

def wildcard : Phrase :=
  .seq [.many Symbol.annotationUse, "?",
    .optional (.seq [.choice ["extends", "super"], Symbol.annotatedType])]

def typeArguments : Phrase :=
  .seq ["<", list "," (.choice [wildcard, Symbol.annotatedType]), ">"]

def typeParameter : Phrase :=
  .node "type_parameter" (.seq [.many Symbol.annotationUse, .word "type_identifier" [],
    .optional (.node "type_bound" (.seq ["extends", list1 "&" Symbol.annotatedType]))])

def typeParameters : Phrase :=
  .node "type_parameters" (.seq ["<", list1 "," typeParameter, ">"])

def annotationArguments : Phrase :=
  .node "annotation_argument_list" (.seq ["(",
    .choice [.seq [list1 "," (.seq [identifier [], "=", Symbol.elementValue]), ")"],
      .seq [Symbol.elementValue, ")"], ")"]])

def annotationUse : Phrase :=
  .headed (.seq ["@", .notAhead (.joined "interface"), .field "name" dottedName])
    [("annotation", annotationArguments), ("marker_annotation", .seq [])]

def elementValue : Phrase :=
  .choice [
    .node "element_value_array_initializer"
      (.seq ["\x7b", list "," Symbol.elementValue, .optional ",", "\x7d"]),
    Symbol.annotationUse, Symbol.expression true]

def sealedModifier : Phrase := .seq ["sealed", .ahead (.choice ["@", identifier ["instanceof"]])]

def nonSealedModifier : Phrase := .seq ["non", .joined "-", .joined "sealed"]

def modifiers : Phrase :=
  .node "modifiers" (many1 (.choice [Symbol.annotationUse, .choice (modifierNames.map Phrase.exact),
    sealedModifier, nonSealedModifier]))

def variableName (reserved : List String) : Phrase :=
  .seq [nameExcept reserved, .many dimension]

def receiver : Phrase :=
  .node "receiver_parameter" (.seq [.many Symbol.annotationUse, Symbol.typeUse,
    .many (.seq [identifier ["this"], "."]), "this"])

def initialValue : Phrase :=
  .seq ["=", .choice [Symbol.arrayInitializer, Symbol.expression true]]

def parameter : Phrase :=
  .headed (.seq [.optional modifiers, .field "type" Symbol.typeUse])
    [("spread_parameter", .seq ["...", .many Symbol.annotationUse,
        .node "variable_declarator" (.seq [variableName ["this"], .optional initialValue])]),
      ("formal_parameter", variableName ["this"])]

def parameters : Phrase :=
  .node "formal_parameters" (.seq ["(",
    .choice [.seq [receiver, ")"],
      .seq [.optional (.seq [receiver, ","]), list "," parameter, ")"]]])

end DocAudit.Java.Grammar
