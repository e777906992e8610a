import DocAudit.Java.Grammar.Types

set_option autoImplicit false

namespace DocAudit.Java.Grammar

open Phrase

def operandStartWords : List String :=
  ["new", "this", "super", "switch", "true", "false", "null"]

def operandWords : List String := operandStartWords ++ "void" :: primitiveNames

def operandName : Phrase := identifier operandWords

def closing (rest : List String) : Phrase := .seq (.exact ">" :: rest.map Phrase.joined)

def compoundAssignment : Phrase :=
  .choice ["+=", "-=", "*=", "/=", "&=", "|=", "^=", "%=", "<<=", closing [">", ">", "="],
    closing [">", "="]]

def assignment : Phrase :=
  .optional (.seq [.field "operator" (.choice ["=", compoundAssignment]),
    .field "right" (Symbol.expression true)])

def binaryOperator : Phrase :=
  .choice ["&&", "||", "==", "!=", "<=", "<<", closing [">", ">"], closing [">"], closing ["="],
    ">", "<", "+", "-", "*", "/", "&", "|", "^", "%"]

def prefixOperator : Phrase := .choice ["++", "--", "+", "-", "!", "~"]

def methodReference : Phrase :=
  .seq ["::", .optional Symbol.typeArguments, identifier []]

def typeOperand : Phrase := .seq [Symbol.typeUse, .choice [methodReference, .seq [".", "class"]]]

def call : Phrase :=
  .seq [.optional Symbol.typeArguments, identifier dottedWords, Symbol.arguments]

def stringText : Phrase :=
  .choice [.literal [.text],
    .node "string_literal" (.seq [.literal [.textStart], Symbol.expression true,
      .many (.seq [.literal [.textMiddle], Symbol.expression true]), .literal [.textEnd]])]

def selector : Phrase :=
  .choice [.seq [".", call],
    .seq [".", Symbol.creation],
    .seq [".", "super", .ahead (.choice [".", "::"])],
    .seq [".", identifier ["new", "super"], assignment],
    .seq [".", stringText],
    .seq ["[", Symbol.expression true, "]", assignment],
    methodReference]

def primary : Phrase :=
  .choice [typeOperand,
    .literal [.number], stringText, "true", "false", "null", "this",
    .seq ["super", .ahead (.choice [".", "::"])],
    Symbol.creation,
    .seq ["(", Symbol.expression true, ")"],
    .seq [operandName, Symbol.arguments],
    .seq [operandName, assignment]]

def chain : Phrase := .seq [primary, .many selector]

def operandOrLambda (lambda : Bool) : Phrase :=
  if lambda then .choice [Symbol.lambda, Symbol.operand lambda] else Symbol.operand lambda

def cast (lambda : Bool) : Phrase :=
  .node "cast_expression"
    (.seq ["(", list1 "&" Symbol.annotatedType, ")", operandOrLambda lambda])

def operand (lambda : Bool) : Phrase :=
  .choice [.node "unary_expression" (.seq [prefixOperator, operandOrLambda lambda]),
    cast lambda,
    Symbol.switch,
    .seq [chain, .many (.choice ["++", "--"])]]

def inferredParameters : Phrase := .seq ["(", list1 "," operandName, ")"]

def lambda : Phrase :=
  .node "lambda_expression" (.seq [
    .choice [.seq [operandName, "->"], .seq [Symbol.parameters, "->"],
      .seq [inferredParameters, "->"]],
    .choice [Symbol.block, Symbol.expression true]])

def instanceTest : Phrase :=
  .seq ["instanceof",
    .choice [Symbol.recordPattern,
      .seq [.optional "final", Symbol.annotatedType,
        .optional (identifier ["instanceof", "when"])]]]

def operation (lambda : Bool) : Phrase :=
  .node "operation" (.choice [.seq [binaryOperator, operandOrLambda lambda],
    instanceTest,
    .seq ["?", Symbol.expression true, ":", Symbol.expression lambda]])

def expression (lambda : Bool) : Phrase :=
  .nodeWith "operator" "assignment_expression" "expression" (.choice
    ((if lambda then [Phrase.ref Symbol.lambda] else []) ++
      [.seq [Symbol.operand lambda, .many (operation lambda)]]))

def arguments : Phrase :=
  .node "argument_list" (.seq ["(", list "," (Symbol.expression true), ")"])

def arrayInitializer : Phrase :=
  .node "array_initializer"
    (.seq ["\x7b", list "," (.choice [Symbol.arrayInitializer, Symbol.expression true]),
      .optional ",", "\x7d"])

def sizedDimension : Phrase :=
  .seq [.many Symbol.annotationUse, "[", Symbol.expression true, "]"]

def arrayCreation : Phrase :=
  .seq ["new", .many Symbol.annotationUse, simpleType,
    .choice [.seq [many1 sizedDimension, .many dimension],
      .seq [dimensions, Symbol.arrayInitializer]]]

def objectCreation : Phrase :=
  .seq ["new", .many Symbol.annotationUse,
    .optional (.seq [Symbol.typeArguments, .many Symbol.annotationUse]), simpleType,
    Symbol.arguments, .optional Symbol.classBody]

def creation : Phrase :=
  .choice [.node "array_creation_expression" arrayCreation,
    .node "object_creation_expression" objectCreation]

def patternPart : Phrase :=
  .choice [Symbol.recordPattern, .seq [Symbol.typeUse, identifier []], "_"]

def genericType : Phrase :=
  list1 "." (.seq [identifier operandWords, .many (.seq [".", identifier dottedWords]),
    Symbol.typeArguments])

def recordPattern : Phrase :=
  .seq [.choice [genericType, identifier operandWords], "(", list "," patternPart, ")"]

end DocAudit.Java.Grammar
