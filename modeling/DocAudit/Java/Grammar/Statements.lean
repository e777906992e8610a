import DocAudit.Java.Grammar.Expressions

set_option autoImplicit false

namespace DocAudit.Java.Grammar

open Phrase

def statementWords : List String :=
  ["if", "while", "for", "do", "break", "continue", "return", "assert", "throw", "try", "import",
    "package", "case"]

def isNoStatementWord : Phrase := .notAhead (.choice (statementWords.map Phrase.exact))

def parenthesized : Phrase :=
  .node "parenthesized_expression" (.seq ["(", Symbol.expression true, ")"])

def declarator : Phrase :=
  .node "variable_declarator" (.seq [variableName ["instanceof"], .optional initialValue])

def declarators : Phrase := list1 "," declarator

def throwsClause : Phrase := .node "throws" (.seq ["throws", list1 "," Symbol.annotatedType])

def methodTail : Phrase :=
  .seq [.optional (.seq [typeParameters, .many Symbol.annotationUse]),
    .field "type" Symbol.typeUse, anyName, .field "parameters" Symbol.parameters, .many dimension,
    .optional throwsClause, .choice [.field "body" Symbol.block, ";"]]

def constructorCall : Phrase :=
  .node "explicit_constructor_invocation" (.choice [
    .seq [.optional Symbol.typeArguments, .choice ["this", "super"], Symbol.arguments, ";"],
    .seq [chain, ".", .optional Symbol.typeArguments, "super", Symbol.arguments, ";"]])

def constructorTail : Phrase :=
  .seq [.optional typeParameters, nameExcept declarationWords,
    .field "parameters" Symbol.parameters, .optional throwsClause,
    .field "body" (.node "constructor_body"
      (.seq ["\x7b", .optional constructorCall, .many Symbol.statement, "\x7d"]))]

def compactConstructorTail : Phrase :=
  .seq [nameExcept declarationWords, .field "body" Symbol.block]

def variablesTail : Phrase := .seq [Symbol.typeUse, declarators, ";"]

def contextualWords : List String := ["open", "module", "record", "with", "sealed", "yield"]

def localVariablesTail : Phrase :=
  .seq [.notAhead (.choice ((operandStartWords ++ contextualWords).map Phrase.exact)),
    variablesTail]

def unlessRecord (tail : Phrase) : Phrase := .seq [.notAhead "record", tail]

def typeList : Phrase := list1 "," Symbol.annotatedType

def interfaces : Phrase := .node "super_interfaces" (.seq ["implements", typeList])

def permits : Phrase := .node "permits" (.seq ["permits", typeList])

def classTail : Phrase :=
  .seq ["class", anyName, .optional typeParameters,
    .optional (.node "superclass" (.seq ["extends", Symbol.annotatedType])), .optional interfaces,
    .optional permits, .field "body" Symbol.classBody]

def interfaceTail : Phrase :=
  .seq ["interface", anyName, .optional typeParameters,
    .optional (.node "extends_interfaces" (.seq ["extends", typeList])), .optional permits,
    .field "body" Symbol.interfaceBody]

def enumTail : Phrase :=
  .seq ["enum", anyName, .optional interfaces, .field "body" Symbol.enumBody]

def annotationTail : Phrase :=
  .seq ["@", .joined "interface", anyName, .field "body" Symbol.annotationBody]

def recordTail : Phrase :=
  .seq ["record", anyName, .optional typeParameters, .field "parameters" Symbol.parameters,
    .optional interfaces, .field "body" Symbol.classBody]

def typeTails : List (String × Phrase) :=
  [("class_declaration", classTail), ("interface_declaration", interfaceTail),
    ("enum_declaration", enumTail), ("annotation_type_declaration", annotationTail)]

def recordTails : List (String × Phrase) := [("record_declaration", recordTail)]

def elementTail : Phrase :=
  .seq [.field "type" Symbol.typeUse, anyName, "(", ")", .many dimension,
    .optional (.seq ["default", Symbol.elementValue]), ";"]

def staticInit : Phrase := .node "static_initializer" (.seq ["static", Symbol.block])

def classMember : Phrase :=
  .choice [";", staticInit, Symbol.block,
    .headed (.optional modifiers) (typeTails ++ recordTails ++
      [("constructor_declaration", constructorTail),
        ("compact_constructor_declaration", compactConstructorTail),
        ("method_declaration", unlessRecord methodTail),
        ("field_declaration", unlessRecord variablesTail)])]

def interfaceMember : Phrase :=
  .choice [";",
    .headed (.optional modifiers)
      (typeTails ++ recordTails ++
        [("method_declaration", unlessRecord methodTail),
          ("constant_declaration", unlessRecord variablesTail)])]

def annotationMember : Phrase :=
  .choice [";",
    .headed (.optional modifiers)
      (typeTails ++ [("annotation_type_element_declaration", elementTail),
        ("constant_declaration", variablesTail)])]

def classBody : Phrase := .node "class_body" (.seq ["\x7b", .many classMember, "\x7d"])

def interfaceBody : Phrase :=
  .node "interface_body" (.seq ["\x7b", .many interfaceMember, "\x7d"])

def annotationBody : Phrase :=
  .node "annotation_type_body" (.seq ["\x7b", .many annotationMember, "\x7d"])

def enumConstant : Phrase :=
  .node "enum_constant" (.seq [.optional modifiers, anyName, .optional Symbol.arguments,
    .optional (.field "body" Symbol.classBody)])

def enumBody : Phrase :=
  .node "enum_body" (.seq ["\x7b", list "," enumConstant, .optional ",",
    .optional (.node "enum_body_declarations" (.seq [";", .many classMember])), "\x7d"])

def typePattern : Phrase := .seq [Symbol.typeUse, identifier ["when"]]

def switchLabel : Phrase :=
  .choice [
    .seq ["case",
      .choice [.seq [.choice [Symbol.recordPattern, typePattern],
          .ahead (.choice [":", "->", "when"])],
        list1 "," (Symbol.expression false)],
      .optional (.seq ["when", Symbol.expression false])],
    "default"]

def switchGroup : Phrase :=
  .node "switch_block_statement_group"
    (.seq [many1 (.seq [switchLabel, ":"]), .many Symbol.statement])

def expressionStatement : Phrase :=
  .node "expression_statement" (.seq [Symbol.expression true, ";"])

def throwStatement : Phrase :=
  .node "throw_statement" (.seq ["throw", Symbol.expression true, ";"])

def switchRule : Phrase :=
  .node "switch_rule" (.seq [switchLabel, "->",
    .choice [expressionStatement, throwStatement, Symbol.block]])

def switch : Phrase :=
  .node "switch_expression" (.seq ["switch", parenthesized, "\x7b",
    .choice [.seq [.many switchGroup, "\x7d"], .seq [.many switchRule, "\x7d"]]])

def block : Phrase := .node "block" (.seq ["\x7b", .many Symbol.statement, "\x7d"])

def forHeader : Phrase :=
  .choice [
    .seq [.optional modifiers, Symbol.typeUse, variableName [], ":", Symbol.expression true],
    .seq [.choice [
        .node "local_variable_declaration" (.seq [.optional modifiers, variablesTail]),
        .seq [list "," (Symbol.expression true), ";"]],
      .optional (Symbol.expression true), ";", list "," (Symbol.expression true)]]

def catchClause : Phrase :=
  .node "catch_clause" (.seq ["catch", "(", .optional modifiers, list1 "|" Symbol.typeUse,
    variableName [], ")", Symbol.block])

def finallyClause : Phrase := .node "finally_clause" (.seq ["finally", Symbol.block])

def heldResource : Phrase :=
  .choice [.seq [operandName, .ahead (.choice [";", ")"])],
    .seq [primary, .many (.seq [selector, .ahead (.choice [".", "["])]), ".", identifier []]]

def resource : Phrase :=
  .choice [.seq [.optional modifiers, Symbol.typeUse, variableName [], "=", Symbol.expression true],
    heldResource]

def resources : Phrase := .seq ["(", list1 ";" resource, .optional ";", ")"]

def tryStatement : Phrase :=
  .seq ["try",
    .choice [.seq [resources, Symbol.block, .many catchClause, .optional finallyClause],
      .seq [Symbol.block,
        .choice [.seq [many1 catchClause, .optional finallyClause], finallyClause]]]]

def keywordStatement : Phrase :=
  .choice [
    .node "if_statement"
      (.seq ["if", parenthesized, Symbol.statement, .optional (.seq ["else", Symbol.statement])]),
    .node "while_statement" (.seq ["while", parenthesized, Symbol.statement]),
    .node "for_statement" (.seq ["for", "(", forHeader, ")", Symbol.statement]),
    .node "do_statement" (.seq ["do", Symbol.statement, "while", parenthesized, ";"]),
    .node "break_statement" (.seq ["break", .optional (identifier []), ";"]),
    .node "continue_statement" (.seq ["continue", .optional (identifier []), ";"]),
    .node "yield_statement" (.seq ["yield", Symbol.expression true, ";"]),
    .node "assert_statement" (.seq ["assert", Symbol.expression true,
      .optional (.seq [":", Symbol.expression true]), ";"]),
    .node "synchronized_statement" (.seq ["synchronized", parenthesized, Symbol.block]),
    throwStatement,
    .node "try_statement" tryStatement]

def returnStatement : Phrase :=
  .node "return_statement" (.seq ["return", .optional (Symbol.expression true), ";"])

def packageDeclaration : Phrase :=
  .node "package_declaration" (.seq [.many Symbol.annotationUse, "package", dottedName, ";"])

def importDeclaration : Phrase :=
  .node "import_declaration"
    (.seq ["import", .optional "static", dottedName, .optional (.seq [".", "*"]), ";"])

def moduleNames : Phrase := list1 "," dottedName

def moduleDirective : Phrase :=
  .choice [
    .seq ["requires", .many (.choice ["transitive", "static"]), dottedName, ";"],
    .seq [.choice ["exports", "opens"], dottedName, .optional (.seq ["to", moduleNames]), ";"],
    .seq ["uses", dottedName, ";"],
    .seq ["provides", dottedName, "with", moduleNames, ";"]]

def moduleDeclaration : Phrase :=
  .node "module_declaration" (.seq [.many Symbol.annotationUse, .optional "open", "module",
    dottedName, "\x7b", .many moduleDirective, "\x7d"])

def labeledStatement : Phrase :=
  .node "labeled_statement"
    (.seq [identifier (operandWords ++ contextualWords), ":", Symbol.statement])

def openStatement : Phrase :=
  .seq [isNoStatementWord, .notAhead (.choice (declarationWords.map Phrase.exact)),
    .choice [labeledStatement, expressionStatement]]

def statementWith (more : List (String × Phrase)) : Phrase :=
  .choice [";", Symbol.block, keywordStatement, returnStatement,
    .seq [Symbol.switch, .notAhead ";"],
    packageDeclaration, importDeclaration, moduleDeclaration,
    .headed (.seq [isNoStatementWord, .optional modifiers])
      (typeTails ++ recordTails ++ more ++ [("local_variable_declaration", localVariablesTail)]),
    openStatement]

def statement : Phrase := statementWith []

def file : Phrase := .node "program" (.many (statementWith [("method_declaration", methodTail)]))

end DocAudit.Java.Grammar
