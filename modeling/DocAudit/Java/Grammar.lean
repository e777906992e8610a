import DocAudit.Java.Grammar.Statements
import DocAudit.Java.Lexer
import DocAudit.Java.Unit

set_option autoImplicit false

namespace DocAudit.Java

def Symbol.phrase : Symbol → Phrase
  | .annotationUse => Grammar.annotationUse
  | .elementValue => Grammar.elementValue
  | .typeUse => Grammar.typeUse
  | .annotatedType => Grammar.annotatedType
  | .typeArguments => Grammar.typeArguments
  | .parameters => Grammar.parameters
  | .expression allowLambda => Grammar.expression allowLambda
  | .operand allowLambda => Grammar.operand allowLambda
  | .lambda => Grammar.lambda
  | .arguments => Grammar.arguments
  | .creation => Grammar.creation
  | .arrayInitializer => Grammar.arrayInitializer
  | .recordPattern => Grammar.recordPattern
  | .switch => Grammar.switch
  | .block => Grammar.block
  | .statement => Grammar.statement
  | .classBody => Grammar.classBody
  | .interfaceBody => Grammar.interfaceBody
  | .enumBody => Grammar.enumBody
  | .annotationBody => Grammar.annotationBody

def depthFor (lexemes : List Lexeme) : Nat := 64 * (lexemes.length + 4)

namespace Node

def isBefore (place : Position) (node : Node) : Bool := node.start.offset < place.offset

mutual

def weave (comments : List Node) : Node → Node
  | mk label children => mk label (weaveIn comments children)

def weaveIn (comments : List Node) : List Node → List Node
  | [] => comments
  | node :: rest =>
    let later := comments.dropWhile (isBefore node.start)
    comments.takeWhile (isBefore node.start) ++
      weave (later.takeWhile (isBefore node.stop)) node ::
        weaveIn (later.dropWhile (isBefore node.stop)) rest

end

end Node

def tree? (text : List Char) : Option Node :=
  (lex? text).bind fun lexed =>
    match Phrase.parse Symbol.phrase (depthFor lexed.lexemes) Grammar.file lexed.lexemes with
    | some ([tree], []) => some (.around tree.kind (Node.weaveIn lexed.comments tree.children))
    | _ => none

instance : Parser := ⟨tree?⟩

end DocAudit.Java
