import DocAudit.Java.Lexeme

set_option autoImplicit false

namespace DocAudit.Java

/-- The phrases that refer to each other. An expression in a place where an arrow may follow
it cannot be a lambda; the flag tells whether it can. -/
inductive Symbol where
  | annotationUse
  | elementValue
  | typeUse
  | annotatedType
  | typeArguments
  | parameters
  | expression (lambda : Bool)
  | operand (lambda : Bool)
  | lambda
  | arguments
  | creation
  | arrayInitializer
  | recordPattern
  | switch
  | block
  | statement
  | classBody
  | interfaceBody
  | enumBody
  | annotationBody
deriving DecidableEq, Repr

/-- Which lexemes may come next, and how they are put into a tree. Choices are ordered, and the
first one that fits is taken. -/
inductive Phrase where
  | exact (text : String)
  | joined (text : String)
  | word (kind : String) (reserved : List String)
  | literal (kinds : List LexemeKind)
  | ref (symbol : Symbol)
  | seq (phrases : List Phrase)
  | choice (phrases : List Phrase)
  | many (phrase : Phrase)
  | optional (phrase : Phrase)
  | ahead (phrase : Phrase)
  | notAhead (phrase : Phrase)
  | field (name : String) (phrase : Phrase)
  | node (kind : String) (phrase : Phrase)
  | nodeWith (part kind other : String) (phrase : Phrase)
  | headed (head : Phrase) (tails : List (String × Phrase))

namespace Phrase

instance : Coe String Phrase := ⟨exact⟩

instance : Coe Symbol Phrase := ⟨ref⟩

def many1 (phrase : Phrase) : Phrase := .seq [phrase, .many phrase]

def list1 (separator : String) (phrase : Phrase) : Phrase :=
  .seq [phrase, .many (.seq [separator, phrase])]

def list (separator : String) (phrase : Phrase) : Phrase := .optional (list1 separator phrase)

def identifier (reserved : List String) : Phrase := .word "identifier" reserved

def nameExcept (reserved : List String) : Phrase := .field "name" (identifier reserved)

def anyName : Phrase := nameExcept []

end Phrase

abbrev Parsed := Option (List Node × List Lexeme)

def Lexeme.isWord (lexeme : Lexeme) : Bool := lexeme.kind == .word

def Lexeme.isExactly (text : String) (lexeme : Lexeme) : Bool :=
  (lexeme.kind == .word || lexeme.kind == .mark) && lexeme.text == text

def Lexeme.leaf (kind : String) (isNamed : Bool) (lexeme : Lexeme) : Node :=
  .mk ⟨kind, none, isNamed, false, false, false, lexeme.start, lexeme.stop⟩ []

namespace Node

def around (kind : String) (children : List Node) : Node :=
  .mk ⟨kind, none, true, false, false, false, (children.head?.map start).getD .start,
    (children.getLast?.map stop).getD .start⟩ children

def withField (name : String) : Node → Node
  | mk label children => mk { label with field := some name } children

end Node

def takeIf (p : Lexeme → Bool) (leaf : Lexeme → Node) : List Lexeme → Parsed
  | [] => none
  | lexeme :: rest => if p lexeme then some ([leaf lexeme], rest) else none

namespace Phrase

def inOrder (parse : Phrase → List Lexeme → Parsed) : List Phrase → List Lexeme → Parsed
  | [], input => some ([], input)
  | phrase :: rest, input =>
    match parse phrase input with
    | none => none
    | some (nodes, input) =>
      match inOrder parse rest input with
      | none => none
      | some (later, input) => some (nodes ++ later, input)

def firstOf (parse : Phrase → List Lexeme → Parsed) (input : List Lexeme) : List Phrase → Parsed
  | [] => none
  | phrase :: rest =>
    match parse phrase input with
    | some result => some result
    | none => firstOf parse input rest

def repeatedly (parse : List Lexeme → Parsed) : Nat → List Lexeme → List Node × List Lexeme
  | 0, input => ([], input)
  | count + 1, input =>
    match parse input with
    | none => ([], input)
    | some (nodes, rest) =>
      let later := repeatedly parse count rest
      (nodes ++ later.1, later.2)

def firstTail (parse : Phrase → List Lexeme → Parsed) (head : List Node) (input : List Lexeme) :
    List (String × Phrase) → Parsed
  | [] => none
  | (kind, phrase) :: rest =>
    match parse phrase input with
    | some (nodes, input) => some ([.around kind (head ++ nodes)], input)
    | none => firstTail parse head input rest

def parse (define : Symbol → Phrase) : Nat → Phrase → List Lexeme → Parsed
  | 0, _, _ => none
  | depth + 1, phrase, input =>
    match phrase with
    | .exact text => takeIf (·.isExactly text) (·.leaf text false) input
    | .joined text =>
      takeIf (fun lexeme => lexeme.joined && lexeme.isExactly text) (·.leaf text false) input
    | .word kind reserved =>
      takeIf (fun lexeme => lexeme.isWord && !reserved.contains lexeme.text) (·.leaf kind true)
        input
    | .literal kinds =>
      takeIf (fun lexeme => kinds.contains lexeme.kind) (·.leaf "literal" true) input
    | .ref symbol => parse define depth (define symbol) input
    | .seq phrases => inOrder (parse define depth) phrases input
    | .choice phrases => firstOf (parse define depth) input phrases
    | .many phrase => some (repeatedly (parse define depth phrase) input.length input)
    | .optional phrase => some ((parse define depth phrase input).getD ([], input))
    | .ahead phrase => (parse define depth phrase input).map fun _ => ([], input)
    | .notAhead phrase =>
      match parse define depth phrase input with
      | some _ => none
      | none => some ([], input)
    | .field name phrase =>
      (parse define depth phrase input).map fun (nodes, rest) =>
        (nodes.map (Node.withField name), rest)
    | .node kind phrase =>
      (parse define depth phrase input).map fun (nodes, rest) => ([.around kind nodes], rest)
    | .nodeWith part kind other phrase =>
      (parse define depth phrase input).map fun (nodes, rest) =>
        ([.around (if nodes.any (Node.inField part) then kind else other) nodes], rest)
    | .headed head tails =>
      match parse define depth head input with
      | none => none
      | some (nodes, rest) => firstTail (parse define depth) nodes rest tails

end Phrase

end DocAudit.Java
