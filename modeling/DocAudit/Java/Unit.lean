import DocAudit.Comment
import DocAudit.Java.Node
import DocAudit.Text.Blank

set_option autoImplicit false

namespace DocAudit.Java

variable (source : Array Char)

def identifierOf (node : Node) : Identifier := ⟨node.text source, node.line, node.column⟩

-- Of several access modifiers the last counts.
def addModifier (modifiers : Modifiers) (node : Node) : Modifiers :=
  match node.kind with
  | "public" => { modifiers with access := some .pub }
  | "protected" => { modifiers with access := some .prot }
  | "private" => { modifiers with access := some .priv }
  | "static" => { modifiers with isStatic := true }
  | "final" => { modifiers with isFinal := true }
  | "abstract" => { modifiers with isAbstract := true }
  | "marker_annotation" | "annotation" =>
    match node.childInField? "name" with
    | some name => { modifiers with annotations := modifiers.annotations ++ [name.text source] }
    | none => modifiers
  | _ => modifiers

def modifiersOf (node : Node) : Modifiers :=
  match node.childOfKind? "modifiers" with
  | some list => list.children.foldl (addModifier source) .none
  | none => .none

def partsOf (list : Option Node) : List Node := (list.map Node.parts).getD []

def typeParamsOf (node : Node) : List Identifier :=
  (partsOf (node.childOfKind? "type_parameters")).filterMap fun param =>
    if param.kind = "type_parameter" then
      (param.childOfKind? "type_identifier").map (identifierOf source)
    else none

def paramName? (param : Node) : Option Node :=
  match param.kind with
  | "formal_parameter" => param.childInField? "name"
  | "spread_parameter" =>
    ((param.childOfKind? "variable_declarator").bind (·.childInField? "name")).or
      (param.childOfKind? "identifier")
  | _ => none

def paramsOf (node : Node) : List Identifier :=
  ((partsOf (node.childInField? "parameters")).filterMap paramName?).map (identifierOf source)

def throwsOf (node : Node) : List Identifier :=
  (partsOf (node.childOfKind? "throws")).map (identifierOf source)

def superclassOf (node : Node) : Option String :=
  (node.childOfKind? "superclass").bind fun clause =>
    clause.parts.head?.map fun type =>
      String.ofList (Text.trim ((type.text source).toList.takeWhile (· != '<')))

def resultOf (node : Node) : ResultKind :=
  match node.childInField? "type" with
  | some type => if type.kind = "void_type" then .nothing else .value
  | none => .nothing

def isAssignment (node : Node) : Bool :=
  node.kind == "assignment_expression" && (node.childInField? "operator").any (·.kind == "=")

def statementKindOf (node : Node) : StatementKind :=
  match node.kind with
  | "expression_statement" => if node.parts.head?.any isAssignment then .assignment else .other
  | "return_statement" => .returns !node.parts.isEmpty
  | _ => .other

def typeDeclOf (kind : TypeKind) (node : Node) (members : List Member) : TypeDecl where
  kind
  name := ((node.childInField? "name").map (Node.text source)).getD ""
  line := node.line
  column := node.column
  endLine := ((node.childInField? "body").getD node).endLine
  modifiers := modifiersOf source node
  typeParams := typeParamsOf source node
  superclass := superclassOf source node
  members

def anonymousOf (body : Node) (members : List Member) : TypeDecl :=
  ⟨.anonymousBody, "", body.line, body.column, body.endLine, .none, [], none, members⟩

def methodDeclOf (kind : MethodKind) (node : Node) (body : Option Block) : MethodDecl where
  kind
  name := ((node.childInField? "name").map (identifierOf source)).getD ⟨"", node.line, node.column⟩
  line := node.line
  column := node.column
  endLine := node.endLine
  modifiers := modifiersOf source node
  typeParams := typeParamsOf source node
  params := paramsOf source node
  throws := throwsOf source node
  result := resultOf node
  body

/-- How a class body is read, by what it is a child of. -/
inductive Around where
  | constant
  | creation
  | other
deriving DecidableEq, Repr

mutual

def memberOf : Node → List Member
  | .mk label children =>
    match label.form with
    | .method kind =>
      [.method (methodDeclOf source kind (.mk label children) (bodyBlock children))]
    | .staticInit => (initBlock children).toList.map (.staticInit label.start.line)
    | .enumMembers => membersOf children
    | .typeDecl kind => [.type (typeDeclOf source kind (.mk label children) (bodyMembers children))]
    | .enumConstant => (typesIn .constant children).map .type
    | _ => (typesIn .other children).map .type

def membersOf : List Node → List Member
  | [] => []
  | node :: rest => (if node.isPart then memberOf node else []) ++ membersOf rest

def innerMembers : Node → List Member
  | .mk _ children => membersOf children

def bodyMembers : List Node → List Member
  | [] => []
  | node :: rest => if node.inField "body" then innerMembers node else bodyMembers rest

def typesAt : Node → List TypeDecl
  | .mk label children =>
    match label.form with
    | .typeDecl kind => [typeDeclOf source kind (.mk label children) (bodyMembers children)]
    | .creation => typesIn .creation children ++ (createdBody? children).toList
    | _ => typesIn .other children

def typesIn (around : Around) : List Node → List TypeDecl
  | [] => []
  | node :: rest =>
    (if node.isPart then
      match around, node.form with
      | .constant, .classBody => [anonymousOf node (innerMembers node)]
      | .creation, .classBody => []
      | _, _ => typesAt node
    else []) ++ typesIn around rest

def createdBody? : List Node → Option TypeDecl
  | [] => none
  | node :: rest =>
    match createdBody? rest with
    | some later => some later
    | none =>
      if node.isPart && node.form = .classBody then some (anonymousOf node (innerMembers node))
      else none

def blockAt : Node → Block
  | .mk label children => ⟨label.start.line, label.stop.line, statementsOf children⟩

def bodyBlock : List Node → Option Block
  | [] => none
  | node :: rest => if node.inField "body" then some (blockAt node) else bodyBlock rest

def initBlock : List Node → Option Block
  | [] => none
  | node :: rest =>
    if node.isPart && node.form = .block then some (blockAt node) else initBlock rest

def statementsOf : List Node → List Statement
  | [] => []
  | node :: rest =>
    (if node.isPart then
      [⟨node.line, node.endLine, statementKindOf node, typesAt node⟩]
    else []) ++ statementsOf rest

end

theorem typesIn_other (node : Node) (rest : List Node) : typesIn source .other (node :: rest) =
    (if node.isPart then typesAt source node else []) ++ typesIn source .other rest := by
  rw [typesIn.eq_def]

theorem typesIn_constant (node : Node) (rest : List Node) :
    typesIn source .constant (node :: rest) =
      (if node.isPart then
        if node.form = .classBody then [anonymousOf node (innerMembers source node)]
        else typesAt source node
      else []) ++ typesIn source .constant rest := by
  rw [typesIn.eq_def]
  dsimp only
  cases node.form <;> rfl

theorem typesIn_creation (node : Node) (rest : List Node) :
    typesIn source .creation (node :: rest) =
      (if node.isPart then if node.form = .classBody then [] else typesAt source node else []) ++
        typesIn source .creation rest := by
  rw [typesIn.eq_def]
  dsimp only
  cases node.form <;> rfl

theorem typesIn_nothing {around : Around} {nodes : List Node}
    (none : ∀ node ∈ nodes, node.isPart = false) : typesIn source around nodes = [] := by
  induction nodes with
  | nil => rw [typesIn]
  | cons node rest ih =>
    obtain ⟨here, later⟩ := List.forall_mem_cons.mp none
    rw [typesIn.eq_def]
    simp [here, ih later]

theorem createdBody?_cons (node : Node) (rest : List Node) : createdBody? source (node :: rest) =
    (createdBody? source rest).or (if node.isPart && node.form = .classBody then
      some (anonymousOf node (innerMembers source node)) else none) := by
  rw [createdBody?]
  cases createdBody? source rest <;> rfl

theorem createdBody?_nothing {nodes : List Node} (none : ∀ node ∈ nodes, node.isPart = false) :
    createdBody? source nodes = Option.none := by
  induction nodes with
  | nil => rw [createdBody?]
  | cons node rest ih =>
    obtain ⟨here, later⟩ := List.forall_mem_cons.mp none
    simp [createdBody?_cons, here, ih later]

theorem bodyBlock_eq (nodes : List Node) :
    bodyBlock source nodes = (nodes.find? (·.inField "body")).map (blockAt source) := by
  induction nodes with
  | nil => rw [bodyBlock, List.find?_nil, Option.map_none]
  | cons node rest ih => cases inBody : node.inField "body" <;> simp [bodyBlock, inBody, ih]

theorem initBlock_eq (nodes : List Node) :
    initBlock source nodes =
      (nodes.find? fun node => node.isPart && node.form = .block).map (blockAt source) := by
  induction nodes with
  | nil => rw [initBlock, List.find?_nil, Option.map_none]
  | cons node rest ih =>
    cases isBlock : node.isPart && node.form = .block <;> simp [initBlock, isBlock, ih]

theorem statementsOf_eq (nodes : List Node) :
    statementsOf source nodes = (nodes.filter Node.isPart).map fun node =>
      ⟨node.line, node.endLine, statementKindOf node, typesAt source node⟩ := by
  induction nodes with
  | nil => rw [statementsOf, List.filter_nil, List.map_nil]
  | cons node rest ih => cases isPart : node.isPart <;> simp [statementsOf, isPart, ih]

def typeDeclAt? : Node → Option TypeDecl
  | .mk label children =>
    match label.form with
    | .typeDecl kind =>
      some (typeDeclOf source kind (.mk label children) (bodyMembers source children))
    | _ => none

def commentStyle? : String → Option CommentStyle
  | "line_comment" => some .line
  | "block_comment" => some .block
  | _ => none

def trimLineEnds (text : List Char) : List Char :=
  (text.reverse.dropWhile fun c => c == '\r' || c == '\n').reverse

def commentOf (style : CommentStyle) (node : Node) : Comment :=
  .ofText style node.line node.column (String.ofList (trimLineEnds (node.text source).toList))

mutual

def commentsAt : Node → List Comment
  | .mk label children =>
    match commentStyle? label.kind with
    | some style => [commentOf source style (.mk label children)]
    | none => commentsIn children

def commentsIn : List Node → List Comment
  | [] => []
  | node :: rest => commentsAt node ++ commentsIn rest

end

structure SyntaxError where
  line : Nat
  message : String

def SyntaxError.ofNode (node : Node) : SyntaxError where
  line := node.line
  message := if node.label.isMissing then "missing '" ++ node.kind ++ "'" else "unexpected input"

/-- How the tree of a source is found. There is one whether or not the source is well formed. -/
class Parser where
  parse? : List Char → Option Node

end DocAudit.Java

namespace DocAudit.CompilationUnit

def lineCountOf (text : List Char) : Nat := max 1 (Text.lines text).length

def ofTree (text : List Char) (root : Java.Node) : CompilationUnit where
  types := root.parts.filterMap (Java.typeDeclAt? text.toArray)
  comments := Java.commentsAt text.toArray root
  lineCount := lineCountOf text

variable [Java.Parser]

def readJava (text : List Char) : Except Java.SyntaxError CompilationUnit :=
  match Java.Parser.parse? text with
  | none => .error ⟨1, "parser produced no tree"⟩
  | some root =>
    match root.firstError? with
    | some node => .error (.ofNode node)
    | none => .ok (ofTree text root)

def ofJava? (text : List Char) : Option CompilationUnit := (readJava text).toOption

end DocAudit.CompilationUnit
