import DocAudit.Declaration

set_option autoImplicit false

namespace DocAudit.Java

/-- A place in a text: characters before it, line feeds before it, and bytes since the last one. -/
structure Position where
  offset : Nat
  row : Nat
  column : Nat
deriving DecidableEq, Repr

namespace Position

def start : Position := ⟨0, 0, 0⟩

def next (position : Position) (c : Char) : Position :=
  if c = '\n' then ⟨position.offset + 1, position.row + 1, 0⟩
  else ⟨position.offset + 1, position.row, position.column + c.utf8Size⟩

def advance (position : Position) (text : List Char) : Position := text.foldl next position

def line (position : Position) : Nat := position.row + 1

end Position

inductive Form where
  | file
  | typeDecl (kind : TypeKind)
  | classBody
  | body
  | enumMembers
  | enumConstant
  | method (kind : MethodKind)
  | staticInit
  | creation
  | block
  | other
deriving DecidableEq, Repr

namespace Form

def ofKind : String → Form
  | "program" => .file
  | "class_declaration" => .typeDecl .classType
  | "interface_declaration" => .typeDecl .interfaceType
  | "enum_declaration" => .typeDecl .enumType
  | "annotation_type_declaration" => .typeDecl .annotationType
  | "record_declaration" => .typeDecl .recordType
  | "class_body" => .classBody
  | "interface_body" | "enum_body" | "annotation_type_body" => .body
  | "enum_body_declarations" => .enumMembers
  | "enum_constant" => .enumConstant
  | "method_declaration" => .method .method
  | "constructor_declaration" | "compact_constructor_declaration" => .method .constructor
  | "annotation_type_element_declaration" => .method .annotationElement
  | "static_initializer" => .staticInit
  | "object_creation_expression" => .creation
  | "block" => .block
  | _ => .other

theorem ofKind_named {name : String} {kind : TypeKind} (made : ofKind name = .typeDecl kind) :
    kind ≠ .anonymousBody := by
  rintro rfl
  unfold ofKind at made
  split at made <;> cases made

end Form

structure NodeLabel where
  kind : String
  field : Option String
  isNamed : Bool
  isExtra : Bool
  isError : Bool
  isMissing : Bool
  start : Position
  stop : Position

namespace NodeLabel

def form (label : NodeLabel) : Form := .ofKind label.kind

-- Marks and key words are not named, and comments are extra.
def isPart (label : NodeLabel) : Bool := label.isNamed && !label.isExtra

def inField (name : String) (label : NodeLabel) : Bool := label.field == some name

end NodeLabel

inductive Node where
  | mk (label : NodeLabel) (children : List Node)

namespace Node

def label : Node → NodeLabel
  | mk label _ => label

def children : Node → List Node
  | mk _ children => children

def kind (node : Node) : String := node.label.kind

def form (node : Node) : Form := node.label.form

def start (node : Node) : Position := node.label.start

def stop (node : Node) : Position := node.label.stop

def line (node : Node) : Nat := node.start.line

def column (node : Node) : Nat := node.start.column

def endLine (node : Node) : Nat := node.stop.line

def isPart (node : Node) : Bool := node.label.isPart

def inField (name : String) (node : Node) : Bool := node.label.inField name

def parts (node : Node) : List Node := node.children.filter isPart

def childInField? (node : Node) (name : String) : Option Node :=
  node.children.find? (inField name)

def childOfKind? (node : Node) (kind : String) : Option Node :=
  node.parts.find? (·.kind == kind)

def text (source : Array Char) (node : Node) : String :=
  String.ofList (source.extract node.start.offset node.stop.offset).toList

mutual

def all : Node → List Node
  | mk label children => mk label children :: allIn children

def allIn : List Node → List Node
  | [] => []
  | node :: rest => all node ++ allIn rest

end

def firstError? (node : Node) : Option Node :=
  node.all.find? fun inner => inner.label.isError || inner.label.isMissing

theorem forest_induction {motive : List Node → Prop} (nil : motive [])
    (cons : ∀ label children rest, motive children → motive rest →
      motive (mk label children :: rest)) : (nodes : List Node) → motive nodes
  | [] => nil
  | mk label children :: rest =>
    cons label children rest (forest_induction nil cons children) (forest_induction nil cons rest)

end Node

end DocAudit.Java
