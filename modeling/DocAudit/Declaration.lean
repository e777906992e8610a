set_option autoImplicit false

namespace DocAudit

structure Identifier where
  text : String
  line : Nat
  column : Nat
deriving DecidableEq, Repr, Inhabited

def lastSegment (name : List Char) : List Char :=
  (name.reverse.takeWhile (· != '.')).reverse

def simpleName (name : String) : String := String.ofList (lastSegment name.toList)

inductive AccessModifier where
  | pub
  | prot
  | priv
deriving DecidableEq, Repr

structure Modifiers where
  access : Option AccessModifier
  isStatic : Bool
  isFinal : Bool
  isAbstract : Bool
  annotations : List String
deriving DecidableEq, Repr

namespace Modifiers

def none : Modifiers := ⟨.none, false, false, false, []⟩

def hasAnnotation (modifiers : Modifiers) (name : String) : Bool :=
  modifiers.annotations.any fun annotation => annotation == name || simpleName annotation == name

end Modifiers

inductive TypeKind where
  | classType
  | interfaceType
  | enumType
  | annotationType
  | recordType
  | anonymousBody
deriving DecidableEq, Repr

def TypeKind.isInterfaceLike : TypeKind → Bool
  | .interfaceType | .annotationType => true
  | _ => false

inductive MethodKind where
  | method
  | constructor
  | annotationElement
deriving DecidableEq, Repr

inductive ResultKind where
  | nothing
  | value
deriving DecidableEq, Repr

inductive StatementKind where
  | assignment
  | returns (hasValue : Bool)
  | other
deriving DecidableEq, Repr

mutual

structure Statement where
  line : Nat
  endLine : Nat
  kind : StatementKind
  nested : List TypeDecl

structure Block where
  openLine : Nat
  closeLine : Nat
  statements : List Statement

structure MethodDecl where
  kind : MethodKind
  name : Identifier
  line : Nat
  column : Nat
  endLine : Nat
  modifiers : Modifiers
  typeParams : List Identifier
  params : List Identifier
  throws : List Identifier
  result : ResultKind
  body : Option Block

inductive Member where
  | method (decl : MethodDecl)
  | staticInit (line : Nat) (body : Block)
  | type (decl : TypeDecl)

structure TypeDecl where
  kind : TypeKind
  name : String
  line : Nat
  column : Nat
  endLine : Nat
  modifiers : Modifiers
  typeParams : List Identifier
  superclass : Option String
  members : List Member

end

def MethodDecl.isFunction (decl : MethodDecl) : Bool :=
  decl.kind == .method && decl.result == .value

end DocAudit
