import DocAudit.Comment

set_option autoImplicit false

namespace DocAudit

structure ClassHierarchy where
  entries : List (String × String)
deriving DecidableEq, Repr

namespace ClassHierarchy

def insertEntry (name superclass : String) : List (String × String) → List (String × String)
  | [] => [(name, superclass)]
  | entry :: rest =>
    if entry.1 = name then (name, superclass) :: rest
    else entry :: insertEntry name superclass rest

def insert (hierarchy : ClassHierarchy) (name superclass : String) : ClassHierarchy :=
  ⟨insertEntry name superclass hierarchy.entries⟩

def standardThrowables : List (String × String) :=
  [("Throwable", "Object"), ("Exception", "Throwable"), ("Error", "Throwable"),
    ("RuntimeException", "Exception"),
    ("ReflectiveOperationException", "Exception"),
    ("ClassNotFoundException", "ReflectiveOperationException"),
    ("IllegalAccessException", "ReflectiveOperationException"),
    ("InstantiationException", "ReflectiveOperationException"),
    ("NoSuchFieldException", "ReflectiveOperationException"),
    ("NoSuchMethodException", "ReflectiveOperationException"),
    ("CloneNotSupportedException", "Exception"),
    ("InterruptedException", "Exception"),
    ("ArithmeticException", "RuntimeException"),
    ("ArrayStoreException", "RuntimeException"),
    ("ClassCastException", "RuntimeException"),
    ("IllegalArgumentException", "RuntimeException"),
    ("NumberFormatException", "IllegalArgumentException"),
    ("IllegalMonitorStateException", "RuntimeException"),
    ("IllegalStateException", "RuntimeException"),
    ("IndexOutOfBoundsException", "RuntimeException"),
    ("ArrayIndexOutOfBoundsException", "IndexOutOfBoundsException"),
    ("StringIndexOutOfBoundsException", "IndexOutOfBoundsException"),
    ("NegativeArraySizeException", "RuntimeException"),
    ("NullPointerException", "RuntimeException"),
    ("SecurityException", "RuntimeException"),
    ("UnsupportedOperationException", "RuntimeException"),
    ("AssertionError", "Error"),
    ("LinkageError", "Error"),
    ("NoClassDefFoundError", "LinkageError"),
    ("ExceptionInInitializerError", "LinkageError"),
    ("VirtualMachineError", "Error"),
    ("OutOfMemoryError", "VirtualMachineError"),
    ("StackOverflowError", "VirtualMachineError"),
    ("IOException", "Exception"),
    ("FileNotFoundException", "IOException"),
    ("EOFException", "IOException"),
    ("UnsupportedEncodingException", "IOException"),
    ("CharConversionException", "IOException"),
    ("UTFDataFormatException", "IOException"),
    ("InterruptedIOException", "IOException"),
    ("ObjectStreamException", "IOException"),
    ("InvalidObjectException", "ObjectStreamException"),
    ("NotSerializableException", "ObjectStreamException"),
    ("UncheckedIOException", "RuntimeException"),
    ("NoSuchElementException", "RuntimeException"),
    ("InputMismatchException", "NoSuchElementException"),
    ("ConcurrentModificationException", "RuntimeException"),
    ("EmptyStackException", "RuntimeException"),
    ("MissingResourceException", "RuntimeException"),
    ("IllformedLocaleException", "RuntimeException"),
    ("MalformedURLException", "IOException"),
    ("UnknownHostException", "IOException"),
    ("SocketException", "IOException"),
    ("ConnectException", "SocketException"),
    ("SocketTimeoutException", "InterruptedIOException"),
    ("URISyntaxException", "Exception"),
    ("ParseException", "Exception"),
    ("ExecutionException", "Exception"),
    ("TimeoutException", "Exception"),
    ("BrokenBarrierException", "Exception"),
    ("CancellationException", "IllegalStateException"),
    ("CompletionException", "RuntimeException"),
    ("RejectedExecutionException", "RuntimeException")]

def standard : ClassHierarchy := ⟨standardThrowables ++ [("Object", "")]⟩

def addDeclaration (hierarchy : ClassHierarchy) (kind : TypeKind) (name : String)
    (superclass : Option String) : ClassHierarchy :=
  if kind = .classType then hierarchy.insert name ((superclass.map simpleName).getD "Object")
  else hierarchy

mutual

def addType (hierarchy : ClassHierarchy) : TypeDecl → ClassHierarchy
  | { kind, name, superclass, members, .. } =>
    addMembers (hierarchy.addDeclaration kind name superclass) members

def addMembers (hierarchy : ClassHierarchy) : List Member → ClassHierarchy
  | [] => hierarchy
  | member :: rest => addMembers (addMember hierarchy member) rest

def addMember (hierarchy : ClassHierarchy) : Member → ClassHierarchy
  | .method decl => addMethod hierarchy decl
  | .staticInit _ ⟨_, _, statements⟩ => addStatements hierarchy statements
  | .type decl => addType hierarchy decl

def addMethod (hierarchy : ClassHierarchy) : MethodDecl → ClassHierarchy
  | { body := none, .. } => hierarchy
  | { body := some ⟨_, _, statements⟩, .. } => addStatements hierarchy statements

def addStatements (hierarchy : ClassHierarchy) : List Statement → ClassHierarchy
  | [] => hierarchy
  | ⟨_, _, _, nested⟩ :: rest => addStatements (addTypes hierarchy nested) rest

def addTypes (hierarchy : ClassHierarchy) : List TypeDecl → ClassHierarchy
  | [] => hierarchy
  | decl :: rest => addTypes (addType hierarchy decl) rest

end

def ofUnit (unit : CompilationUnit) : ClassHierarchy := addTypes standard unit.types

def superclass? (hierarchy : ClassHierarchy) (name : String) : Option String :=
  (hierarchy.entries.find? (·.1 == name)).map (·.2)

def resolve? (hierarchy : ClassHierarchy) (name : String) : Option String :=
  if (hierarchy.superclass? (simpleName name)).isSome then some (simpleName name) else none

/-- Looks for a class on the way up, for a bounded number of classes: declared superclasses may
form a cycle. -/
def climbs (hierarchy : ClassHierarchy) (target : String) : Nat → String → Bool
  | 0, _ => false
  | steps + 1, current =>
    if current = target then true
    else
      match hierarchy.superclass? current with
      | some next => if next = "" then false else climbs hierarchy target steps next
      | none => false

def isSubclass (hierarchy : ClassHierarchy) (child parent : String) : Bool :=
  hierarchy.climbs parent (hierarchy.entries.length + 1) child

def isUnchecked (hierarchy : ClassHierarchy) (name : String) : Bool :=
  ["RuntimeException", "Error"].any fun root =>
    (hierarchy.resolve? root).any fun root => hierarchy.isSubclass name root

end ClassHierarchy

end DocAudit
