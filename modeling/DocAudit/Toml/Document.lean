import DocAudit.Toml.Number

set_option autoImplicit false

namespace DocAudit.Toml

mutual

/-- What stands under a key while a document is read. -/
inductive Item where
  | value (value : Value)
  | table (table : OpenTable)
  | tables (tables : List OpenTable)

/-- A table with how it came about: `implicit` if no header has named it, `dotted` if a dotted
key made it. -/
inductive OpenTable where
  | mk (implicit dotted : Bool) (entries : List (String × Item))

end

namespace OpenTable

def implicit : OpenTable → Bool
  | .mk implicit _ _ => implicit

def dotted : OpenTable → Bool
  | .mk _ dotted _ => dotted

def entries : OpenTable → List (String × Item)
  | .mk _ _ entries => entries

def empty : OpenTable := .mk false false []

def get? (table : OpenTable) (key : String) : Option Item :=
  (table.entries.find? (·.1 == key)).map (·.2)

def setEntry (key : String) (item : Item) : List (String × Item) → List (String × Item)
  | [] => [(key, item)]
  | entry :: rest => if entry.1 = key then (key, item) :: rest else entry :: setEntry key item rest

def set (table : OpenTable) (key : String) (item : Item) : OpenTable :=
  .mk table.implicit table.dotted (setEntry key item table.entries)

def modifyAt? (byDots : Bool) (change : OpenTable → Option OpenTable) :
    List String → OpenTable → Option OpenTable
  | [], table => change table
  | key :: path, table =>
    match table.get? key with
    | none =>
      (modifyAt? byDots change path (.mk true byDots [])).map fun child =>
        table.set key (.table child)
    | some (.value _) => none
    | some (.tables children) =>
      match children.reverse with
      | [] => none
      | last :: before =>
        (modifyAt? byDots change path last).map fun last =>
          table.set key (.tables (last :: before).reverse)
    | some (.table child) =>
      if byDots && !child.implicit then none
      else (modifyAt? byDots change path child).map fun child => table.set key (.table child)

/-- A new entry; a dotted key adds only to tables that dotted keys have made. -/
def addKey? (keys : List String) (value : Value) (table : OpenTable) : Option OpenTable :=
  match keys.reverse with
  | [] => none
  | key :: path =>
    modifyAt? true
      (fun target =>
        if target.dotted == path.isEmpty || (target.get? key).isSome then none
        else some (target.set key (.value value)))
      path.reverse table

def addTable? (keys : List String) (table : OpenTable) : Option OpenTable :=
  match keys.reverse with
  | [] => none
  | key :: path =>
    modifyAt? false
      (fun parent =>
        match parent.get? key with
        | none => some (parent.set key (.table .empty))
        | some (.table child) =>
          if child.implicit && !child.dotted then
            some (parent.set key (.table (.mk false false child.entries)))
          else none
        | _ => none)
      path.reverse table

def appendTable? (keys : List String) (table : OpenTable) : Option OpenTable :=
  match keys.reverse with
  | [] => none
  | key :: path =>
    modifyAt? false
      (fun parent =>
        match parent.get? key with
        | none => some (parent.set key (.tables [.empty]))
        | some (.tables children) => some (parent.set key (.tables (children ++ [.empty])))
        | _ => none)
      path.reverse table

end OpenTable

mutual

def Item.toValue : Item → Value
  | .value value => value
  | .table table => .table (OpenTable.toTable table)
  | .tables tables => .arr (OpenTable.toValues tables)

def OpenTable.toTable : OpenTable → Table
  | .mk _ _ entries => OpenTable.toEntries entries

def OpenTable.toEntries : List (String × Item) → List (String × Value)
  | [] => []
  | (key, item) :: rest => (key, Item.toValue item) :: OpenTable.toEntries rest

def OpenTable.toValues : List OpenTable → List Value
  | [] => []
  | table :: rest => .table (OpenTable.toTable table) :: OpenTable.toValues rest

end

def items? (item? : Reader Value) : Nat → List Char → Option (List Value × List Char)
  | 0, _ => none
  | fuel + 1, text =>
    match skipBetween text with
    | ']' :: rest => some ([], rest)
    | text =>
      match item? text with
      | none => none
      | some (value, rest) =>
        match skipBetween rest with
        | ',' :: rest => (items? item? fuel rest).map fun (values, rest) => (value :: values, rest)
        | ']' :: rest => some ([value], rest)
        | _ => none

def keyValue? (value? : Reader Value) (text : List Char) :
    Option ((List String × Value) × List Char) := do
  let (keys, rest) ← key? text
  let rest ← expect? '=' rest
  let (value, rest) ← value? (skipBlanks rest)
  pure ((keys, value), rest)

def inlineKeys? (value? : Reader Value) (table : OpenTable) :
    Nat → List Char → Option (OpenTable × List Char)
  | 0, _ => none
  | fuel + 1, text =>
    match keyValue? value? text with
    | none => none
    | some ((keys, value), rest) =>
      match table.addKey? keys value with
      | none => none
      | some table =>
        match skipBlanks rest with
        | ',' :: rest => inlineKeys? value? table fuel rest
        | '}' :: rest => some (table, rest)
        | _ => none

def inlineTable? (value? : Reader Value) (text : List Char) : Option (OpenTable × List Char) :=
  match skipBlanks text with
  | '}' :: rest => some (.empty, rest)
  | _ => inlineKeys? value? .empty (text.length + 1) text

def value? : Nat → Reader Value
  | depth, text =>
    match text with
    | '"' :: _ | '\'' :: _ =>
      (string? text).map fun (content, rest) => (.str (String.ofList content), rest)
    | '[' :: rest =>
      match depth with
      | 0 => none
      | depth + 1 =>
        (items? (value? depth) (rest.length + 1) rest).map fun (values, rest) => (.arr values, rest)
    | '{' :: rest =>
      match depth with
      | 0 => none
      | depth + 1 =>
        (inlineTable? (value? depth) rest).map fun (table, rest) => (.table table.toTable, rest)
    | 't' :: 'r' :: 'u' :: 'e' :: rest => some (.bool true, rest)
    | 'f' :: 'a' :: 'l' :: 's' :: 'e' :: rest => some (.bool false, rest)
    | _ => number? text

structure Reading where
  root : OpenTable
  path : List String

namespace Reading

def addLine? (reading : Reading) (keys : List String) (value : Value) : Option Reading :=
  (reading.root.modifyAt? false (·.addKey? keys value) reading.path).map fun root =>
    { reading with root }

def header? (reading : Reading) (text : List Char) : Option (Reading × List Char) :=
  match text with
  | '[' :: rest => do
    let (keys, rest) ← key? rest
    let rest ← expect? ']' rest
    let rest ← expect? ']' rest
    let root ← reading.root.appendTable? keys
    let rest ← lineEnd? rest
    pure (⟨root, keys⟩, rest)
  | _ => do
    let (keys, rest) ← key? text
    let rest ← expect? ']' rest
    let root ← reading.root.addTable? keys
    let rest ← lineEnd? rest
    pure (⟨root, keys⟩, rest)

def lines? : Nat → Reading → List Char → Option Reading
  | 0, _, _ => none
  | fuel + 1, reading, text =>
    match skipBlanks text with
    | [] => some reading
    | '[' :: rest =>
      match reading.header? rest with
      | none => none
      | some (reading, rest) => lines? fuel reading rest
    | c :: rest =>
      if c = '#' ∨ c = '\n' ∨ c = '\r' then
        match lineEnd? (c :: rest) with
        | none => none
        | some rest => lines? fuel reading rest
      else
        match keyValue? (value? (depthLimit - 1)) (c :: rest) with
        | none => none
        | some ((keys, value), rest) =>
          match reading.addLine? keys value, lineEnd? rest with
          | some reading, some rest => lines? fuel reading rest
          | _, _ => none

end Reading

def dropMark : List Char → List Char
  | '\uFEFF' :: rest => rest
  | text => text

def parse? (text : List Char) : Option Table :=
  let text := dropMark text
  (Reading.lines? (text.length + 1) ⟨.empty, []⟩ text).map fun reading => reading.root.toTable

end DocAudit.Toml
