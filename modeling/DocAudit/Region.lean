import DocAudit.Comment
import DocAudit.Context
import DocAudit.MalformedTree

set_option autoImplicit false

namespace DocAudit

structure Region where
  context : Context
  startLine : Nat
deriving DecidableEq, Repr

def Block.firstStatementLine? (body : Block) : Option Nat := body.statements.head?.map (·.line)

def Block.checkPosition (body : Block) (declLine : Nat) : Except MalformedTree Unit :=
  if body.openLine < declLine then .error (.bodyOpensBeforeDeclaration declLine)
  else if body.closeLine < body.openLine then .error (.bodyClosesBeforeOpening body.openLine)
  else
    match body.firstStatementLine? with
    | none => .ok ()
    | some first =>
      if first < body.openLine ∨ body.closeLine < first then .error (.statementOutsideBody first)
      else .ok ()

structure RegionWalk where
  contexts : List Context
  regions : List Region
deriving DecidableEq, Repr

namespace RegionWalk

def start : RegionWalk := ⟨[.package], [⟨.package, 1⟩]⟩

def record (walk : RegionWalk) (context : Context) (line : Nat) : RegionWalk :=
  { walk with regions := walk.regions ++ [⟨context, line⟩] }

def enter (walk : RegionWalk) (context : Context) : RegionWalk :=
  { walk with contexts := context :: walk.contexts }

/-- Back to the context around, from the line after the closing one on. -/
def leave (walk : RegionWalk) (closingLine : Nat) : Except MalformedTree RegionWalk :=
  match walk.contexts with
  | _ :: outer :: rest =>
    .ok (record { walk with contexts := outer :: rest } outer (closingLine + 1))
  | _ => .error (.unbalancedContexts closingLine)

def recordStatements (walk : RegionWalk) (line : Option Nat) : RegionWalk :=
  match line with
  | none => walk
  | some line => walk.record .statements line

mutual

def visitType (walk : RegionWalk) : TypeDecl → Except MalformedTree RegionWalk
  | { kind, line, endLine, members, .. } =>
    if kind = .anonymousBody then visitMembers walk members
    else if line = 0 then .error .typeAtLineZero
    else if endLine < line then .error (.typeEndsBeforeStart line)
    else
      match visitMembers ((walk.record .classBody line).enter .classBody) members with
      | .error e => .error e
      | .ok walk => walk.leave endLine

def visitMembers (walk : RegionWalk) : List Member → Except MalformedTree RegionWalk
  | [] => .ok walk
  | member :: rest =>
    match visitMember walk member with
    | .error e => .error e
    | .ok walk => visitMembers walk rest

def visitMember (walk : RegionWalk) : Member → Except MalformedTree RegionWalk
  | .method decl => visitMethod walk decl
  | .staticInit line ⟨openLine, closeLine, statements⟩ =>
    if line = 0 then .error .staticInitAtLineZero
    else
      match Block.checkPosition ⟨openLine, closeLine, statements⟩ line with
      | .error e => .error e
      | .ok () =>
        let first := Block.firstStatementLine? ⟨openLine, closeLine, statements⟩
        let header := walk.record .staticInitHeader line
        let inside := (header.recordStatements first).enter .statements
        match visitStatements inside statements with
        | .error e => .error e
        | .ok walk => walk.leave closeLine
  | .type decl => visitType walk decl

def visitMethod (walk : RegionWalk) : MethodDecl → Except MalformedTree RegionWalk
  | { line, body := none, .. } => if line = 0 then .error .methodAtLineZero else .ok walk
  | { line, body := some ⟨openLine, closeLine, statements⟩, .. } =>
    if line = 0 then .error .methodAtLineZero
    else
      match Block.checkPosition ⟨openLine, closeLine, statements⟩ line with
      | .error e => .error e
      | .ok () =>
        let first := (Block.firstStatementLine? ⟨openLine, closeLine, statements⟩).getD closeLine
        let inside := (((walk.record .signature line).record .preStatements openLine).record
          .statements first).enter .statements
        match visitStatements inside statements with
        | .error e => .error e
        | .ok walk => walk.leave closeLine

def visitStatements (walk : RegionWalk) : List Statement → Except MalformedTree RegionWalk
  | [] => .ok walk
  | ⟨_, _, _, nested⟩ :: rest =>
    match visitTypes walk nested with
    | .error e => .error e
    | .ok walk => visitStatements walk rest

def visitTypes (walk : RegionWalk) : List TypeDecl → Except MalformedTree RegionWalk
  | [] => .ok walk
  | decl :: rest =>
    match visitType walk decl with
    | .error e => .error e
    | .ok walk => visitTypes walk rest

end

end RegionWalk

structure RegionMap where
  regions : List Region
deriving DecidableEq, Repr

namespace RegionMap

/-- Regions that start on one line keep the order in which they were recorded. -/
def ofWalk (walk : RegionWalk) : RegionMap :=
  ⟨walk.regions.mergeSort fun a b => a.startLine ≤ b.startLine⟩

def classify (unit : CompilationUnit) : Except MalformedTree RegionMap :=
  match RegionWalk.visitTypes RegionWalk.start unit.types with
  | .error e => .error e
  | .ok walk => .ok (ofWalk walk)

def search (regions : List Region) (line low high : Nat) : Nat :=
  if low + 1 < high then
    let middle := (low + high) / 2
    match regions[middle]? with
    | none => low
    | some region =>
      if line < region.startLine then search regions line low middle
      else search regions line middle high
  else low
termination_by high - low

def regionAt (map : RegionMap) (line : Nat) : Except MalformedTree Region :=
  if line = 0 then .error .lookupAtLineZero
  else
    match map.regions[search map.regions line 0 map.regions.length]? with
    | some region => .ok region
    | none => .error (.noRegions line)

end RegionMap

end DocAudit
