import DocAudit.Region
import Mathlib.Data.List.Chain

set_option autoImplicit false

namespace DocAudit

inductive Zone where
  | type (line endLine : Nat)
  | method (line : Nat) (body : Block)
  | staticInit (line : Nat) (body : Block)

namespace Zone

def firstLine : Zone → Nat
  | .type line _ | .method line _ | .staticInit line _ => line

def lastLine : Zone → Nat
  | .type _ endLine => endLine
  | .method _ body | .staticInit _ body => body.closeLine

def Covers (zone : Zone) (line : Nat) : Prop := zone.firstLine ≤ line ∧ line ≤ zone.lastLine

instance (zone : Zone) (line : Nat) : Decidable (zone.Covers line) :=
  inferInstanceAs (Decidable (_ ∧ _))

def contextAt (line : Nat) : Zone → Context
  | .type _ _ => .classBody
  | .method _ body =>
    if line < body.openLine then .signature
    else if line < body.firstStatementLine?.getD body.closeLine then .preStatements
    else .statements
  | .staticInit _ body =>
    match body.firstStatementLine? with
    | some first => if line < first then .staticInitHeader else .statements
    | none => .staticInitHeader

def StandsIn (inner : Zone) : Zone → Prop
  | .type line endLine => line ≤ inner.firstLine ∧ inner.lastLine ≤ endLine
  | .method _ body | .staticInit _ body =>
    ∃ first ∈ body.firstStatementLine?, first ≤ inner.firstLine ∧ inner.lastLine ≤ body.closeLine

instance (inner zone : Zone) : Decidable (inner.StandsIn zone) :=
  match zone with
  | .type _ _ => inferInstanceAs (Decidable (_ ∧ _))
  | .method _ body | .staticInit _ body =>
    match first : body.firstStatementLine? with
    | none => .isFalse (by simp [StandsIn, first])
    | some line => decidable_of_iff (line ≤ inner.firstLine ∧ inner.lastLine ≤ body.closeLine)
        (by simp [StandsIn, first])

-- The lines of a declaration as the walk over the declarations accepts them.
def Positioned : Zone → Prop
  | .type line endLine => 1 ≤ line ∧ line ≤ endLine
  | .method line body | .staticInit line body =>
    1 ≤ line ∧ line ≤ body.openLine ∧ body.openLine ≤ body.closeLine ∧
      ∀ first ∈ body.firstStatementLine?, body.openLine ≤ first ∧ first ≤ body.closeLine

theorem first_le_last {zone : Zone} (positioned : zone.Positioned) :
    zone.firstLine ≤ zone.lastLine := by
  cases zone <;> simp only [Positioned, firstLine, lastLine] at positioned ⊢ <;> omega

theorem one_le_first {zone : Zone} (positioned : zone.Positioned) : 1 ≤ zone.firstLine := by
  cases zone <;> exact positioned.1

theorem standsIn_lines {outer inner : Zone} (positioned : outer.Positioned)
    (enclosed : inner.StandsIn outer) :
    outer.firstLine ≤ inner.firstLine ∧ inner.lastLine ≤ outer.lastLine := by
  cases outer with
  | type line endLine => exact enclosed
  | method line body | staticInit line body =>
    obtain ⟨first, present, above, below⟩ := enclosed
    have inside := positioned.2.2.2 first present
    have opens := positioned.2.1
    exact ⟨by simp only [firstLine] at above ⊢; omega, below⟩

end Zone

structure Outline where
  zone : Zone
  inner : List Outline

namespace Outline

-- On what the first outline holds, and on the outlines beside it.
theorem forest_induction {motive : List Outline → Prop} (nil : motive [])
    (cons : ∀ zone inner rest, motive inner → motive rest → motive (⟨zone, inner⟩ :: rest)) :
    (nodes : List Outline) → motive nodes
  | [] => nil
  | ⟨zone, inner⟩ :: rest =>
    cons zone inner rest (forest_induction nil cons inner) (forest_induction nil cons rest)

mutual

-- An outline ahead of all those it holds at any depth.
def all : Outline → List Outline
  | ⟨zone, inner⟩ => ⟨zone, inner⟩ :: flatten inner

def flatten : List Outline → List Outline
  | [] => []
  | node :: rest => node.all ++ flatten rest

end

@[simp] theorem flatten_nil : flatten [] = [] := rfl

@[simp] theorem flatten_cons (zone : Zone) (inner rest : List Outline) :
    flatten (⟨zone, inner⟩ :: rest) = ⟨zone, inner⟩ :: (flatten inner ++ flatten rest) := rfl

theorem mem_flatten_of_mem {node : Outline} {nodes : List Outline} (member : node ∈ nodes) :
    node ∈ flatten nodes := by
  induction nodes with
  | nil => cases member
  | cons head rest ih =>
    obtain ⟨zone, inner⟩ := head
    simp only [flatten_cons, List.mem_cons, List.mem_append]
    rcases List.mem_cons.mp member with same | later
    · exact .inl same
    · exact .inr (.inr (ih later))

/-- Each declaration stands in the nearest one around it, and siblings come one below the other. -/
structure WellNested (nodes : List Outline) : Prop where
  ordered : nodes.IsChain fun above below => above.zone.lastLine < below.zone.firstLine
  innerOrdered : ∀ node ∈ flatten nodes,
    node.inner.IsChain fun above below => above.zone.lastLine < below.zone.firstLine
  enclosed : ∀ node ∈ flatten nodes, ∀ child ∈ node.inner, child.zone.StandsIn node.zone

instance (nodes : List Outline) : Decidable (WellNested nodes) :=
  decidable_of_iff
    ((nodes.IsChain fun above below => above.zone.lastLine < below.zone.firstLine) ∧
      (∀ node ∈ flatten nodes,
        node.inner.IsChain fun above below => above.zone.lastLine < below.zone.firstLine) ∧
      ∀ node ∈ flatten nodes, ∀ child ∈ node.inner, child.zone.StandsIn node.zone)
    ⟨fun ⟨ordered, innerOrdered, enclosed⟩ => ⟨ordered, innerOrdered, enclosed⟩,
      fun nested => ⟨nested.ordered, nested.innerOrdered, nested.enclosed⟩⟩

/-- A declaration around a line that holds no further declaration around it. -/
structure Innermost (line : Nat) (nodes : List Outline) (node : Outline) : Prop where
  occurs : node ∈ flatten nodes
  covers : node.zone.Covers line
  last : ∀ deeper ∈ flatten node.inner, ¬ deeper.zone.Covers line

def Outside (line : Nat) (nodes : List Outline) : Prop :=
  ∀ node ∈ flatten nodes, ¬ node.zone.Covers line

theorem outside_or_innermost (line : Nat) (nodes : List Outline) :
    Outside line nodes ∨ ∃ node, Innermost line nodes node := by
  induction nodes using forest_induction with
  | nil => exact .inl (by simp [Outside])
  | cons zone inner rest inInner inRest =>
    rcases inInner with outsideInner | ⟨node, innermost⟩
    next =>
      by_cases covers : zone.Covers line
      next => exact .inr ⟨⟨zone, inner⟩, by simp, covers, outsideInner⟩
      next =>
        rcases inRest with outsideRest | ⟨node, innermost⟩
        next =>
          refine .inl fun node member => ?_
          simp only [flatten_cons, List.mem_cons, List.mem_append] at member
          rcases member with rfl | member | member
          · exact covers
          · exact outsideInner node member
          · exact outsideRest node member
        next => exact .inr ⟨node, by simp [innermost.occurs], innermost.covers, innermost.last⟩
    next => exact .inr ⟨node, by simp [innermost.occurs], innermost.covers, innermost.last⟩

section Nesting

variable {zone : Zone} {inner rest nodes : List Outline}

-- Each declaration stands in the nearest one around it, in whatever order siblings come.
def Enclosed (nodes : List Outline) : Prop :=
  ∀ node ∈ flatten nodes, ∀ child ∈ node.inner, child.zone.StandsIn node.zone

theorem Enclosed.ofInner (enclosed : Enclosed (⟨zone, inner⟩ :: rest)) : Enclosed inner :=
  fun node member => enclosed node (by simp [member])

theorem Enclosed.ofRest (enclosed : Enclosed (⟨zone, inner⟩ :: rest)) : Enclosed rest :=
  fun node member => enclosed node (by simp [member])

theorem Enclosed.standsIn (enclosed : Enclosed (⟨zone, inner⟩ :: rest)) :
    ∀ child ∈ inner, child.zone.StandsIn zone :=
  enclosed ⟨zone, inner⟩ (by simp)

theorem WellNested.ofInner (nested : WellNested (⟨zone, inner⟩ :: rest)) : WellNested inner where
  ordered := nested.innerOrdered ⟨zone, inner⟩ (by simp)
  innerOrdered node member := nested.innerOrdered node (by simp [member])
  enclosed node member := nested.enclosed node (by simp [member])

theorem WellNested.ofRest (nested : WellNested (⟨zone, inner⟩ :: rest)) : WellNested rest where
  ordered := nested.ordered.of_cons
  innerOrdered node member := nested.innerOrdered node (by simp [member])
  enclosed node member := nested.enclosed node (by simp [member])

theorem WellNested.standsIn (nested : WellNested (⟨zone, inner⟩ :: rest)) :
    ∀ child ∈ inner, child.zone.StandsIn zone :=
  nested.enclosed ⟨zone, inner⟩ (by simp)

def Positioned (nodes : List Outline) : Prop := ∀ node ∈ flatten nodes, node.zone.Positioned

theorem Positioned.ofInner (positioned : Positioned (⟨zone, inner⟩ :: rest)) : Positioned inner :=
  fun node member => positioned node (by simp [member])

theorem Positioned.ofRest (positioned : Positioned (⟨zone, inner⟩ :: rest)) : Positioned rest :=
  fun node member => positioned node (by simp [member])

theorem Positioned.head (positioned : Positioned (⟨zone, inner⟩ :: rest)) : zone.Positioned :=
  positioned ⟨zone, inner⟩ (by simp)

-- With siblings a number of lines apart, every later one is that far behind the first.
theorem first_apart (gap : Nat) (positioned : Positioned rest)
    (chain : (⟨zone, inner⟩ :: rest).IsChain fun above below =>
      above.zone.lastLine + gap ≤ below.zone.firstLine) :
    ∀ later ∈ rest, zone.lastLine + gap ≤ later.zone.firstLine := by
  induction rest generalizing zone inner with
  | nil => exact fun later member => nomatch member
  | cons next rest ih =>
    obtain ⟨nextZone, nextInner⟩ := next
    obtain ⟨below, chain⟩ := List.isChain_cons_cons.mp chain
    intro later member
    rcases List.mem_cons.mp member with rfl | member
    next => exact below
    next =>
      have nextLines := Zone.first_le_last positioned.head
      have laterBelow := ih positioned.ofRest chain later member
      simp only at below
      omega

theorem WellNested.last_lt_first (nested : WellNested (⟨zone, inner⟩ :: rest))
    (positioned : Positioned rest) : ∀ later ∈ rest, zone.lastLine < later.zone.firstLine :=
  first_apart 1 positioned nested.ordered

theorem flatten_last_le {high : Nat} (enclosed : Enclosed nodes) (positioned : Positioned nodes)
    (above : ∀ node ∈ nodes, node.zone.lastLine ≤ high) :
    ∀ node ∈ flatten nodes, node.zone.lastLine ≤ high := by
  induction nodes using forest_induction with
  | nil => simp
  | cons zone inner rest inInner inRest =>
    have here : zone.lastLine ≤ high := above ⟨zone, inner⟩ (by simp)
    intro node member
    simp only [flatten_cons, List.mem_cons, List.mem_append] at member
    rcases member with rfl | member | member
    next => exact here
    next =>
      refine inInner enclosed.ofInner positioned.ofInner (fun child member => ?_) node member
      have lines := Zone.standsIn_lines positioned.head (enclosed.standsIn child member)
      omega
    next =>
      exact inRest enclosed.ofRest positioned.ofRest
        (fun later member => above later (by simp [member])) node member

theorem Enclosed.last_le (enclosed : Enclosed (⟨zone, inner⟩ :: rest))
    (positioned : Positioned (⟨zone, inner⟩ :: rest)) :
    ∀ node ∈ flatten inner, node.zone.lastLine ≤ zone.lastLine :=
  flatten_last_le enclosed.ofInner positioned.ofInner fun child member =>
    (Zone.standsIn_lines positioned.head (enclosed.standsIn child member)).2

end Nesting

end Outline

mutual

def TypeDecl.outline : TypeDecl → List Outline
  | { kind, line, endLine, members, .. } =>
    if kind = .anonymousBody then Outline.ofMembers members
    else [⟨.type line endLine, Outline.ofMembers members⟩]

def Outline.ofMembers : List Member → List Outline
  | [] => []
  | member :: rest => Member.outline member ++ Outline.ofMembers rest

def Member.outline : Member → List Outline
  | .method decl => MethodDecl.outline decl
  | .staticInit line ⟨openLine, closeLine, statements⟩ =>
    [⟨.staticInit line ⟨openLine, closeLine, statements⟩, Outline.ofStatements statements⟩]
  | .type decl => TypeDecl.outline decl

def MethodDecl.outline : MethodDecl → List Outline
  | { body := none, .. } => []
  | { line, body := some ⟨openLine, closeLine, statements⟩, .. } =>
    [⟨.method line ⟨openLine, closeLine, statements⟩, Outline.ofStatements statements⟩]

def Outline.ofStatements : List Statement → List Outline
  | [] => []
  | ⟨_, _, _, nested⟩ :: rest => Outline.ofTypes nested ++ Outline.ofStatements rest

def Outline.ofTypes : List TypeDecl → List Outline
  | [] => []
  | decl :: rest => TypeDecl.outline decl ++ Outline.ofTypes rest

end

def CompilationUnit.outline (unit : CompilationUnit) : List Outline := Outline.ofTypes unit.types

theorem TypeDecl.outline_anonymous {decl : TypeDecl} (anonymous : decl.kind = .anonymousBody) :
    decl.outline = Outline.ofMembers decl.members := by
  obtain ⟨⟩ := decl
  rw [TypeDecl.outline, if_pos anonymous]

theorem TypeDecl.outline_named {decl : TypeDecl} (named : decl.kind ≠ .anonymousBody) :
    decl.outline = [⟨.type decl.line decl.endLine, Outline.ofMembers decl.members⟩] := by
  obtain ⟨⟩ := decl
  rw [TypeDecl.outline, if_neg named]

theorem MethodDecl.outline_none {decl : MethodDecl} (absent : decl.body = none) :
    decl.outline = [] := by
  obtain ⟨⟩ := decl
  cases absent
  rw [MethodDecl.outline]

theorem MethodDecl.outline_some {decl : MethodDecl} {body : Block}
    (present : decl.body = some body) :
    decl.outline = [⟨.method decl.line body, Outline.ofStatements body.statements⟩] := by
  obtain ⟨⟩ := decl
  obtain ⟨⟩ := body
  cases present
  rw [MethodDecl.outline]

theorem Member.outline_staticInit (line : Nat) (body : Block) :
    (Member.staticInit line body).outline =
      [⟨.staticInit line body, Outline.ofStatements body.statements⟩] := by
  obtain ⟨⟩ := body
  rw [Member.outline]

end DocAudit
