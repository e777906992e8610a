import DocAudit.Proofs.PrevailingRegion

set_option autoImplicit false

namespace DocAudit

def Context.IsBody (context : Context) : Prop := context = .preStatements ∨ context = .statements

instance (context : Context) : Decidable context.IsBody := inferInstanceAs (Decidable (_ ∨ _))

theorem Zone.contextAt_opened {line first : Nat} {body : Block} (opened : body.openLine < line) :
    (Zone.method first body).contextAt line =
      if line < body.firstStatementLine?.getD body.closeLine then .preStatements
      else .statements := by
  rw [Zone.contextAt, if_neg (Nat.not_lt.mpr (Nat.le_of_lt opened))]

namespace Outline

/-- Each declaration stands in the nearest one around it, and siblings come in order; one may
start on the line on which the one ahead of it ends. -/
structure LooselyNested (nodes : List Outline) : Prop where
  ordered : nodes.IsChain fun above below => above.zone.lastLine ≤ below.zone.firstLine
  innerOrdered : ∀ node ∈ flatten nodes,
    node.inner.IsChain fun above below => above.zone.lastLine ≤ below.zone.firstLine
  enclosed : ∀ node ∈ flatten nodes, ∀ child ∈ node.inner, child.zone.StandsIn node.zone

instance (nodes : List Outline) : Decidable (LooselyNested nodes) :=
  decidable_of_iff
    ((nodes.IsChain fun above below => above.zone.lastLine ≤ below.zone.firstLine) ∧
      (∀ node ∈ flatten nodes,
        node.inner.IsChain fun above below => above.zone.lastLine ≤ below.zone.firstLine) ∧
      ∀ node ∈ flatten nodes, ∀ child ∈ node.inner, child.zone.StandsIn node.zone)
    ⟨fun ⟨ordered, innerOrdered, enclosed⟩ => ⟨ordered, innerOrdered, enclosed⟩,
      fun nested => ⟨nested.ordered, nested.innerOrdered, nested.enclosed⟩⟩

structure Level where
  context : Context
  ahead : List Outline

inductive Leads : Context → List Outline → List Level → Outline → Prop where
  | here (outer : Context) (ahead : List Outline) (node : Outline) (behind : List Outline) :
      Leads outer (ahead ++ node :: behind) [⟨outer, ahead⟩] node
  | inside (outer : Context) (ahead : List Outline) {zone : Zone} {inner : List Outline}
      (behind : List Outline) {levels : List Level} {node : Outline}
      (deeper : Leads zone.innerContext inner levels node) :
      Leads outer (ahead ++ ⟨zone, inner⟩ :: behind) (⟨outer, ahead⟩ :: levels) node

-- The context that comes back below a line, where a declaration of the level ends on it.
def Level.returned (line : Nat) (back : Option Context) (level : Level) : Option Context :=
  if level.ahead.any (·.zone.lastLine = line) then some level.context else back

/-- The context that comes back below a line behind the declarations on the way. -/
def returnedAt (line : Nat) (levels : List Level) : Option Context :=
  levels.foldl (Level.returned line) none

/-- From the line below its first one down to the given one, nothing of a method begins. -/
def Stalls (line first : Nat) (body : Block) (inner : List Outline) : Prop :=
  body.openLine = first ∧
    (∀ statement ∈ body.firstStatementLine?, statement ≤ line → statement = first) ∧
    ∀ child ∈ inner, line < child.zone.firstLine

instance (line first : Nat) (body : Block) (inner : List Outline) :
    Decidable (Stalls line first body inner) :=
  inferInstanceAs (Decidable (_ ∧ _ ∧ _))

section Nesting

variable {zone : Zone} {inner rest nodes ahead behind : List Outline} {node : Outline}

theorem LooselyNested.ofInner (nested : LooselyNested nodes) (member : ⟨zone, inner⟩ ∈ nodes) :
    LooselyNested inner := by
  have occurs := mem_flatten_of_mem member
  obtain ⟨before, after, rfl⟩ := List.append_of_mem member
  refine ⟨nested.innerOrdered _ occurs, fun node deeper => ?_, fun node deeper => ?_⟩
  · exact nested.innerOrdered node (by simp [flatten_append, deeper])
  · exact nested.enclosed node (by simp [flatten_append, deeper])

theorem LooselyNested.last_le_first (nested : LooselyNested (⟨zone, inner⟩ :: rest))
    (positioned : Positioned rest) : ∀ later ∈ rest, zone.lastLine ≤ later.zone.firstLine :=
  first_apart 0 positioned nested.ordered

theorem LooselyNested.ofRight (nested : LooselyNested (ahead ++ nodes)) : LooselyNested nodes where
  ordered := nested.ordered.right_of_append
  innerOrdered node member := nested.innerOrdered node (by simp [flatten_append, member])
  enclosed node member := nested.enclosed node (by simp [flatten_append, member])

theorem Enclosed.ofLeft (enclosed : Enclosed (nodes ++ behind)) : Enclosed nodes :=
  fun node member => enclosed node (by simp [flatten_append, member])

theorem Positioned.ofLeft (positioned : Positioned (nodes ++ behind)) : Positioned nodes :=
  fun node member => positioned node (by simp [flatten_append, member])

theorem Positioned.ofRight (positioned : Positioned (ahead ++ nodes)) : Positioned nodes :=
  fun node member => positioned node (by simp [flatten_append, member])

theorem LooselyNested.ahead_le (nested : LooselyNested (ahead ++ node :: behind))
    (positioned : Positioned (ahead ++ node :: behind)) :
    ∀ earlier ∈ ahead, earlier.zone.lastLine ≤ node.zone.firstLine := by
  induction ahead with
  | nil => simp
  | cons first rest ih =>
    obtain ⟨zone, inner⟩ := first
    intro earlier member
    rcases List.mem_cons.mp member with rfl | member
    next => exact nested.last_le_first positioned.ofRest node (by simp)
    next =>
      have later : LooselyNested ([⟨zone, inner⟩] ++ (rest ++ node :: behind)) := nested
      exact ih later.ofRight positioned.ofRest earlier member

theorem Leads.lines {outer : Context} {levels : List Level} (leads : Leads outer nodes levels node)
    (enclosed : Enclosed nodes) (positioned : Positioned nodes) :
    ∃ top ∈ nodes, top.zone.firstLine ≤ node.zone.firstLine ∧
      node.zone.lastLine ≤ top.zone.lastLine := by
  induction leads with
  | here outer ahead node behind => exact ⟨node, by simp, Nat.le_refl _, Nat.le_refl _⟩
  | @inside outer ahead zone inner behind levels node deeper ih =>
    refine ⟨⟨zone, inner⟩, by simp, ?_⟩
    have enclosedHere : Enclosed (⟨zone, inner⟩ :: behind) := fun node member =>
      enclosed node (by rw [flatten_append]; exact List.mem_append_right _ member)
    have positionedHere := positioned.ofRight
    obtain ⟨top, member, starts, ends⟩ := ih enclosedHere.ofInner positionedHere.ofInner
    have lines := Zone.standsIn_lines positionedHere.head (enclosedHere.standsIn top member)
    exact ⟨Nat.le_trans lines.1 starts, Nat.le_trans ends lines.2⟩

theorem exists_leads (outer : Context) (occurs : node ∈ flatten nodes) :
    ∃ levels, Leads outer nodes levels node := by
  induction nodes using forest_induction generalizing outer with
  | nil => cases occurs
  | cons zone inner rest inInner inRest =>
    simp only [flatten_cons, List.mem_cons, List.mem_append] at occurs
    rcases occurs with rfl | deeper | later
    next => exact ⟨_, .here outer [] ⟨zone, inner⟩ rest⟩
    next =>
      obtain ⟨levels, leads⟩ := inInner zone.innerContext deeper
      exact ⟨_, .inside outer [] rest leads⟩
    next =>
      obtain ⟨levels, leads⟩ := inRest outer later
      cases leads with
      | here outer ahead node behind => exact ⟨_, .here outer (⟨zone, inner⟩ :: ahead) node behind⟩
      | inside outer ahead behind leads =>
        exact ⟨_, .inside outer (⟨zone, inner⟩ :: ahead) behind leads⟩

theorem Leads.occurs {outer : Context} {levels : List Level}
    (leads : Leads outer nodes levels node) : ∀ below ∈ flatten [node], below ∈ flatten nodes := by
  induction leads with
  | here outer ahead node behind =>
    obtain ⟨zone, inner⟩ := node
    intro below member
    simp only [flatten_cons, flatten_nil, List.append_nil, List.mem_cons] at member
    rcases member with rfl | member
    · simp [flatten_append]
    · simp [flatten_append, member]
  | inside outer ahead behind deeper ih =>
    intro below member
    simp [flatten_append, ih below member]

theorem Leads.alone {outer : Context} {levels : List Level} (leads : Leads outer nodes levels node)
    (nested : LooselyNested nodes) (positioned : Positioned nodes) :
    LooselyNested [node] ∧ Positioned [node] := by
  refine ⟨⟨.singleton node, fun below member => ?_, fun below member => ?_⟩, fun below member => ?_⟩
  · exact nested.innerOrdered below (leads.occurs below member)
  · exact nested.enclosed below (leads.occurs below member)
  · exact positioned below (leads.occurs below member)

end Nesting

-- What is known of the region that prevails once all ahead of a declaration is recorded.
def Returned (first : Nat) : Option Context → Region → Prop
  | none, region => region.startLine ≤ first
  | some context, region => region = ⟨context, first + 1⟩

section Ahead

variable {line first : Nat} {back : Option Context} {region : Region} {outer : Context}

theorem Returned.startLine_le (returned : Returned first back region) :
    region.startLine ≤ first + 1 := by
  cases back with
  | none => exact Nat.le_succ_of_le returned
  | some context =>
    cases returned
    exact Nat.le_refl _

theorem Returned.past (returned : Returned first back region) {regions : List Region}
    (low : ∀ other ∈ regions, other.startLine ≤ first) :
    Returned first back (prevailing line region regions) := by
  cases back with
  | none => exact prevailing_le returned fun other member _ => low other member
  | some context =>
    cases returned
    exact prevailing_kept fun other member _ => Nat.lt_succ_of_le (low other member)

theorem record_le {zone : Zone} {inner rest : List Outline}
    (enclosed : Enclosed (⟨zone, inner⟩ :: rest))
    (positioned : Positioned (⟨zone, inner⟩ :: rest)) :
    ∀ other ∈ zone.opening ++ records zone.innerContext inner,
      other.startLine ≤ zone.lastLine + 1 := by
  intro other member
  rcases List.mem_append.mp member with member | member
  next => exact Nat.le_succ_of_le (Zone.opening_le_last positioned.head other member)
  next => exact records_le positioned.ofInner (enclosed.last_le positioned) other member

theorem Returned.siblings {ahead : List Outline} (returned : Returned first back region)
    (enclosed : Enclosed ahead) (positioned : Positioned ahead)
    (above : ∀ node ∈ ahead, node.zone.lastLine ≤ first) (reached : first < line) :
    Returned first (Level.returned first back ⟨outer, ahead⟩)
      (prevailing line region (records outer ahead)) := by
  induction ahead generalizing back region with
  | nil => exact returned
  | cons node rest ih =>
    obtain ⟨zone, inner⟩ := node
    obtain ⟨here, later⟩ := List.forall_mem_cons.mp above
    have bounded := record_le enclosed positioned
    rw [records_cons, List.append_cons, prevailing_append]
    by_cases ends : zone.lastLine = first
    next =>
      have overtaken : prevailing line region
          (zone.opening ++ records zone.innerContext inner ++ [⟨outer, zone.lastLine + 1⟩]) =
            ⟨outer, first + 1⟩ := by
        rw [ends] at bounded ⊢
        exact prevailing_eq reached returned.startLine_le
          (fun other member _ => bounded other member) (by simp)
      have following : Returned first (some outer) (⟨outer, first + 1⟩ : Region) := rfl
      have same : Level.returned first back ⟨outer, ⟨zone, inner⟩ :: rest⟩ =
          Level.returned first (some outer) ⟨outer, rest⟩ := by
        simp [Level.returned, ends]
      rw [overtaken, same]
      exact ih following enclosed.ofRest positioned.ofRest later
    next =>
      have low : ∀ other ∈ zone.opening ++ records zone.innerContext inner ++
          [⟨outer, zone.lastLine + 1⟩], other.startLine ≤ first := by
        intro other member
        simp only at here
        rcases List.mem_append.mp member with member | member
        · have := bounded other member
          omega
        · rw [List.mem_singleton.mp member]
          show zone.lastLine + 1 ≤ first
          omega
      have same : Level.returned first back ⟨outer, ⟨zone, inner⟩ :: rest⟩ =
          Level.returned first back ⟨outer, rest⟩ := by
        simp [Level.returned, ends]
      rw [same]
      exact ih (returned.past low) enclosed.ofRest positioned.ofRest later

-- Nothing behind a declaration starts in it.
theorem records_behind {zone : Zone} {inner behind : List Outline}
    (nested : LooselyNested (⟨zone, inner⟩ :: behind))
    (positioned : Positioned (⟨zone, inner⟩ :: behind)) (closes : line < zone.lastLine) :
    ∀ other ∈ ⟨outer, zone.lastLine + 1⟩ :: records outer behind, line < other.startLine := by
  intro other member
  rcases List.mem_cons.mp member with rfl | member
  next => exact Nat.lt_succ_of_lt closes
  next =>
    have enclosed : Enclosed (⟨zone, inner⟩ :: behind) := nested.enclosed
    refine le_records enclosed.ofRest positioned.ofRest (fun later held => ?_) other member
    exact Nat.lt_of_lt_of_le closes (nested.last_le_first positioned.ofRest later held)

theorem Leads.records {nodes : List Outline} {levels : List Level} {node : Outline}
    (leads : Leads outer nodes levels node) (nested : LooselyNested nodes)
    (positioned : Positioned nodes) (reached : node.zone.firstLine < line)
    (closes : line < node.zone.lastLine) :
    ∃ front later, Outline.records outer nodes =
        front ++ (node.zone.opening ++ Outline.records node.zone.innerContext node.inner) ++ later ∧
      (∀ other ∈ later, line < other.startLine) ∧
      ∀ back region, Returned node.zone.firstLine back region →
        Returned node.zone.firstLine (levels.foldl (Level.returned node.zone.firstLine) back)
          (prevailing line region front) := by
  induction leads with
  | here outer ahead node behind =>
    obtain ⟨zone, inner⟩ := node
    have enclosed : Enclosed (ahead ++ ⟨zone, inner⟩ :: behind) := nested.enclosed
    refine ⟨Outline.records outer ahead,
      ⟨outer, zone.lastLine + 1⟩ :: Outline.records outer behind, ?_, ?_, ?_⟩
    next => simp [records_append, records_cons]
    next => exact records_behind nested.ofRight positioned.ofRight closes
    next =>
      intro back region returned
      exact returned.siblings enclosed.ofLeft positioned.ofLeft (nested.ahead_le positioned) reached
  | @inside outer ahead zone inner behind levels node deeper ih =>
    have enclosed : Enclosed (ahead ++ ⟨zone, inner⟩ :: behind) := nested.enclosed
    have nestedHere := nested.ofRight
    have enclosedHere : Enclosed (⟨zone, inner⟩ :: behind) := nestedHere.enclosed
    have positionedHere := positioned.ofRight
    obtain ⟨top, held, starts, ends⟩ := deeper.lines enclosedHere.ofInner positionedHere.ofInner
    have stands := enclosedHere.standsIn top held
    have lines := Zone.standsIn_lines positionedHere.head stands
    obtain ⟨front, later, split, below, carried⟩ :=
      ih (nestedHere.ofInner List.mem_cons_self) positionedHere.ofInner reached closes
    refine ⟨Outline.records outer ahead ++ zone.opening ++ front,
      later ++ ⟨outer, zone.lastLine + 1⟩ :: Outline.records outer behind, ?_, ?_, ?_⟩
    next => simp [records_append, records_cons, split]
    next =>
      intro other member
      rcases List.mem_append.mp member with member | member
      · exact below other member
      · exact records_behind nestedHere positionedHere (by omega) other member
    next =>
      intro back region returned
      have above : ∀ earlier ∈ ahead, earlier.zone.lastLine ≤ node.zone.firstLine := by
        intro earlier member
        have := nested.ahead_le positioned earlier member
        simp only at this
        omega
      have low : ∀ other ∈ zone.opening, other.startLine ≤ node.zone.firstLine := by
        intro other member
        exact Nat.le_trans (Zone.opening_le_inner positionedHere.head stands other member) starts
      have siblings : Returned node.zone.firstLine
          (Level.returned node.zone.firstLine back ⟨outer, ahead⟩)
          (prevailing line region (Outline.records outer ahead)) :=
        returned.siblings enclosed.ofLeft positioned.ofLeft above reached
      rw [prevailing_append, prevailing_append, List.foldl_cons]
      exact carried _ _ (siblings.past low)

end Ahead

section Body

variable {line first : Nat} {back : Option Context} {region : Region} {outer : Context}
  {nodes : List Outline}

-- Outside the declarations of a level the context around them comes back below the first of them.
theorem prevailing_between (nested : LooselyNested nodes) (positioned : Positioned nodes)
    (outside : Outside line nodes)
    (early : ∀ node ∈ nodes, region.startLine ≤ node.zone.lastLine + 1) :
    ((∀ node ∈ nodes, line < node.zone.firstLine) ∧
        prevailing line region (records outer nodes) = region) ∨
      ((∃ node ∈ nodes, node.zone.firstLine ≤ line) ∧
        (prevailing line region (records outer nodes)).context = outer) := by
  induction nodes generalizing region with
  | nil => exact .inl ⟨by simp, rfl⟩
  | cons node rest ih =>
    obtain ⟨zone, inner⟩ := node
    have enclosed : Enclosed (⟨zone, inner⟩ :: rest) := nested.enclosed
    have lines := Zone.first_le_last positioned.head
    have apart := nested.last_le_first positioned.ofRest
    by_cases begun : zone.firstLine ≤ line
    next =>
      have passed : zone.lastLine + 1 ≤ line := by
        have := outside ⟨zone, inner⟩ (by simp)
        simp only [Zone.Covers] at this
        omega
      refine .inr ⟨⟨⟨zone, inner⟩, List.mem_cons_self, begun⟩, ?_⟩
      have here : prevailing line region
          (zone.opening ++ records zone.innerContext inner ++ [⟨outer, zone.lastLine + 1⟩]) =
            ⟨outer, zone.lastLine + 1⟩ :=
        prevailing_eq passed (early ⟨zone, inner⟩ List.mem_cons_self)
          (fun other member _ => record_le enclosed positioned other member) (by simp)
      have nestedRest : LooselyNested ([⟨zone, inner⟩] ++ rest) := nested
      have earlyRest : ∀ node ∈ rest,
          (⟨outer, zone.lastLine + 1⟩ : Region).startLine ≤ node.zone.lastLine + 1 := by
        intro node member
        have below := apart node member
        have spans := Zone.first_le_last (positioned.ofRest node (mem_flatten_of_mem member))
        simp only
        omega
      have outsideRest : Outside line rest := fun node member => outside node (by simp [member])
      rw [records_cons, List.append_cons, prevailing_append, here]
      rcases ih nestedRest.ofRight positioned.ofRest outsideRest earlyRest with
        ⟨_, same⟩ | ⟨_, same⟩
      · rw [same]
      · exact same
    next =>
      have below : ∀ node ∈ ⟨zone, inner⟩ :: rest, line + 1 ≤ node.zone.firstLine := by
        intro node member
        rcases List.mem_cons.mp member with rfl | member
        · exact Nat.lt_of_not_le begun
        · have := apart node member
          omega
      refine .inl ⟨below, prevailing_kept fun other member upTo => ?_⟩
      have := le_records enclosed positioned below other member
      omega

theorem stalls_iff {body : Block} {inner : List Outline} (closes : line < body.closeLine) :
    Stalls line first body inner ↔ body.openLine = first ∧
      (body.firstStatementLine?.getD body.closeLine ≤ line →
        body.firstStatementLine?.getD body.closeLine = first) ∧
      ∀ child ∈ inner, line < child.zone.firstLine := by
  cases held : body.firstStatementLine? with
  | none => simp [Stalls, held, Nat.not_le.mpr closes]
  | some statement => simp [Stalls, held]

theorem overtake_pos {best next : Region} (reached : next.startLine ≤ line)
    (later : best.startLine ≤ next.startLine) : best.overtake line next = next :=
  if_pos ⟨reached, later⟩

theorem overtake_neg {best next : Region}
    (passed : next.startLine ≤ line → next.startLine < best.startLine) :
    best.overtake line next = best :=
  if_neg (by omega)

-- Of the regions that a method opens, the one before its first statement or the one from it on.
theorem overtake_statements {statement opens : Nat} (order : opens ≤ statement) :
    (⟨.preStatements, opens⟩ : Region).overtake line ⟨.statements, statement⟩ =
      if line < statement then ⟨.preStatements, opens⟩ else ⟨.statements, statement⟩ := by
  by_cases early : line < statement
  next => rw [if_pos early, overtake_neg fun reached => absurd early (Nat.not_lt.mpr reached)]
  next => rw [if_neg early, overtake_pos (Nat.le_of_not_lt early) order]

theorem statements_after {body : Block} (positioned : (Zone.method first body).Positioned) :
    first ≤ body.openLine ∧ body.openLine ≤ body.firstStatementLine?.getD body.closeLine := by
  refine ⟨positioned.2.1, ?_⟩
  cases held : body.firstStatementLine? with
  | none => exact positioned.2.2.1
  | some statement => exact (positioned.2.2.2 statement held).1

-- Where a context came back, the method takes over with what it opens below its first line.
theorem overtake_returned {context : Context} {opens statement : Nat} (order : opens ≤ statement)
    (starts : first ≤ opens) (opened : opens < line) :
    (((⟨context, first + 1⟩ : Region).overtake line ⟨.signature, first⟩).overtake line
        ⟨.preStatements, opens⟩).overtake line ⟨.statements, statement⟩ =
      if opens = first ∧ (statement ≤ line → statement = first) then ⟨context, first + 1⟩
      else if line < statement then ⟨.preStatements, opens⟩ else ⟨.statements, statement⟩ := by
  have signature : (⟨context, first + 1⟩ : Region).overtake line ⟨.signature, first⟩ =
      ⟨context, first + 1⟩ := overtake_neg fun _ => Nat.lt_succ_self first
  rw [signature]
  by_cases here : opens = first
  next =>
    have below : opens < first + 1 := by omega
    have prologue : (⟨context, first + 1⟩ : Region).overtake line ⟨.preStatements, opens⟩ =
        ⟨context, first + 1⟩ := overtake_neg fun _ => below
    rw [prologue]
    by_cases begun : statement ≤ line → statement = first
    · have stalled : (⟨context, first + 1⟩ : Region).overtake line ⟨.statements, statement⟩ =
          ⟨context, first + 1⟩ :=
        overtake_neg fun reached => (begun reached).symm ▸ Nat.lt_succ_self first
      rw [stalled, if_pos ⟨here, begun⟩]
    · obtain ⟨reached, other⟩ := Classical.not_imp.mp begun
      have later : first + 1 ≤ statement := by omega
      have started : (⟨context, first + 1⟩ : Region).overtake line ⟨.statements, statement⟩ =
          ⟨.statements, statement⟩ := overtake_pos reached later
      rw [started, if_neg fun stalls => begun stalls.2, if_neg (Nat.not_lt.mpr reached)]
  next =>
    have later : first + 1 ≤ opens := by omega
    have prologue : (⟨context, first + 1⟩ : Region).overtake line ⟨.preStatements, opens⟩ =
        ⟨.preStatements, opens⟩ := overtake_pos (Nat.le_of_lt opened) later
    have moves : ¬ (opens = first ∧ (statement ≤ line → statement = first)) := fun stalls =>
      here stalls.1
    rw [prologue, overtake_statements order, if_neg moves]

theorem prevailing_opening {body : Block} (positioned : (Zone.method first body).Positioned)
    (opened : body.openLine < line) (closes : line < body.closeLine)
    (returned : Returned first back region) :
    prevailing line region (Zone.method first body).opening =
      if Stalls line first body [] ∧ back ≠ none then region
      else if line < body.firstStatementLine?.getD body.closeLine then
        ⟨.preStatements, body.openLine⟩
      else ⟨.statements, body.firstStatementLine?.getD body.closeLine⟩ := by
  have order := statements_after positioned
  simp only [stalls_iff closes, Zone.opening, prevailing_cons]
  generalize body.firstStatementLine?.getD body.closeLine = statement at order ⊢
  change ((region.overtake line _).overtake line _).overtake line _ = _
  cases back with
  | none =>
    have low : region.startLine ≤ first := returned
    have reached : first ≤ line := by omega
    have signature : region.overtake line ⟨.signature, first⟩ = ⟨.signature, first⟩ :=
      overtake_pos reached low
    have prologue : (⟨.signature, first⟩ : Region).overtake line ⟨.preStatements, body.openLine⟩ =
        ⟨.preStatements, body.openLine⟩ := overtake_pos (Nat.le_of_lt opened) order.1
    rw [signature, prologue, overtake_statements order.2]
    simp
  | some context =>
    cases returned
    rw [overtake_returned order.2 order.1 opened]
    simp

theorem prevailing_body {body : Block} {inner rest : List Outline}
    (nested : LooselyNested (⟨.method first body, inner⟩ :: rest))
    (positioned : Positioned (⟨.method first body, inner⟩ :: rest))
    (opened : body.openLine < line) (closes : line < body.closeLine)
    (outside : Outside line inner) (returned : Returned first back region) :
    (prevailing line region
        ((Zone.method first body).opening ++ records .statements inner)).context =
      (if Stalls line first body inner then back else none).getD
        ((Zone.method first body).contextAt line) := by
  have enclosed : Enclosed (⟨.method first body, inner⟩ :: rest) := nested.enclosed
  have early : ∀ child ∈ inner,
      (prevailing line region (Zone.method first body).opening).startLine ≤
        child.zone.lastLine + 1 := by
    intro child member
    have stands := enclosed.standsIn child member
    have starts : first ≤ child.zone.firstLine := (Zone.standsIn_lines positioned.head stands).1
    have spans := Zone.first_le_last (positioned.ofInner child (mem_flatten_of_mem member))
    have low := returned.startLine_le
    refine prevailing_le (by omega) fun other held _ => ?_
    have := Zone.opening_le_inner positioned.head stands other held
    omega
  rw [prevailing_append]
  have nestedInner := nested.ofInner List.mem_cons_self
  rcases prevailing_between nestedInner positioned.ofInner outside early with
    ⟨later, same⟩ | ⟨⟨child, member, begun⟩, same⟩
  next =>
    have alike : Stalls line first body inner ↔ Stalls line first body [] := by
      simp only [Stalls]
      grind
    rw [same, prevailing_opening positioned.head opened closes returned,
      Zone.contextAt_opened opened]
    simp only [alike]
    cases back with
    | none => by_cases early : line < body.firstStatementLine?.getD body.closeLine <;> simp [early]
    | some context =>
      cases returned
      by_cases early : line < body.firstStatementLine?.getD body.closeLine <;>
        by_cases stalls : Stalls line first body [] <;> simp [early, stalls]
  next =>
    have moves : ¬ Stalls line first body inner := fun stalls =>
      absurd begun (Nat.not_le.mpr (stalls.2.2 child member))
    rw [same, if_neg moves]
    exact (Zone.contextAt_inner positioned.head (enclosed.standsIn child member) begun).symm

end Body

end Outline

namespace RegionMap

variable {unit : CompilationUnit} {map : RegionMap} {line first : Nat} {body : Block}
  {inner : List Outline} {levels : List Outline.Level}

theorem regionAt_body (accepted : classify unit = .ok map)
    (nested : Outline.LooselyNested unit.outline)
    (leads : Outline.Leads .package unit.outline levels ⟨.method first body, inner⟩)
    (opened : body.openLine < line) (closes : line < body.closeLine)
    (outside : Outline.Outside line inner) :
    ∃ region, map.regionAt line = .ok region ∧
      region.context =
        (if Outline.Stalls line first body inner then Outline.returnedAt first levels
          else none).getD ((Zone.method first body).contextAt line) := by
  have positioned := (classify_records accepted).2
  obtain ⟨nestedHere, positionedHere⟩ := leads.alone nested positioned
  have starts : first ≤ body.openLine := positionedHere.head.2.1
  have reached : first < line := by omega
  obtain ⟨front, later, split, below, carried⟩ := leads.records nested positioned reached closes
  refine ⟨_, regionAt_records accepted (by omega), ?_⟩
  -- Before anything is recorded the package prevails from line one on.
  have start : Outline.Returned first none ⟨.package, 1⟩ := Zone.one_le_first positionedHere.head
  rw [split, prevailing_append, prevailing_kept fun other member upTo =>
    absurd upTo (Nat.not_le.mpr (below other member)), prevailing_append]
  exact Outline.prevailing_body nestedHere positionedHere opened closes outside
    (carried none _ start)

theorem regionAt_isBody_iff (accepted : classify unit = .ok map)
    (nested : Outline.LooselyNested unit.outline)
    (occurs : ⟨.method first body, inner⟩ ∈ Outline.flatten unit.outline)
    (opened : body.openLine < line) (closes : line < body.closeLine)
    (outside : Outline.Outside line inner) :
    (∃ levels, Outline.Leads .package unit.outline levels ⟨.method first body, inner⟩) ∧
      ∀ levels, Outline.Leads .package unit.outline levels ⟨.method first body, inner⟩ →
        ∃ region, map.regionAt line = .ok region ∧
          (region.context.IsBody ↔
            ¬ (Outline.Stalls line first body inner ∧
              ∃ context ∈ Outline.returnedAt first levels, ¬ context.IsBody)) := by
  refine ⟨Outline.exists_leads .package occurs, fun levels leads => ?_⟩
  obtain ⟨region, found, context⟩ := regionAt_body accepted nested leads opened closes outside
  refine ⟨region, found, ?_⟩
  have own : ((Zone.method first body).contextAt line).IsBody := by
    rw [Zone.contextAt_opened opened]
    split <;> decide
  rw [context]
  by_cases stalls : Outline.Stalls line first body inner
  next => cases returned : Outline.returnedAt first levels <;> simp [stalls, own]
  next => simp [stalls, own]

private def plainMethod (line : Nat) (body : Block) : Member :=
  .method ⟨.method, ⟨"m", line, 0⟩, line, 0, body.closeLine, .none, [], [], [], .nothing, some body⟩

private def oneClass (members : List Member) : CompilationUnit :=
  ⟨[⟨.classType, "A", 1, 0, 6, .none, [], none, members⟩], [], 6⟩

-- Two methods that share line 2. The first statement of the second one stands on line 4.
private def neighbours : CompilationUnit :=
  oneClass [plainMethod 2 ⟨2, 2, []⟩, plainMethod 2 ⟨2, 5, [⟨4, 4, .other, []⟩]⟩]

-- The same with the first statement on line 3, so that the body goes on from there.
private def busyNeighbours : CompilationUnit :=
  oneClass [plainMethod 2 ⟨2, 2, []⟩, plainMethod 2 ⟨2, 5, [⟨3, 3, .other, []⟩]⟩]

theorem regionAt_busyNeighbours :
    ∃ map region, classify busyNeighbours = .ok map ∧
      Outline.LooselyNested busyNeighbours.outline ∧ 2 < 3 ∧ 3 < 5 ∧
      map.regionAt 3 = .ok region ∧ region.context.IsBody := by
  have nested : Outline.LooselyNested busyNeighbours.outline := by decide
  obtain ⟨⟨levels, leads⟩, inBody⟩ := regionAt_isBody_iff rfl nested
    (show ⟨.method 2 ⟨2, 5, [⟨3, 3, .other, []⟩]⟩, []⟩ ∈ Outline.flatten busyNeighbours.outline from
      List.mem_cons_of_mem _ (List.mem_cons_of_mem _ List.mem_cons_self))
    (show 2 < 3 by decide) (show 3 < 5 by decide) nofun
  obtain ⟨region, found, isBody⟩ := inBody levels leads
  exact ⟨_, region, rfl, nested, by decide, by decide, found, isBody.mpr fun stalled =>
    absurd stalled.1 (by decide)⟩

theorem regionAt_neighbours :
    ∃ map region, classify neighbours = .ok map ∧ Outline.LooselyNested neighbours.outline ∧
      ⟨.method 2 ⟨2, 5, [⟨4, 4, .other, []⟩]⟩, []⟩ ∈ Outline.flatten neighbours.outline ∧
      map.regionAt 3 = .ok region ∧ region.context = .classBody := by
  have nested : Outline.LooselyNested neighbours.outline := by decide
  have leads : Outline.Leads .package neighbours.outline
      [⟨.package, []⟩, ⟨.classBody, [⟨.method 2 ⟨2, 2, []⟩, []⟩]⟩]
      ⟨.method 2 ⟨2, 5, [⟨4, 4, .other, []⟩]⟩, []⟩ :=
    .inside .package [] [] (.here .classBody [⟨.method 2 ⟨2, 2, []⟩, []⟩] _ [])
  obtain ⟨region, found, context⟩ := regionAt_body rfl nested leads (show 2 < 3 by decide)
    (show 3 < 5 by decide) nofun
  refine ⟨_, region, rfl, nested, ?_, found, context⟩
  exact List.mem_cons_of_mem _ (List.mem_cons_of_mem _ List.mem_cons_self)

end RegionMap

end DocAudit
