import DocAudit.Proofs.RegionRecords

set_option autoImplicit false

namespace DocAudit

namespace Zone

theorem opening_in_order {zone : Zone} (positioned : zone.Positioned) :
    (zone.firstLine :: (zone.opening.map (·.startLine) ++ [zone.lastLine])).Pairwise (· ≤ ·) := by
  cases zone with
  | type line endLine => simpa [opening, firstLine, lastLine] using positioned.2
  | method line body | staticInit line body =>
    obtain ⟨_, opens, closes, inside⟩ := positioned
    cases first : body.firstStatementLine? with
    | none =>
      simp [opening, firstLine, lastLine, first]
      omega
    | some statement =>
      have lines := inside statement first
      simp [opening, firstLine, lastLine, first]
      omega

theorem opening_sorted {zone : Zone} (positioned : zone.Positioned) :
    zone.opening.Pairwise fun above below => above.startLine ≤ below.startLine := by
  have ordered := (List.pairwise_cons.mp (opening_in_order positioned)).2
  exact List.pairwise_map.mp (List.pairwise_append.mp ordered).1

theorem first_le_opening {zone : Zone} (positioned : zone.Positioned) :
    ∀ region ∈ zone.opening, zone.firstLine ≤ region.startLine := by
  intro region member
  refine (List.pairwise_cons.mp (opening_in_order positioned)).1 _ ?_
  exact List.mem_append_left _ (List.mem_map_of_mem member)

theorem opening_le_last {zone : Zone} (positioned : zone.Positioned) :
    ∀ region ∈ zone.opening, region.startLine ≤ zone.lastLine := by
  intro region member
  have ordered := (List.pairwise_cons.mp (opening_in_order positioned)).2
  exact (List.pairwise_append.mp ordered).2.2 _ (List.mem_map_of_mem member) _ (by simp)

theorem opening_le_inner {zone inner : Zone} (positioned : zone.Positioned)
    (stands : inner.StandsIn zone) :
    ∀ region ∈ zone.opening, region.startLine ≤ inner.firstLine := by
  cases zone with
  | type line endLine => simpa [opening] using stands.1
  | method line body | staticInit line body =>
    obtain ⟨_, opens, closes, inside⟩ := positioned
    obtain ⟨first, present, above, below⟩ := stands
    have lines := inside first present
    simp [opening, Option.mem_def.mp present]
    omega

theorem contextAt_inner {zone inner : Zone} {line : Nat} (positioned : zone.Positioned)
    (stands : inner.StandsIn zone) (reached : inner.firstLine ≤ line) :
    zone.contextAt line = zone.innerContext := by
  cases zone with
  | type first endLine => rfl
  | method first body =>
    obtain ⟨statement, present, above, below⟩ := stands
    have lines := positioned.2.2.2 statement present
    have opened : ¬ line < body.openLine := by omega
    have started : ¬ line < statement := by omega
    simp [contextAt, innerContext, Option.mem_def.mp present, opened, started]
  | staticInit first body =>
    obtain ⟨statement, present, above, below⟩ := stands
    have started : ¬ line < statement := by omega
    simp [contextAt, innerContext, Option.mem_def.mp present, started]

end Zone

-- The context of the last region at or above a line, in the order of recording.
def contextAfter (line : Nat) (start : Context) (regions : List Region) : Context :=
  regions.foldl (fun context region => if region.startLine ≤ line then region.context else context)
    start

theorem contextAfter_append (line : Nat) (start : Context) (first second : List Region) :
    contextAfter line start (first ++ second) =
      contextAfter line (contextAfter line start first) second := by
  simp [contextAfter]

theorem contextAfter_below {line : Nat} (start : Context) {regions : List Region}
    (below : ∀ region ∈ regions, line < region.startLine) :
    contextAfter line start regions = start := by
  induction regions with
  | nil => rfl
  | cons region rest ih =>
    have here : ¬ region.startLine ≤ line := by
      have := below region (by simp)
      omega
    have unchanged := ih fun later member => below later (by simp [member])
    simpa [contextAfter, here] using unchanged

theorem contextAfter_opening {zone : Zone} {line : Nat} (start : Context)
    (positioned : zone.Positioned) (reached : zone.firstLine ≤ line) :
    contextAfter line start zone.opening = zone.contextAt line := by
  cases zone with
  | type first endLine =>
    simp only [Zone.firstLine] at reached
    simp [contextAfter, Zone.opening, Zone.contextAt, reached]
  | method first body =>
    simp only [Zone.firstLine] at reached
    obtain ⟨_, opens, closes, inside⟩ := positioned
    have order : body.openLine ≤ body.firstStatementLine?.getD body.closeLine := by
      cases statement : body.firstStatementLine? with
      | none => exact closes
      | some statementLine => exact (inside statementLine statement).1
    simp only [contextAfter, Zone.opening, Zone.contextAt, List.foldl_cons, List.foldl_nil, reached]
    generalize body.firstStatementLine?.getD body.closeLine = statement at order ⊢
    by_cases opened : line < body.openLine
    next =>
      have above : ¬ body.openLine ≤ line ∧ ¬ statement ≤ line := by omega
      simp [opened, above]
    next =>
      have reached : body.openLine ≤ line := by omega
      by_cases started : line < statement
      · have above : ¬ statement ≤ line := by omega
        simp [opened, reached, started, above]
      · have below : statement ≤ line := by omega
        simp [opened, started, below]
  | staticInit first body =>
    simp only [Zone.firstLine] at reached
    cases statement : body.firstStatementLine? with
    | none => simp [contextAfter, Zone.opening, Zone.contextAt, statement, reached]
    | some statementLine =>
      by_cases started : line < statementLine
      · have early : ¬ statementLine ≤ line := by omega
        simp [contextAfter, Zone.opening, Zone.contextAt, statement, reached, started, early]
      · have late : statementLine ≤ line := by omega
        simp [contextAfter, Zone.opening, Zone.contextAt, statement, started, late]

namespace Outline

variable {nodes : List Outline} {line : Nat} {outer : Context}

theorem le_records {low : Nat} (enclosed : Enclosed nodes) (positioned : Positioned nodes)
    (below : ∀ node ∈ nodes, low ≤ node.zone.firstLine) :
    ∀ region ∈ records outer nodes, low ≤ region.startLine := by
  induction nodes using forest_induction generalizing outer with
  | nil => simp
  | cons zone inner rest inInner inRest =>
    have here : low ≤ zone.firstLine := below ⟨zone, inner⟩ (by simp)
    have lines := Zone.first_le_last positioned.head
    intro region member
    simp only [records_cons, List.mem_append, List.mem_cons] at member
    rcases member with (member | member) | rfl | member
    next => exact Nat.le_trans here (Zone.first_le_opening positioned.head region member)
    next =>
      refine inInner enclosed.ofInner positioned.ofInner (fun child member => ?_) region member
      exact here.trans (Zone.standsIn_lines positioned.head (enclosed.standsIn child member)).1
    next => simp only; omega
    next =>
      exact inRest enclosed.ofRest positioned.ofRest
        (fun later member => below later (by simp [member])) region member

theorem records_le {high : Nat} (positioned : Positioned nodes)
    (above : ∀ node ∈ flatten nodes, node.zone.lastLine ≤ high) :
    ∀ region ∈ records outer nodes, region.startLine ≤ high + 1 := by
  induction nodes using forest_induction generalizing outer with
  | nil => simp
  | cons zone inner rest inInner inRest =>
    rw [flatten_cons, List.forall_mem_cons, List.forall_mem_append] at above
    obtain ⟨here, below, later⟩ := above
    rw [records_cons, List.forall_mem_append, List.forall_mem_append, List.forall_mem_cons]
    refine ⟨⟨fun region opens => ?_, inInner positioned.ofInner below⟩, Nat.succ_le_succ here,
      inRest positioned.ofRest later⟩
    exact (Zone.opening_le_last positioned.head region opens).trans (Nat.le_succ_of_le here)

theorem records_sorted (nested : WellNested nodes) (positioned : Positioned nodes) :
    (records outer nodes).Pairwise fun above below => above.startLine ≤ below.startLine := by
  induction nodes using forest_induction generalizing outer with
  | nil => simp
  | cons zone inner rest inInner inRest =>
    -- Four stretches follow one another: the opening, the inner records, the restored context
    -- and the siblings. Each is sorted and ends no later than the next one begins.
    have restBelow : ∀ region ∈ records outer rest, zone.lastLine + 1 ≤ region.startLine :=
      le_records nested.ofRest.enclosed positioned.ofRest (nested.last_lt_first positioned.ofRest)
    have innerAbove : ∀ region ∈ records zone.innerContext inner,
        region.startLine ≤ zone.lastLine + 1 :=
      records_le positioned.ofInner (Enclosed.last_le nested.enclosed positioned)
    have openingAbove := Zone.opening_le_last positioned.head
    rw [records_cons, List.append_assoc]
    refine List.pairwise_append.mpr ⟨Zone.opening_sorted positioned.head, ?_, ?_⟩
    next =>
      refine List.pairwise_append.mpr ⟨inInner nested.ofInner positioned.ofInner, ?_, ?_⟩
      · exact List.pairwise_cons.mpr ⟨restBelow, inRest nested.ofRest positioned.ofRest⟩
      · intro first inFirst second inSecond
        have := innerAbove first inFirst
        rcases List.mem_cons.mp inSecond with rfl | later
        · exact this
        · exact Nat.le_trans this (restBelow second later)
    next =>
      intro first inFirst second inSecond
      have := openingAbove first inFirst
      rcases List.mem_append.mp inSecond with inner | later
      · exact le_records nested.ofInner.enclosed positioned.ofInner (fun child member =>
          Zone.opening_le_inner positioned.head (nested.standsIn child member) first inFirst)
          second inner
      · rcases List.mem_cons.mp later with rfl | later
        · exact Nat.le_succ_of_le this
        · have := restBelow second later
          omega

theorem contextAfter_outside (nested : WellNested nodes) (positioned : Positioned nodes)
    (outside : Outside line nodes) : contextAfter line outer (records outer nodes) = outer := by
  induction nodes using forest_induction with
  | nil => rfl
  | cons zone inner rest _ inRest =>
    have lines := Zone.first_le_last positioned.head
    have apart := outside ⟨zone, inner⟩ (by simp)
    by_cases passed : zone.lastLine < line
    next =>
      -- The restored context is the last word of this zone, whatever was recorded inside it.
      have restored : zone.lastLine + 1 ≤ line := passed
      have outsideRest : Outside line rest := fun node member =>
        outside node (by simp [member])
      have later := inRest nested.ofRest positioned.ofRest outsideRest
      rw [records_cons, contextAfter_append]
      simpa [contextAfter, restored] using later
    next =>
      have above : line < zone.firstLine := by
        simp only [Zone.Covers] at apart
        omega
      refine contextAfter_below outer fun region member => ?_
      refine le_records nested.enclosed positioned (fun node member => ?_) region member
      rcases List.mem_cons.mp member with rfl | later
      · exact above
      · have := nested.last_lt_first positioned.ofRest node later
        omega

theorem contextAfter_innermost {node : Outline} (nested : WellNested nodes)
    (positioned : Positioned nodes) (innermost : Innermost line nodes node) (start : Context) :
    contextAfter line start (records outer nodes) = node.zone.contextAt line := by
  induction nodes using forest_induction generalizing outer start with
  | nil => exact absurd innermost.occurs (by simp)
  | cons zone inner rest inInner inRest =>
    have occurs := innermost.occurs
    simp only [flatten_cons, List.mem_cons, List.mem_append] at occurs
    rw [records_cons, contextAfter_append, contextAfter_append]
    -- While the line lies in this zone, nothing recorded behind the zone counts.
    have behind (start : Context) (covered : line ≤ zone.lastLine) :
        contextAfter line start (⟨outer, zone.lastLine + 1⟩ :: records outer rest) = start := by
      refine contextAfter_below start fun region member => ?_
      rcases List.mem_cons.mp member with rfl | later
      · exact Nat.lt_succ_of_le covered
      · have := le_records nested.ofRest.enclosed positioned.ofRest
          (nested.last_lt_first positioned.ofRest) region later
        omega
    rcases occurs with rfl | occurs | occurs
    next =>
      obtain ⟨reached, covered⟩ := innermost.covers
      rw [contextAfter_opening start positioned.head reached, behind _ covered]
      by_cases some : ∃ child ∈ inner, child.zone.firstLine ≤ line
      next =>
        obtain ⟨child, member, below⟩ := some
        rw [Zone.contextAt_inner positioned.head (nested.standsIn child member) below]
        exact contextAfter_outside nested.ofInner positioned.ofInner innermost.last
      next =>
        refine contextAfter_below _ (le_records nested.ofInner.enclosed positioned.ofInner ?_)
        intro child member
        exact Nat.lt_of_not_le fun below => some ⟨child, member, below⟩
    next =>
      have inside : Innermost line inner node := ⟨occurs, innermost.covers, innermost.last⟩
      have covered : line ≤ zone.lastLine :=
        innermost.covers.2.trans (Enclosed.last_le nested.enclosed positioned node occurs)
      rw [inInner nested.ofInner positioned.ofInner inside, behind _ covered]
    next =>
      have later : Innermost line rest node := ⟨occurs, innermost.covers, innermost.last⟩
      exact inRest nested.ofRest positioned.ofRest later _

end Outline

end DocAudit
