import DocAudit.Proofs.RegionLookup
import DocAudit.Proofs.StableSort

set_option autoImplicit false

namespace DocAudit

-- The region that prevails so far, and one that is recorded behind it.
def Region.overtake (line : Nat) (best next : Region) : Region :=
  if next.startLine ≤ line ∧ best.startLine ≤ next.startLine then next else best

def prevailing (line : Nat) (start : Region) (regions : List Region) : Region :=
  regions.foldl (Region.overtake line) start

section Prevailing

variable {line bound : Nat} {start region : Region} {regions before after : List Region}

theorem prevailing_append (line : Nat) (start : Region) (first second : List Region) :
    prevailing line start (first ++ second) =
      prevailing line (prevailing line start first) second := by
  simp [prevailing]

theorem prevailing_cons (line : Nat) (start next : Region) (rest : List Region) :
    prevailing line start (next :: rest) = prevailing line (start.overtake line next) rest := rfl

theorem prevailing_kept
    (passed : ∀ region ∈ regions, region.startLine ≤ line → region.startLine < start.startLine) :
    prevailing line start regions = start := by
  induction regions with
  | nil => rfl
  | cons next rest ih =>
    obtain ⟨here, later⟩ := List.forall_mem_cons.mp passed
    have kept : start.overtake line next = start := if_neg (by omega)
    rw [prevailing_cons, kept, ih later]

theorem prevailing_le (below : start.startLine ≤ bound)
    (bounded : ∀ region ∈ regions, region.startLine ≤ line → region.startLine ≤ bound) :
    (prevailing line start regions).startLine ≤ bound := by
  induction regions generalizing start with
  | nil => exact below
  | cons next rest ih =>
    obtain ⟨here, later⟩ := List.forall_mem_cons.mp bounded
    refine ih ?_ later
    unfold Region.overtake
    split
    next reached => exact here reached.1
    next => exact below

theorem prevailing_eq (reached : region.startLine ≤ line)
    (below : start.startLine ≤ region.startLine)
    (ahead : ∀ other ∈ before, other.startLine ≤ line → other.startLine ≤ region.startLine)
    (behind : ∀ other ∈ after, other.startLine ≤ line → other.startLine < region.startLine) :
    prevailing line start (before ++ region :: after) = region := by
  have bounded := prevailing_le below ahead
  rw [prevailing_append, prevailing_cons, Region.overtake, if_pos ⟨reached, bounded⟩]
  exact prevailing_kept behind

end Prevailing

namespace RegionMap

variable {regions : List Region} {line : Nat}

def sortedByLine (regions : List Region) : List Region :=
  regions.mergeSort fun a b => a.startLine ≤ b.startLine

theorem startLine_trans (a b c : Region) (first : decide (a.startLine ≤ b.startLine) = true)
    (second : decide (b.startLine ≤ c.startLine) = true) :
    decide (a.startLine ≤ c.startLine) = true := by
  simp only [decide_eq_true_eq] at *
  omega

theorem startLine_total (a b : Region) :
    (decide (a.startLine ≤ b.startLine) || decide (b.startLine ≤ a.startLine)) = true := by
  simp only [Bool.or_eq_true, decide_eq_true_eq]
  omega

theorem sortedByLine_sorted (regions : List Region) : Sorted (sortedByLine regions) :=
  (List.pairwise_mergeSort startLine_trans startLine_total regions).imp of_decide_eq_true

-- Regions of one line keep their order.
theorem sortedByLine_filter (regions : List Region) (start : Nat) :
    (sortedByLine regions).filter (·.startLine = start) =
      regions.filter (·.startLine = start) := by
  refine filter_mergeSort startLine_trans startLine_total (fun a b onLine onSame => ?_) regions
  simp only [decide_eq_true_eq] at onLine onSame ⊢
  omega

theorem le_of_sorted {ordered before after : List Region} {region other : Region}
    (sorted : Sorted ordered) (split : ordered = before ++ region :: after)
    (below : ∀ later ∈ after, line < later.startLine) (member : other ∈ ordered)
    (upTo : other.startLine ≤ line) : other.startLine ≤ region.startLine := by
  subst split
  rcases List.mem_append.mp member with ahead | member
  next => exact (List.pairwise_append.mp sorted).2.2 other ahead region List.mem_cons_self
  next =>
    rcases List.mem_cons.mp member with rfl | behind
    · exact Nat.le_refl _
    · have := below other behind
      omega

-- The last region of a line is the same whether the regions are sorted or as recorded.
theorem last_recorded {ordered before after : List Region} {region : Region}
    (alike : ∀ start, ordered.filter (·.startLine = start) = regions.filter (·.startLine = start))
    (split : ordered = before ++ region :: after)
    (apart : ∀ other ∈ after, other.startLine ≠ region.startLine) :
    ∃ front behind, regions = front ++ region :: behind ∧
      ∀ other ∈ behind, other.startLine ≠ region.startLine := by
  have last := alike region.startLine
  have noneBehind : after.filter (·.startLine = region.startLine) = [] :=
    List.filter_eq_nil_iff.mpr fun other behind => by simpa using apart other behind
  rw [split, List.filter_append, List.filter_cons_of_pos (by simp), noneBehind] at last
  obtain ⟨front, back, whole, _, lastOnLine⟩ := List.filter_eq_append_iff.mp last.symm
  obtain ⟨between, behind, rfl, _, _, clear⟩ := List.filter_eq_cons_iff.mp lastOnLine
  refine ⟨front ++ between, behind, by rw [whole, List.append_assoc], fun other member => ?_⟩
  simpa using List.filter_eq_nil_iff.mp clear other member

theorem regionAt_prevailing (positive : 1 ≤ line) :
    regionAt ⟨sortedByLine (⟨.package, 1⟩ :: regions)⟩ line =
      .ok (prevailing line ⟨.package, 1⟩ regions) := by
  have sorted := sortedByLine_sorted (⟨.package, 1⟩ :: regions)
  have alike := sortedByLine_filter (⟨.package, 1⟩ :: regions)
  have members (region : Region) : region ∈ sortedByLine (⟨.package, 1⟩ :: regions) ↔
      region ∈ (⟨.package, 1⟩ :: regions : List Region) := (List.mergeSort_perm ..).mem_iff
  have recorded := (members ⟨.package, 1⟩).mpr List.mem_cons_self
  generalize sortedByLine (⟨.package, 1⟩ :: regions) = ordered at sorted alike members recorded ⊢
  cases ordered with
  | nil => cases recorded
  | cons first rest =>
    have reached : first.startLine ≤ line := by
      rcases List.mem_cons.mp recorded with same | later
      · exact same ▸ positive
      · exact Nat.le_trans ((List.pairwise_cons.mp sorted).1 _ later) positive
    obtain ⟨before, region, after, split, above, below, found⟩ :=
      regionAt_last sorted positive reached
    have greatest (other : Region) (member : other ∈ (⟨.package, 1⟩ :: regions : List Region))
        (upTo : other.startLine ≤ line) : other.startLine ≤ region.startLine :=
      le_of_sorted sorted split below ((members other).mpr member) upTo
    obtain ⟨front, behind, whole, apart⟩ := last_recorded alike split fun other member same => by
      have := below other member
      omega
    have start : prevailing line ⟨.package, 1⟩ (⟨.package, 1⟩ :: regions) =
        prevailing line ⟨.package, 1⟩ regions := by
      rw [prevailing_cons, Region.overtake, if_pos ⟨positive, Nat.le_refl _⟩]
    rw [found, ← start, whole, prevailing_eq above (greatest _ List.mem_cons_self positive)]
    · intro other ahead upTo
      exact greatest other (whole ▸ List.mem_append_left _ ahead) upTo
    · intro other member upTo
      have bounded := greatest other (whole ▸ by simp [member]) upTo
      exact Nat.lt_of_le_of_ne bounded (apart other member)

theorem regionAt_records {unit : CompilationUnit} {map : RegionMap}
    (accepted : classify unit = .ok map) (positive : 1 ≤ line) :
    map.regionAt line =
      .ok (prevailing line ⟨.package, 1⟩ (Outline.records .package unit.outline)) := by
  obtain ⟨rfl, _⟩ := classify_records accepted
  exact regionAt_prevailing positive

end RegionMap

end DocAudit
