import DocAudit.Proofs.PrevailingRegion

set_option autoImplicit false

namespace DocAudit

theorem Outline.one_le_records (outer : Context) {nodes : List Outline}
    (positioned : Positioned nodes) : ∀ region ∈ records outer nodes, 1 ≤ region.startLine := by
  induction nodes using forest_induction generalizing outer with
  | nil => simp
  | cons zone inner rest inInner inRest =>
    intro region member
    simp only [records_cons, List.mem_append, List.mem_cons, or_assoc] at member
    rcases member with opened | held | rfl | later
    · exact Nat.le_trans (Zone.one_le_first positioned.head)
        (Zone.first_le_opening positioned.head region opened)
    · exact inInner zone.innerContext positioned.ofInner region held
    · exact Nat.succ_pos _
    · exact inRest outer positioned.ofRest region later

namespace RegionMap

def lastUpTo (regions : List Region) (line : Nat) : Option Region :=
  (regions.filter (·.startLine ≤ line)).getLast?

section Search

variable {regions before after : List Region} {region : Region} {line : Nat}

theorem lastUpTo_split (reached : region.startLine ≤ line)
    (below : ∀ later ∈ after, line < later.startLine) :
    lastUpTo (before ++ region :: after) line = some region := by
  have none : after.filter (·.startLine ≤ line) = [] :=
    List.filter_eq_nil_iff.mpr fun later member => by simpa using below later member
  simp [lastUpTo, reached, none]

theorem exists_lastUpTo {first : Region} {rest : List Region}
    (sorted : Sorted (first :: rest)) (positive : 1 ≤ line) (reached : first.startLine ≤ line) :
    ∃ region, lastUpTo (first :: rest) line = some region ∧
      regionAt ⟨first :: rest⟩ line = .ok region := by
  obtain ⟨before, region, after, split, upTo, below, found⟩ :=
    regionAt_last sorted positive reached
  exact ⟨region, split ▸ lastUpTo_split upTo below, found⟩

-- Nothing is at or above the line unless the first region of a sorted list is.
theorem regionAt_of_lastUpTo (sorted : Sorted regions) (positive : 1 ≤ line)
    (last : lastUpTo regions line = some region) : regionAt ⟨regions⟩ line = .ok region := by
  cases regions with
  | nil => cases last
  | cons first rest =>
    obtain ⟨member, upTo⟩ := List.mem_filter.mp (List.mem_of_getLast? last)
    have reached : first.startLine ≤ line := by
      rcases List.mem_cons.mp member with rfl | later
      · exact of_decide_eq_true upTo
      · exact Nat.le_trans ((List.pairwise_cons.mp sorted).1 region later)
          (of_decide_eq_true upTo)
    obtain ⟨found, alsoLast, looked⟩ := exists_lastUpTo sorted positive reached
    cases last.symm.trans alsoLast
    exact looked

-- A stable sort moves nothing in front of the first entry that does not come before it.
theorem sortedByLine_first {first : Region}
    (least : ∀ region ∈ regions, first.startLine ≤ region.startLine) :
    ∃ rest, sortedByLine (first :: regions) = first :: rest := by
  obtain ⟨ahead, behind, whole, others, before⟩ :=
    List.mergeSort_cons startLine_trans startLine_total first regions
  have none : ahead = [] := by
    refine List.eq_nil_iff_forall_not_mem.mpr fun region member => ?_
    have listed : region ∈ regions :=
      (List.mergeSort_perm ..).mem_iff.mp (others ▸ List.mem_append_left behind member)
    simpa [least region listed] using before region member
  exact ⟨behind, by rw [sortedByLine, whole, none, List.nil_append]⟩

end Search

variable {unit : CompilationUnit} {map : RegionMap}

theorem classify_walk (accepted : classify unit = .ok map) :
    ∃ walk, RegionWalk.start.visitTypes unit.types = .ok walk ∧
      map.regions = sortedByLine walk.regions := by
  unfold classify at accepted
  split at accepted
  next => cases accepted
  next walk visited =>
    cases accepted
    exact ⟨walk, visited, rfl⟩

theorem classify_first (accepted : classify unit = .ok map) :
    ∃ rest, map.regions = ⟨.package, 1⟩ :: rest := by
  obtain ⟨rfl, positioned⟩ := classify_records accepted
  exact sortedByLine_first (Outline.one_le_records .package positioned)

theorem classify_ordered (accepted : classify unit = .ok map) :
    Sorted map.regions ∧ map.regions.head? = some ⟨.package, 1⟩ ∧
      (∃ walk, RegionWalk.start.visitTypes unit.types = .ok walk ∧
        map.regions.Perm walk.regions ∧ ∀ line, map.regions.filter (·.startLine = line) =
          walk.regions.filter (·.startLine = line)) ∧
      (∀ line, 1 ≤ line → ∃ region, lastUpTo map.regions line = some region ∧
        map.regionAt line = .ok region) ∧
      (∀ regions line region, Sorted regions → 1 ≤ line →
        lastUpTo regions line = some region → regionAt ⟨regions⟩ line = .ok region) ∧
      map.regionAt 0 = .error .lookupAtLineZero ∧
      ∀ line named, map.regionAt line ≠ .error (.noRegions named) := by
  obtain ⟨walk, visited, listed⟩ := classify_walk accepted
  obtain ⟨rest, first⟩ := classify_first accepted
  have sorted : Sorted map.regions := listed ▸ sortedByLine_sorted walk.regions
  have found (line : Nat) (positive : 1 ≤ line) : ∃ region,
      lastUpTo map.regions line = some region ∧ map.regionAt line = .ok region := by
    obtain ⟨regions⟩ := map
    cases first
    exact exists_lastUpTo sorted positive positive
  refine ⟨sorted, by rw [first, List.head?_cons], ⟨walk, visited, ?_, ?_⟩, found,
    fun regions line region => regionAt_of_lastUpTo, rfl, fun line named refused => ?_⟩
  · exact listed ▸ List.mergeSort_perm ..
  · exact listed ▸ sortedByLine_filter walk.regions
  · cases line with
    | zero => cases refused
    | succ line =>
      obtain ⟨region, _, looked⟩ := found (line + 1) (Nat.succ_pos line)
      cases looked.symm.trans refused

private def crowdedMethod (body : Block) : Member :=
  .method ⟨.method, ⟨"m", 2, 9⟩, 2, 4, body.closeLine, .none, [], [], [], .nothing, some body⟩

-- Two methods that begin on one line: the class is restored below it ahead of the second one.
private def crowded : CompilationUnit :=
  ⟨[⟨.classType, "A", 1, 0, 4, .none, [], none,
    [crowdedMethod ⟨2, 2, []⟩, crowdedMethod ⟨2, 3, [⟨3, 3, .other, []⟩]⟩]⟩], [], 4⟩

theorem classify_ordered_crowded :
    ∃ map, classify crowded = .ok map ∧ map.regions.head? = some ⟨.package, 1⟩ ∧
      map.regionAt 2 = .ok ⟨.preStatements, 2⟩ ∧ map.regionAt 3 = .ok ⟨.statements, 3⟩ := by
  have accepted : ∃ map, classify crowded = .ok map := ⟨_, rfl⟩
  obtain ⟨map, accepted⟩ := accepted
  obtain ⟨sorted, first, _, _, search, _⟩ := classify_ordered accepted
  have regions : map.regions = [⟨.package, 1⟩, ⟨.classBody, 1⟩, ⟨.signature, 2⟩,
      ⟨.preStatements, 2⟩, ⟨.statements, 2⟩, ⟨.signature, 2⟩, ⟨.preStatements, 2⟩,
      ⟨.classBody, 3⟩, ⟨.statements, 3⟩, ⟨.classBody, 4⟩, ⟨.package, 5⟩] := by
    cases accepted
    simp [ofWalk, RegionWalk.start, RegionWalk.record, RegionWalk.enter,
      Block.firstStatementLine?, List.mergeSort, List.MergeSort.Internal.splitInTwo]
  refine ⟨map, accepted, first, ?_, ?_⟩
  · exact search map.regions 2 _ sorted (by decide) (by rw [regions]; decide)
  · exact search map.regions 3 _ sorted (by decide) (by rw [regions]; decide)

end RegionMap

end DocAudit
