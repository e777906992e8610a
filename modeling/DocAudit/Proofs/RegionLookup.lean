import DocAudit.Proofs.LineContext

set_option autoImplicit false

namespace DocAudit

namespace RegionMap

def Sorted (regions : List Region) : Prop :=
  regions.Pairwise fun above below => above.startLine ≤ below.startLine

-- The bounds of the search: the line is not above the lower one, and above all from the upper on.
structure Brackets (regions : List Region) (line low high : Nat) : Prop where
  nonempty : low < high
  inside : high ≤ regions.length
  reached : ∀ region ∈ regions[low]?, region.startLine ≤ line
  passed : ∀ index, high ≤ index → ∀ region ∈ regions[index]?, line < region.startLine

theorem Brackets.low_middle {regions : List Region} {line low high : Nat} {region : Region}
    (brackets : Brackets regions line low high) (sorted : Sorted regions) (wide : low + 1 < high)
    (found : regions[(low + high) / 2]? = some region) (above : line < region.startLine) :
    Brackets regions line low ((low + high) / 2) where
  nonempty := by omega
  inside := by
    have := brackets.inside
    omega
  reached := brackets.reached
  passed := by
    intro index from_middle later present
    obtain ⟨inMiddle, rfl⟩ := List.getElem?_eq_some_iff.mp found
    obtain ⟨inLater, rfl⟩ := List.getElem?_eq_some_iff.mp present
    rcases Nat.eq_or_lt_of_le from_middle with rfl | behind
    · exact above
    · exact Nat.lt_of_lt_of_le above
        (List.pairwise_iff_getElem.mp sorted _ _ inMiddle inLater behind)

theorem Brackets.middle_high {regions : List Region} {line low high : Nat} {region : Region}
    (brackets : Brackets regions line low high) (wide : low + 1 < high)
    (found : regions[(low + high) / 2]? = some region) (below : ¬ line < region.startLine) :
    Brackets regions line ((low + high) / 2) high where
  nonempty := by omega
  inside := brackets.inside
  reached := by
    intro other present
    cases found.symm.trans present
    omega
  passed := brackets.passed

theorem search_brackets {regions : List Region} {line low high : Nat} (sorted : Sorted regions)
    (brackets : Brackets regions line low high) :
    Brackets regions line (search regions line low high)
      (search regions line low high + 1) := by
  fun_induction search regions line low high with
  | case1 low high wide middle missing =>
    have inside := brackets.inside
    have outside : regions.length ≤ middle := List.getElem?_eq_none_iff.mp missing
    omega
  | case2 low high wide middle region found above ih =>
    exact ih (brackets.low_middle sorted wide found above)
  | case3 low high wide middle region found below ih =>
    exact ih (brackets.middle_high wide found below)
  | case4 low high narrow =>
    have single : high = low + 1 := by
      have := brackets.nonempty
      omega
    exact single ▸ brackets

theorem regionAt_last {first : Region} {rest : List Region} {line : Nat}
    (sorted : Sorted (first :: rest)) (positive : 1 ≤ line) (reached : first.startLine ≤ line) :
    ∃ before region after, first :: rest = before ++ region :: after ∧
      region.startLine ≤ line ∧ (∀ later ∈ after, line < later.startLine) ∧
      regionAt ⟨first :: rest⟩ line = .ok region := by
  have start : Brackets (first :: rest) line 0 (first :: rest).length :=
    { nonempty := by simp
      inside := Nat.le_refl _
      reached := by simpa using reached
      passed := by
        intro index outside region present
        rw [List.getElem?_eq_none outside] at present
        cases present }
  have final := search_brackets sorted start
  generalize found : search (first :: rest) line 0 (first :: rest).length = index at final
  have inside : index < (first :: rest).length := final.inside
  refine ⟨(first :: rest).take index, (first :: rest)[index], (first :: rest).drop (index + 1),
    ?_, ?_, ?_, ?_⟩
  next => rw [List.getElem_cons_drop, List.take_append_drop]
  next => exact final.reached _ (by simp)
  next =>
    intro later member
    obtain ⟨offset, bound, rfl⟩ := List.mem_iff_getElem.mp member
    rw [List.getElem_drop]
    exact final.passed (index + 1 + offset) (by omega) _ (by simp)
  next =>
    have nonzero : line ≠ 0 := by omega
    simp only [regionAt, if_neg nonzero, found, List.getElem?_eq_getElem inside]

variable {unit : CompilationUnit} {map : RegionMap}

theorem classify_records (accepted : classify unit = .ok map) :
    map = ofWalk (RegionWalk.start.recordAll (Outline.records .package unit.outline)) ∧
      Outline.Positioned unit.outline := by
  unfold classify at accepted
  split at accepted
  next => cases accepted
  next walk visited =>
    obtain ⟨rfl, positioned⟩ :=
      RegionWalk.records_visits.ofTypes unit.types .start walk .package [] rfl visited
    exact ⟨(Except.ok.inj accepted).symm, positioned⟩

theorem start_records_sorted {nodes : List Outline} (nested : Outline.WellNested nodes)
    (positioned : Outline.Positioned nodes) :
    Sorted (⟨.package, 1⟩ :: Outline.records .package nodes) := by
  refine List.pairwise_cons.mpr ⟨?_, Outline.records_sorted nested positioned⟩
  refine Outline.le_records nested.enclosed positioned fun node member => ?_
  exact Zone.one_le_first (positioned node (Outline.mem_flatten_of_mem member))

-- Well nested, so already in the order of lines: the sort leaves the recorded regions alone.
theorem classify_regions (accepted : classify unit = .ok map)
    (nested : Outline.WellNested unit.outline) :
    map = ⟨⟨.package, 1⟩ :: Outline.records .package unit.outline⟩ := by
  obtain ⟨rfl, positioned⟩ := classify_records accepted
  have sorted := start_records_sorted nested positioned
  simp only [ofWalk, RegionMap.mk.injEq]
  exact List.mergeSort_of_pairwise (sorted.imp decide_eq_true)

theorem regionAt_innermost (accepted : classify unit = .ok map)
    (nested : Outline.WellNested unit.outline) {line : Nat} (positive : 1 ≤ line) :
    ∃ region, map.regionAt line = .ok region ∧
      (Outline.Outside line unit.outline → region.context = .package) ∧
      (∀ node, Outline.Innermost line unit.outline node →
        region.context = node.zone.contextAt line) ∧
      (Outline.Outside line unit.outline ∨ ∃ node, Outline.Innermost line unit.outline node) := by
  have positioned := (classify_records accepted).2
  obtain rfl := classify_regions accepted nested
  obtain ⟨before, region, after, split, reached, below, found⟩ :=
    regionAt_last (start_records_sorted nested positioned) positive positive
  have last (start : Context) :
      contextAfter line start (⟨.package, 1⟩ :: Outline.records .package unit.outline) =
        region.context := by
    rw [split, contextAfter_append]
    have unchanged := contextAfter_below region.context below
    simpa [contextAfter, reached] using unchanged
  have recorded :
      contextAfter line .package (Outline.records .package unit.outline) = region.context := by
    simpa [contextAfter] using last .package
  refine ⟨region, found, fun outside => ?_, fun node innermost => ?_,
    Outline.outside_or_innermost line unit.outline⟩
  · rw [← recorded]
    exact Outline.contextAfter_outside nested positioned outside
  · rw [← recorded]
    exact Outline.contextAfter_innermost nested positioned innermost .package

private def sampleMethod (line : Nat) (body : Block) : Member :=
  .method ⟨.method, ⟨"m", line, 0⟩, line, 0, body.closeLine, .none, [], [], [], .nothing, some body⟩

private def sampleType (kind : TypeKind) (line endLine : Nat) (members : List Member) : TypeDecl :=
  ⟨kind, "A", line, 0, endLine, .none, [], none, members⟩

-- A method whose second statement holds an anonymous body with a method on lines 6 to 8, and
-- below it a static initializer.
private def nestedSample : CompilationUnit where
  types :=
    [sampleType .classType 1 14
      [sampleMethod 2 ⟨3, 10,
        [⟨4, 4, .other, []⟩,
          ⟨5, 9, .other, [sampleType .anonymousBody 5 9
            [sampleMethod 6 ⟨6, 8, [⟨7, 7, .other, []⟩]⟩]]⟩]⟩,
        .staticInit 11 ⟨11, 13, [⟨12, 12, .other, []⟩]⟩]]
  comments := []
  lineCount := 14

theorem regionAt_nestedSample :
    ∃ map region, classify nestedSample = .ok map ∧ Outline.WellNested nestedSample.outline ∧
      1 ≤ 9 ∧ map.regionAt 9 = .ok region ∧ region.context = .statements := by
  have nested : Outline.WellNested nestedSample.outline := by decide
  obtain ⟨region, found, _, inside, _⟩ := regionAt_innermost rfl nested (show 1 ≤ 9 by decide)
  refine ⟨_, region, rfl, nested, by decide, found, ?_⟩
  exact inside _ ⟨List.mem_cons_of_mem _ (List.mem_cons_self ..), by decide, by decide⟩

end RegionMap

end DocAudit
