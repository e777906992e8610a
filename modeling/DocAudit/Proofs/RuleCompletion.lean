import DocAudit.FileCheck
import DocAudit.Java.Grammar
import DocAudit.Proofs.DeclarationPlaces
import DocAudit.Proofs.RegionLookup

set_option autoImplicit false

namespace DocAudit

namespace RegionMap

variable {regions : List Region} {line : Nat}

-- The halving stays inside the list whether or not the regions are sorted.
theorem search_lt {low high : Nat} (bounds : low < high) (inside : high ≤ regions.length) :
    search regions line low high < regions.length := by
  fun_induction search regions line low high with
  | case1 low high wide middle missing => omega
  | case2 low high wide middle region found above ih => exact ih (by omega) (by omega)
  | case3 low high wide middle region found below ih => exact ih (by omega) inside
  | case4 low high narrow => omega

theorem regionAt_ok (recorded : regions ≠ []) (positive : 1 ≤ line) :
    ∃ region, regionAt ⟨regions⟩ line = .ok region := by
  have found : search regions line 0 regions.length < regions.length :=
    search_lt (List.length_pos_iff.mpr recorded) (Nat.le_refl _)
  have nonzero : line ≠ 0 := by omega
  exact ⟨regions[search regions line 0 regions.length], by
    simp only [regionAt, if_neg nonzero, List.getElem?_eq_getElem found]⟩

theorem classify_ne_nil {unit : CompilationUnit} {map : RegionMap}
    (classified : classify unit = .ok map) : map.regions ≠ [] := by
  obtain ⟨rfl, _⟩ := classify_records classified
  apply List.ne_nil_of_length_pos
  simp [ofWalk, RegionWalk.recordAll, RegionWalk.start]

end RegionMap

namespace AllowList

variable {map : RegionMap}

theorem check_ok (recorded : map.regions ≠ []) (allowed : AllowList) {comments : List Comment}
    (placed : ∀ comment ∈ comments, 1 ≤ comment.startLine) :
    ∃ findings, check map allowed comments = .ok findings := by
  induction comments with
  | nil => exact ⟨[], rfl⟩
  | cons comment rest ih =>
    obtain ⟨here, below⟩ := List.forall_mem_cons.mp placed
    obtain ⟨region, found⟩ := RegionMap.regionAt_ok recorded here
    obtain ⟨findings, checked⟩ := ih below
    unfold check
    rw [found, checked]
    dsimp only
    split
    next => exact ⟨_, rfl⟩
    next => exact ⟨_, rfl⟩

theorem validate_ok (recorded : map.regions ≠ []) {unit : CompilationUnit}
    (placed : ∀ comment ∈ unit.comments, 1 ≤ comment.startLine) (block line : AllowList) :
    ∃ findings, validate map unit block line = .ok findings := by
  have ofStyle (style : CommentStyle) :
      ∀ comment ∈ unit.commentsOf style, 1 ≤ comment.startLine :=
    fun comment member => placed comment (List.mem_of_mem_filter member)
  obtain ⟨blockFindings, blockChecked⟩ := check_ok recorded block (ofStyle .block)
  obtain ⟨lineFindings, lineChecked⟩ := check_ok recorded line (ofStyle .line)
  exact ⟨blockFindings ++ lineFindings, by rw [validate, blockChecked, lineChecked]⟩

end AllowList

theorem Rule.check_ok {unit : CompilationUnit} {map : RegionMap}
    (classified : RegionMap.classify unit = .ok map)
    (placed : ∀ comment ∈ unit.comments, 1 ≤ comment.startLine) (rule : Rule) (file : SourceFile) :
    ∃ findings, rule.check file unit = .ok findings := by
  cases rule with
  | commentPlacement rule =>
    obtain ⟨findings, validated⟩ := AllowList.validate_ok (RegionMap.classify_ne_nil classified)
      placed rule.block rule.line
    refine ⟨findings.map fun finding => rule.reporter.finding file finding.note, ?_⟩
    simp only [Rule.check, CommentPlacement.check, classified, validated, bind, Except.bind, pure,
      Except.pure]
  | methodDoc rule | typeDoc rule => exact ⟨_, rfl⟩

namespace Settings

variable {file : SourceFile} {unit : CompilationUnit} (settings : Settings)

theorem runRule_aborts {rule : Check} (completes : ∃ findings, rule.check file unit = .ok findings)
    (outcome : FileOutcome) :
    (settings.runRule file unit outcome rule).aborts = outcome.aborts := by
  obtain ⟨findings, checked⟩ := completes
  unfold runRule
  split
  next => rfl
  next => rw [checked]

theorem runRules_aborts {rules : List Check}
    (complete : ∀ rule ∈ rules, ∃ findings, rule.check file unit = .ok findings) :
    (settings.runRules rules file unit).aborts = [] := by
  have kept (outcome : FileOutcome) :
      (rules.foldl (settings.runRule file unit) outcome).aborts = outcome.aborts := by
    induction rules generalizing outcome with
    | nil => rfl
    | cons rule rest ih =>
      obtain ⟨here, later⟩ := List.forall_mem_cons.mp complete
      rw [List.foldl_cons, ih later, runRule_aborts settings here]
  exact kept .empty

end Settings

namespace CompilationUnit

theorem ofJava?_completes [Java.Parser] {text : List Char} {tree : Java.Node}
    {unit : CompilationUnit} (parsed : Java.Parser.parse? text = some tree) (nested : tree.Nested)
    (accepted : ofJava? text = some unit) :
    (∃ map, RegionMap.classify unit = .ok map ∧
      ∀ block line, ∃ findings, AllowList.validate map unit block line = .ok findings) ∧
    (∀ comment ∈ unit.comments, 1 ≤ comment.startLine) ∧
    ∀ (settings : Settings) (rules : List Rule) (file : SourceFile),
      (∀ rule ∈ rules, ∃ findings, rule.check file unit = .ok findings) ∧
      (settings.runRules rules file unit).isAborted = false ∧
      (settings.runRules rules file unit).report.filesAborted = 0 := by
  have made := ofJava?_eq parsed accepted
  have positioned : Site.AllPositioned unit.sites := made ▸ ofTree_positioned text nested
  have comments : ∀ comment ∈ unit.comments, 1 ≤ comment.startLine :=
    made ▸ one_le_startLine text tree
  obtain ⟨map, classified⟩ := RegionMap.classify_ok positioned
  refine ⟨⟨map, classified, ?_⟩, comments, fun settings rules file => ?_⟩
  · exact AllowList.validate_ok (RegionMap.classify_ne_nil classified) comments
  · have complete : ∀ rule ∈ rules, ∃ findings, rule.check file unit = .ok findings :=
      fun rule _ => rule.check_ok classified comments file
    have unaborted : (settings.runRules rules file unit).isAborted = false := by
      have checks : ∀ check ∈ rules.map Rule.asCheck,
          ∃ findings, check.check file unit = .ok findings :=
        List.forall_mem_map.mpr complete
      simp [FileOutcome.isAborted, settings.runRules_aborts checks]
    exact ⟨complete, unaborted, by simp [FileOutcome.report, unaborted]⟩

-- A static initializer with an anonymous body in it, and a comment behind.
private def initializerSource : List Char :=
  "class A \x7b\n static \x7b f(new B() \x7b void g(); \x7d);\n \x7d // c\n\x7d".toList

theorem ofJava?_completes_initializer :
    ∃ tree unit, Java.Parser.parse? initializerSource = some tree ∧ tree.Nested ∧
      ofJava? initializerSource = some unit ∧
      (∃ map, RegionMap.classify unit = .ok map) ∧
      (Settings.empty.runRules
        ([.commentPlacement .standard, .methodDoc .standard, .typeDoc .standard] : List Rule)
        ⟨.ofString "A.java", initializerSource⟩ unit).isAborted = false := by
  have reads : ((Java.Parser.parse? initializerSource).map fun tree =>
      (decide tree.Nested, (ofJava? initializerSource).isSome)) = some (true, true) := by
    decide +kernel
  obtain ⟨tree, parsed, read⟩ := Option.map_eq_some_iff.mp reads
  obtain ⟨isNested, isRead⟩ := Prod.mk.inj read
  have nested := of_decide_eq_true isNested
  obtain ⟨unit, accepted⟩ := Option.isSome_iff_exists.mp isRead
  obtain ⟨⟨map, classified, _⟩, _, complete⟩ := ofJava?_completes parsed nested accepted
  exact ⟨tree, unit, parsed, nested, accepted, ⟨map, classified⟩, (complete _ _ _).2.1⟩

end CompilationUnit

end DocAudit
