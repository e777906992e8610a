import DocAudit.Proofs.RegionOrder
import DocAudit.Proofs.RuleCompletion
import DocAudit.Proofs.RuleContributions

set_option autoImplicit false

namespace DocAudit

namespace AllowList

/-- What a list says of a text in a context. -/
inductive Judges (context : Context) (text : List Char) : AllowList → Option CommentFault → Prop
  | never : Judges context text [] (some .neverAllowed)
  | unlisted {allowed : AllowList} : allowed ≠ [] → (∀ clause ∈ allowed, clause.context ≠ context) →
      Judges context text allowed (some .notAllowed)
  | accepted {before after : AllowList} {clause : AllowClause} :
      (∀ earlier ∈ before, earlier.context ≠ context) → clause.context = context →
      clause.accepts text = true → Judges context text (before ++ clause :: after) none
  | refused {before after : AllowList} {clause : AllowClause} :
      (∀ earlier ∈ before, earlier.context ≠ context) → clause.context = context →
      clause.accepts text = false →
      Judges context text (before ++ clause :: after) (some .badFormat)

section Clauses

variable {allowed before after : AllowList} {clause : AllowClause} {context : Context}
  {text : List Char} {fault : Option CommentFault}

theorem find?_unlisted (others : ∀ clause ∈ allowed, clause.context ≠ context) :
    allowed.find? (·.context == context) = none := by
  apply List.find?_eq_none.mpr
  intro clause member
  simpa using others clause member

theorem find?_first (others : ∀ earlier ∈ before, earlier.context ≠ context)
    (same : clause.context = context) :
    (before ++ clause :: after).find? (·.context == context) = some clause := by
  rw [List.find?_append, find?_unlisted others, Option.none_or]
  exact List.find?_cons_of_pos (by simpa using same)

theorem fault?_judges (allowed : AllowList) (context : Context) (text : List Char) :
    Judges context text allowed (allowed.fault? context text) := by
  unfold fault?
  split
  next empty =>
    cases List.isEmpty_iff.mp empty
    exact .never
  next nonempty =>
    split
    next absent =>
      refine .unlisted (fun empty => nonempty (List.isEmpty_iff.mpr empty)) ?_
      simpa using List.find?_eq_none.mp absent
    next clause found =>
      obtain ⟨same, before, after, rfl, others⟩ := List.find?_eq_some_iff_append.mp found
      have others : ∀ earlier ∈ before, earlier.context ≠ context := by simpa using others
      split
      next taken => exact .accepted others (by simpa using same) taken
      next refused => exact .refused others (by simpa using same) (by simpa using refused)

theorem Judges.unique (judged : Judges context text allowed fault) :
    fault = allowed.fault? context text := by
  cases judged with
  | never => rfl
  | unlisted nonempty others => simp [fault?, nonempty, find?_unlisted others]
  | accepted others same taken => simp [fault?, find?_first others same, taken]
  | refused others same refused => simp [fault?, find?_first others same, refused]

theorem fault?_append_listed (listed : ∃ clause ∈ allowed, clause.context = context)
    (further : AllowList) :
    (allowed ++ further).fault? context text = allowed.fault? context text := by
  obtain ⟨clause, member, same⟩ := listed
  have nonempty : allowed ≠ [] := List.ne_nil_of_mem member
  have found : (allowed.find? (·.context == context)).isSome = true := by
    apply List.find?_isSome.mpr
    exact ⟨clause, member, by simpa using same⟩
  simp [fault?, nonempty, List.find?_append, Option.or_of_isSome found]

theorem fault?_unlisted (others : ∀ clause ∈ allowed, clause.context ≠ context) :
    (allowed.fault? context text).isSome = true := by
  cases allowed with
  | nil => rfl
  | cons clause rest => simp [fault?, find?_unlisted others]

theorem fault?_append {further : AllowList}
    (flagged : ((allowed ++ further).fault? context text).isSome = true) :
    (allowed.fault? context text).isSome = true := by
  by_cases listed : ∃ clause ∈ allowed, clause.context = context
  next => rwa [fault?_append_listed listed] at flagged
  next =>
    apply fault?_unlisted
    intro clause member same
    exact listed ⟨clause, member, same⟩

theorem fault?_anywhere : anywhere.fault? context text = none := by
  have first : Judges context text anywhere none := by
    obtain ⟨before, after, split, others⟩ := List.eq_append_cons_of_mem (Context.mem_all context)
    rw [anywhere, split, List.map_append, List.map_cons]
    apply Judges.accepted
    next =>
      intro earlier member same
      obtain ⟨other, listed, rfl⟩ := List.mem_map.mp member
      exact others (same ▸ listed)
    next => rfl
    next => rfl
  exact first.unique.symm

end Clauses

def verdict? (map : RegionMap) (allowed : AllowList) (comment : Comment) : Option CommentFault :=
  match map.regionAt comment.startLine with
  | .error _ => none
  | .ok region => allowed.fault? region.context comment.joinedText

def finding? (map : RegionMap) (allowed : AllowList) (comment : Comment) : Option CommentFinding :=
  (verdict? map allowed comment).map fun fault =>
    ⟨comment.startLine, comment.startColumn, fault, comment.style⟩

section Comments

variable {map : RegionMap} {comment : Comment}

theorem verdict?_of_regionAt {region : Region} (found : map.regionAt comment.startLine = .ok region)
    (allowed : AllowList) :
    verdict? map allowed comment = allowed.fault? region.context comment.joinedText := by
  rw [verdict?, found]

-- The walk along the comments stops only where a comment has no region.
theorem check_eq (recorded : map.regions ≠ []) (allowed : AllowList) {comments : List Comment}
    (placed : ∀ comment ∈ comments, 1 ≤ comment.startLine) :
    check map allowed comments = .ok (comments.filterMap (finding? map allowed)) := by
  induction comments with
  | nil => rfl
  | cons comment rest ih =>
    obtain ⟨here, below⟩ := List.forall_mem_cons.mp placed
    obtain ⟨region, found⟩ := RegionMap.regionAt_ok recorded here
    rw [check, found, ih below, List.filterMap_cons, finding?, verdict?_of_regionAt found]
    dsimp only
    cases allowed.fault? region.context comment.joinedText <;> rfl

theorem check_lineZero (recorded : map.regions ≠ []) (allowed : AllowList)
    {comments : List Comment} (unplaced : ∃ comment ∈ comments, comment.startLine = 0) :
    check map allowed comments = .error .lookupAtLineZero := by
  induction comments with
  | nil => simp at unplaced
  | cons first rest ih =>
    by_cases here : first.startLine = 0
    next => simp [check, RegionMap.regionAt, here]
    next =>
      obtain ⟨region, found⟩ := RegionMap.regionAt_ok recorded (Nat.one_le_iff_ne_zero.mpr here)
      have later : ∃ comment ∈ rest, comment.startLine = 0 := by simpa [here] using unplaced
      rw [check, found, ih later]

variable {unit : CompilationUnit} {block line : AllowList}

theorem validate_eq (recorded : map.regions ≠ [])
    (placed : ∀ comment ∈ unit.comments, 1 ≤ comment.startLine) :
    validate map unit block line = .ok
      ((unit.commentsOf .block).filterMap (finding? map block) ++
        (unit.commentsOf .line).filterMap (finding? map line)) := by
  have ofStyle (style : CommentStyle) :
      ∀ comment ∈ unit.commentsOf style, 1 ≤ comment.startLine :=
    fun comment member => placed comment (List.mem_of_mem_filter member)
  rw [validate, check_eq recorded block (ofStyle .block), check_eq recorded line (ofStyle .line)]

-- Block comments may all be placed while a line comment is not.
theorem validate_lineZero (recorded : map.regions ≠ []) (member : comment ∈ unit.comments)
    (unplaced : comment.startLine = 0) :
    validate map unit block line = .error .lookupAtLineZero := by
  have listed : comment ∈ unit.commentsOf comment.style :=
    List.mem_filter.mpr ⟨member, beq_self_eq_true comment.style⟩
  by_cases blocks : ∃ comment ∈ unit.commentsOf .block, comment.startLine = 0
  next => rw [validate, check_lineZero recorded block blocks]
  next =>
    have placed : ∀ comment ∈ unit.commentsOf .block, 1 ≤ comment.startLine := by
      intro other present
      apply Nat.one_le_iff_ne_zero.mpr
      exact fun zero => blocks ⟨other, present, zero⟩
    cases style : comment.style with
    | block => exact absurd ⟨comment, style ▸ listed, unplaced⟩ blocks
    | line =>
      rw [validate, check_eq recorded block placed,
        check_lineZero recorded line ⟨comment, style ▸ listed, unplaced⟩]

end Comments

end AllowList

-- Whether or not the declarations have regions, nothing is found.
theorem CommentPlacement.check_lineZero {unit : CompilationUnit} {comment : Comment}
    (member : comment ∈ unit.comments) (unplaced : comment.startLine = 0)
    (rule : CommentPlacement) (file : SourceFile) : ∃ e, rule.check file unit = .error e := by
  unfold check
  cases classified : RegionMap.classify unit with
  | error e => exact ⟨e, rfl⟩
  | ok map =>
    have recorded := RegionMap.classify_ne_nil classified
    simp only [bind, Except.bind, AllowList.validate_lineZero recorded member unplaced]
    exact ⟨_, rfl⟩

theorem AllowList.validate_verdicts {source : CompilationUnit} {map : RegionMap}
    (classified : RegionMap.classify source = .ok map) (unit : CompilationUnit) :
    ((∀ comment ∈ unit.comments, 1 ≤ comment.startLine) →
      (∀ block line, validate map unit block line = .ok
        ((unit.commentsOf .block).filterMap (finding? map block) ++
          (unit.commentsOf .line).filterMap (finding? map line))) ∧
      (∀ comment ∈ unit.comments, ∃ region, map.regionAt comment.startLine = .ok region ∧
        (∀ allowed, Judges region.context comment.joinedText allowed
          (verdict? map allowed comment)) ∧
        ∀ allowed further,
          ((verdict? map (allowed ++ further) comment).isSome = true →
            (verdict? map allowed comment).isSome = true) ∧
          ((∃ clause ∈ allowed, clause.context = region.context) →
            verdict? map (allowed ++ further) comment = verdict? map allowed comment)) ∧
      validate map unit anywhere anywhere = .ok []) ∧
    ∀ comment ∈ unit.comments, comment.startLine = 0 →
      (∀ block line, validate map unit block line = .error .lookupAtLineZero) ∧
      ∀ (rule : CommentPlacement) (file : SourceFile), (∃ e, rule.check file unit = .error e) ∧
        ∀ settings : Settings,
          settings.contribution file unit (Rule.commentPlacement rule).asCheck = [] := by
  have recorded := RegionMap.classify_ne_nil classified
  constructor
  next =>
    intro placed
    have found (comment : Comment) (member : comment ∈ unit.comments) :=
      RegionMap.regionAt_ok recorded (placed comment member)
    refine ⟨fun block line => validate_eq recorded placed, ?_, ?_⟩
    next =>
      intro comment member
      obtain ⟨region, here⟩ := found comment member
      refine ⟨region, here, fun allowed => ?_, fun allowed further => ?_⟩
      · rw [verdict?_of_regionAt here]
        exact fault?_judges allowed region.context comment.joinedText
      · rw [verdict?_of_regionAt here, verdict?_of_regionAt here]
        exact ⟨fault?_append, fun listed => fault?_append_listed listed further⟩
    next =>
      have silent (style : CommentStyle) :
          (unit.commentsOf style).filterMap (finding? map anywhere) = [] := by
        apply List.filterMap_eq_nil_iff.mpr
        intro comment member
        obtain ⟨region, here⟩ := found comment (List.mem_of_mem_filter member)
        rw [finding?, verdict?_of_regionAt here, fault?_anywhere, Option.map_none]
      rw [validate_eq recorded placed, silent, silent, List.append_nil]
  next =>
    intro comment member unplaced
    refine ⟨fun block line => validate_lineZero recorded member unplaced, fun rule file => ?_⟩
    obtain ⟨e, failed⟩ := rule.check_lineZero member unplaced file
    refine ⟨⟨e, failed⟩, fun settings => ?_⟩
    rw [Settings.contribution, Rule.asCheck_check, Rule.check, failed]
    cases settings.isEnabled (Rule.commentPlacement rule).asCheck.name <;> rfl

-- A class on lines one to four, a comment of each style in it, and a block comment below.
private def notedClass (lines : List Nat) : CompilationUnit where
  types := [⟨.classType, "A", 1, 0, 4, .none, [], none, []⟩]
  comments := lines.map fun line =>
    if line = 2 then ⟨.line, line, 4, line, ["// a"]⟩ else ⟨.block, line, 4, line, ["/* b */"]⟩
  lineCount := 5

theorem AllowList.validate_verdicts_noted :
    ∃ map, RegionMap.classify (notedClass []) = .ok map ∧
      validate map (notedClass [2, 3, 5]) ([⟨.package, none⟩] ++ [⟨.classBody, none⟩]) [] =
        .ok [⟨2, 4, .neverAllowed, .line⟩] ∧
      validate map (notedClass [2, 3, 5]) [⟨.package, none⟩] [] =
        .ok [⟨3, 4, .notAllowed, .block⟩, ⟨2, 4, .neverAllowed, .line⟩] ∧
      validate map (notedClass [2, 3, 5]) anywhere anywhere = .ok [] ∧
      validate map (notedClass [2, 0]) anywhere anywhere = .error .lookupAtLineZero := by
  have accepted : ∃ map, RegionMap.classify (notedClass []) = .ok map := ⟨_, rfl⟩
  obtain ⟨map, accepted⟩ := accepted
  have regions : map = ⟨[⟨.package, 1⟩, ⟨.classBody, 1⟩, ⟨.package, 5⟩]⟩ := by
    cases accepted
    simp [RegionMap.ofWalk, RegionWalk.start, RegionWalk.record, RegionWalk.enter, List.mergeSort,
      List.MergeSort.Internal.splitInTwo]
  have sorted : RegionMap.Sorted [⟨.package, 1⟩, ⟨.classBody, 1⟩, ⟨.package, 5⟩] := by
    simp [RegionMap.Sorted]
  have inClass (line : Nat) (inside : line = 2 ∨ line = 3) :
      map.regionAt line = .ok ⟨.classBody, 1⟩ := by
    rw [regions]
    rcases inside with rfl | rfl <;>
      exact RegionMap.regionAt_of_lastUpTo sorted (by decide) (by decide)
  have below : map.regionAt 5 = .ok ⟨.package, 5⟩ := by
    rw [regions]
    exact RegionMap.regionAt_of_lastUpTo sorted (by decide) (by decide)
  obtain ⟨found, _, silent⟩ := (validate_verdicts accepted (notedClass [2, 3, 5])).1 (by decide)
  have failed := ((validate_verdicts accepted (notedClass [2, 0])).2
    ⟨.block, 0, 4, 0, ["/* b */"]⟩ (by decide) rfl).1
  refine ⟨map, accepted, ?_, ?_, silent, failed anywhere anywhere⟩
  all_goals
    rw [found]
    simp [notedClass, CompilationUnit.commentsOf, finding?, verdict?, inClass, below, fault?,
      AllowClause.accepts]

end DocAudit
