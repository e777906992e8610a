import DocAudit.Proofs.DeclarationSites

set_option autoImplicit false

namespace DocAudit

/-- What is wrong with the lines of a body below a declaration; of several faults the first. -/
inductive Block.Fault (body : Block) (line : Nat) : MalformedTree → Prop
  | opensEarly (opens : body.openLine < line) :
      Fault body line (.bodyOpensBeforeDeclaration line)
  | closesEarly (opens : line ≤ body.openLine) (closes : body.closeLine < body.openLine) :
      Fault body line (.bodyClosesBeforeOpening body.openLine)
  | statementOutside {first : Nat} (opens : line ≤ body.openLine)
      (closes : body.openLine ≤ body.closeLine) (present : body.firstStatementLine? = some first)
      (outside : first < body.openLine ∨ body.closeLine < first) :
      Fault body line (.statementOutsideBody first)

theorem Block.fault?_eq_some_iff {body : Block} {line : Nat} {e : MalformedTree} :
    body.fault? line = some e ↔ body.Fault line e := by
  constructor
  · intro faulty
    unfold Block.fault? Block.checkPosition at faulty
    split at faulty
    next error checked =>
      cases faulty
      split at checked
      next opens =>
        cases checked
        exact .opensEarly opens
      next opens =>
        split at checked
        next closes =>
          cases checked
          exact .closesEarly (Nat.le_of_not_lt opens) closes
        next closes =>
          split at checked
          next => cases checked
          next first present =>
            split at checked
            next outside =>
              cases checked
              exact .statementOutside (Nat.le_of_not_lt opens) (Nat.le_of_not_lt closes) present
                outside
            next => cases checked
    next => cases faulty
  · intro faulty
    cases faulty with
    | opensEarly opens => simp [Block.fault?, Block.checkPosition, opens]
    | closesEarly opens closes =>
      simp [Block.fault?, Block.checkPosition, Nat.not_lt.mpr opens, closes]
    | statementOutside opens closes present outside =>
      simp [Block.fault?, Block.checkPosition, Nat.not_lt.mpr opens, Nat.not_lt.mpr closes, present,
        outside]

inductive Site.Fault : Site → MalformedTree → Prop
  | typeAtZero (endLine : Nat) : Fault (.zone (.type 0 endLine)) .typeAtLineZero
  | typeEndsEarly {line endLine : Nat} (positive : 1 ≤ line) (ends : endLine < line) :
      Fault (.zone (.type line endLine)) (.typeEndsBeforeStart line)
  | abstractAtZero : Fault (.abstractMethod 0) .methodAtLineZero
  | methodAtZero (body : Block) : Fault (.zone (.method 0 body)) .methodAtLineZero
  | methodBody {line : Nat} {body : Block} {e : MalformedTree} (positive : 1 ≤ line)
      (faulty : body.Fault line e) : Fault (.zone (.method line body)) e
  | staticInitAtZero (body : Block) : Fault (.zone (.staticInit 0 body)) .staticInitAtLineZero
  | staticInitBody {line : Nat} {body : Block} {e : MalformedTree} (positive : 1 ≤ line)
      (faulty : body.Fault line e) : Fault (.zone (.staticInit line body)) e

namespace Site

theorem fault?_eq_some_iff {site : Site} {e : MalformedTree} :
    site.fault? = some e ↔ site.Fault e := by
  constructor
  · intro faulty
    unfold fault? at faulty
    split at faulty
    next line endLine =>
      split at faulty
      next zero =>
        cases faulty
        exact zero ▸ .typeAtZero endLine
      next positive =>
        split at faulty
        next ends =>
          cases faulty
          exact .typeEndsEarly (Nat.pos_of_ne_zero positive) ends
        next => cases faulty
    next line body =>
      split at faulty
      next zero =>
        cases faulty
        exact zero ▸ .methodAtZero body
      next positive =>
        exact .methodBody (Nat.pos_of_ne_zero positive) (Block.fault?_eq_some_iff.mp faulty)
    next line body =>
      split at faulty
      next zero =>
        cases faulty
        exact zero ▸ .staticInitAtZero body
      next positive =>
        exact .staticInitBody (Nat.pos_of_ne_zero positive) (Block.fault?_eq_some_iff.mp faulty)
    next line =>
      split at faulty
      next zero =>
        cases faulty
        exact zero ▸ .abstractAtZero
      next => cases faulty
  · intro faulty
    cases faulty with
    | typeAtZero | abstractAtZero | methodAtZero | staticInitAtZero => rfl
    | typeEndsEarly positive ends => simp [fault?, Nat.ne_of_gt positive, ends]
    | methodBody positive faulty | staticInitBody positive faulty =>
      simp [fault?, Nat.ne_of_gt positive, Block.fault?_eq_some_iff.mpr faulty]

-- No site is to blame for a stack of contexts that is out of balance.
theorem Fault.ne_unbalanced {site : Site} {e : MalformedTree} (faulty : site.Fault e)
    (line : Nat) : e ≠ .unbalancedContexts line := by
  cases faulty with
  | typeAtZero | typeEndsEarly | abstractAtZero | methodAtZero | staticInitAtZero => exact nofun
  | methodBody _ faulty | staticInitBody _ faulty => cases faulty <;> exact nofun

def FirstFault (sites : List Site) (e : MalformedTree) : Prop :=
  ∃ before site after, sites = before ++ site :: after ∧ AllPositioned before ∧ site.Fault e

theorem findSome?_fault?_eq_some_iff {sites : List Site} {e : MalformedTree} :
    sites.findSome? fault? = some e ↔ FirstFault sites e := by
  rw [List.findSome?_eq_some_iff]
  constructor
  · rintro ⟨before, site, after, split, faulty, clear⟩
    exact ⟨before, site, after, split, fun other member =>
      (fault?_eq_none_iff other).mp (clear other member), fault?_eq_some_iff.mp faulty⟩
  · rintro ⟨before, site, after, split, positioned, faulty⟩
    exact ⟨before, site, after, split, fault?_eq_some_iff.mpr faulty, fun other member =>
      (fault?_eq_none_iff other).mpr (positioned other member)⟩

theorem findSome?_fault?_eq_none_iff {sites : List Site} :
    sites.findSome? fault? = none ↔ AllPositioned sites := by
  rw [List.findSome?_eq_none_iff]
  exact forall₂_congr fun site _ => fault?_eq_none_iff site

-- Positioned, but for the line of a static initializer itself: only its body is looked at.
def BodiesPositioned : Site → Prop
  | .zone (.staticInit line body) => line ≤ body.openLine ∧ body.openLine ≤ body.closeLine ∧
      ∀ first ∈ body.firstStatementLine?, body.openLine ≤ first ∧ first ≤ body.closeLine
  | site => site.Positioned

end Site

namespace RegionWalk

-- Whatever a visit enters it leaves again, from any stack of contexts on which it succeeds.
def Keeps (visit : RegionWalk → Except MalformedTree RegionWalk) : Prop :=
  ∀ walk walk', visit walk = .ok walk' → walk'.contexts = walk.contexts

variable {visit first second inside : RegionWalk → Except MalformedTree RegionWalk}

theorem keeps_skip : Keeps .ok := by
  intro walk walk' visited
  cases visited
  rfl

theorem keeps_andThen (inFirst : Keeps first) (inSecond : Keeps second) :
    Keeps (andThen first second) := by
  intro walk walk' visited
  obtain ⟨middle, firstVisited, secondVisited⟩ := andThen_ok visited
  rw [inSecond middle walk' secondVisited, inFirst walk middle firstVisited]

theorem keeps_unlessFaulty (site : Site) (inVisit : Keeps visit) :
    Keeps (unlessFaulty site visit) := by
  intro walk walk' visited
  unfold unlessFaulty at visited
  split at visited
  next => cases visited
  next => exact inVisit walk walk' visited

theorem leave_contexts {walk walk' : RegionWalk} {closingLine : Nat} {inner : Context}
    {around : List Context} (opened : walk.contexts = inner :: around)
    (left : walk.leave closingLine = .ok walk') : walk'.contexts = around := by
  cases around with
  | nil =>
    rw [leave, opened] at left
    cases left
  | cons outer rest =>
    rw [leave, opened] at left
    cases left
    rfl

theorem keeps_visitZone (zone : Zone) (inInside : Keeps inside) :
    Keeps (visitZone zone inside) := by
  intro walk walk' visited
  obtain ⟨middle, insideVisited, left⟩ := andThen_ok visited
  exact leave_contexts (inInside _ middle insideVisited) left

theorem keeps_type {decl : TypeDecl} (inMembers : Keeps (visitMembers · decl.members)) :
    Keeps (visitType · decl) := by
  by_cases anonymous : decl.kind = .anonymousBody
  · rw [visitType_anonymous anonymous]
    exact inMembers
  · rw [visitType_eq anonymous]
    exact keeps_unlessFaulty _ (keeps_visitZone _ inMembers)

theorem keeps_method {decl : MethodDecl}
    (inBody : ∀ body, decl.body = some body → Keeps (visitStatements · body.statements)) :
    Keeps (visitMethod · decl) := by
  cases held : decl.body with
  | none =>
    rw [visitMethod_none_eq held]
    exact keeps_unlessFaulty _ keeps_skip
  | some body =>
    rw [visitMethod_some_eq held]
    exact keeps_unlessFaulty _ (keeps_visitZone _ (inBody body held))

theorem keeps_staticInit (line : Nat) {body : Block}
    (inBody : Keeps (visitStatements · body.statements)) :
    Keeps (visitMember · (.staticInit line body)) := by
  rw [visitMember_staticInit_eq]
  exact keeps_unlessFaulty _ (keeps_visitZone _ inBody)

theorem keeps_visits : DeclarationInduction
    (fun decls => Keeps (visitTypes · decls))
    (fun members => Keeps (visitMembers · members))
    (fun statements => Keeps (visitStatements · statements)) where
  noTypes := keeps_skip
  addType _ _ inMembers inRest := keeps_andThen (keeps_type inMembers) inRest
  noMembers := keeps_skip
  addMethod _ _ inBody inRest := keeps_andThen (keeps_method inBody) inRest
  addStaticInit line _ _ inBody inRest := keeps_andThen (keeps_staticInit line inBody) inRest
  addMemberType _ _ inMembers inRest := keeps_andThen (keeps_type inMembers) inRest
  noStatements := keeps_skip
  addStatement statement _ inNested inRest := by
    obtain ⟨line, endLine, kind, nested⟩ := statement
    exact keeps_andThen inNested inRest

end RegionWalk

namespace RegionMap

theorem classify_of_firstFault {unit : CompilationUnit} {e : MalformedTree}
    (faulty : Site.FirstFault unit.sites e) : classify unit = .error e := by
  have visited := (RegionWalk.follows_visits.ofTypes unit.types).fails .start e
    (by simp [RegionWalk.start]) (Site.findSome?_fault?_eq_some_iff.mpr faulty)
  rw [classify, visited]

theorem classify_eq_error_iff (unit : CompilationUnit) (e : MalformedTree) :
    classify unit = .error e ↔ Site.FirstFault unit.sites e := by
  refine ⟨fun refused => ?_, classify_of_firstFault⟩
  cases verdict : unit.sites.findSome? Site.fault? with
  | none =>
    obtain ⟨map, accepted⟩ := classify_ok (Site.findSome?_fault?_eq_none_iff.mp verdict)
    cases accepted.symm.trans refused
  | some found =>
    have faulty := Site.findSome?_fault?_eq_some_iff.mp verdict
    cases (classify_of_firstFault faulty).symm.trans refused
    exact faulty

theorem classify_eq_ok_iff (unit : CompilationUnit) :
    (∃ map, classify unit = .ok map) ↔ Site.AllPositioned unit.sites := by
  refine ⟨fun ⟨map, accepted⟩ => ?_, classify_ok⟩
  rw [← Site.findSome?_fault?_eq_none_iff, Option.eq_none_iff_forall_ne_some]
  intro e verdict
  cases accepted.symm.trans (classify_of_firstFault (Site.findSome?_fault?_eq_some_iff.mp verdict))

theorem classify_verdict (unit : CompilationUnit) :
    ((∃ map, classify unit = .ok map) ↔ Site.AllPositioned unit.sites) ∧
      (∀ e, classify unit = .error e ↔ Site.FirstFault unit.sites e) ∧
      (∀ line, classify unit ≠ .error (.unbalancedContexts line)) ∧
      ∀ walk walk' : RegionWalk,
        (∀ decl, walk.visitType decl = .ok walk' → walk'.contexts = walk.contexts) ∧
        (∀ decl, walk.visitMethod decl = .ok walk' → walk'.contexts = walk.contexts) ∧
        ∀ line body, walk.visitMember (.staticInit line body) = .ok walk' →
          walk'.contexts = walk.contexts := by
  refine ⟨classify_eq_ok_iff unit, classify_eq_error_iff unit, fun line refused => ?_,
    fun walk walk' => ⟨fun decl => ?_, fun decl => ?_, fun line body => ?_⟩⟩
  · obtain ⟨_, site, _, _, _, faulty⟩ := (classify_eq_error_iff unit _).mp refused
    exact faulty.ne_unbalanced line rfl
  · exact RegionWalk.keeps_type (RegionWalk.keeps_visits.inType decl) walk walk'
  · exact RegionWalk.keeps_method (RegionWalk.keeps_visits.inBody decl.body) walk walk'
  · exact RegionWalk.keeps_staticInit line (RegionWalk.keeps_visits.ofStatements body.statements)
      walk walk'

private def placedMethod (line : Nat) (body : Option Block) : Member :=
  .method ⟨.method, ⟨"m", line, 0⟩, line, 0, line, .none, [], [], [], .nothing, body⟩

private def placedType (kind : TypeKind) (line endLine : Nat) (members : List Member) : TypeDecl :=
  ⟨kind, "A", line, 0, endLine, .none, [], none, members⟩

-- An anonymous body that is out of place itself, in a method; what it holds is looked at.
private def hiddenType (line : Nat) : TypeDecl :=
  placedType .classType 1 9 [placedMethod 2 (some ⟨3, 8,
    [⟨4, 7, .other, [placedType .anonymousBody 0 0 [placedMethod line none]]⟩]⟩)]

private def twoFaults : CompilationUnit :=
  ⟨[hiddenType 0, placedType .classType 12 11 []], [], 12⟩

theorem classify_verdict_hidden :
    classify twoFaults = .error .methodAtLineZero ∧
      Site.FirstFault twoFaults.sites .methodAtLineZero ∧
      ∃ walk, RegionWalk.start.visitType (hiddenType 5) = .ok walk ∧
        walk.contexts = [.package] := by
  obtain ⟨_, refused_iff, _, visits⟩ := classify_verdict twoFaults
  have refused : classify twoFaults = .error .methodAtLineZero := rfl
  have visited : ∃ walk, RegionWalk.start.visitType (hiddenType 5) = .ok walk := ⟨_, rfl⟩
  obtain ⟨walk, visited⟩ := visited
  exact ⟨refused, (refused_iff _).mp refused, walk, visited,
    (visits .start walk).1 (hiddenType 5) visited⟩

private def initializerAtZero : CompilationUnit :=
  ⟨[placedType .classType 1 4 [.staticInit 0 ⟨2, 3, []⟩]], [], 4⟩

theorem classify_initializerAtZero :
    ¬ ((∃ map, classify initializerAtZero = .ok map) ↔
      ∀ site ∈ initializerAtZero.sites, site.BodiesPositioned) := by
  intro claimed
  have sites : initializerAtZero.sites =
      [.zone (.type 1 4), .zone (.staticInit 0 ⟨2, 3, []⟩)] := rfl
  have positioned : ∀ site ∈ initializerAtZero.sites, site.BodiesPositioned := by
    simp [sites, Site.BodiesPositioned, Site.Positioned, Zone.Positioned, Block.firstStatementLine?]
  have refused : classify initializerAtZero = .error .staticInitAtLineZero := rfl
  obtain ⟨map, accepted⟩ := claimed.mpr positioned
  cases refused.symm.trans accepted

end RegionMap

end DocAudit
