import DocAudit.Proofs.RegionRecords

set_option autoImplicit false

namespace DocAudit

/-- A declaration whose lines are looked at. A method without a body takes no zone. -/
inductive Site where
  | zone (lines : Zone)
  | abstractMethod (line : Nat)

def Block.fault? (body : Block) (declLine : Nat) : Option MalformedTree :=
  match body.checkPosition declLine with
  | .error e => some e
  | .ok () => none

theorem Block.fault?_eq_none_iff {body : Block} {line : Nat} :
    body.fault? line = none ↔ line ≤ body.openLine ∧ body.openLine ≤ body.closeLine ∧
      ∀ first ∈ body.firstStatementLine?, body.openLine ≤ first ∧ first ≤ body.closeLine := by
  unfold Block.fault?
  constructor
  · intro clear
    split at clear
    next => cases clear
    next checked => exact RegionWalk.checkPosition_ok checked
  · rintro ⟨opens, closes, inside⟩
    have checked : body.checkPosition line = .ok () := by
      rw [Block.checkPosition, if_neg (Nat.not_lt.mpr opens), if_neg (Nat.not_lt.mpr closes)]
      split
      next => rfl
      next first present =>
        obtain ⟨above, below⟩ := inside first present
        exact if_neg (by omega)
    rw [checked]

namespace Site

def Positioned : Site → Prop
  | .zone lines => lines.Positioned
  | .abstractMethod line => 1 ≤ line

def AllPositioned (sites : List Site) : Prop := ∀ site ∈ sites, site.Positioned

def fault? : Site → Option MalformedTree
  | .zone (.type line endLine) =>
    if line = 0 then some .typeAtLineZero
    else if endLine < line then some (.typeEndsBeforeStart line)
    else none
  | .zone (.method line body) =>
    if line = 0 then some .methodAtLineZero else body.fault? line
  | .zone (.staticInit line body) =>
    if line = 0 then some .staticInitAtLineZero else body.fault? line
  | .abstractMethod line => if line = 0 then some .methodAtLineZero else none

theorem fault?_eq_none_iff (site : Site) : site.fault? = none ↔ site.Positioned := by
  match site with
  | .zone (.type line endLine) =>
    simp only [fault?, Positioned, Zone.Positioned]
    grind
  | .zone (.method line body) | .zone (.staticInit line body) =>
    simp only [fault?, Positioned, Zone.Positioned, ← Block.fault?_eq_none_iff]
    grind
  | .abstractMethod line =>
    simp only [fault?, Positioned]
    grind

end Site

mutual

def TypeDecl.sites : TypeDecl → List Site
  | { kind, line, endLine, members, .. } =>
    if kind = .anonymousBody then Site.ofMembers members
    else .zone (.type line endLine) :: Site.ofMembers members

def Site.ofMembers : List Member → List Site
  | [] => []
  | member :: rest => Member.sites member ++ Site.ofMembers rest

def Member.sites : Member → List Site
  | .method decl => MethodDecl.sites decl
  | .staticInit line ⟨openLine, closeLine, statements⟩ =>
    .zone (.staticInit line ⟨openLine, closeLine, statements⟩) :: Site.ofStatements statements
  | .type decl => TypeDecl.sites decl

def MethodDecl.sites : MethodDecl → List Site
  | { line, body := none, .. } => [.abstractMethod line]
  | { line, body := some ⟨openLine, closeLine, statements⟩, .. } =>
    .zone (.method line ⟨openLine, closeLine, statements⟩) :: Site.ofStatements statements

def Site.ofStatements : List Statement → List Site
  | [] => []
  | ⟨_, _, _, nested⟩ :: rest => Site.ofTypes nested ++ Site.ofStatements rest

def Site.ofTypes : List TypeDecl → List Site
  | [] => []
  | decl :: rest => TypeDecl.sites decl ++ Site.ofTypes rest

end

theorem TypeDecl.sites_anonymous {decl : TypeDecl} (anonymous : decl.kind = .anonymousBody) :
    decl.sites = Site.ofMembers decl.members := by
  obtain ⟨⟩ := decl
  rw [TypeDecl.sites, if_pos anonymous]

theorem TypeDecl.sites_named {decl : TypeDecl} (named : decl.kind ≠ .anonymousBody) :
    decl.sites = .zone (.type decl.line decl.endLine) :: Site.ofMembers decl.members := by
  obtain ⟨⟩ := decl
  rw [TypeDecl.sites, if_neg named]

theorem Member.sites_staticInit (line : Nat) (body : Block) :
    (Member.staticInit line body).sites =
      .zone (.staticInit line body) :: Site.ofStatements body.statements := by
  obtain ⟨⟩ := body
  rw [Member.sites]

theorem MethodDecl.sites_none {decl : MethodDecl} (absent : decl.body = none) :
    decl.sites = [.abstractMethod decl.line] := by
  obtain ⟨⟩ := decl
  cases absent
  rw [MethodDecl.sites]

theorem MethodDecl.sites_some {decl : MethodDecl} {body : Block} (present : decl.body = some body) :
    decl.sites = .zone (.method decl.line body) :: Site.ofStatements body.statements := by
  obtain ⟨⟩ := decl
  obtain ⟨⟩ := body
  cases present
  rw [MethodDecl.sites]

def CompilationUnit.sites (unit : CompilationUnit) : List Site := Site.ofTypes unit.types

namespace RegionWalk

-- A visit ends with the first fault of its sites; without one it leaves the contexts alone.
structure Follows (visit : RegionWalk → Except MalformedTree RegionWalk) (sites : List Site) :
    Prop where
  fails : ∀ walk e, walk.contexts ≠ [] → sites.findSome? Site.fault? = some e →
    visit walk = .error e
  succeeds : ∀ walk, walk.contexts ≠ [] → sites.findSome? Site.fault? = none →
    ∃ walk', visit walk = .ok walk' ∧ walk'.contexts = walk.contexts

def unlessFaulty (site : Site) (visit : RegionWalk → Except MalformedTree RegionWalk)
    (walk : RegionWalk) : Except MalformedTree RegionWalk :=
  match site.fault? with
  | some e => .error e
  | none => visit walk

variable {visit first second inside : RegionWalk → Except MalformedTree RegionWalk}
  {sites later : List Site}

theorem follows_skip : Follows .ok [] where
  fails := nofun
  succeeds walk _ _ := ⟨walk, rfl, rfl⟩

theorem follows_andThen (inFirst : Follows first sites) (inSecond : Follows second later) :
    Follows (andThen first second) (sites ++ later) where
  fails walk e inContext faulty := by
    rw [List.findSome?_append, Option.or_eq_some_iff] at faulty
    rcases faulty with faulty | ⟨clear, faulty⟩
    · rw [andThen, inFirst.fails walk e inContext faulty]
    · obtain ⟨middle, visited, same⟩ := inFirst.succeeds walk inContext clear
      rw [andThen, visited]
      exact inSecond.fails middle e (same ▸ inContext) faulty
  succeeds walk inContext clear := by
    rw [List.findSome?_append, Option.or_eq_none_iff] at clear
    obtain ⟨middle, visited, same⟩ := inFirst.succeeds walk inContext clear.1
    rw [andThen, visited, ← same]
    exact inSecond.succeeds middle (same ▸ inContext) clear.2

theorem follows_unlessFaulty (site : Site) (inVisit : Follows visit sites) :
    Follows (unlessFaulty site visit) (site :: sites) where
  fails walk e inContext faulty := by
    rw [List.findSome?_cons] at faulty
    unfold unlessFaulty
    cases here : site.fault? with
    | some found =>
      rw [here] at faulty
      exact congrArg _ (Option.some.inj faulty)
    | none =>
      rw [here] at faulty
      exact inVisit.fails walk e inContext faulty
  succeeds walk inContext clear := by
    obtain ⟨here, clear⟩ : site.fault? = none ∧ sites.findSome? Site.fault? = none := by
      simpa using clear
    rw [unlessFaulty, here]
    exact inVisit.succeeds walk inContext clear

-- The context entered is on top of a nonempty stack, so leaving it cannot fail.
theorem follows_visitZone (zone : Zone) (inInside : Follows inside sites) :
    Follows (visitZone zone inside) sites where
  fails walk e _ faulty := by
    rw [visitZone, andThen, inInside.fails _ e (by simp [enter]) faulty]
  succeeds walk inContext clear := by
    obtain ⟨outer, around, opened⟩ := List.exists_cons_of_ne_nil inContext
    obtain ⟨middle, visited, same⟩ := inInside.succeeds
      ((walk.recordAll zone.opening).enter zone.innerContext) (by simp [enter]) clear
    rw [visitZone, andThen, visited]
    simp only [enter, recordAll, opened] at same
    simp [leave, same, record, opened]

theorem visitType_eq {decl : TypeDecl} (named : decl.kind ≠ .anonymousBody) :
    (visitType · decl) = unlessFaulty (.zone (.type decl.line decl.endLine))
      (visitZone (.type decl.line decl.endLine) (visitMembers · decl.members)) := by
  obtain ⟨kind, name, line, column, endLine, modifiers, typeParams, superclass, members⟩ := decl
  funext walk
  rw [visitType, if_neg named, unlessFaulty, Site.fault?]
  split
  next => rfl
  next =>
    split
    next => rfl
    next => rfl

theorem visitMethod_none_eq {decl : MethodDecl} (absent : decl.body = none) :
    (visitMethod · decl) = unlessFaulty (.abstractMethod decl.line) .ok := by
  obtain ⟨kind, name, line, column, endLine, modifiers, typeParams, params, throws, result, body⟩ :=
    decl
  cases absent
  funext walk
  rw [visitMethod, unlessFaulty, Site.fault?]
  split <;> rfl

theorem visitMethod_some_eq {decl : MethodDecl} {body : Block} (present : decl.body = some body) :
    (visitMethod · decl) = unlessFaulty (.zone (.method decl.line body))
      (visitZone (.method decl.line body) (visitStatements · body.statements)) := by
  obtain ⟨kind, name, line, column, endLine, modifiers, typeParams, params, throws, result, _⟩ :=
    decl
  obtain ⟨openLine, closeLine, statements⟩ := body
  cases present
  funext walk
  rw [visitMethod, unlessFaulty, Site.fault?]
  split
  next => rfl
  next =>
    rw [Block.fault?]
    cases Block.checkPosition ⟨openLine, closeLine, statements⟩ line with
    | error e => rfl
    | ok =>
      dsimp only
      rw [record_method walk line ⟨openLine, closeLine, statements⟩]
      rfl

theorem visitMember_staticInit_eq (line : Nat) (body : Block) :
    (visitMember · (.staticInit line body)) = unlessFaulty (.zone (.staticInit line body))
      (visitZone (.staticInit line body) (visitStatements · body.statements)) := by
  obtain ⟨openLine, closeLine, statements⟩ := body
  funext walk
  rw [visitMember, unlessFaulty, Site.fault?]
  split
  next => rfl
  next =>
    rw [Block.fault?]
    cases Block.checkPosition ⟨openLine, closeLine, statements⟩ line with
    | error e => rfl
    | ok =>
      dsimp only
      rw [record_staticInit walk line ⟨openLine, closeLine, statements⟩]
      rfl

theorem follows_type {decl : TypeDecl}
    (inMembers : Follows (visitMembers · decl.members) (Site.ofMembers decl.members)) :
    Follows (visitType · decl) decl.sites := by
  by_cases anonymous : decl.kind = .anonymousBody
  next =>
    rw [decl.sites_anonymous anonymous, visitType_anonymous anonymous]
    exact inMembers
  next =>
    rw [decl.sites_named anonymous, visitType_eq anonymous]
    exact follows_unlessFaulty _ (follows_visitZone _ inMembers)

theorem follows_method {decl : MethodDecl}
    (inBody : ∀ body, decl.body = some body →
      Follows (visitStatements · body.statements) (Site.ofStatements body.statements)) :
    Follows (visitMethod · decl) decl.sites := by
  cases held : decl.body with
  | none =>
    rw [decl.sites_none held, visitMethod_none_eq held]
    exact follows_unlessFaulty _ follows_skip
  | some body =>
    rw [decl.sites_some held, visitMethod_some_eq held]
    exact follows_unlessFaulty _ (follows_visitZone _ (inBody body held))

theorem follows_staticInit (line : Nat) {body : Block}
    (inBody : Follows (visitStatements · body.statements) (Site.ofStatements body.statements)) :
    Follows (visitMember · (.staticInit line body)) (Member.staticInit line body).sites := by
  rw [Member.sites_staticInit, visitMember_staticInit_eq]
  exact follows_unlessFaulty _ (follows_visitZone _ inBody)

theorem follows_visits : DeclarationInduction
    (fun decls => Follows (visitTypes · decls) (Site.ofTypes decls))
    (fun members => Follows (visitMembers · members) (Site.ofMembers members))
    (fun statements => Follows (visitStatements · statements) (Site.ofStatements statements)) where
  noTypes := follows_skip
  addType _ _ inMembers inRest := follows_andThen (follows_type inMembers) inRest
  noMembers := follows_skip
  addMethod _ _ inBody inRest := follows_andThen (follows_method inBody) inRest
  addStaticInit line _ _ inBody inRest := follows_andThen (follows_staticInit line inBody) inRest
  addMemberType _ _ inMembers inRest := follows_andThen (follows_type inMembers) inRest
  noStatements := follows_skip
  addStatement statement _ inNested inRest := by
    obtain ⟨line, endLine, kind, nested⟩ := statement
    exact follows_andThen inNested inRest

end RegionWalk

namespace RegionMap

theorem classify_ok {unit : CompilationUnit} (positioned : Site.AllPositioned unit.sites) :
    ∃ map, classify unit = .ok map := by
  have clear : unit.sites.findSome? Site.fault? = none :=
    List.findSome?_eq_none_iff.mpr fun site member =>
      (site.fault?_eq_none_iff).mpr (positioned site member)
  obtain ⟨walk, visited, _⟩ :=
    (RegionWalk.follows_visits.ofTypes unit.types).succeeds .start (by simp [RegionWalk.start])
      clear
  exact ⟨ofWalk walk, by rw [classify, visited]⟩

end RegionMap

end DocAudit
