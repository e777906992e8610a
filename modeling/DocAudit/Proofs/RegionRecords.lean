import DocAudit.Proofs.DeclarationInduction
import DocAudit.Proofs.Outline

set_option autoImplicit false

namespace DocAudit

namespace Zone

def opening : Zone → List Region
  | .type line _ => [⟨.classBody, line⟩]
  | .method line body =>
    [⟨.signature, line⟩, ⟨.preStatements, body.openLine⟩,
      ⟨.statements, body.firstStatementLine?.getD body.closeLine⟩]
  | .staticInit line body =>
    ⟨.staticInitHeader, line⟩ :: (body.firstStatementLine?.map (⟨.statements, ·⟩)).toList

-- What the walk is in between the declarations that a zone holds.
def innerContext : Zone → Context
  | .type _ _ => .classBody
  | .method _ _ | .staticInit _ _ => .statements

end Zone

namespace Outline

mutual

def record (outer : Context) : Outline → List Region
  | ⟨zone, inner⟩ =>
    zone.opening ++ records zone.innerContext inner ++ [⟨outer, zone.lastLine + 1⟩]

def records (outer : Context) : List Outline → List Region
  | [] => []
  | node :: rest => record outer node ++ records outer rest

end

@[simp] theorem records_nil (outer : Context) : records outer [] = [] := rfl

theorem records_cons (outer : Context) (zone : Zone) (inner rest : List Outline) :
    records outer (⟨zone, inner⟩ :: rest) = zone.opening ++ records zone.innerContext inner ++
      ⟨outer, zone.lastLine + 1⟩ :: records outer rest := by
  simp [records, record]

theorem records_append (outer : Context) (nodes later : List Outline) :
    records outer (nodes ++ later) = records outer nodes ++ records outer later := by
  induction nodes with
  | nil => simp
  | cons node rest ih => simp [records, ih]

theorem flatten_append (nodes later : List Outline) :
    flatten (nodes ++ later) = flatten nodes ++ flatten later := by
  induction nodes with
  | nil => simp
  | cons node rest ih => simp [flatten, ih]

theorem positioned_append {nodes later : List Outline} (first : Positioned nodes)
    (second : Positioned later) : Positioned (nodes ++ later) := by
  intro node member
  rw [flatten_append, List.mem_append] at member
  exact member.elim (first node) (second node)

theorem positioned_singleton {zone : Zone} {inner : List Outline} (here : zone.Positioned)
    (below : Positioned inner) : Positioned [⟨zone, inner⟩] := by
  intro node member
  simp only [flatten_cons, flatten_nil, List.append_nil, List.mem_cons] at member
  rcases member with rfl | member
  next => exact here
  next => exact below node member

end Outline

namespace RegionWalk

def recordAll (walk : RegionWalk) (regions : List Region) : RegionWalk :=
  { walk with regions := walk.regions ++ regions }

-- A visit either fails or records the regions of the outlines; the open contexts stay.
def Records (visit : RegionWalk → Except MalformedTree RegionWalk) (nodes : List Outline) : Prop :=
  ∀ (walk walk' : RegionWalk) (outer : Context) (around : List Context),
    walk.contexts = outer :: around → visit walk = .ok walk' →
      walk' = walk.recordAll (Outline.records outer nodes) ∧ Outline.Positioned nodes

def andThen (first second : RegionWalk → Except MalformedTree RegionWalk) (walk : RegionWalk) :
    Except MalformedTree RegionWalk :=
  match first walk with
  | .error e => .error e
  | .ok walk => second walk

theorem andThen_ok {first second : RegionWalk → Except MalformedTree RegionWalk}
    {walk walk' : RegionWalk} (done : andThen first second walk = .ok walk') :
    ∃ middle, first walk = .ok middle ∧ second middle = .ok walk' := by
  unfold andThen at done
  split at done
  next => cases done
  next middle visited => exact ⟨middle, visited, done⟩

theorem records_skip {visit : RegionWalk → Except MalformedTree RegionWalk}
    (unchanged : ∀ walk walk', visit walk = .ok walk' → walk' = walk) : Records visit [] := by
  intro walk walk' outer around contexts visited
  cases unchanged walk walk' visited
  exact ⟨by simp [recordAll], by simp [Outline.Positioned]⟩

theorem records_andThen {first second : RegionWalk → Except MalformedTree RegionWalk}
    {nodes later : List Outline} (inFirst : Records first nodes) (inSecond : Records second later) :
    Records (andThen first second) (nodes ++ later) := by
  intro walk walk' outer around contexts visited
  obtain ⟨middle, firstVisited, secondVisited⟩ := andThen_ok visited
  obtain ⟨rfl, positioned⟩ := inFirst walk middle outer around contexts firstVisited
  obtain ⟨rfl, positionedLater⟩ :=
    inSecond (walk.recordAll _) walk' outer around contexts secondVisited
  refine ⟨?_, Outline.positioned_append positioned positionedLater⟩
  simp [recordAll, Outline.records_append]

def visitZone (zone : Zone) (inside : RegionWalk → Except MalformedTree RegionWalk)
    (walk : RegionWalk) : Except MalformedTree RegionWalk :=
  andThen inside (·.leave zone.lastLine) ((walk.recordAll zone.opening).enter zone.innerContext)

theorem records_zone {zone : Zone} {inner : List Outline}
    {visit inside : RegionWalk → Except MalformedTree RegionWalk}
    (shape : ∀ walk walk', visit walk = .ok walk' →
      zone.Positioned ∧ visitZone zone inside walk = .ok walk')
    (inInside : Records inside inner) : Records visit [⟨zone, inner⟩] := by
  intro walk walk' outer around contexts visited
  obtain ⟨positioned, visited⟩ := shape walk walk' visited
  obtain ⟨middle, insideVisited, left⟩ := andThen_ok visited
  obtain ⟨rfl, innerPositioned⟩ :=
    inInside _ middle zone.innerContext walk.contexts rfl insideVisited
  refine ⟨?_, Outline.positioned_singleton positioned innerPositioned⟩
  simp only [leave, recordAll, enter, contexts, Except.ok.injEq] at left
  simp [← left, record, recordAll, Outline.records_cons, contexts]

theorem checkPosition_ok {body : Block} {line : Nat} (checked : body.checkPosition line = .ok ()) :
    line ≤ body.openLine ∧ body.openLine ≤ body.closeLine ∧
      ∀ first ∈ body.firstStatementLine?, body.openLine ≤ first ∧ first ≤ body.closeLine := by
  unfold Block.checkPosition at checked
  split at checked
  next => cases checked
  next opens =>
    split at checked
    next => cases checked
    next closes =>
      refine ⟨by omega, by omega, fun first present => ?_⟩
      rw [Option.mem_def.mp present] at checked
      simp only at checked
      split at checked
      next => cases checked
      next inside => omega

theorem record_method (walk : RegionWalk) (line : Nat) (body : Block) :
    ((walk.record .signature line).record .preStatements body.openLine).record
      .statements (body.firstStatementLine?.getD body.closeLine) =
    walk.recordAll (Zone.method line body).opening := by
  simp [record, recordAll, Zone.opening]

theorem record_staticInit (walk : RegionWalk) (line : Nat) (body : Block) :
    (walk.record .staticInitHeader line).recordStatements body.firstStatementLine? =
    walk.recordAll (Zone.staticInit line body).opening := by
  cases first : body.firstStatementLine? <;>
    simp [recordStatements, record, recordAll, Zone.opening, first]

theorem visitType_named {decl : TypeDecl} (named : decl.kind ≠ .anonymousBody)
    (walk walk' : RegionWalk) (visited : visitType walk decl = .ok walk') :
    (Zone.type decl.line decl.endLine).Positioned ∧
      visitZone (.type decl.line decl.endLine) (visitMembers · decl.members) walk = .ok walk' := by
  obtain ⟨kind, name, line, column, endLine, modifiers, typeParams, superclass, members⟩ := decl
  rw [visitType, if_neg named] at visited
  split at visited
  next => cases visited
  next positive =>
    split at visited
    next => cases visited
    next ordered => exact ⟨⟨Nat.pos_of_ne_zero positive, Nat.le_of_not_lt ordered⟩, visited⟩

theorem visitMethod_none {decl : MethodDecl} (absent : decl.body = none)
    (walk walk' : RegionWalk) (visited : visitMethod walk decl = .ok walk') : walk' = walk := by
  obtain ⟨kind, name, line, column, endLine, modifiers, typeParams, params, throws, result, body⟩ :=
    decl
  cases absent
  rw [visitMethod] at visited
  split at visited
  next => cases visited
  next => exact (Except.ok.inj visited).symm

theorem visitMethod_some {decl : MethodDecl} {body : Block} (present : decl.body = some body)
    (walk walk' : RegionWalk) (visited : visitMethod walk decl = .ok walk') :
    (Zone.method decl.line body).Positioned ∧
      visitZone (.method decl.line body) (visitStatements · body.statements) walk = .ok walk' := by
  obtain ⟨kind, name, line, column, endLine, modifiers, typeParams, params, throws, result, _⟩ :=
    decl
  obtain ⟨openLine, closeLine, statements⟩ := body
  cases present
  rw [visitMethod] at visited
  split at visited
  next => cases visited
  next positive =>
    split at visited
    next => cases visited
    next checked =>
      refine ⟨⟨Nat.pos_of_ne_zero positive, checkPosition_ok checked⟩, ?_⟩
      dsimp only at visited
      rw [record_method walk line ⟨openLine, closeLine, statements⟩] at visited
      exact visited

theorem visitMember_staticInit {line : Nat} {body : Block}
    (walk walk' : RegionWalk) (visited : visitMember walk (.staticInit line body) = .ok walk') :
    (Zone.staticInit line body).Positioned ∧
      visitZone (.staticInit line body) (visitStatements · body.statements) walk = .ok walk' := by
  obtain ⟨openLine, closeLine, statements⟩ := body
  rw [visitMember] at visited
  split at visited
  next => cases visited
  next positive =>
    split at visited
    next => cases visited
    next checked =>
      refine ⟨⟨Nat.pos_of_ne_zero positive, checkPosition_ok checked⟩, ?_⟩
      dsimp only at visited
      rw [record_staticInit walk line ⟨openLine, closeLine, statements⟩] at visited
      exact visited

theorem visitType_anonymous {decl : TypeDecl} (anonymous : decl.kind = .anonymousBody) :
    (visitType · decl) = (visitMembers · decl.members) := by
  obtain ⟨⟩ := decl
  funext walk
  rw [visitType, if_pos anonymous]

theorem records_type {decl : TypeDecl}
    (inMembers : Records (visitMembers · decl.members) (Outline.ofMembers decl.members)) :
    Records (visitType · decl) decl.outline := by
  by_cases anonymous : decl.kind = .anonymousBody
  next =>
    rw [decl.outline_anonymous anonymous, visitType_anonymous anonymous]
    exact inMembers
  next =>
    rw [decl.outline_named anonymous]
    exact records_zone (visitType_named anonymous) inMembers

theorem records_method {decl : MethodDecl}
    (inBody : ∀ body, decl.body = some body →
      Records (visitStatements · body.statements) (Outline.ofStatements body.statements)) :
    Records (visitMethod · decl) decl.outline := by
  cases held : decl.body with
  | none =>
    rw [decl.outline_none held]
    exact records_skip (visitMethod_none held)
  | some body =>
    rw [decl.outline_some held]
    exact records_zone (visitMethod_some held) (inBody body held)

theorem records_staticInit (line : Nat) {body : Block}
    (inBody : Records (visitStatements · body.statements)
      (Outline.ofStatements body.statements)) :
    Records (visitMember · (.staticInit line body)) (Member.staticInit line body).outline := by
  rw [Member.outline_staticInit]
  exact records_zone visitMember_staticInit inBody

theorem records_visits : DeclarationInduction
    (fun decls => Records (visitTypes · decls) (Outline.ofTypes decls))
    (fun members => Records (visitMembers · members) (Outline.ofMembers members))
    (fun statements =>
      Records (visitStatements · statements) (Outline.ofStatements statements)) where
  noTypes := records_skip fun _ _ visited => (Except.ok.inj visited).symm
  addType _ _ inMembers inRest := records_andThen (records_type inMembers) inRest
  noMembers := records_skip fun _ _ visited => (Except.ok.inj visited).symm
  addMethod _ _ inBody inRest := records_andThen (records_method inBody) inRest
  addStaticInit line _ _ inBody inRest := records_andThen (records_staticInit line inBody) inRest
  addMemberType _ _ inMembers inRest := records_andThen (records_type inMembers) inRest
  noStatements := records_skip fun _ _ visited => (Except.ok.inj visited).symm
  addStatement statement _ inNested inRest := by
    obtain ⟨line, endLine, kind, nested⟩ := statement
    exact records_andThen inNested inRest

end RegionWalk

end DocAudit
