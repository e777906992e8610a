import DocAudit.Proofs.TreeSearch

set_option autoImplicit false

namespace DocAudit

namespace Path

theorem segmentsFrom_tail {current text segment after : List Char}
    {tail : List (List Char × List Char)}
    (cut : segmentsFrom current text = (segment, after) :: tail) : tail = segments after := by
  induction text generalizing current with
  | nil =>
    cases current with
    | nil => cases cut
    | cons c current =>
      cases cut
      rfl
  | cons c rest ih =>
    by_cases slash : c = '/'
    next =>
      subst slash
      cases current with
      | nil => exact ih cut
      | cons c current =>
        cases cut
        rfl
    next =>
      rw [segmentsFrom, if_neg slash] at cut
      exact ih cut

-- Segments that are no components are passed over, so the induction is on all of them.
theorem bodyComponents_tail {text after : List Char} {component : PathComponent}
    {parts : List (PathComponent × List Char)}
    (cut : bodyComponents text = (component, after) :: parts) : parts = bodyComponents after := by
  unfold bodyComponents at cut
  generalize whole : segments text = found at cut
  induction found generalizing text with
  | nil => cases cut
  | cons first tail ih =>
    obtain ⟨segment, rest⟩ := first
    have behind := segmentsFrom_tail whole
    cases isComponent : componentOf segment with
    | none =>
      rw [List.filterMap_cons_none (by simp [isComponent])] at cut
      exact ih behind.symm cut
    | some here =>
      rw [List.filterMap_cons_some (by simp [isComponent]; rfl)] at cut
      cases cut
      rw [behind]
      rfl

theorem componentsWithRest_tail {text after : List Char} {component : PathComponent}
    {parts : List (PathComponent × List Char)}
    (cut : componentsWithRest text = (component, after) :: parts) :
    parts = bodyComponents after := by
  unfold componentsWithRest at cut
  split at cut
  next =>
    cases cut
    rfl
  next =>
    dsimp only at cut
    split at cut
    next =>
      cases cut
      rfl
    next => exact bodyComponents_tail cut

theorem components_relative {text : List Char} (relative : text.head? ≠ some '/') :
    components ⟨text⟩ =
      if (nextSegment text).1 = ['.'] then
        .current :: (bodyComponents (nextSegment text).2).map (·.1)
      else (bodyComponents text).map (·.1) := by
  unfold components componentsWithRest
  split
  next rest begins => exact absurd (congrArg List.head? begins) relative
  next =>
    simp only [beq_iff_eq]
    split <;> rfl

theorem nextSegment_append (text tail : List Char) :
    nextSegment (text ++ '/' :: tail) =
      ((nextSegment text).1, (nextSegment text).2 ++ '/' :: tail) := by
  induction text with
  | nil => rfl
  | cons c rest ih =>
    obtain ⟨first, second⟩ := Prod.mk.inj ih
    by_cases slash : c = '/' <;> simp_all [nextSegment]

-- What is left of a text once its front is trimmed starts with a name or with two dots.
theorem components_trimFront (text : List Char) :
    components ⟨trimFront text⟩ = (bodyComponents text).map (·.1) := by
  fun_induction trimFront text with
  | case1 => rfl
  | case2 rest ih => exact ih
  | case3 rest ih => exact ih
  | case4 => rfl
  | case5 text nonempty slash dotSlash dot =>
    have relative : text.head? ≠ some '/' := by
      intro absolute
      obtain ⟨rest, rfl⟩ := List.head?_eq_some_iff.mp absolute
      exact slash rest rfl
    have notDot : (nextSegment text).1 ≠ ['.'] := by
      intro first
      obtain ⟨c, rest, rfl⟩ := List.exists_cons_of_ne_nil nonempty
      simp only [nextSegment, List.takeWhile_cons] at first
      split at first
      next =>
        obtain ⟨rfl, alone⟩ := List.cons.inj first
        cases rest with
        | nil => exact dot rfl
        | cons d rest =>
          have behind : d = '/' := by simpa [List.takeWhile_cons] using alone
          exact dotSlash rest (by rw [behind])
      next => cases first
    rw [components_relative relative, if_neg notDot]

-- A slash and no component behind it add nothing to a path.
theorem components_append {text tail : List Char} (nonempty : text ≠ []) (absent : '/' ∉ tail)
    (blank : componentOf tail = none) :
    components ⟨text ++ '/' :: tail⟩ = components ⟨text⟩ := by
  have body (front : List Char) :
      (bodyComponents (front ++ '/' :: tail)).map (·.1) = (bodyComponents front).map (·.1) := by
    rw [bodyComponents_parts, bodyComponents_parts, Text.split_append, Text.split_of_notMem absent,
      List.filterMap_append, List.filterMap_cons_none blank, List.filterMap_nil, List.append_nil]
  obtain ⟨c, rest, rfl⟩ := List.exists_cons_of_ne_nil nonempty
  by_cases slash : c = '/'
  next =>
    subst slash
    exact congrArg (PathComponent.root :: ·) (body rest)
  next =>
    have relative : (c :: rest).head? ≠ some '/' := by simpa using slash
    rw [components_relative (by simpa using slash), components_relative relative,
      nextSegment_append, body, body]

theorem components_trimBackReversed (text : List Char) :
    components ⟨(trimBackReversed text).reverse⟩ = components ⟨text.reverse⟩ := by
  fun_induction trimBackReversed text with
  | case1 => rfl
  | case2 rest nonempty ih =>
    have more : rest.reverse ≠ [] := by simpa using nonempty
    rw [ih, List.reverse_cons, components_append more List.not_mem_nil rfl]
  | case3 => rfl
  | case4 rest nonempty ih =>
    have more : rest.reverse ≠ [] := by simpa using nonempty
    have dotted : ('.' :: '/' :: rest).reverse = rest.reverse ++ '/' :: ['.'] := by simp
    rw [ih, dotted, components_append more (by decide) rfl]
  | case5 => rfl

theorem components_trimBack (text : List Char) :
    components ⟨trimBack text⟩ = components ⟨text⟩ := by
  rw [trimBack, components_trimBackReversed, List.reverse_reverse]

-- Each component that is taken off leaves a text with the components behind it.
theorem components_restAfter {base : List PathComponent} {parts : List (PathComponent × List Char)}
    {text rest : List Char} (cut : restAfter base parts text = some rest)
    (here : components ⟨text⟩ = parts.map (·.1))
    (below : ∀ component after tail, parts = (component, after) :: tail →
      tail = bodyComponents after) :
    parts.map (·.1) = base ++ components ⟨rest⟩ := by
  induction base generalizing parts text with
  | nil =>
    cases cut
    exact here.symm
  | cons component base ih =>
    match parts with
    | [] => cases cut
    | (found, after) :: tail =>
      rw [restAfter] at cut
      split at cut
      next same =>
        have behind := below found after tail rfl
        have later := ih cut (by rw [components_trimFront, behind]) fun _ _ _ split =>
          bodyComponents_tail (behind.symm.trans split)
        rw [List.map_cons, later, same, List.cons_append]
      next => cases cut

theorem components_relativeTo? {path base relative : Path}
    (below : path.relativeTo? base = some relative) :
    path.components = base.components ++ relative.components := by
  obtain ⟨rest, cut, rfl⟩ := Option.map_eq_some_iff.mp below
  rw [components_trimBack]
  exact components_restAfter cut rfl fun _ _ _ => componentsWithRest_tail

theorem root_notMem_parts (parts : List (List Char)) :
    PathComponent.root ∉ parts.filterMap componentOf := by
  rw [List.mem_filterMap]
  rintro ⟨part, _, found⟩
  unfold componentOf at found
  split at found
  next => cases found
  next => split at found <;> cases found

-- A path that does not lie below the root stays absolute, and what lies below it does not.
theorem components_relativeTo_ne {path other base relative : Path}
    (absolute : path.isAbsolute = true) (absoluteOther : other.isAbsolute = true)
    (below : path.relativeTo? base = some relative) (outside : other.relativeTo? base = none) :
    relative.components ≠ other.components := by
  intro same
  have whole := components_relativeTo? below
  rw [same, components_absolute absolute, components_absolute absoluteOther] at whole
  cases root : base.components with
  | nil => simp [relativeTo?, root, restAfter] at outside
  | cons first more =>
    rw [root, List.cons_append] at whole
    have inside := (List.cons.inj whole).2
    exact root_notMem_parts (Text.split '/' path.text) (inside ▸ by simp)

theorem relativeTo_inj {path other base : Path} (absolute : path.isAbsolute = true)
    (absoluteOther : other.isAbsolute = true)
    (same : (path.relativeTo base).components = (other.relativeTo base).components) :
    path.components = other.components := by
  unfold relativeTo at same
  cases here : path.relativeTo? base with
  | none =>
    cases there : other.relativeTo? base with
    | none => simpa [here, there] using same
    | some relative =>
      simp only [here, there, Option.getD_none, Option.getD_some] at same
      exact absurd same.symm (components_relativeTo_ne absoluteOther absolute there here)
  | some relative =>
    cases there : other.relativeTo? base with
    | none =>
      simp only [here, there, Option.getD_none, Option.getD_some] at same
      exact absurd same (components_relativeTo_ne absolute absoluteOther here there)
    | some relativeOther =>
      simp only [here, there, Option.getD_some] at same
      rw [components_relativeTo? here, components_relativeTo? there, same]

end Path

end DocAudit
