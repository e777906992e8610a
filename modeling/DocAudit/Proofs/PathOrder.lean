import DocAudit.Audit

set_option autoImplicit false

namespace DocAudit

namespace Path

theorem compareNames_eq : compareNames = List.compareLex (compareOn Char.toNat) := by
  funext a b
  fun_induction compareNames a b with
  | case1 => rfl
  | case2 => rfl
  | case3 => rfl
  | case4 a as b bs less =>
    simp [List.compareLex_cons_cons, compareOn, Nat.compare_eq_lt.mpr less]
  | case5 a as b bs _ greater =>
    simp [List.compareLex_cons_cons, compareOn, Nat.compare_eq_gt.mpr greater]
  | case6 a as b bs notLess notGreater ih =>
    have same : a.toNat = b.toNat := by omega
    simp [List.compareLex_cons_cons, compareOn, Nat.compare_eq_eq.mpr same, ih]

instance : Std.TransCmp (compareOn Char.toNat) where
  eq_swap := Std.OrientedOrd.eq_swap
  isLE_trans := Std.TransOrd.isLE_trans

instance : Std.LawfulEqCmp (compareOn Char.toNat) where
  compare_self := Std.ReflOrd.compare_self
  eq_of_compare same := Char.toNat_inj.mp (Std.LawfulEqOrd.eq_of_compare same)

instance : Std.TransCmp compareNames := compareNames_eq ▸ inferInstance

instance : Std.LawfulEqCmp compareNames := compareNames_eq ▸ inferInstance

instance : Std.TransCmp compareComponent where
  eq_swap {a b} := by
    have names (a b : List Char) : compareNames a b = (compareNames b a).swap :=
      Std.OrientedCmp.eq_swap
    cases a <;> cases b <;> first | rfl | exact names _ _
  isLE_trans {a b c} first second := by
    have names {a b c : List Char} (first : (compareNames a b).isLE = true)
        (second : (compareNames b c).isLE = true) : (compareNames a c).isLE = true :=
      Std.TransCmp.isLE_trans first second
    cases a <;> cases b <;> cases c <;>
      first
        | rfl
        | exact absurd first Bool.false_ne_true
        | exact absurd second Bool.false_ne_true
        | exact names first second

instance : Std.LawfulEqCmp compareComponent where
  compare_self {a} := by
    have names (a : List Char) : compareNames a a = .eq := Std.ReflCmp.compare_self
    cases a <;> first | rfl | exact names _
  eq_of_compare {a b} same := by
    have names {a b : List Char} (same : compareNames a b = .eq) : a = b :=
      Std.LawfulEqCmp.eq_of_compare same
    cases a <;> cases b <;>
      first
        | rfl
        | exact congrArg PathComponent.named (names same)
        | cases same

theorem compareComponents_eq : compareComponents = List.compareLex compareComponent := by
  funext a b
  induction a generalizing b with
  | nil => cases b <;> rfl
  | cons head tail ih =>
    cases b with
    | nil => rfl
    | cons other rest =>
      rw [compareComponents, List.compareLex_cons_cons]
      cases compareComponent head other with
      | lt => rfl
      | eq => exact ih rest
      | gt => rfl

instance : Std.TransCmp compareComponents := compareComponents_eq ▸ inferInstance

instance : Std.LawfulEqCmp compareComponents := compareComponents_eq ▸ inferInstance

instance : Std.TransCmp order where
  eq_swap := show compareComponents _ _ = _ from Std.OrientedCmp.eq_swap
  isLE_trans first second :=
    show (compareComponents _ _).isLE = true from Std.TransCmp.isLE_trans first second

theorem order_eq_iff {a b : Path} : a.order b = .eq ↔ a.components = b.components :=
  show compareComponents _ _ = .eq ↔ _ from Std.LawfulEqCmp.compare_eq_iff_eq

theorem mem_of_mem_dropRepeats {paths : List Path} {path : Path}
    (member : path ∈ dropRepeats paths) : path ∈ paths := by
  fun_induction dropRepeats paths with
  | case1 a b rest same ih => grind
  | case2 a b rest apart ih => grind
  | case3 paths single => exact member

-- What is left out has the components of something that is kept.
theorem exists_mem_dropRepeats {paths : List Path} {path : Path} (member : path ∈ paths) :
    ∃ kept ∈ dropRepeats paths, kept.order path = .eq := by
  fun_induction dropRepeats paths generalizing path with
  | case1 a b rest same ih =>
    rcases List.mem_cons.mp member with rfl | member
    · exact ih List.mem_cons_self
    · rcases List.mem_cons.mp member with rfl | member
      · obtain ⟨kept, held, equal⟩ := ih List.mem_cons_self
        exact ⟨kept, held, Std.TransCmp.eq_trans equal (beq_iff_eq.mp same)⟩
      · exact ih (List.mem_cons_of_mem a member)
  | case2 a b rest apart ih =>
    rcases List.mem_cons.mp member with rfl | member
    · exact ⟨path, List.mem_cons_self, Std.ReflCmp.compare_self⟩
    · obtain ⟨kept, held, equal⟩ := ih member
      exact ⟨kept, List.mem_cons_of_mem a held, equal⟩
  | case3 paths single => exact ⟨path, member, Std.ReflCmp.compare_self⟩

theorem dropRepeats_increasing {paths : List Path}
    (sorted : paths.Pairwise fun a b => (a.order b).isLE = true) :
    (dropRepeats paths).Pairwise fun a b => a.order b = .lt := by
  fun_induction dropRepeats paths with
  | case1 a b rest same ih =>
    exact ih (sorted.sublist ((List.sublist_cons_self b rest).cons_cons a))
  | case2 a b rest apart ih =>
    obtain ⟨above, sortedRest⟩ := List.pairwise_cons.mp sorted
    refine List.pairwise_cons.mpr ⟨fun other member => ?_, ih sortedRest⟩
    have next : a.order b = .lt := by
      have := above b List.mem_cons_self
      cases found : a.order b <;> simp_all
    rcases List.mem_cons.mp (mem_of_mem_dropRepeats member) with rfl | member
    · exact next
    · exact Std.TransCmp.lt_of_lt_of_isLE next ((List.pairwise_cons.mp sortedRest).1 other member)
  | case3 paths single =>
    match paths with
    | [] => exact .nil
    | [path] => exact List.pairwise_singleton _ path
    | a :: b :: rest => exact absurd rfl (single a b rest)

theorem sorted_increasing (paths : List Path) :
    (sorted paths).Pairwise fun a b => a.order b = .lt := by
  have reflects : (fun a b : Path => a.order b != .gt) = fun a b => (a.order b).isLE := by
    funext a b
    cases a.order b <;> rfl
  rw [sorted, reflects]
  refine dropRepeats_increasing (List.pairwise_mergeSort ?_ ?_ paths)
  next => exact fun a b c => Std.TransCmp.isLE_trans
  next =>
    intro a b
    have swapped : b.order a = (a.order b).swap := Std.OrientedCmp.eq_swap
    rw [swapped]
    cases a.order b <;> rfl

theorem dropRepeats_of_increasing {paths : List Path}
    (increasing : paths.Pairwise fun a b => a.order b = .lt) : dropRepeats paths = paths := by
  fun_induction dropRepeats paths with
  | case1 a b rest same ih =>
    have next := (List.pairwise_cons.mp increasing).1 b List.mem_cons_self
    simp [next] at same
  | case2 a b rest apart ih => rw [ih (List.pairwise_cons.mp increasing).2]
  | case3 paths single => rfl

theorem sorted_of_increasing {paths : List Path}
    (increasing : paths.Pairwise fun a b => a.order b = .lt) : sorted paths = paths := by
  rw [sorted, List.mergeSort_of_pairwise (increasing.imp fun less => by simp [less]),
    dropRepeats_of_increasing increasing]

theorem mem_sorted {paths : List Path} {path : Path}
    (distinct : ∀ a ∈ paths, ∀ b ∈ paths, a.order b = .eq → a = b) :
    path ∈ sorted paths ↔ path ∈ paths := by
  constructor
  next => exact fun member => List.mem_mergeSort.mp (mem_of_mem_dropRepeats member)
  next =>
    intro member
    obtain ⟨kept, held, equal⟩ := exists_mem_dropRepeats (List.mem_mergeSort.mpr member)
    have inPaths := List.mem_mergeSort.mp (mem_of_mem_dropRepeats held)
    exact distinct kept inPaths path member equal ▸ held

end Path

end DocAudit
