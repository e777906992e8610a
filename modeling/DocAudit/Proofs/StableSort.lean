import Mathlib.Data.List.Pairwise

set_option autoImplicit false

namespace DocAudit

theorem filter_mergeSort {α : Type} {le : α → α → Bool}
    (trans : ∀ a b c, le a b = true → le b c = true → le a c = true)
    (total : ∀ a b, (le a b || le b a) = true) {p : α → Bool}
    (alike : ∀ a b, p a = true → p b = true → le a b = true) (entries : List α) :
    (entries.mergeSort le).filter p = entries.filter p := by
  have ordered : (entries.filter p).Pairwise fun a b => le a b = true :=
    List.pairwise_of_forall_mem_list fun a inA b inB =>
      alike a b (List.mem_filter.mp inA).2 (List.mem_filter.mp inB).2
  have kept : (entries.filter p).Sublist (entries.mergeSort le) :=
    List.sublist_mergeSort trans total ordered List.filter_sublist
  have among : (entries.filter p).Sublist ((entries.mergeSort le).filter p) := by
    simpa using kept.filter p
  refine (among.eq_of_length ?_).symm
  exact ((List.mergeSort_perm ..).filter _).length_eq.symm

end DocAudit
