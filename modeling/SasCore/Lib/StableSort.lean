import Mathlib.Data.List.Basic

set_option autoImplicit false

-- A stable sort and the selections of its elements.
namespace SasCore.StableSort

variable {α : Type} (le : α → α → Bool)

theorem split_unique (later : α → Bool) (front back otherFront otherBack : List α)
    (first : ∀ a ∈ front, later a = false) (last : ∀ a ∈ back, later a = true)
    (otherFirst : ∀ a ∈ otherFront, later a = false) (otherLast : ∀ a ∈ otherBack, later a = true)
    (same : front ++ back = otherFront ++ otherBack) : front = otherFront ∧ back = otherBack := by
  have clash : ∀ a, later a = false → later a = true → False := by
    intro a isFirst isLast
    rw [isFirst] at isLast
    cases isLast
  rcases List.append_eq_append_iff.mp same with ⟨middle, isOther, rest⟩ | ⟨middle, isFront, rest⟩
  · cases middle with
    | nil => exact ⟨by simpa using isOther.symm, by simpa using rest⟩
    | cons a others =>
        exact absurd (last a (by rw [rest]; simp)) fun isLast => clash a (otherFirst a (by rw [isOther]; simp)) isLast
  · cases middle with
    | nil => exact ⟨by simpa using isFront, by simpa using rest.symm⟩
    | cons a others =>
        exact absurd (otherLast a (by rw [rest]; simp)) fun isLast => clash a (first a (by rw [isFront]; simp)) isLast

section Order

variable (trans : ∀ a b c, le a b = true → le b c = true → le a c = true) (total : ∀ a b, (le a b || le b a) = true)

include trans total

-- Selecting sorted elements is sorting the selected ones.
theorem filter_sort (selected : α → Bool) (values : List α) :
    (values.mergeSort le).filter selected = (values.filter selected).mergeSort le := by
  induction values with
  | nil => simp
  | cons a rest ih =>
      obtain ⟨front, back, whole, tail, before⟩ := List.mergeSort_cons trans total a rest
      by_cases here : selected a = true
      · obtain ⟨others, last, wholeSelected, tailSelected, beforeSelected⟩ :=
          List.mergeSort_cons trans total a (rest.filter selected)
        have sorted : (front ++ a :: back).Pairwise fun b c => le b c = true := whole ▸ List.pairwise_mergeSort trans total _
        have sortedSelected : (others ++ a :: last).Pairwise fun b c => le b c = true :=
          wholeSelected ▸ List.pairwise_mergeSort trans total _
        have after : ∀ b ∈ back, le a b = true := (List.pairwise_cons.mp (List.pairwise_append.mp sorted).2.1).1
        have afterSelected : ∀ b ∈ last, le a b = true :=
          (List.pairwise_cons.mp (List.pairwise_append.mp sortedSelected).2.1).1
        have joined : front.filter selected ++ back.filter selected = others ++ last := by
          rw [← List.filter_append, ← tail, ih, tailSelected]
        obtain ⟨sameFront, sameBack⟩ := split_unique (le a) _ _ _ _
          (fun b member => by simpa using before b (List.mem_filter.mp member).1)
          (fun b member => after b (List.mem_filter.mp member).1)
          (fun b member => by simpa using beforeSelected b member) afterSelected joined
        rw [whole, List.filter_append, List.filter_cons_of_pos here, List.filter_cons_of_pos here, wholeSelected, sameFront, sameBack]
      · rw [whole, List.filter_append, List.filter_cons_of_neg here, List.filter_cons_of_neg here, ← List.filter_append, ← tail, ih]

-- Elements that the order does not tell apart stay in their order.
theorem filter_sort_equal (selected : α → Bool) (values : List α)
    (equal : ∀ a ∈ values, ∀ b ∈ values, selected a = true → selected b = true → le a b = true) :
    (values.mergeSort le).filter selected = values.filter selected := by
  rw [filter_sort le trans total selected values]
  refine List.mergeSort_of_pairwise (List.pairwise_of_forall_mem_list fun a inA b inB => ?_)
  obtain ⟨memberA, isA⟩ := List.mem_filter.mp inA
  obtain ⟨memberB, isB⟩ := List.mem_filter.mp inB
  exact equal a memberA b memberB isA isB

end Order

end SasCore.StableSort
