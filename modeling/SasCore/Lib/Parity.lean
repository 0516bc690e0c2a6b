import Mathlib.Data.List.Basic

set_option autoImplicit false

namespace SasCore.Parity

variable {α β : Type}

-- Whether an odd number of items satisfies the predicate.
def parity (p : α → Bool) : List α → Bool
  | [] => false
  | item :: rest => p item != parity p rest

-- Neighbours in a list.
def steps (items : List α) : List (α × α) := items.zip items.tail

section Counting

variable (p q : α → Bool)

theorem toggled_parity (items : List α) (start : Bool) :
    items.foldl (fun inside item => if p item then !inside else inside) start = (start != parity p items) := by
  induction items generalizing start with
  | nil => simp [parity]
  | cons item rest ih =>
      rw [List.foldl_cons, ih, parity]
      cases p item <;> cases start <;> cases parity p rest <;> rfl

theorem parity_append (first second : List α) : parity p (first ++ second) = (parity p first != parity p second) := by
  induction first with
  | nil => simp [parity]
  | cons item rest ih =>
      rw [List.cons_append, parity, parity, ih]
      cases p item <;> cases parity p rest <;> cases parity p second <;> rfl

theorem parity_xor (items : List α) : parity (fun item => p item != q item) items = (parity p items != parity q items) := by
  induction items with
  | nil => rfl
  | cons item rest ih =>
      rw [parity, parity, parity, ih]
      cases p item <;> cases q item <;> cases parity p rest <;> cases parity q rest <;> rfl

theorem parity_congr (items : List α) (same : ∀ item ∈ items, p item = q item) : parity p items = parity q items := by
  induction items with
  | nil => rfl
  | cons item rest ih =>
      rw [parity, parity, same item List.mem_cons_self, ih fun other member => same other (List.mem_cons_of_mem item member)]

theorem parity_map {γ : Type} (f : γ → α) (items : List γ) : parity p (items.map f) = parity (fun item => p (f item)) items := by
  induction items with
  | nil => rfl
  | cons item rest ih => rw [List.map_cons, parity, parity, ih]

theorem parity_none (items : List α) (none : ∀ item ∈ items, p item = false) : parity p items = false := by
  induction items with
  | nil => rfl
  | cons item rest ih =>
      rw [parity, none item List.mem_cons_self, ih fun other member => none other (List.mem_cons_of_mem item member)]
      rfl

theorem parity_exists (items : List α) (odd : parity p items = true) : ∃ item ∈ items, p item = true := by
  by_contra absent
  have none := parity_none p items fun item member =>
    (Bool.not_eq_true _).mp fun holds => absent ⟨item, member, holds⟩
  rw [odd] at none
  cases none

theorem parity_differ (items : List α) (differ : parity p items ≠ parity q items) : ∃ item ∈ items, p item ≠ q item := by
  by_contra absent
  refine differ (parity_congr p q items fun item member => ?_)
  by_contra other
  exact absent ⟨item, member, other⟩

end Counting

section Chains

variable (f : α → Bool)

-- Along a chain the changes of a flag add up to the change between its ends.
theorem parity_steps (first : α) (rest : List α) :
    parity (fun step => f step.1 != f step.2) (steps (first :: rest)) =
      (f first != f ((first :: rest).getLast (List.cons_ne_nil first rest))) := by
  induction rest generalizing first with
  | nil => simp [steps, parity]
  | cons second others ih =>
      have tail := ih second
      rw [steps, List.tail_cons] at tail
      rw [steps, List.tail_cons, List.zip_cons_cons, parity, tail, List.getLast_cons_cons]
      cases f first <;> cases f second <;> cases f ((second :: others).getLast (List.cons_ne_nil second others)) <;> rfl

theorem parity_closed (items : List α) (closed : items.head? = items.getLast?) :
    parity (fun step => f step.1 != f step.2) (steps items) = false := by
  cases items with
  | nil => rfl
  | cons first rest =>
      rw [List.head?_cons, List.getLast?_eq_some_getLast (List.cons_ne_nil first rest), Option.some.injEq] at closed
      rw [parity_steps, ← closed, bne_self_eq_false]

end Chains

theorem steps_mem (items : List α) (step : α × α) (member : step ∈ steps items) : step.1 ∈ items ∧ step.2 ∈ items := by
  have both := List.of_mem_zip (a := step.1) (b := step.2) member
  exact ⟨both.1, List.mem_of_mem_tail both.2⟩

end SasCore.Parity
