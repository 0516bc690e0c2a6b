import Mathlib.Algebra.Order.Group.Defs
import Mathlib.Algebra.BigOperators.Group.List.Basic
import Mathlib.Order.Lattice

set_option autoImplicit false

namespace SasCore.Headroom

variable {α K : Type} [AddCommMonoid K]

-- What the held items together put on one constraint.
def load (weight : α → K) (held : List α) : K := (held.map weight).sum

def admitOne (allows : List α → α → Bool) (held : List α) (item : α) : List α :=
  if allows held item then held ++ [item] else held

def admitAll (allows : List α → α → Bool) (held : List α) (items : List α) : List α := items.foldl (admitOne allows) held

theorem load_append (weight : α → K) (held : List α) (item : α) :
    load weight (held ++ [item]) = load weight held + weight item := by
  simp [load, List.sum_append]

variable [LinearOrder K]

-- An admission rule respects a constraint when what it lets in fits under the capacity or weighs nothing. The capacity
-- may depend on what is held.
def Respects (weight : α → K) (capacity : List α → K) (allows : List α → α → Bool) (held : List α) (item : α) : Prop :=
  allows held item = true → weight item = 0 ∨ load weight held + weight item ≤ capacity (held ++ [item])

theorem admit_load (weight : α → K) (capacity : List α → K) (allows : List α → α → Bool) (held : List α) (item : α)
    (respects : Respects weight capacity allows held item) :
    load weight (admitOne allows held item) ≤ max (load weight held) (capacity (admitOne allows held item)) := by
  by_cases allowed : allows held item = true
  · rw [admitOne, if_pos allowed, load_append]
    rcases respects allowed with weightless | fits
    · rw [weightless, add_zero]
      exact le_max_left _ _
    · exact le_max_of_le_right fits
  · rw [admitOne, if_neg allowed]
    exact le_max_left _ _

section Growing

variable (capacity : List α → K) (grows : ∀ held item, capacity held ≤ capacity (held ++ [item]))

include grows

omit [AddCommMonoid K] in
theorem admit_one_grows (allows : List α → α → Bool) (held : List α) (item : α) :
    capacity held ≤ capacity (admitOne allows held item) := by
  unfold admitOne
  split
  · exact grows held item
  · exact le_refl _

omit [AddCommMonoid K] in
theorem admit_all_grows (allows : List α → α → Bool) (held items : List α) :
    capacity held ≤ capacity (admitAll allows held items) := by
  induction items generalizing held with
  | nil => exact le_refl _
  | cons item rest ih => exact (admit_one_grows capacity grows allows held item).trans (ih _)

-- `inv` relates what is held to the items still to come, so a rule may rely on their freshness.
theorem admit_all_load (weight : α → K) (allows : List α → α → Bool) (inv : List α → List α → Prop)
    (next : ∀ held item rest, inv held (item :: rest) → inv (admitOne allows held item) rest)
    (respects : ∀ held item rest, inv held (item :: rest) → Respects weight capacity allows held item)
    (held items : List α) (start : inv held items) :
    load weight (admitAll allows held items) ≤ max (load weight held) (capacity (admitAll allows held items)) := by
  induction items generalizing held with
  | nil => exact le_max_left _ _
  | cons item rest ih =>
      have later := ih (admitOne allows held item) (next held item rest start)
      have here := admit_load weight capacity allows held item (respects held item rest start)
      have grown := admit_all_grows capacity grows allows (admitOne allows held item) rest
      exact later.trans (max_le (here.trans (max_le_max (le_refl _) grown)) (le_max_right _ _))

end Growing

theorem admit_all_invariant (allows : List α → α → Bool) (inv : List α → List α → Prop)
    (next : ∀ held item rest, inv held (item :: rest) → inv (admitOne allows held item) rest)
    (held items rest : List α) (start : inv held (items ++ rest)) : inv (admitAll allows held items) rest := by
  induction items generalizing held with
  | nil => exact start
  | cons item tail ih => exact ih (admitOne allows held item) (next held item (tail ++ rest) start)

end SasCore.Headroom
