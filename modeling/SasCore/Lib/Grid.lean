import Mathlib.Algebra.Ring.Divisibility.Basic
import Mathlib.Algebra.Ring.Int.Defs
import Mathlib.Data.List.Chain
import Mathlib.Tactic.Linarith

set_option autoImplicit false

-- Ranges cut at the multiples of a step.
namespace SasCore.Grid

-- Consecutive proper ranges from low to high, no wider than a step, that meet at the multiples of the step in between.
structure Tiling (low high step : Int) (ranges : List (Int × Int)) : Prop where
  starts : (ranges.map Prod.fst).head? = some low
  ends : (ranges.map Prod.snd).getLast? = some high
  consecutive : ranges.IsChain fun first second => first.2 = second.1
  proper : ∀ range ∈ ranges, range.1 < range.2
  narrow : ∀ range ∈ ranges, range.2 - range.1 ≤ step
  boundaries : ∀ bound, bound ∈ (ranges.map Prod.fst).tail ↔ step ∣ bound ∧ low < bound ∧ bound < high

def Uncrossed (low high step : Int) : Prop := ∀ bound, step ∣ bound → ¬ (low < bound ∧ bound < high)

variable (low mid high step : Int)

-- Two multiples of a step are no closer than the step.
theorem next_multiple (grid : step ∣ low) : Uncrossed low (low + step) step := by
  intro bound isGrid between
  obtain ⟨first, isLow⟩ := grid
  obtain ⟨second, isBound⟩ := isGrid
  rw [isLow, isBound] at between
  have positive : 0 < step := by linarith [between.1, between.2]
  have above : first < second := lt_of_mul_lt_mul_left between.1 positive.le
  have below : second < first + 1 := by
    apply lt_of_mul_lt_mul_left _ positive.le
    linarith [between.2]
  omega

theorem uncrossed_within (inner outer : Int) (uncrossed : Uncrossed low outer step) (within : inner ≤ outer) :
    Uncrossed low inner step := fun bound grid between => uncrossed bound grid ⟨between.1, between.2.trans_le within⟩

theorem tiling_last (proper : low < high) (narrow : high - low ≤ step) (uncrossed : Uncrossed low high step) :
    Tiling low high step [(low, high)] where
  starts := rfl
  ends := rfl
  consecutive := List.isChain_singleton _
  proper := by simpa using proper
  narrow := by simpa using narrow
  boundaries bound := by simpa using uncrossed bound

theorem tiling_cons (ranges : List (Int × Int)) (proper : low < mid) (narrow : mid - low ≤ step) (grid : step ∣ mid)
    (uncrossed : Uncrossed low mid step) (more : mid < high) (rest : Tiling mid high step ranges) :
    Tiling low high step ((low, mid) :: ranges) := by
  cases ranges with
  | nil => cases rest.starts
  | cons next others =>
      have first : next.1 = mid := Option.some.inj rest.starts
      refine ⟨rfl, rest.ends, ?_, ?_, ?_, ?_⟩
      · exact List.isChain_cons_cons.mpr ⟨first.symm, rest.consecutive⟩
      · intro range member
        rcases List.mem_cons.mp member with here | later
        · rw [here]
          exact proper
        · exact rest.proper range later
      · intro range member
        rcases List.mem_cons.mp member with here | later
        · rw [here]
          exact narrow
        · exact rest.narrow range later
      · intro bound
        have others := rest.boundaries bound
        rw [List.map_cons, List.tail_cons, List.map_cons, List.mem_cons, first]
        rw [List.map_cons, List.tail_cons] at others
        rw [others]
        constructor
        · rintro (here | ⟨isGrid, after, before⟩)
          · rw [here]
            exact ⟨grid, proper, more⟩
          · exact ⟨isGrid, proper.trans after, before⟩
        · rintro ⟨isGrid, after, before⟩
          rcases lt_trichotomy bound mid with below | same | above
          · exact absurd ⟨after, below⟩ (uncrossed bound isGrid)
          · exact .inl same
          · exact .inr ⟨isGrid, above, before⟩

end SasCore.Grid
