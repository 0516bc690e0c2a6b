import Mathlib.Algebra.Order.BigOperators.Group.List
import Mathlib.Algebra.Order.Field.Basic
import Mathlib.Data.Finset.Max
import Mathlib.Tactic.Linarith
import Mathlib.Tactic.Ring

set_option autoImplicit false
set_option linter.unusedSectionVars false

-- Weighted means of a moving window, over a sequence and around a circle of values.
namespace SasCore.Smoothing

variable {K : Type} [Field K] [LinearOrder K] [IsStrictOrderedRing K]

-- The weights laid on a sequence from a place on.
def laid (values : Nat → K) : List K → Nat → K
  | [], _ => 0
  | weight :: rest, place => values place * weight + laid values rest (place + 1)

section Laid

theorem laid_mono (first second : Nat → K) (weights : List K) (nonneg : ∀ weight ∈ weights, 0 ≤ weight) (place : Nat)
    (below : ∀ offset < weights.length, first (place + offset) ≤ second (place + offset)) :
    laid first weights place ≤ laid second weights place := by
  induction weights generalizing place with
  | nil => exact le_refl 0
  | cons weight rest ih =>
      have here := mul_le_mul_of_nonneg_right (below 0 (Nat.succ_pos _)) (nonneg weight List.mem_cons_self)
      have later := ih (fun other member => nonneg other (List.mem_cons_of_mem weight member)) (place + 1) fun offset small => by
        rw [Nat.add_assoc, Nat.add_comm 1 offset]
        exact below (offset + 1) (Nat.succ_lt_succ small)
      exact add_le_add here later

theorem laid_const (value : K) (weights : List K) (place : Nat) : laid (fun _ => value) weights place = value * weights.sum := by
  induction weights generalizing place with
  | nil => rw [laid, List.sum_nil, mul_zero]
  | cons weight rest ih => rw [laid, ih, List.sum_cons, mul_add]

variable (values : Nat → K) (weights : List K) (nonneg : ∀ weight ∈ weights, 0 ≤ weight) (whole : weights.sum = 1) (place : Nat)

include nonneg whole

theorem laid_ge (low : K) (above : ∀ offset < weights.length, low ≤ values (place + offset)) : low ≤ laid values weights place := by
  calc
    low = laid (fun _ => low) weights place := by rw [laid_const, whole, mul_one]
    _ ≤ laid values weights place := laid_mono _ values weights nonneg place above

theorem laid_le (high : K) (below : ∀ offset < weights.length, values (place + offset) ≤ high) :
    laid values weights place ≤ high := by
  calc
    laid values weights place ≤ laid (fun _ => high) weights place := laid_mono values _ weights nonneg place below
    _ = high := by rw [laid_const, whole, mul_one]

-- A mean lies between two of the values that it is taken of.
theorem laid_between (given : weights ≠ []) :
    (∃ lower < weights.length, values (place + lower) ≤ laid values weights place) ∧
      ∃ upper < weights.length, laid values weights place ≤ values (place + upper) := by
  have offsets : (Finset.range weights.length).Nonempty := Finset.nonempty_range_iff.mpr fun none => given (List.length_eq_zero_iff.mp none)
  obtain ⟨lower, lowerIn, least⟩ := Finset.exists_min_image _ (fun offset => values (place + offset)) offsets
  obtain ⟨upper, upperIn, greatest⟩ := Finset.exists_max_image _ (fun offset => values (place + offset)) offsets
  refine ⟨⟨lower, Finset.mem_range.mp lowerIn, ?_⟩, upper, Finset.mem_range.mp upperIn, ?_⟩
  · exact laid_ge values weights nonneg whole place _ fun offset small => least offset (Finset.mem_range.mpr small)
  · exact laid_le values weights nonneg whole place _ fun offset small => greatest offset (Finset.mem_range.mpr small)

end Laid

section Accumulated

-- A loop that adds up what it reads under the weights, in their order.
theorem accumulated (read : Nat → Option K) (values : Nat → K) (weights : List K) (place start : Nat) (sum : K)
    (reads : ∀ offset < weights.length, read (place + (start + offset)) = some (values (place + (start + offset)))) :
    (weights.zipIdx start).foldlM (fun acc entry => (read (place + entry.2)).map fun value => acc + value * entry.1) sum =
      some (sum + laid values weights (place + start)) := by
  induction weights generalizing start sum with
  | nil => rw [laid, add_zero, List.zipIdx_nil, List.foldlM_nil, Option.pure_def]
  | cons weight rest ih =>
      have here := reads 0 (Nat.succ_pos _)
      rw [Nat.add_zero] at here
      have later := ih (start + 1) (sum + values (place + start) * weight) fun offset small => by
        rw [Nat.add_assoc start 1 offset, Nat.add_comm 1 offset]
        exact reads (offset + 1) (Nat.succ_lt_succ small)
      rw [List.zipIdx_cons, List.foldlM_cons, here, Option.map_some, Option.bind_eq_bind, Option.bind_some, later, laid,
        Nat.add_assoc place start 1, add_assoc]

end Accumulated

section Circle

-- The place that so many steps on from another one come to around a circle, from a number of steps behind it.
def turned (count reach place offset : Nat) : Nat := (place + offset + count - reach) % count

-- At most so many steps apart, one way or the other.
def Near (count reach first second : Nat) : Prop :=
  (first + count - second) % count ≤ reach ∨ (second + count - first) % count ≤ reach

-- A list with its end before it and its beginning after it.
def wrapped (reach : Nat) (values : List K) : List K := values.drop (values.length - reach) ++ values ++ values.take reach

theorem wrapped_at (reach : Nat) (values : List K) (enough : reach ≤ values.length) (place : Nat)
    (inside : place < values.length + 2 * reach) :
    (wrapped reach values)[place]? = values[turned values.length reach place 0]? := by
  have lead : (values.drop (values.length - reach)).length = reach := by
    rw [List.length_drop]
    omega
  rw [wrapped, turned, Nat.add_zero]
  by_cases before : place < reach
  · have there : (place + values.length - reach) % values.length = values.length - reach + place := by
      rw [Nat.mod_eq_of_lt (by omega)]
      omega
    rw [there, List.append_assoc, List.getElem?_append_left (by omega), List.getElem?_drop]
  · rw [List.append_assoc, List.getElem?_append_right (by omega), lead]
    by_cases middle : place - reach < values.length
    · have there : (place + values.length - reach) % values.length = place - reach := by
        rw [show place + values.length - reach = place - reach + values.length by omega, Nat.add_mod_right, Nat.mod_eq_of_lt middle]
      rw [there, List.getElem?_append_left middle]
    · have there : (place + values.length - reach) % values.length = place - reach - values.length := by
        rw [show place + values.length - reach = place - reach - values.length + values.length + values.length by omega,
          Nat.add_mod_right, Nat.add_mod_right, Nat.mod_eq_of_lt (by omega)]
      rw [there, List.getElem?_append_right (by omega), List.getElem?_take, if_pos (by omega)]

theorem turned_near (count reach place offset : Nat) (inside : place < count) (enough : reach ≤ count)
    (small : offset ≤ 2 * reach) : Near count reach place (turned count reach place offset) := by
  rcases le_or_gt offset reach with behind | ahead
  · -- The steps back are the reach less the offset.
    refine .inl ?_
    have there : turned count reach place offset = (place + count - (reach - offset)) % count := by
      rw [turned, show place + offset + count - reach = place + count - (reach - offset) by omega]
    have steps : (place + count - turned count reach place offset) % count = (reach - offset) % count := by
      rw [there]
      by_cases crosses : place < reach - offset
      · rw [Nat.mod_eq_of_lt (show place + count - (reach - offset) < count by omega)]
        congr 1
        omega
      · rw [show place + count - (reach - offset) = place - (reach - offset) + count by omega, Nat.add_mod_right,
          Nat.mod_eq_of_lt (show place - (reach - offset) < count by omega),
          show place + count - (place - (reach - offset)) = reach - offset + count by omega, Nat.add_mod_right]
    rw [steps]
    exact le_trans (Nat.mod_le _ _) (Nat.sub_le _ _)
  · refine .inr ?_
    have there : turned count reach place offset = (place + (offset - reach)) % count := by
      rw [turned, show place + offset + count - reach = place + (offset - reach) + count by omega, Nat.add_mod_right]
    have steps : (turned count reach place offset + count - place) % count = (offset - reach) % count := by
      rw [there]
      by_cases crosses : place + (offset - reach) < count
      · rw [Nat.mod_eq_of_lt crosses, show place + (offset - reach) + count - place = offset - reach + count by omega,
          Nat.add_mod_right]
      · rw [show place + (offset - reach) = place + (offset - reach) - count + count by omega, Nat.add_mod_right,
          Nat.mod_eq_of_lt (show place + (offset - reach) - count < count by omega)]
        congr 1
        omega
    rw [steps]
    exact le_trans (Nat.mod_le _ _) (by omega)

-- What the window of a place on the circle takes in.
theorem window_read (reach : Nat) (values : List K) (enough : reach ≤ values.length) (place offset : Nat) (inside : place < values.length)
    (small : offset ≤ 2 * reach) :
    turned values.length reach place offset < values.length ∧
      Near values.length reach place (turned values.length reach place offset) ∧
      (wrapped reach values)[place + offset]? = values[turned values.length reach place offset]? := by
  refine ⟨Nat.mod_lt _ (by omega), ?_, ?_⟩
  · exact turned_near values.length reach place offset inside enough small
  · exact wrapped_at reach values enough (place + offset) (by omega)

end Circle

end SasCore.Smoothing
