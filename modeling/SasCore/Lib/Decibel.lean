import Mathlib.Analysis.SpecialFunctions.Log.Base
import Mathlib.Algebra.Order.BigOperators.Group.List
import Mathlib.Algebra.BigOperators.Ring.List
import Mathlib.Tactic.Linarith
import Mathlib.Tactic.Ring
import Mathlib.Tactic.NormNum

set_option autoImplicit false
set_option linter.unusedSectionVars false

-- Powers of ten and their logarithm over an ordered field, levels in decibels, and means of values.
namespace SasCore.Decibel

structure Scale (K : Type) [Field K] [LinearOrder K] where
  pow10 : K → K
  log10 : K → K
  pow10_pos : ∀ exponent, 0 < pow10 exponent
  pow10_add : ∀ a b, pow10 (a + b) = pow10 a * pow10 b
  pow10_strict : StrictMono pow10
  pow10_log10 : ∀ value, 0 < value → pow10 (log10 value) = value

noncomputable def realScale : Scale ℝ where
  pow10 := fun exponent => ((10 : Nat) : ℝ) ^ exponent
  log10 := Real.logb ((10 : Nat) : ℝ)
  pow10_pos := fun exponent => Real.rpow_pos_of_pos (by norm_num) exponent
  pow10_add := fun a b => Real.rpow_add (by norm_num) a b
  pow10_strict := Real.strictMono_rpow_of_base_gt_one (by norm_num)
  pow10_log10 := fun value positive => Real.rpow_logb (by norm_num) (by norm_num) positive

section Levels

variable {K : Type} [Field K] [LinearOrder K]

def toLinear (scale : Scale K) (level : K) : K := scale.pow10 (level / (10 : Nat))

def toDb (scale : Scale K) (value : K) : K := (10 : Nat) * scale.log10 value

def mean (values : List K) : K := values.sum / values.length

-- The loss of the mean of what the losses let through.
def meanLossDb (scale : Scale K) (losses : List K) : K :=
  -toDb scale (mean (losses.map fun loss => toLinear scale (-loss)))

variable [IsStrictOrderedRing K] (scale : Scale K)

theorem to_linear_pos (level : K) : 0 < toLinear scale level := scale.pow10_pos _

theorem to_linear_add (a b : K) : toLinear scale (a + b) = toLinear scale a * toLinear scale b := by
  rw [toLinear, add_div]
  exact scale.pow10_add _ _

theorem to_linear_strict : StrictMono (toLinear scale) := by
  intro a b less
  have positive : (0 : K) < (10 : Nat) := Nat.cast_pos.mpr (by decide)
  exact scale.pow10_strict (div_lt_div_of_pos_right less positive)

theorem to_linear_to_db (value : K) (positive : 0 < value) : toLinear scale (toDb scale value) = value := by
  have nonzero : ((10 : Nat) : K) ≠ 0 := Nat.cast_ne_zero.mpr (by decide)
  rw [toLinear, toDb, mul_div_cancel_left₀ _ nonzero]
  exact scale.pow10_log10 value positive

theorem to_db_to_linear (level : K) : toDb scale (toLinear scale level) = level :=
  (to_linear_strict scale).injective (to_linear_to_db scale _ (to_linear_pos scale level))

theorem to_db_le (value other : K) (positive : 0 < value) (less : value ≤ other) : toDb scale value ≤ toDb scale other := by
  refine (to_linear_strict scale).le_iff_le.mp ?_
  rwa [to_linear_to_db scale value positive, to_linear_to_db scale other (positive.trans_le less)]

theorem to_db_mul (value level : K) (positive : 0 < value) :
    toDb scale (toLinear scale level * value) = level + toDb scale value := by
  apply (to_linear_strict scale).injective
  have product := mul_pos (to_linear_pos scale level) positive
  rw [to_linear_to_db scale _ product, to_linear_add, to_linear_to_db scale value positive]

end Levels

section Means

variable {K : Type} [Field K] [LinearOrder K] [IsStrictOrderedRing K] (values : List K) (nonempty : values ≠ [])

include nonempty

theorem length_pos : (0 : K) < values.length := Nat.cast_pos.mpr (List.length_pos_iff.mpr nonempty)

theorem mean_ge (low : K) (above : ∀ value ∈ values, low ≤ value) : low ≤ mean values := by
  rw [mean, le_div_iff₀ (length_pos values nonempty), mul_comm, ← nsmul_eq_mul]
  exact List.card_nsmul_le_sum values low above

theorem mean_le (high : K) (below : ∀ value ∈ values, value ≤ high) : mean values ≤ high := by
  rw [mean, div_le_iff₀ (length_pos values nonempty), mul_comm, ← nsmul_eq_mul]
  exact List.sum_le_card_nsmul values high below

theorem mean_pos (above : ∀ value ∈ values, 0 < value) : 0 < mean values :=
  div_pos (List.sum_pos values above nonempty) (length_pos values nonempty)

omit nonempty [LinearOrder K] [IsStrictOrderedRing K] in
theorem mean_scaled (factor : K) : mean (values.map fun value => factor * value) = factor * mean values := by
  rw [mean, mean, List.sum_map_mul_left, List.length_map, List.map_id', mul_div_assoc]

end Means

section MeanLoss

variable {K : Type} [Field K] [LinearOrder K] [IsStrictOrderedRing K] (scale : Scale K)
variable (losses : List K) (nonempty : losses ≠ [])

include nonempty

theorem passed_ne_nil : (losses.map fun loss => toLinear scale (-loss)) ≠ [] := by
  simpa using nonempty

theorem passed_pos : 0 < mean (losses.map fun loss => toLinear scale (-loss)) := by
  refine mean_pos _ (passed_ne_nil scale losses nonempty) fun value member => ?_
  obtain ⟨loss, _, rfl⟩ := List.mem_map.mp member
  exact to_linear_pos scale _

theorem mean_loss_shift (extra : K) :
    meanLossDb scale (losses.map (· + extra)) = meanLossDb scale losses + extra := by
  have passed : ∀ loss, toLinear scale (-(loss + extra)) = toLinear scale (-extra) * toLinear scale (-loss) := by
    intro loss
    rw [← to_linear_add, neg_add_rev]
  have scaled := mean_scaled (losses.map fun loss => toLinear scale (-loss)) (toLinear scale (-extra))
  simp only [List.map_map, Function.comp_def] at scaled
  simp only [meanLossDb, List.map_map, Function.comp_def, passed]
  rw [scaled, to_db_mul scale _ _ (passed_pos scale losses nonempty)]
  ring

theorem mean_loss_ge (low : K) (above : ∀ loss ∈ losses, low ≤ loss) : low ≤ meanLossDb scale losses := by
  have below : mean (losses.map fun loss => toLinear scale (-loss)) ≤ toLinear scale (-low) := by
    refine mean_le _ (passed_ne_nil scale losses nonempty) _ fun value member => ?_
    obtain ⟨loss, among, rfl⟩ := List.mem_map.mp member
    exact (to_linear_strict scale).monotone (neg_le_neg (above loss among))
  have level := to_db_le scale _ _ (passed_pos scale losses nonempty) below
  rw [to_db_to_linear] at level
  rw [meanLossDb]
  linarith

theorem mean_loss_le (high : K) (below : ∀ loss ∈ losses, loss ≤ high) : meanLossDb scale losses ≤ high := by
  have above : toLinear scale (-high) ≤ mean (losses.map fun loss => toLinear scale (-loss)) := by
    refine mean_ge _ (passed_ne_nil scale losses nonempty) _ fun value member => ?_
    obtain ⟨loss, among, rfl⟩ := List.mem_map.mp member
    exact (to_linear_strict scale).monotone (neg_le_neg (below loss among))
  have level := to_db_le scale _ _ (to_linear_pos scale _) above
  rw [to_db_to_linear] at level
  rw [meanLossDb]
  linarith

end MeanLoss

end SasCore.Decibel
