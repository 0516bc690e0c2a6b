import Mathlib.Algebra.Order.BigOperators.Group.List
import Mathlib.Algebra.Order.Field.Basic
import Mathlib.Algebra.Order.Round
import Mathlib.Data.Int.Log
import Mathlib.Tactic.Linarith
import Mathlib.Tactic.Ring
import Mathlib.Tactic.NormNum

set_option autoImplicit false
set_option linter.unusedSectionVars false

namespace SasCore.Rounding

variable {K : Type} [Field K] [LinearOrder K]

-- Rounded arithmetic: what an operation yields is its exact result up to a relative error of at most `unit`.
structure RoundedArith (K : Type) [Field K] [LinearOrder K] where
  fl : K → K
  unit : K
  unit_nonneg : 0 ≤ unit
  unit_lt_one : unit < 1
  near : ∀ value, |fl value - value| ≤ unit * |value|

-- What is left of a value that every rounding makes smaller.
def RoundedArith.keep (arith : RoundedArith K) : K := 1 - arith.unit

-- A sum in the order of the list, rounded after every addition.
def RoundedArith.total (arith : RoundedArith K) (start : K) (values : List K) : K :=
  values.foldl (fun sum value => arith.fl (sum + value)) start

-- Two values that are apart by no more than a number of roundings.
def RoundedArith.Within (arith : RoundedArith K) (steps : Nat) (exact computed : K) : Prop :=
  arith.keep ^ steps * exact ≤ computed ∧ arith.keep ^ steps * computed ≤ exact

section Bounds

variable [IsStrictOrderedRing K] (arith : RoundedArith K)

theorem keep_pos : 0 < arith.keep := sub_pos.mpr arith.unit_lt_one

theorem keep_le_one : arith.keep ≤ 1 := sub_le_self 1 arith.unit_nonneg

theorem keep_pow_nonneg (steps : Nat) : 0 ≤ arith.keep ^ steps := pow_nonneg (keep_pos arith).le steps

theorem keep_pow_le_one (steps : Nat) : arith.keep ^ steps ≤ 1 := pow_le_one₀ (keep_pos arith).le (keep_le_one arith)

-- A rounding is undone, as a bound, by one more factor `keep`.
theorem keep_stretch (value : K) (nonneg : 0 ≤ value) : arith.keep * ((1 + arith.unit) * value) ≤ value := by
  have square : arith.keep * ((1 + arith.unit) * value) = value - arith.unit ^ 2 * value := by
    rw [RoundedArith.keep]
    ring
  rw [square]
  exact sub_le_self value (mul_nonneg (sq_nonneg _) nonneg)

theorem fl_ge (value : K) (nonneg : 0 ≤ value) : arith.keep * value ≤ arith.fl value := by
  have near := (abs_le.mp (arith.near value)).1
  rw [abs_of_nonneg nonneg] at near
  rw [RoundedArith.keep]
  linarith

theorem keep_fl_le (value : K) (nonneg : 0 ≤ value) : arith.keep * arith.fl value ≤ value := by
  have near := (abs_le.mp (arith.near value)).2
  rw [abs_of_nonneg nonneg] at near
  refine (mul_le_mul_of_nonneg_left ?_ (keep_pos arith).le).trans (keep_stretch arith value nonneg)
  linarith

theorem fl_le_of_nonpos (value : K) (nonpos : value ≤ 0) : arith.fl value ≤ arith.keep * value := by
  have near := (abs_le.mp (arith.near value)).2
  rw [abs_of_nonpos nonpos] at near
  rw [RoundedArith.keep]
  linarith

theorem le_keep_fl_of_nonpos (value : K) (nonpos : value ≤ 0) : value ≤ arith.keep * arith.fl value := by
  have near := (abs_le.mp (arith.near value)).1
  rw [abs_of_nonpos nonpos] at near
  have stretch := keep_stretch arith (-value) (neg_nonneg.mpr nonpos)
  have grown := mul_le_mul_of_nonneg_left (show (1 + arith.unit) * value ≤ arith.fl value by linarith) (keep_pos arith).le
  linarith

theorem within_refl (value : K) : arith.Within 0 value value := by
  rw [RoundedArith.Within, pow_zero, one_mul]
  exact ⟨le_rfl, le_rfl⟩

theorem within_nonneg {steps : Nat} {exact computed : K} (close : arith.Within steps exact computed) (nonneg : 0 ≤ exact) :
    0 ≤ computed :=
  (mul_nonneg (keep_pow_nonneg arith steps) nonneg).trans close.1

theorem within_mono {steps more : Nat} {exact computed : K} (close : arith.Within steps exact computed) (nonneg : 0 ≤ exact)
    (fewer : steps ≤ more) : arith.Within more exact computed := by
  have smaller : arith.keep ^ more ≤ arith.keep ^ steps :=
    pow_le_pow_of_le_one (keep_pos arith).le (keep_le_one arith) fewer
  exact ⟨(mul_le_mul_of_nonneg_right smaller nonneg).trans close.1,
    (mul_le_mul_of_nonneg_right smaller (within_nonneg arith close nonneg)).trans close.2⟩

theorem within_add {steps : Nat} {exact computed other otherComputed : K} (close : arith.Within steps exact computed)
    (otherClose : arith.Within steps other otherComputed) : arith.Within steps (exact + other) (computed + otherComputed) := by
  constructor
  · rw [mul_add]
    exact add_le_add close.1 otherClose.1
  · rw [mul_add]
    exact add_le_add close.2 otherClose.2

theorem within_fl {steps : Nat} {exact computed : K} (close : arith.Within steps exact computed) (nonneg : 0 ≤ exact) :
    arith.Within (steps + 1) exact (arith.fl computed) := by
  have computedNonneg := within_nonneg arith close nonneg
  constructor
  · calc arith.keep ^ (steps + 1) * exact = arith.keep * (arith.keep ^ steps * exact) := by ring
      _ ≤ arith.keep * computed := mul_le_mul_of_nonneg_left close.1 (keep_pos arith).le
      _ ≤ arith.fl computed := fl_ge arith computed computedNonneg
  · calc arith.keep ^ (steps + 1) * arith.fl computed = arith.keep ^ steps * (arith.keep * arith.fl computed) := by ring
      _ ≤ arith.keep ^ steps * computed :=
          mul_le_mul_of_nonneg_left (keep_fl_le arith computed computedNonneg) (keep_pow_nonneg arith steps)
      _ ≤ exact := close.2

-- Every addition of a sum is one more rounding.
theorem total_within (steps : Nat) (exact start : K) (close : arith.Within steps exact start) (exactNonneg : 0 ≤ exact)
    (values : List K) (nonneg : ∀ value ∈ values, 0 ≤ value) :
    arith.Within (steps + values.length) (exact + values.sum) (arith.total start values) := by
  induction values generalizing steps exact start with
  | nil => simpa [RoundedArith.total] using close
  | cons value rest ih =>
      have valueNonneg := nonneg value List.mem_cons_self
      have added := within_add arith close (within_mono arith (within_refl arith value) valueNonneg (Nat.zero_le steps))
      have sumNonneg := add_nonneg exactNonneg valueNonneg
      have later := ih (steps + 1) (exact + value) (arith.fl (start + value)) (within_fl arith added sumNonneg) sumNonneg
        fun other member => nonneg other (List.mem_cons_of_mem value member)
      rwa [List.sum_cons, ← add_assoc, List.length_cons, Nat.add_comm rest.length, ← Nat.add_assoc]

end Bounds

section Room

variable [IsStrictOrderedRing K] (arith : RoundedArith K)

-- A value is let in when it is at most what a limit leaves of a load, with some slack; all of it rounded.
def RoundedArith.fits (limit load slack value : K) : Prop := value ≤ arith.fl (arith.fl (limit - load) + slack)

variable {steps : Nat} {limit load computed slack rounded value : K}
variable (limitNonneg : 0 ≤ limit) (slackNonneg : 0 ≤ slack) (loadNonneg : 0 ≤ load) (valueNonneg : 0 ≤ value)
variable (closeLoad : arith.Within steps load computed) (closeSlack : arith.Within 1 slack rounded)

include closeLoad closeSlack limitNonneg slackNonneg loadNonneg valueNonneg

theorem fits_bound (fits : arith.fits limit computed rounded value) :
    arith.keep ^ (steps + 2) * (load + value) ≤ limit + slack := by
  have keepPos := keep_pos arith
  have powNonneg := keep_pow_nonneg arith steps
  have powLe := keep_pow_le_one arith steps
  have squareLe := keep_pow_le_one arith 2
  have computedNonneg := within_nonneg arith closeLoad loadNonneg
  have slackBound : arith.keep * rounded ≤ slack := by simpa using closeSlack.2
  -- A negative right side lets nothing in.
  have rightNonneg : 0 ≤ arith.fl (limit - computed) + rounded := by
    by_contra negative
    have below := fl_le_of_nonpos arith _ (not_le.mp negative).le
    have less := mul_neg_of_pos_of_neg keepPos (not_le.mp negative)
    exact absurd valueNonneg (not_le.mpr ((fits.trans below).trans_lt less))
  have valueBound : arith.keep * value ≤ arith.fl (limit - computed) + rounded :=
    (mul_le_mul_of_nonneg_left fits keepPos.le).trans (keep_fl_le arith _ rightNonneg)
  have spread : arith.keep ^ (steps + 2) * (load + value) =
      arith.keep ^ 2 * (arith.keep ^ steps * load) + arith.keep ^ steps * (arith.keep * (arith.keep * value)) := by ring
  have loadPart := mul_le_mul_of_nonneg_left closeLoad.2 (keep_pow_nonneg arith 2)
  have loadBack : arith.keep ^ steps * load ≤ computed := closeLoad.1
  have valueTwice := mul_le_mul_of_nonneg_left valueBound keepPos.le
  rw [mul_add] at valueTwice
  rcases le_total computed limit with room | exceeds
  · have roundedRoom := keep_fl_le arith (limit - computed) (sub_nonneg.mpr room)
    have bound : arith.keep * (arith.keep * value) ≤ limit - computed + slack := by linarith
    have shrunk := (mul_le_mul_of_nonneg_left bound powNonneg).trans
      (mul_le_of_le_one_left (by linarith : 0 ≤ limit - computed + slack) powLe)
    have loadShrunk := (mul_le_mul_of_nonneg_left loadBack (keep_pow_nonneg arith 2)).trans
      (mul_le_of_le_one_left computedNonneg squareLe)
    linarith
  · have roundedRoom := fl_le_of_nonpos arith (limit - computed) (sub_nonpos.mpr exceeds)
    have keptRoom := mul_le_mul_of_nonneg_left roundedRoom keepPos.le
    have bound : arith.keep * (arith.keep * value) ≤ arith.keep ^ 2 * (limit - computed) + slack := by
      calc arith.keep * (arith.keep * value) ≤ arith.keep * arith.fl (limit - computed) + arith.keep * rounded := valueTwice
        _ ≤ arith.keep * (arith.keep * (limit - computed)) + slack := add_le_add keptRoom slackBound
        _ = arith.keep ^ 2 * (limit - computed) + slack := by ring
    have shrunk := mul_le_mul_of_nonneg_left bound powNonneg
    have loadShrunk := mul_le_mul_of_nonneg_left loadBack (keep_pow_nonneg arith 2)
    -- The right side is not negative, so the load is above the limit by less than the slack.
    have above : arith.keep ^ 2 * computed ≤ arith.keep ^ 2 * limit + slack := by
      have nonneg : 0 ≤ arith.keep ^ 2 * (limit - computed) + slack := (mul_nonneg keepPos.le (mul_nonneg keepPos.le valueNonneg)).trans bound
      linarith
    have rest := mul_le_mul_of_nonneg_left above (sub_nonneg.mpr powLe)
    have limitPart := mul_le_of_le_one_left limitNonneg squareLe
    calc arith.keep ^ (steps + 2) * (load + value)
        ≤ arith.keep ^ 2 * computed + arith.keep ^ steps * (arith.keep ^ 2 * (limit - computed) + slack) := by
          rw [spread]
          exact add_le_add loadShrunk shrunk
      _ = arith.keep ^ steps * (arith.keep ^ 2 * limit + slack) + (1 - arith.keep ^ steps) * (arith.keep ^ 2 * computed) := by ring
      _ ≤ arith.keep ^ steps * (arith.keep ^ 2 * limit + slack) +
            (1 - arith.keep ^ steps) * (arith.keep ^ 2 * limit + slack) := by linarith
      _ = arith.keep ^ 2 * limit + slack := by ring
      _ ≤ limit + slack := by linarith

theorem misfit_bound (misfit : ¬ arith.fits limit computed rounded value) :
    arith.keep ^ (steps + 2) * (limit + slack) < load + value := by
  have keepPos := keep_pos arith
  have powNonneg := keep_pow_nonneg arith steps
  have powLe := keep_pow_le_one arith steps
  have squareNonneg := keep_pow_nonneg arith 2
  have squareLe := keep_pow_le_one arith 2
  have computedNonneg := within_nonneg arith closeLoad loadNonneg
  have loadBack : arith.keep ^ steps * computed ≤ load := closeLoad.2
  have slackBound : arith.keep * slack ≤ rounded := by simpa using closeSlack.1
  have slackTwice : arith.keep ^ 2 * slack ≤ arith.keep * rounded := by
    calc arith.keep ^ 2 * slack = arith.keep * (arith.keep * slack) := by ring
      _ ≤ arith.keep * rounded := mul_le_mul_of_nonneg_left slackBound keepPos.le
  -- Whatever the right side is worth more than is less than the value.
  have valueAbove : ∀ bound, bound ≤ arith.keep * (arith.fl (limit - computed) + rounded) → 0 ≤ bound → bound < value := by
    intro bound below nonneg
    have rightNonneg := nonneg_of_mul_nonneg_right (nonneg.trans below) keepPos
    exact below.trans_lt ((fl_ge arith _ rightNonneg).trans_lt (not_le.mp misfit))
  have goalBound : arith.keep ^ (steps + 2) * (limit + slack) ≤ arith.keep ^ steps * (limit + arith.keep ^ 2 * slack) := by
    calc arith.keep ^ (steps + 2) * (limit + slack)
        = arith.keep ^ steps * (arith.keep ^ 2 * limit + arith.keep ^ 2 * slack) := by ring
      _ ≤ arith.keep ^ steps * (limit + arith.keep ^ 2 * slack) := by
          gcongr
          exact mul_le_of_le_one_left limitNonneg squareLe
  rcases le_total computed limit with room | exceeds
  · have roomNonneg := sub_nonneg.mpr room
    have roomBound := mul_le_mul_of_nonneg_left (fl_ge arith (limit - computed) roomNonneg) keepPos.le
    have above := valueAbove (arith.keep ^ 2 * (limit - computed + slack)) (by linarith)
      (mul_nonneg squareNonneg (add_nonneg roomNonneg slackNonneg))
    have loadPart : arith.keep ^ 2 * (arith.keep ^ steps * computed) ≤ arith.keep ^ steps * computed :=
      mul_le_of_le_one_left (mul_nonneg powNonneg computedNonneg) squareLe
    have roomPart : arith.keep ^ steps * (arith.keep ^ 2 * (limit - computed + slack)) ≤ arith.keep ^ 2 * (limit - computed + slack) :=
      mul_le_of_le_one_left (mul_nonneg squareNonneg (add_nonneg roomNonneg slackNonneg)) powLe
    calc arith.keep ^ (steps + 2) * (limit + slack)
        = arith.keep ^ 2 * (arith.keep ^ steps * computed) +
            arith.keep ^ steps * (arith.keep ^ 2 * (limit - computed + slack)) := by ring
      _ < load + value := by linarith
  · have roomBound := le_keep_fl_of_nonpos arith (limit - computed) (sub_nonpos.mpr exceeds)
    by_cases reached : 0 ≤ limit - computed + arith.keep ^ 2 * slack
    · have above := valueAbove (limit - computed + arith.keep ^ 2 * slack) (by linarith) reached
      have roomPart := mul_le_of_le_one_left reached powLe
      calc arith.keep ^ (steps + 2) * (limit + slack) ≤ arith.keep ^ steps * (limit + arith.keep ^ 2 * slack) := goalBound
        _ = arith.keep ^ steps * computed + arith.keep ^ steps * (limit - computed + arith.keep ^ 2 * slack) := by ring
        _ < load + value := by linarith
    -- So far above the limit, the load alone is more than it.
    · have aboveLimit : limit + arith.keep ^ 2 * slack < computed := by linarith
      have powPos : 0 < arith.keep ^ steps := pow_pos keepPos steps
      calc arith.keep ^ (steps + 2) * (limit + slack) ≤ arith.keep ^ steps * (limit + arith.keep ^ 2 * slack) := goalBound
        _ < arith.keep ^ steps * computed := mul_lt_mul_of_pos_left aboveLimit powPos
        _ ≤ load + value := by linarith

end Room

section Binary64

variable [FloorRing K]

-- The nearest integer, the even one of two that are as near.
def roundHalfEven (value : K) : Int :=
  if value - ⌊value⌋ < 1 / 2 then ⌊value⌋
  else if 1 / 2 < value - ⌊value⌋ then ⌊value⌋ + 1
  else if ⌊value⌋ % 2 = 0 then ⌊value⌋ else ⌊value⌋ + 1

-- The spacing of the doubles at a value. Sums of doubles are multiples of the least double, so no smaller spacing
-- is met in them; sums above the largest double are not modelled.
def ulp64 (value : K) : K := (2 : Nat) ^ (Int.log 2 |value| - 52)

def fl64 (value : K) : K := roundHalfEven (value / ulp64 value) * ulp64 value

variable [IsStrictOrderedRing K]

theorem round_half_even_near (value : K) : |(roundHalfEven value : K) - value| ≤ 1 / 2 := by
  have low := Int.floor_le value
  have high := Int.lt_floor_add_one value
  unfold roundHalfEven
  split_ifs <;> push_cast <;> rw [abs_le] <;> constructor <;> linarith

theorem fl64_near (value : K) : |fl64 value - value| ≤ 1 / (2 : Nat) ^ 53 * |value| := by
  by_cases zero : value = 0
  · simp [fl64, zero, roundHalfEven]
  · have positive : 0 < |value| := abs_pos.mpr zero
    have two : (0 : K) < (2 : Nat) := by norm_num
    have ulpPos : 0 < ulp64 value := zpow_pos two _
    have spacing : ulp64 value * (2 : Nat) ^ 52 ≤ |value| := by
      have below := Int.zpow_log_le_self (b := 2) (by decide) positive
      rw [ulp64, ← zpow_natCast, ← zpow_add₀ two.ne']
      simpa using below
    have scaled : fl64 value - value = (roundHalfEven (value / ulp64 value) - value / ulp64 value) * ulp64 value := by
      rw [sub_mul, div_mul_cancel₀ _ ulpPos.ne', fl64]
    rw [scaled, abs_mul, abs_of_pos ulpPos]
    have half := mul_le_mul_of_nonneg_right (round_half_even_near (value / ulp64 value)) ulpPos.le
    push_cast at spacing ⊢
    linarith

def binary64 : RoundedArith K where
  fl := fl64
  unit := 1 / (2 : Nat) ^ 53
  unit_nonneg := by positivity
  unit_lt_one := by norm_num
  near := fl64_near

end Binary64

end SasCore.Rounding
