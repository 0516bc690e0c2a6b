import Mathlib.Algebra.Order.Floor.Ring
import Mathlib.Algebra.Order.Field.Basic
import Mathlib.Tactic.Linarith
import Mathlib.Tactic.Ring

set_option autoImplicit false
set_option linter.unusedSectionVars false

-- Interpolation between the values at whole numbers, along one axis and along two.
namespace SasCore.Bilinear

variable {K : Type} [Field K] [LinearOrder K] [IsStrictOrderedRing K] [FloorRing K]

def lerp (values : Int → K) (x : K) : K := (1 - (x - ⌊x⌋)) * values ⌊x⌋ + (x - ⌊x⌋) * values (⌊x⌋ + 1)

-- First between the columns of a row, then between the rows.
def bilinear (values : Int → Int → K) (y x : K) : K := lerp (fun row => lerp (values row) x) y

-- Neighbouring values differ by at most the bound.
def Gentle (bound : K) (values : Int → K) : Prop := ∀ place, |values (place + 1) - values place| ≤ bound

section Line

variable (values : Int → K)

theorem part_nonneg (x : K) : 0 ≤ x - ⌊x⌋ := sub_nonneg.mpr (Int.floor_le x)

theorem part_le_one (x : K) : x - ⌊x⌋ ≤ 1 := by
  have below := Int.lt_floor_add_one x
  linarith

theorem lerp_ge (low x : K) (left : low ≤ values ⌊x⌋) (right : low ≤ values (⌊x⌋ + 1)) : low ≤ lerp values x := by
  have nonneg := part_nonneg x
  have small := part_le_one x
  have leftPart := mul_le_mul_of_nonneg_left left (sub_nonneg.mpr small)
  have rightPart := mul_le_mul_of_nonneg_left right nonneg
  rw [lerp]
  linarith

theorem lerp_le (high x : K) (left : values ⌊x⌋ ≤ high) (right : values (⌊x⌋ + 1) ≤ high) : lerp values x ≤ high := by
  have nonneg := part_nonneg x
  have small := part_le_one x
  have leftPart := mul_le_mul_of_nonneg_left left (sub_nonneg.mpr small)
  have rightPart := mul_le_mul_of_nonneg_left right nonneg
  rw [lerp]
  linarith

theorem lerp_shift (x : K) (offset : Int) : lerp (fun place => values (place + offset)) (x - offset) = lerp values x := by
  have floor : ⌊x - offset⌋ = ⌊x⌋ - offset := Int.floor_sub_intCast x offset
  have part : x - offset - ((⌊x⌋ - offset : Int) : K) = x - ⌊x⌋ := by
    push_cast
    ring
  simp only [lerp, floor, part, sub_add_cancel, sub_add_eq_add_sub]

-- Inside a closed cell its two values decide, at its upper end too.
theorem lerp_cell (x : K) (cell : Int) (above : (cell : K) ≤ x) (below : x ≤ cell + 1) :
    lerp values x = (1 - (x - cell)) * values cell + (x - cell) * values (cell + 1) := by
  rcases below.lt_or_eq with inside | upper
  · have floor : ⌊x⌋ = cell := Int.floor_eq_iff.mpr ⟨above, inside⟩
    rw [lerp, floor]
  · have floor : ⌊x⌋ = cell + 1 := by
      rw [upper]
      exact_mod_cast Int.floor_intCast (R := K) (cell + 1)
    have part : x - ((cell + 1 : Int) : K) = 0 := by
      rw [upper]
      push_cast
      ring
    have whole : x - (cell : K) = 1 := by
      rw [upper]
      ring
    rw [lerp, floor, part, whole]
    ring

theorem lerp_at (place : Int) : lerp values (place : K) = values place := by
  rw [lerp, Int.floor_intCast, sub_self]
  ring

variable (bound : K) (gentle : Gentle bound values)

include gentle

theorem gentle_steps (place : Int) (steps : Nat) : |values (place + steps) - values place| ≤ bound * steps := by
  induction steps with
  | zero => simp
  | succ steps ih =>
      have step := gentle (place + steps)
      have path : values (place + (steps + 1 : Nat)) - values place =
          (values (place + steps + 1) - values (place + steps)) + (values (place + steps) - values place) := by
        rw [Nat.cast_add, Nat.cast_one, ← add_assoc]
        ring
      rw [path]
      refine (abs_add_le _ _).trans ?_
      push_cast
      linarith

theorem lerp_in_cell (x y : K) (cell : Int) (xAbove : (cell : K) ≤ x) (ordered : x ≤ y) (yBelow : y ≤ cell + 1) :
    |lerp values y - lerp values x| ≤ bound * (y - x) := by
  rw [lerp_cell values x cell xAbove (ordered.trans yBelow), lerp_cell values y cell (xAbove.trans ordered) yBelow]
  have difference : (1 - (y - cell)) * values cell + (y - cell) * values (cell + 1) -
      ((1 - (x - cell)) * values cell + (x - cell) * values (cell + 1)) = (values (cell + 1) - values cell) * (y - x) := by
    ring
  rw [difference, abs_mul, abs_of_nonneg (sub_nonneg.mpr ordered)]
  exact mul_le_mul_of_nonneg_right (gentle cell) (sub_nonneg.mpr ordered)

theorem lerp_slope_ordered (x y : K) (ordered : x ≤ y) : |lerp values y - lerp values x| ≤ bound * (y - x) := by
  have xBelow := (Int.lt_floor_add_one x).le
  by_cases together : y ≤ ⌊x⌋ + 1
  · exact lerp_in_cell values bound gentle x y ⌊x⌋ (Int.floor_le x) ordered together
  · -- Up to the next whole number, along the whole numbers, and on from the last of them.
    have later : ⌊x⌋ + 1 ≤ ⌊y⌋ := Int.le_floor.mpr (by push_cast; exact (not_le.mp together).le)
    obtain ⟨steps, isSteps⟩ := Int.eq_ofNat_of_zero_le (sub_nonneg.mpr later)
    have first := lerp_in_cell values bound gentle x (⌊x⌋ + 1) ⌊x⌋ (Int.floor_le x) xBelow le_rfl
    have last := lerp_in_cell values bound gentle ⌊y⌋ y ⌊y⌋ le_rfl (Int.floor_le y) (Int.lt_floor_add_one y).le
    have middle := gentle_steps values bound gentle (⌊x⌋ + 1) steps
    have stepsCast : (steps : K) = (⌊y⌋ : K) - (⌊x⌋ + 1) := by
      have cast := congrArg (fun n : Int => (n : K)) isSteps
      push_cast at cast
      linarith
    have arrives : ⌊x⌋ + 1 + (steps : Int) = ⌊y⌋ := by
      have equal : ⌊y⌋ - (⌊x⌋ + 1) = (steps : Int) := isSteps
      omega
    have left : lerp values ((⌊x⌋ : K) + 1) = values (⌊x⌋ + 1) := by
      have whole := lerp_at values (⌊x⌋ + 1)
      push_cast at whole
      exact whole
    rw [arrives, stepsCast] at middle
    rw [lerp_at values] at last
    rw [left] at first
    have path : lerp values y - lerp values x =
        (lerp values y - values ⌊y⌋) + (values ⌊y⌋ - values (⌊x⌋ + 1)) + (values (⌊x⌋ + 1) - lerp values x) := by
      ring
    rw [path]
    refine (abs_add_three _ _ _).trans ?_
    linarith

theorem lerp_slope (x y : K) : |lerp values y - lerp values x| ≤ bound * |y - x| := by
  rcases le_total x y with ordered | ordered
  · rw [abs_of_nonneg (sub_nonneg.mpr ordered)]
    exact lerp_slope_ordered values bound gentle x y ordered
  · rw [abs_sub_comm, abs_of_nonpos (sub_nonpos.mpr ordered), neg_sub]
    exact lerp_slope_ordered values bound gentle y x ordered

end Line

section Plane

variable (values : Int → Int → K)

theorem bilinear_shift (y x : K) (rows cols : Int) :
    bilinear (fun row col => values (row + rows) (col + cols)) (y - rows) (x - cols) = bilinear values y x := by
  have each : ∀ row, lerp (fun col => values (row + rows) (col + cols)) (x - cols) = lerp (values (row + rows)) x :=
    fun row => lerp_shift (values (row + rows)) x cols
  simp only [bilinear, each]
  exact lerp_shift (fun row => lerp (values row) x) y rows

theorem lerp_sub (first second : Int → K) (x : K) :
    lerp first x - lerp second x = lerp (fun place => first place - second place) x := by
  simp only [lerp]
  ring

variable (bound : K) (rowsGentle : ∀ col, Gentle bound fun row => values row col) (colsGentle : ∀ row, Gentle bound (values row))

include rowsGentle colsGentle

theorem bilinear_slope (y x y' x' : K) :
    |bilinear values y' x' - bilinear values y x| ≤ bound * (|y' - y| + |x' - x|) := by
  have alongRows : |bilinear values y' x' - bilinear values y x'| ≤ bound * |y' - y| := by
    refine lerp_slope (fun row => lerp (values row) x') bound (fun row => ?_) y y'
    rw [lerp_sub, abs_le]
    exact ⟨lerp_ge _ _ _ (abs_le.mp (rowsGentle _ row)).1 (abs_le.mp (rowsGentle _ row)).1,
      lerp_le _ _ _ (abs_le.mp (rowsGentle _ row)).2 (abs_le.mp (rowsGentle _ row)).2⟩
  have alongCols : |bilinear values y x' - bilinear values y x| ≤ bound * |x' - x| := by
    have each := fun row => abs_le.mp (lerp_slope (values row) bound (colsGentle row) x x')
    rw [bilinear, bilinear, lerp_sub, abs_le]
    exact ⟨lerp_ge _ _ _ (each _).1 (each _).1, lerp_le _ _ _ (each _).2 (each _).2⟩
  have path : bilinear values y' x' - bilinear values y x =
      (bilinear values y' x' - bilinear values y x') + (bilinear values y x' - bilinear values y x) := by
    ring
  rw [path, mul_add]
  exact (abs_add_le _ _).trans (add_le_add alongRows alongCols)

end Plane

end SasCore.Bilinear
