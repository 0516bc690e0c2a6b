import Mathlib.Algebra.Order.Floor.Ring
import Mathlib.Algebra.Order.Field.Basic
import Mathlib.Tactic.Linarith
import Mathlib.Tactic.Ring

set_option autoImplicit false

-- Angles up to whole turns, and arcs of the circle.
namespace SasCore.Circle

variable {K : Type} [Field K] [LinearOrder K] [FloorRing K]

-- x % turn, with the sign of the turn.
def wrapped (turn x : K) : K := x - turn * ⌊x / turn⌋

-- The test that compares wrapped angles: an arc whose ends are not in order goes through the zero angle.
def angleBetween (turn angle low high : K) : Bool :=
  if wrapped turn low < wrapped turn high then
    decide (wrapped turn low ≤ wrapped turn angle) && decide (wrapped turn angle ≤ wrapped turn high)
  else decide (wrapped turn low ≤ wrapped turn angle) || decide (wrapped turn angle ≤ wrapped turn high)

-- The closed arc from low to high: the angles that lie between them after some whole turns.
def arc (turn low high : K) : Set K := {angle | ∃ turns : Int, low ≤ angle + turn * turns ∧ angle + turn * turns ≤ high}

variable (turn : K)

theorem wrapped_turns (x : K) : wrapped turn x + turn * ⌊x / turn⌋ = x := by
  rw [wrapped]
  ring

variable [IsStrictOrderedRing K]

theorem wrapped_range (positive : 0 < turn) (x : K) : 0 ≤ wrapped turn x ∧ wrapped turn x < turn := by
  have below := Int.floor_le (x / turn)
  have above := Int.lt_floor_add_one (x / turn)
  rw [le_div_iff₀ positive] at below
  rw [div_lt_iff₀ positive] at above
  rw [wrapped]
  constructor
  · linarith
  · linarith

theorem turns_above (positive : 0 < turn) (turns bound : Int) (more : turn * bound < turn * turns) : bound < turns := by
  exact_mod_cast lt_of_mul_lt_mul_left more positive.le

theorem turns_below (positive : 0 < turn) (turns bound : Int) (fewer : turn * turns < turn * bound) : turns < bound := by
  exact_mod_cast lt_of_mul_lt_mul_left fewer positive.le

-- Two angles of one turn that are whole turns apart differ by none of them.
theorem wrapped_unique (positive : 0 < turn) (x y : K) (turns : Int) (inside : 0 ≤ y ∧ y < turn) (same : x = y + turn * turns) :
    wrapped turn x = y := by
  obtain ⟨least, less⟩ := wrapped_range turn positive x
  have split := wrapped_turns turn x
  have apart : wrapped turn x - y = turn * ((turns - ⌊x / turn⌋ : Int) : K) := by
    push_cast
    linarith
  have zero : turns - ⌊x / turn⌋ = 0 := by
    have above := turns_above turn positive (turns - ⌊x / turn⌋) (-1) (by push_cast at apart ⊢; linarith [inside.2])
    have below := turns_below turn positive (turns - ⌊x / turn⌋) 1 (by push_cast at apart ⊢; linarith [inside.1])
    omega
  rw [zero, Int.cast_zero, mul_zero] at apart
  linarith

theorem arc_wrapped (low high angle : K) :
    angle ∈ arc turn low high ↔
      ∃ turns : Int, wrapped turn low ≤ wrapped turn angle + turn * turns ∧
        wrapped turn angle + turn * turns ≤ wrapped turn low + (high - low) := by
  have splitLow := wrapped_turns turn low
  have splitAngle := wrapped_turns turn angle
  constructor
  · rintro ⟨turns, after, before⟩
    refine ⟨turns + ⌊angle / turn⌋ - ⌊low / turn⌋, ?_, ?_⟩
    · push_cast
      linarith
    · push_cast
      linarith
  · rintro ⟨turns, after, before⟩
    refine ⟨turns - ⌊angle / turn⌋ + ⌊low / turn⌋, ?_, ?_⟩
    · push_cast
      linarith
    · push_cast
      linarith

-- The end of an arc of less than a turn, before or behind the zero angle.
theorem wrapped_end (positive : 0 < turn) (low high : K) (proper : low < high) (short : high < low + turn) :
    (wrapped turn low + (high - low) < turn ∧ wrapped turn high = wrapped turn low + (high - low)) ∨
      (turn ≤ wrapped turn low + (high - low) ∧ wrapped turn high = wrapped turn low + (high - low) - turn) := by
  obtain ⟨least, less⟩ := wrapped_range turn positive low
  have split := wrapped_turns turn low
  rcases lt_or_ge (wrapped turn low + (high - low)) turn with ahead | past
  · refine .inl ⟨ahead, ?_⟩
    apply wrapped_unique turn positive high _ ⌊low / turn⌋
    · exact ⟨by linarith, ahead⟩
    · linarith
  · refine .inr ⟨past, ?_⟩
    apply wrapped_unique turn positive high _ (⌊low / turn⌋ + 1)
    · exact ⟨by linarith, by linarith⟩
    · push_cast
      linarith

-- An angle meets an arc of less than a turn where it stands or one turn later.
theorem arc_turns (positive : 0 < turn) (low high angle : K) (short : high < low + turn) :
    angle ∈ arc turn low high ↔
      (wrapped turn low ≤ wrapped turn angle ∧ wrapped turn angle ≤ wrapped turn low + (high - low)) ∨
        (wrapped turn low ≤ wrapped turn angle + turn ∧ wrapped turn angle + turn ≤ wrapped turn low + (high - low)) := by
  obtain ⟨leastLow, lessLow⟩ := wrapped_range turn positive low
  obtain ⟨least, less⟩ := wrapped_range turn positive angle
  rw [arc_wrapped]
  constructor
  · rintro ⟨turns, after, before⟩
    have above := turns_above turn positive turns (-1) (by push_cast; linarith)
    have below := turns_below turn positive turns 2 (by push_cast; linarith)
    have few : turns = 0 ∨ turns = 1 := by omega
    rcases few with zero | one
    · rw [zero, Int.cast_zero, mul_zero, add_zero] at after before
      exact .inl ⟨after, before⟩
    · rw [one, Int.cast_one, mul_one] at after before
      exact .inr ⟨after, before⟩
  · rintro (here | later)
    · exact ⟨0, by simpa using here⟩
    · exact ⟨1, by simpa using later⟩

-- The test is exact for an arc that is neither a point nor a full turn.
theorem between_iff (positive : 0 < turn) (low high angle : K) (proper : low < high) (short : high < low + turn) :
    angleBetween turn angle low high = true ↔ angle ∈ arc turn low high := by
  obtain ⟨leastLow, lessLow⟩ := wrapped_range turn positive low
  obtain ⟨least, less⟩ := wrapped_range turn positive angle
  rw [arc_turns turn positive low high angle short, angleBetween]
  rcases wrapped_end turn positive low high proper short with ⟨ahead, ends⟩ | ⟨past, ends⟩
  · have ordered : wrapped turn low < wrapped turn high := by linarith
    rw [if_pos ordered, ends]
    simp only [Bool.and_eq_true, decide_eq_true_eq]
    constructor
    · exact .inl
    · rintro (here | later)
      · exact here
      · linarith [later.2]
  · have crossing : ¬ wrapped turn low < wrapped turn high := by linarith
    rw [if_neg crossing, ends]
    simp only [Bool.or_eq_true, decide_eq_true_eq]
    constructor
    · rintro (after | before)
      · exact .inl ⟨after, by linarith⟩
      · exact .inr ⟨by linarith, by linarith⟩
    · rintro (here | later)
      · exact .inl here.1
      · exact .inr (by linarith [later.2])

-- An arc about a point that meets an arc no less than half as wide has its middle or an end in it.
theorem arcs_meet_iff (middle half centre reach : K) (nonneg : 0 ≤ half) (wide : half ≤ 2 * reach) :
    (arc turn (middle - half) (middle + half) ∩ arc turn (centre - reach) (centre + reach)).Nonempty ↔
      middle - half ∈ arc turn (centre - reach) (centre + reach) ∨ middle + half ∈ arc turn (centre - reach) (centre + reach) ∨
        middle ∈ arc turn (centre - reach) (centre + reach) := by
  constructor
  · rintro ⟨angle, ⟨first, afterFirst, beforeFirst⟩, ⟨second, afterSecond, beforeSecond⟩⟩
    have shift : turn * ((second - first : Int) : K) = turn * second - turn * first := by
      push_cast
      ring
    -- The middle, turned to where the arcs meet, is before, in or behind the other arc.
    rcases lt_or_ge (middle + turn * ((second - first : Int) : K)) (centre - reach) with before | after
    · exact .inr (.inl ⟨second - first, by linarith, by linarith⟩)
    · rcases lt_or_ge (centre + reach) (middle + turn * ((second - first : Int) : K)) with behind | within
      · exact .inl ⟨second - first, by linarith, by linarith⟩
      · exact .inr (.inr ⟨second - first, after, within⟩)
  · have start : middle - half ∈ arc turn (middle - half) (middle + half) := ⟨0, by simp, by simp; linarith⟩
    have stop : middle + half ∈ arc turn (middle - half) (middle + half) := ⟨0, by simp; linarith, by simp⟩
    have inside : middle ∈ arc turn (middle - half) (middle + half) := ⟨0, by simpa using nonneg, by simpa using nonneg⟩
    rintro (here | here | here)
    · exact ⟨_, start, here⟩
    · exact ⟨_, stop, here⟩
    · exact ⟨_, inside, here⟩

end SasCore.Circle
