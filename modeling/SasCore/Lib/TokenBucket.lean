import Mathlib.Algebra.Order.Field.Basic
import Mathlib.Algebra.Order.Ring.Cast
import Mathlib.Tactic.Linarith
import Mathlib.Tactic.Ring

set_option autoImplicit false

-- A bucket that fills with time up to a limit and is drawn from in whole tokens.
namespace SasCore.TokenBucket

variable {K : Type} [Field K] [LinearOrder K]

structure Bucket (K : Type) where
  tokens : K
  updatedAt : K
deriving DecidableEq, Repr

def refilled (rate burst now : K) (bucket : Bucket K) : K :=
  min burst (bucket.tokens + max 0 (now - bucket.updatedAt) * rate)

-- The bucket behind a draw, and whether there was a token.
def draw (rate burst now : K) (bucket : Bucket K) : Bucket K × Bool :=
  let tokens := refilled rate burst now bucket
  if tokens < 1 then (⟨tokens, now⟩, false) else (⟨tokens - 1, now⟩, true)

def unit (admitted : Bool) : Nat := if admitted then 1 else 0

theorem draw_updated (rate burst now : K) (bucket : Bucket K) : (draw rate burst now bucket).1.updatedAt = now := by
  unfold draw
  dsimp only
  split
  · rfl
  · rfl

-- A draw takes what it admits.
theorem draw_tokens (rate burst now : K) (bucket : Bucket K) :
    (draw rate burst now bucket).1.tokens + (unit (draw rate burst now bucket).2 : Nat) = refilled rate burst now bucket := by
  unfold draw
  dsimp only
  split
  · simp [unit]
  · simp [unit]

theorem refilled_burst (rate burst now : K) (bucket : Bucket K) : refilled rate burst now bucket ≤ burst := min_le_left _ _

variable [IsStrictOrderedRing K]

theorem refilled_credit (rate burst now : K) (bucket : Bucket K) (ordered : bucket.updatedAt ≤ now) :
    refilled rate burst now bucket ≤ bucket.tokens + (now - bucket.updatedAt) * rate := by
  have elapsed : max 0 (now - bucket.updatedAt) = now - bucket.updatedAt := max_eq_right (sub_nonneg.mpr ordered)
  rw [refilled, elapsed]
  exact min_le_right _ _

theorem refilled_nonneg (rate burst now : K) (bucket : Bucket K) (positive : 0 < rate) (whole : 1 ≤ burst)
    (held : 0 ≤ bucket.tokens) : 0 ≤ refilled rate burst now bucket := by
  apply le_min
  · linarith
  · exact add_nonneg held (mul_nonneg (le_max_left _ _) positive.le)

theorem draw_nonneg (rate burst now : K) (bucket : Bucket K) (positive : 0 < rate) (whole : 1 ≤ burst)
    (held : 0 ≤ bucket.tokens) : 0 ≤ (draw rate burst now bucket).1.tokens := by
  have refill := refilled_nonneg rate burst now bucket positive whole held
  unfold draw
  dsimp only
  split
  · exact refill
  · rename_i enough
    linarith [not_lt.mp enough]

-- A full bucket stays full, whenever it was filled.
theorem draw_full (rate burst now filled : K) (positive : 0 < rate) :
    draw rate burst now ⟨burst, filled⟩ = draw rate burst now ⟨burst, now⟩ := by
  have refill : ∀ updatedAt, refilled rate burst now ⟨burst, updatedAt⟩ = burst := by
    intro updatedAt
    exact min_eq_left (le_add_of_nonneg_right (mul_nonneg (le_max_left _ _) positive.le))
  rw [draw, draw, refill, refill]

section Window

variable (rate burst start length : K)

-- What the admissions in a window and the tokens left amount to, by where the last draw was.
structure Metered (count : Nat) (bucket : Bucket K) : Prop where
  held : 0 ≤ bucket.tokens
  before : bucket.updatedAt < start → count = 0
  bounded : (count : K) ≤ burst + rate * length
  within : start ≤ bucket.updatedAt → bucket.updatedAt ≤ start + length →
    (count : K) + bucket.tokens ≤ burst + rate * (bucket.updatedAt - start)

def inWindow (now : K) : Prop := start ≤ now ∧ now ≤ start + length

instance inWindowDecidable (now : K) : Decidable (inWindow start length now) := inferInstanceAs (Decidable (_ ∧ _))

-- A full bucket meets any window with nothing admitted before.
theorem metered_fresh (positive : 0 < rate) (whole : 1 ≤ burst) (proper : 0 ≤ length) (bucket : Bucket K) (held : 0 ≤ bucket.tokens)
    (full : bucket.tokens ≤ burst) : Metered rate burst start length 0 bucket where
  held := held
  before _ := rfl
  bounded := by
    have credit := mul_nonneg positive.le proper
    rw [Nat.cast_zero]
    linarith
  within after _ := by
    have credit := mul_nonneg positive.le (sub_nonneg.mpr after)
    rw [Nat.cast_zero, zero_add]
    linarith

theorem metered_credit (positive : 0 < rate) (count : Nat) (bucket : Bucket K) (now : K)
    (metered : Metered rate burst start length count bucket) (ordered : bucket.updatedAt ≤ now) (inside : inWindow start length now) :
    (count : K) + refilled rate burst now bucket ≤ burst + rate * (now - start) := by
  obtain ⟨after, ended⟩ := inside
  have atMost := refilled_burst rate burst now bucket
  have credit := refilled_credit rate burst now bucket ordered
  rcases lt_or_ge bucket.updatedAt start with early | late
  · have window := mul_nonneg positive.le (sub_nonneg.mpr after)
    rw [metered.before early, Nat.cast_zero, zero_add]
    linarith
  · have account := metered.within late (ordered.trans ended)
    have whole : rate * (now - start) = rate * (bucket.updatedAt - start) + (now - bucket.updatedAt) * rate := by ring
    rw [whole]
    linarith

-- A draw no earlier than the last keeps the account; one in the window counts what it admits.
theorem metered_draw (positive : 0 < rate) (whole : 1 ≤ burst) (count : Nat) (bucket : Bucket K) (now : K)
    (metered : Metered rate burst start length count bucket) (ordered : bucket.updatedAt ≤ now) :
    Metered rate burst start length (count + if inWindow start length now then unit (draw rate burst now bucket).2 else 0)
      (draw rate burst now bucket).1 := by
  have held := draw_nonneg rate burst now bucket positive whole metered.held
  have tokens := draw_tokens rate burst now bucket
  have updated := draw_updated rate burst now bucket
  by_cases inside : inWindow start length now
  · have credit := metered_credit rate burst start length positive count bucket now metered ordered inside
    have span : rate * (now - start) ≤ rate * length := by
      apply mul_le_mul_of_nonneg_left _ positive.le
      linarith [inside.2]
    rw [if_pos inside]
    refine ⟨held, ?_, ?_, ?_⟩
    · intro early
      rw [updated] at early
      exact absurd inside.1 (not_le.mpr early)
    · push_cast
      linarith
    · intro _ _
      rw [updated]
      push_cast
      linarith
  · rw [if_neg inside, Nat.add_zero]
    refine ⟨held, ?_, metered.bounded, ?_⟩
    · intro early
      rw [updated] at early
      exact metered.before (ordered.trans_lt early)
    · intro after ended
      rw [updated] at after ended
      exact absurd ⟨after, ended⟩ inside

end Window

end SasCore.TokenBucket
