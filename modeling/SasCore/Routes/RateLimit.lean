import SasCore.Lib.PyDict
import SasCore.Lib.TokenBucket
import Mathlib.Tactic.NormNum

set_option autoImplicit false
set_option linter.unusedSectionVars false

-- The rate limit: requests read the clock first and take the lock later, in any order.
namespace SasCore.Routes

open TokenBucket

variable {K : Type} [Field K] [LinearOrder K]

-- A request of a client between its reading of the clock and the lock.
structure Arrival (K : Type) where
  key : String
  reading : K
deriving DecidableEq, Repr

structure Decision (K : Type) where
  key : String
  reading : K
  admitted : Bool
deriving DecidableEq, Repr

structure Limiter (K : Type) where
  clock : K
  arrivals : List (Arrival K)
  buckets : List (String × Bucket K)
  decisions : List (Decision K)
deriving DecidableEq, Repr

inductive LimiterStep (K : Type) where
  | pass (later : K)
  | arrive (key : String)
  | enter (place : Nat)
deriving DecidableEq, Repr

section Model

variable (rate burst : K)

-- What _allow does under the lock with the reading from before it; a new bucket reads the clock again.
def allow (key : String) (now clock : K) (buckets : List (String × Bucket K)) : List (String × Bucket K) × Bool :=
  if rate ≤ 0 ∨ burst ≤ 0 then (buckets, true)
  else
    let bucket := (PyDict.lookup buckets key).getD ⟨burst, clock⟩
    let drawn := draw rate burst now bucket
    (PyDict.set key drawn.1 buckets, drawn.2)

def enter (limiter : Limiter K) (place : Nat) (arrival : Arrival K) : Limiter K :=
  let allowed := allow rate burst arrival.key arrival.reading limiter.clock limiter.buckets
  { limiter with
    arrivals := limiter.arrivals.eraseIdx place
    buckets := allowed.1
    decisions := limiter.decisions ++ [⟨arrival.key, arrival.reading, allowed.2⟩] }

-- The clock never goes back.
def limiterStep (limiter : Limiter K) : LimiterStep K → Limiter K
  | .pass later => { limiter with clock := max limiter.clock later }
  | .arrive key => { limiter with arrivals := limiter.arrivals ++ [⟨key, limiter.clock⟩] }
  | .enter place =>
      match limiter.arrivals[place]? with
      | none => limiter
      | some arrival => enter rate burst limiter place arrival

def limiterRun (limiter : Limiter K) (steps : List (LimiterStep K)) : Limiter K := steps.foldl (limiterStep rate burst) limiter

def idle (clock : K) : Limiter K := ⟨clock, [], [], []⟩

end Model

section Bound

variable (rate burst : K)

def counts (key : String) (start length : K) (decision : Decision K) : Bool :=
  decide (decision.key = key) && decision.admitted && decide (inWindow start length decision.reading)

def admittedIn (key : String) (start length : K) (decisions : List (Decision K)) : Nat := decisions.countP (counts key start length)

-- No window of any length has more admissions of a client than its bucket may give.
def Limited (decisions : List (Decision K)) : Prop :=
  ∀ key start length, 0 ≤ length → (admittedIn key start length decisions : K) ≤ burst + rate * length

-- The request that takes the lock has not read the clock before the last one of its client that did.
def InTurn (limiter : Limiter K) : LimiterStep K → Prop
  | .enter place =>
      ∀ arrival, limiter.arrivals[place]? = some arrival →
        ∀ bucket, PyDict.lookup limiter.buckets arrival.key = some bucket → bucket.updatedAt ≤ arrival.reading
  | _ => True

def AllInTurn : Limiter K → List (LimiterStep K) → Prop
  | _, [] => True
  | limiter, step :: rest => InTurn limiter step ∧ AllInTurn (limiterStep rate burst limiter step) rest

-- The account of a client for one window.
def Accounted (key : String) (start length : K) (limiter : Limiter K) : Prop :=
  match PyDict.lookup limiter.buckets key with
  | none => admittedIn key start length limiter.decisions = 0
  | some bucket => Metered rate burst start length (admittedIn key start length limiter.decisions) bucket

theorem admitted_append (key : String) (start length : K) (decisions : List (Decision K)) (decision : Decision K) :
    admittedIn key start length (decisions ++ [decision]) =
      admittedIn key start length decisions +
        if decision.key = key then (if inWindow start length decision.reading then unit decision.admitted else 0) else 0 := by
  rw [admittedIn, List.countP_append, List.countP_singleton, counts, admittedIn]
  by_cases own : decision.key = key
  · by_cases inside : inWindow start length decision.reading
    · cases decision.admitted with
      | true => simp [own, inside, unit]
      | false => simp [own, inside, unit]
    · simp [own, inside]
  · simp [own]

variable [IsStrictOrderedRing K]

theorem enter_accounted (positive : 0 < rate) (whole : 1 ≤ burst) (key : String) (start length : K) (proper : 0 ≤ length)
    (limiter : Limiter K) (place : Nat) (arrival : Arrival K)
    (turn : ∀ bucket, PyDict.lookup limiter.buckets arrival.key = some bucket → bucket.updatedAt ≤ arrival.reading)
    (accounted : Accounted rate burst key start length limiter) :
    Accounted rate burst key start length (enter rate burst limiter place arrival) := by
  have limits : ¬ (rate ≤ 0 ∨ burst ≤ 0) := by
    rintro (low | low)
    · exact absurd positive (not_lt.mpr low)
    · linarith
  unfold Accounted at accounted ⊢
  unfold enter allow
  dsimp only
  rw [if_neg limits, PyDict.lookup_set, admitted_append]
  dsimp only
  by_cases own : arrival.key = key
  · rw [if_pos own, if_pos own]
    rw [own] at turn ⊢
    cases found : PyDict.lookup limiter.buckets key with
    | none =>
        rw [found] at accounted
        dsimp only at accounted ⊢
        have full : (0 : K) ≤ burst := by linarith
        have fresh := metered_fresh rate burst start length positive whole proper ⟨burst, arrival.reading⟩ full (le_refl burst)
        rw [Option.getD_none, draw_full rate burst arrival.reading limiter.clock positive, accounted]
        exact metered_draw rate burst start length positive whole 0 _ arrival.reading fresh (le_refl _)
    | some bucket =>
        rw [found] at accounted
        exact metered_draw rate burst start length positive whole _ bucket arrival.reading accounted (turn bucket found)
  · rw [if_neg own, if_neg own, Nat.add_zero]
    exact accounted

theorem step_accounted (positive : 0 < rate) (whole : 1 ≤ burst) (key : String) (start length : K) (proper : 0 ≤ length)
    (limiter : Limiter K) (step : LimiterStep K) (turn : InTurn limiter step)
    (accounted : Accounted rate burst key start length limiter) :
    Accounted rate burst key start length (limiterStep rate burst limiter step) := by
  cases step with
  | pass later => exact accounted
  | arrive other => exact accounted
  | enter place =>
      rw [limiterStep]
      cases waiting : limiter.arrivals[place]? with
      | none => exact accounted
      | some arrival =>
          exact enter_accounted rate burst positive whole key start length proper limiter place arrival (turn arrival waiting) accounted

theorem run_accounted (positive : 0 < rate) (whole : 1 ≤ burst) (key : String) (start length : K) (proper : 0 ≤ length)
    (steps : List (LimiterStep K)) (limiter : Limiter K) (turns : AllInTurn rate burst limiter steps)
    (accounted : Accounted rate burst key start length limiter) :
    Accounted rate burst key start length (limiterRun rate burst limiter steps) := by
  induction steps generalizing limiter with
  | nil => exact accounted
  | cons step rest ih =>
      have after := step_accounted rate burst positive whole key start length proper limiter step turns.1 accounted
      exact ih (limiterStep rate burst limiter step) turns.2 after

theorem accounted_bounded (positive : 0 < rate) (whole : 1 ≤ burst) (key : String) (start length : K) (proper : 0 ≤ length)
    (limiter : Limiter K) (accounted : Accounted rate burst key start length limiter) :
    (admittedIn key start length limiter.decisions : K) ≤ burst + rate * length := by
  unfold Accounted at accounted
  cases found : PyDict.lookup limiter.buckets key with
  | none =>
      rw [found] at accounted
      have credit := mul_nonneg positive.le proper
      rw [accounted, Nat.cast_zero]
      linarith
  | some bucket =>
      rw [found] at accounted
      exact accounted.bounded

theorem in_turn_limited (positive : 0 < rate) (whole : 1 ≤ burst) (clock : K) (steps : List (LimiterStep K))
    (turns : AllInTurn rate burst (idle clock) steps) : Limited rate burst (limiterRun rate burst (idle clock) steps).decisions := by
  intro key start length proper
  have accounted : Accounted rate burst key start length (idle clock) := rfl
  exact accounted_bounded rate burst positive whole key start length proper _
    (run_accounted rate burst positive whole key start length proper steps (idle clock) turns accounted)

end Bound

-- Two requests read the clock at 10 and three at 11; they take the lock in turns, the later readings first.
def crossed : List (LimiterStep Rat) :=
  [.arrive "a", .arrive "a", .pass 11, .arrive "a", .arrive "a", .arrive "a", .enter 2, .enter 0, .enter 1, .enter 0, .enter 0]

-- The second between the readings is credited each time the bucket was set back to the first.
theorem crossed_exceeds :
    ¬ ∀ (rate burst clock : Rat) (steps : List (LimiterStep Rat)), 0 < rate → 1 ≤ burst →
      Limited rate burst (limiterRun rate burst (idle clock) steps).decisions := by
  intro limited
  have bound := limited 1 1 10 crossed (by decide) (by decide) "a" 10 1 (by decide)
  have admitted : admittedIn "a" 10 1 (limiterRun 1 1 (idle 10) crossed).decisions = 3 := by decide +kernel
  rw [admitted] at bound
  norm_num at bound

theorem in_turn_limited_sample :
    Limited (1 : Rat) 1 (limiterRun 1 1 (idle 10) [.arrive "a", .pass 11, .arrive "a", .enter 0, .enter 0]).decisions := by
  apply in_turn_limited 1 1 (by decide) (by decide) 10
  refine ⟨trivial, trivial, trivial, ?_, ?_, trivial⟩
  · intro arrival _ bucket found
    cases found
  · intro arrival waiting bucket found
    have first : arrival = ⟨"a", 11⟩ := by
      apply Option.some.inj
      rw [← waiting]
      decide +kernel
    have held : bucket = ⟨0, 10⟩ := by
      apply Option.some.inj
      rw [← found, first]
      decide +kernel
    rw [first, held]
    decide

end SasCore.Routes
