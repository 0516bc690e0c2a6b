import Mathlib.Data.List.Basic

set_option autoImplicit false

-- Runs of a system whose steps are named by events; an event that is not enabled gives `none`.
namespace SasCore.Runs

variable {S E : Type} (step : E → S → Option S)

def run : List E → S → Option S
  | [], state => some state
  | event :: rest, state => (step event state).bind (run rest)

-- Every step that the run takes meets the condition in the state before it.
def AllSteps (condition : E → S → Prop) : List E → S → Prop
  | [], _ => True
  | event :: rest, state => ∀ next, step event state = some next → condition event state ∧ AllSteps condition rest next

instance decideAllSteps (condition : E → S → Prop) [decides : ∀ event state, Decidable (condition event state)] :
    ∀ events state, Decidable (AllSteps step condition events state)
  | [], _ => .isTrue trivial
  | event :: rest, state =>
      haveI : ∀ next, Decidable (AllSteps step condition rest next) := decideAllSteps condition rest
      inferInstanceAs (Decidable (∀ next ∈ step event state, condition event state ∧ AllSteps step condition rest next))

theorem run_cons (event : E) (rest : List E) (state last : S) (taken : run step (event :: rest) state = some last) :
    ∃ next, step event state = some next ∧ run step rest next = some last := Option.bind_eq_some_iff.mp taken

theorem run_append (first rest : List E) (state : S) :
    run step (first ++ rest) state = (run step first state).bind (run step rest) := by
  induction first generalizing state with
  | nil => rfl
  | cons event others ih =>
      rw [List.cons_append, run, run, Option.bind_assoc]
      cases step event state with
      | none => rfl
      | some next => exact ih next

theorem all_steps_append (condition : E → S → Prop) (first rest : List E) (state : S) :
    AllSteps step condition (first ++ rest) state ↔
      AllSteps step condition first state ∧ ∀ last, run step first state = some last → AllSteps step condition rest last := by
  induction first generalizing state with
  | nil => simp [AllSteps, run]
  | cons event others ih =>
      rw [List.cons_append, AllSteps, AllSteps, run]
      cases step event state with
      | none => simp
      | some next => simp [ih, and_assoc]

theorem all_steps_true (events : List E) (state : S) : AllSteps step (fun _ _ => True) events state := by
  induction events generalizing state with
  | nil => trivial
  | cons event rest ih => exact fun next _ => ⟨trivial, ih next⟩

section Invariants

variable (condition : E → S → Prop) (invariant : S → Prop)

-- The invariant rule: what every step under the condition keeps, a run of such steps keeps.
theorem run_keeps
    (keeps : ∀ event state next, condition event state → step event state = some next → invariant state → invariant next)
    (events : List E) (state last : S) (meets : AllSteps step condition events state)
    (taken : run step events state = some last) (holds : invariant state) : invariant last := by
  induction events generalizing state with
  | nil =>
      cases taken
      exact holds
  | cons event rest ih =>
      obtain ⟨next, moved, later⟩ := run_cons step event rest state last taken
      obtain ⟨first, others⟩ := meets next moved
      exact ih next others later (keeps event state next first moved holds)

-- What the invariant and the condition say of a single step, they say of every step of the run.
theorem steps_meet (conclusion : E → S → Prop)
    (keeps : ∀ event state next, condition event state → step event state = some next → invariant state → invariant next)
    (each : ∀ event state next, condition event state → step event state = some next → invariant state →
      conclusion event state)
    (events : List E) (state : S) (meets : AllSteps step condition events state) (holds : invariant state) :
    AllSteps step conclusion events state := by
  induction events generalizing state with
  | nil => trivial
  | cons event rest ih =>
      intro next moved
      obtain ⟨first, others⟩ := meets next moved
      exact ⟨each event state next first moved holds, ih next others (keeps event state next first moved holds)⟩

end Invariants

end SasCore.Runs
