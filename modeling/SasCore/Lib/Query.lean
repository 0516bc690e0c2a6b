import Mathlib.Data.List.Basic

set_option autoImplicit false

namespace SasCore

-- A computation over a state that others may change: it asks for one view at a time, and a view is all that it sees.
inductive Query {L : Type} (View : L → Type) (α : Type) where
  | done (result : α)
  | ask (label : L) (next : View label → Query View α)

namespace Query

variable {L D E α β : Type} {View : L → Type}

-- The next question is answered.
def answer (look : (label : L) → View label) : Query View α → Query View α
  | done result => done result
  | ask label next => next (look label)

def asks : Query View α → Option L
  | done _ => none
  | ask label _ => some label

-- All questions are answered by one state.
def run (look : (label : L) → View label) : Query View α → α
  | done result => result
  | ask label next => run look (next (look label))

def map (f : α → β) : Query View α → Query View β
  | done result => done (f result)
  | ask label next => ask label fun view => map f (next view)

-- What follows a result, past any exception.
def andThen (next : α → Query View (Except E β)) : Query View (Except E α) → Query View (Except E β)
  | done (.error error) => done (.error error)
  | done (.ok result) => next result
  | ask label rest => ask label fun view => andThen next (rest view)

variable (look : (label : L) → View label)

@[simp] theorem run_done (result : α) : (done result : Query View α).run look = result := rfl

@[simp] theorem run_ask (label : L) (next : View label → Query View α) : (ask label next).run look = (next (look label)).run look := rfl

@[simp] theorem run_map (f : α → β) (query : Query View α) : (query.map f).run look = f (query.run look) := by
  induction query with
  | done result => rfl
  | ask label next ih => exact ih (look label)

@[simp] theorem run_and_then (next : α → Query View (Except E β)) (query : Query View (Except E α)) :
    (query.andThen next).run look =
      match query.run look with
      | .error error => .error error
      | .ok result => (next result).run look := by
  induction query with
  | done result => cases result <;> rfl
  | ask label rest ih => exact ih (look label)

end Query

end SasCore
