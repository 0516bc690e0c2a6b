import SasCore.Lib.Txn

set_option autoImplicit false

-- Bodies whose places may each raise.
namespace SasCore.Txn.Prog

variable {D E P : Type} (fault : P → Option E)

def attempt (place : P) (next : Prog D E) : Prog D E :=
  match fault place with
  | some error => raise error
  | none => next

def firstFault (places : List P) : Option E := places.findSome? fault

-- A body that passes these places stops at the first of them that raises, with `inside` of its session, or reaches the end.
def Runs (places : List P) (inside : Session D → Prop) (prog : Prog D E) (session final : Session D) : Prop :=
  match firstFault fault places with
  | some error => ∃ left, exec prog session = (left, some error) ∧ inside left
  | none => exec prog session = (final, none)

section Rules

variable (inside : Session D → Prop) (place : P) (places rest : List P) (prog next : Prog D E) (session final : Session D)

theorem first_fault_nil : firstFault fault [] = none := rfl

theorem first_fault_cons_none (passes : fault place = none) : firstFault fault (place :: rest) = firstFault fault rest := by
  rw [firstFault, List.findSome?_cons, passes]
  rfl

theorem first_fault_cons_some (error : E) (raises : fault place = some error) :
    firstFault fault (place :: rest) = some error := by
  rw [firstFault, List.findSome?_cons, raises]

theorem first_fault_append : firstFault fault (places ++ rest) = (firstFault fault places).or (firstFault fault rest) :=
  List.findSome?_append

theorem exec_attempt_none (passes : fault place = none) : exec (attempt fault place next) session = exec next session := by
  rw [attempt, passes]

theorem exec_attempt_some (error : E) (raises : fault place = some error) :
    exec (attempt fault place next) session = (session, some error) := by
  rw [attempt, raises]
  rfl

theorem runs_done : Runs fault ([] : List P) inside (done : Prog D E) session session := by
  rw [Runs, first_fault_nil]
  rfl

theorem runs_attempt (holds : inside session) (runs : Runs fault rest inside next session final) :
    Runs fault (place :: rest) inside (attempt fault place next) session final := by
  cases met : fault place with
  | some error =>
      rw [Runs, first_fault_cons_some fault place rest error met]
      exact ⟨session, exec_attempt_some fault place next session error met, holds⟩
  | none =>
      rw [Runs, first_fault_cons_none fault place rest met, exec_attempt_none fault place next session met]
      exact runs

theorem runs_write (change : D → D) (runs : Runs fault places inside next (session.write change) final) :
    Runs fault places inside (write change next) session final := runs

theorem runs_read (body : D → Prog D E) (runs : Runs fault places inside (body session.view) session final) :
    Runs fault places inside (read body) session final := runs

theorem runs_commit (runs : Runs fault places inside next session.commit final) :
    Runs fault places inside (commit next) session final := runs

theorem runs_stops (error : E) (runs : Runs fault places inside prog session final) (met : firstFault fault places = some error) :
    ∃ left, exec prog session = (left, some error) ∧ inside left := by
  rw [Runs, met] at runs
  exact runs

theorem runs_ends (runs : Runs fault places inside prog session final) (quiet : firstFault fault places = none) :
    exec prog session = (final, none) := by
  rw [Runs, quiet] at runs
  exact runs

end Rules

end SasCore.Txn.Prog
