import SasCore.Lib.Txn

set_option autoImplicit false

-- Bodies that take effect as a whole or not at all.
namespace SasCore.Txn.Prog

variable {D E α : Type}

def failIf (fails : Bool) (error : E) (next : Prog D E) : Prog D E := if fails then raise error else next

-- One write for each item, each of which may fail.
def writeEach (change : α → D → D) (fails : Nat → Bool) (error : Nat → E) : Nat → List α → Prog D E → Prog D E
  | _, [], next => next
  | index, item :: rest, next =>
      write (change item) (failIf (fails index) (error index) (writeEach change fails error (index + 1) rest next))

-- From a session, a body either fails with everything committed as before, or ends with `final` committed, nothing
-- pending and `fact` checked.
def Settles (prog : Prog D E) (session : Session D) (final : D) (fact : Prop) : Prop :=
  (∃ error, (exec prog session).2 = some error ∧ (exec prog session).1.committed = session.committed ∧
      ∀ d ∈ published prog session, d = session.committed) ∨
    (exec prog session = (Session.start final, none) ∧ fact ∧
      ∀ d ∈ published prog session, d = session.committed ∨ d = final)

-- And where it fails, it has rolled back.
def Atomic (prog : Prog D E) (session : Session D) (final : D) (fact : Prop) : Prop :=
  (∃ error, exec prog session = (Session.start session.committed, some error) ∧
      ∀ d ∈ published prog session, d = session.committed) ∨
    (exec prog session = (Session.start final, none) ∧ fact ∧
      ∀ d ∈ published prog session, d = session.committed ∨ d = final)

variable (session : Session D) (final : D) (fact : Prop)

theorem raise_settles (error : E) : Settles (raise error : Prog D E) session final fact := by
  left
  exact ⟨error, rfl, rfl, fun d member => List.mem_singleton.mp member⟩

theorem fail_if_settles (fails : Bool) (error : E) (next : Prog D E) (settles : Settles next session final fact) :
    Settles (failIf fails error next) session final fact := by
  rw [failIf]
  split
  · exact raise_settles session final fact error
  · exact settles

theorem read_settles (next : D → Prog D E) (settles : Settles (next session.view) session final fact) :
    Settles (read next) session final fact := settles

theorem commit_settles (holds : fact) (reaches : session.view = final) : Settles (commit done : Prog D E) session final fact := by
  right
  refine ⟨by rw [← reaches]; rfl, holds, fun d member => ?_⟩
  rcases List.mem_cons.mp member with here | later
  · exact .inl here
  · exact .inr ((List.mem_singleton.mp later).trans reaches)

-- The writes reach the session one by one.
theorem write_each_settles (change : α → D → D) (fails : Nat → Bool) (error : Nat → E) (items : List α) (index : Nat) (next : Prog D E)
    (settles : ∀ written : Session D, written.committed = session.committed →
      written.view = items.foldl (fun d item => change item d) session.view → Settles next written final fact) :
    Settles (writeEach change fails error index items next) session final fact := by
  induction items generalizing index session with
  | nil => exact settles session rfl rfl
  | cons item rest ih =>
      have later := fail_if_settles (session.write (change item)) final fact (fails index) (error index) _
        (ih (session.write (change item)) (index + 1) fun written same seen => settles written same seen)
      exact later

theorem guarded_atomic (prog : Prog D E) (settles : Settles prog session final fact) :
    Atomic (prog.guarded fun error => rollback (raise error)) session final fact := by
  have run := exec_guarded (fun error => (rollback (raise error) : Prog D E)) prog session
  have states := published_guarded (fun error => (rollback (raise error) : Prog D E)) prog session
  rcases settles with ⟨error, isError, kept, all⟩ | ⟨ended, holds, all⟩
  · left
    rw [isError] at run
    refine ⟨error, ?_, fun d member => ?_⟩
    · have handled : exec (rollback (raise error) : Prog D E) (exec prog session).1 = (Session.start session.committed, some error) := by
        rw [← kept]
        rfl
      exact run.trans handled
    · rcases (states d).mp member with inside | ⟨_, _, handled⟩
      · exact all d inside
      · exact (List.mem_singleton.mp handled).trans kept
  · right
    rw [ended] at run
    refine ⟨run, holds, fun d member => ?_⟩
    rcases (states d).mp member with inside | ⟨error, isError, _⟩
    · exact all d inside
    · rw [ended] at isError
      cases isError

section Views

variable {V : Type} (view : D → V)

-- Two sessions that a view cannot tell apart.
def Agree (first second : Session D) : Prop := view first.committed = view second.committed ∧ view first.view = view second.view

-- And two bodies that lead such sessions to the same outcome.
def Alike (first second : Prog D E) : Prop :=
  ∀ s t, Agree view s t → (exec first s).2 = (exec second t).2 ∧ Agree view (exec first s).1 (exec second t).1

theorem done_alike : Alike view (done : Prog D E) done := fun _ _ agree => ⟨rfl, agree⟩

theorem raise_alike (error : E) : Alike view (raise error : Prog D E) (raise error) := fun _ _ agree => ⟨rfl, agree⟩

theorem commit_alike (first second : Prog D E) (alike : Alike view first second) : Alike view (commit first) (commit second) :=
  fun s t agree => alike s.commit t.commit ⟨agree.2, agree.2⟩

theorem lock_alike (first second : Prog D E) (alike : Alike view first second) : Alike view (lock first) (lock second) := alike

theorem write_alike (change : D → D) (keeps : ∀ d e, view d = view e → view (change d) = view (change e)) (first second : Prog D E)
    (alike : Alike view first second) : Alike view (write change first) (write change second) :=
  fun s t agree => alike (s.write change) (t.write change) ⟨agree.1, keeps _ _ agree.2⟩

theorem read_alike (first second : D → Prog D E) (alike : ∀ d e, view d = view e → Alike view (first d) (second e)) :
    Alike view (read first) (read second) := fun s t agree => alike s.view t.view agree.2 s t agree

theorem fail_if_alike (fails : Bool) (error : E) (first second : Prog D E) (alike : Alike view first second) :
    Alike view (failIf fails error first) (failIf fails error second) := by
  cases fails with
  | true => exact raise_alike view error
  | false => exact alike

theorem write_each_alike (change : α → D → D) (keeps : ∀ item d e, view d = view e → view (change item d) = view (change item e))
    (fails : Nat → Bool) (error : Nat → E) (items : List α) (index : Nat) (first second : Prog D E) (alike : Alike view first second) :
    Alike view (writeEach change fails error index items first) (writeEach change fails error index items second) := by
  induction items generalizing index with
  | nil => exact alike
  | cons item rest ih =>
      exact write_alike view (change item) (keeps item) _ _ (fail_if_alike view (fails index) (error index) _ _ (ih (index + 1)))

theorem guarded_alike (first second : Prog D E) (alike : Alike view first second) :
    Alike view (first.guarded fun error => rollback (raise error)) (second.guarded fun error => rollback (raise error)) := by
  intro s t agree
  obtain ⟨same, later⟩ := alike s t agree
  rw [exec_guarded, exec_guarded, same]
  cases (exec second t).2 with
  | none => exact ⟨rfl, later⟩
  | some error => exact ⟨rfl, later.1, later.1⟩

end Views

end SasCore.Txn.Prog
