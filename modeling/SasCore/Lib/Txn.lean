import Mathlib.Data.List.Basic

set_option autoImplicit false

namespace SasCore.Txn

-- A session between two commits: what the database holds, and what the session wrote since.
structure Session (D : Type) where
  committed : D
  pending : D → D

namespace Session

variable {D : Type}

def start (committed : D) : Session D := ⟨committed, id⟩

def view (session : Session D) : D := session.pending session.committed

def write (change : D → D) (session : Session D) : Session D := ⟨session.committed, change ∘ session.pending⟩

def commit (session : Session D) : Session D := ⟨session.view, id⟩

def rollback (session : Session D) : Session D := ⟨session.committed, id⟩

-- A commit of another session.
def others (change : D → D) (session : Session D) : Session D := ⟨change session.committed, session.pending⟩

end Session

-- The database accesses of a function body. `lock` takes the lock that lasts to the end of the
-- transaction, `note` only names a place in the body.
inductive Prog (D E : Type) : Type where
  | done
  | raise (error : E)
  | write (change : D → D) (next : Prog D E)
  | read (next : D → Prog D E)
  | lock (next : Prog D E)
  | commit (next : Prog D E)
  | rollback (next : Prog D E)
  | note (place : Nat) (next : Prog D E)

namespace Prog

variable {D E : Type}

-- try: body; except Exception as error: handler(error)
def guarded (handler : E → Prog D E) : Prog D E → Prog D E
  | done => done
  | raise error => handler error
  | write change next => write change (guarded handler next)
  | read next => read fun seen => guarded handler (next seen)
  | lock next => lock (guarded handler next)
  | commit next => commit (guarded handler next)
  | rollback next => rollback (guarded handler next)
  | note place next => note place (guarded handler next)

-- The body run on its own: the session it leaves and the error it ends with.
def exec : Prog D E → Session D → Session D × Option E
  | done, session => (session, none)
  | raise error, session => (session, some error)
  | write change next, session => exec next (session.write change)
  | read next, session => exec (next session.view) session
  | lock next, session => exec next session
  | commit next, session => exec next session.commit
  | rollback next, session => exec next session.rollback
  | note _ next, session => exec next session

def step : Prog D E → Session D → Prog D E × Session D
  | done, session => (done, session)
  | raise error, session => (raise error, session)
  | write change next, session => (next, session.write change)
  | read next, session => (next session.view, session)
  | lock next, session => (next, session)
  | commit next, session => (next, session.commit)
  | rollback next, session => (next, session.rollback)
  | note _ next, session => (next, session)

-- The body stopped after n accesses, by a crash or an exception there.
def after : Nat → Prog D E → Session D → Prog D E × Session D
  | 0, prog, session => (prog, session)
  | n + 1, prog, session => after n (step prog session).1 (step prog session).2

-- The committed states in turn: what other sessions read while the body runs.
def published : Prog D E → Session D → List D
  | done, session => [session.committed]
  | raise _, session => [session.committed]
  | write change next, session => published next (session.write change)
  | read next, session => published (next session.view) session
  | lock next, session => published next session
  | commit next, session => session.committed :: published next session.commit
  | rollback next, session => published next session.rollback
  | note _ next, session => published next session

theorem committed_published (prog : Prog D E) (session : Session D) : session.committed ∈ published prog session := by
  induction prog generalizing session with
  | done => exact List.mem_singleton_self _
  | raise error => exact List.mem_singleton_self _
  | write change next ih => exact ih (session.write change)
  | read next ih => exact ih session.view session
  | lock next ih => exact ih session
  | commit next ih => exact List.mem_cons_self
  | rollback next ih => exact ih session.rollback
  | note place next ih => exact ih session

theorem step_published (prog : Prog D E) (session : Session D) (d : D)
    (member : d ∈ published (step prog session).1 (step prog session).2) : d ∈ published prog session := by
  cases prog with
  | commit next => exact List.mem_cons_of_mem _ member
  | done => exact member
  | raise error => exact member
  | write change next => exact member
  | read next => exact member
  | lock next => exact member
  | rollback next => exact member
  | note place next => exact member

-- Wherever the body stops, the database is in one of its published states.
theorem after_published (n : Nat) (prog : Prog D E) (session : Session D) :
    (after n prog session).2.committed ∈ published prog session := by
  induction n generalizing prog session with
  | zero => exact committed_published prog session
  | succ n ih => exact step_published prog session _ (ih (step prog session).1 (step prog session).2)

-- And each published state is where some stop leaves it.
theorem published_after (prog : Prog D E) (session : Session D) (d : D) (member : d ∈ published prog session) :
    ∃ n, (after n prog session).2.committed = d := by
  induction prog generalizing session with
  | done => exact ⟨0, (List.mem_singleton.mp member).symm⟩
  | raise error => exact ⟨0, (List.mem_singleton.mp member).symm⟩
  | write change next ih =>
      obtain ⟨n, stops⟩ := ih (session.write change) member
      exact ⟨n + 1, stops⟩
  | read next ih =>
      obtain ⟨n, stops⟩ := ih session.view session member
      exact ⟨n + 1, stops⟩
  | lock next ih =>
      obtain ⟨n, stops⟩ := ih session member
      exact ⟨n + 1, stops⟩
  | commit next ih =>
      rcases List.mem_cons.mp member with here | later
      · exact ⟨0, here.symm⟩
      · obtain ⟨n, stops⟩ := ih session.commit later
        exact ⟨n + 1, stops⟩
  | rollback next ih =>
      obtain ⟨n, stops⟩ := ih session.rollback member
      exact ⟨n + 1, stops⟩
  | note place next ih =>
      obtain ⟨n, stops⟩ := ih session member
      exact ⟨n + 1, stops⟩

-- A guarded body publishes what the body publishes, and then what the handler does.
theorem published_guarded (handler : E → Prog D E) (prog : Prog D E) (session : Session D) (d : D) :
    d ∈ published (guarded handler prog) session ↔
      d ∈ published prog session ∨ ∃ error, (exec prog session).2 = some error ∧
        d ∈ published (handler error) (exec prog session).1 := by
  induction prog generalizing session with
  | done => simp [guarded, published, exec]
  | raise error =>
      simp only [guarded, published, exec, Option.some.injEq, exists_eq_left', List.mem_singleton]
      constructor
      · exact Or.inr
      · rintro (rfl | later)
        · exact committed_published _ _
        · exact later
  | write change next ih => exact ih (session.write change)
  | read next ih => exact ih session.view session
  | lock next ih => exact ih session
  | commit next ih =>
      simp only [guarded, published, exec, List.mem_cons, ih, or_assoc]
  | rollback next ih => exact ih session.rollback
  | note place next ih => exact ih session

theorem exec_guarded (handler : E → Prog D E) (prog : Prog D E) (session : Session D) :
    exec (guarded handler prog) session =
      match (exec prog session).2 with
      | none => ((exec prog session).1, none)
      | some error => exec (handler error) (exec prog session).1 := by
  induction prog generalizing session with
  | done => rfl
  | raise error => rfl
  | write change next ih => exact ih (session.write change)
  | read next ih => exact ih session.view session
  | lock next ih => exact ih session
  | commit next ih => exact ih session.commit
  | rollback next ih => exact ih session.rollback
  | note place next ih => exact ih session

-- A fragment is a body with a hole for what comes next. From `session` it either goes on with a result, or
-- stops with an error before any commit.
def Leads {α : Type} (fragment : (α → Prog D E) → Prog D E) (session : Session D) (result : α) (reached : Session D) :
    Prop :=
  ∀ next, published (fragment next) session = published (next result) reached ∧
    exec (fragment next) session = exec (next result) reached

def Stops {α : Type} (fragment : (α → Prog D E) → Prog D E) (session : Session D) (error : E) (left : Session D) : Prop :=
  ∀ next, published (fragment next) session = [session.committed] ∧ exec (fragment next) session = (left, some error)

end Prog

end SasCore.Txn
