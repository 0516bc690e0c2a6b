import SasCore.Lib.Txn

set_option autoImplicit false

namespace SasCore.Txn

-- What other sessions commit, and which of it waits for the lock.
structure Rivals (D O : Type) where
  act : O → D → D
  waits : O → Bool

-- An operation that took effect: the place the body was at, and what the operation found.
structure Entry (D O : Type) where
  place : Nat
  op : O
  found : D

structure World (D O : Type) where
  session : Session D
  locked : Bool
  place : Nat
  history : List (Entry D O)

namespace World

variable {D O : Type}

def start (db : D) : World D O := ⟨Session.start db, false, 0, []⟩

def write (change : D → D) (world : World D O) : World D O := { world with session := world.session.write change }

def lock (world : World D O) : World D O := { world with locked := true }

-- A commit or a rollback ends the transaction, and the lock with it.
def commit (world : World D O) : World D O := { world with session := world.session.commit, locked := false }

def rollback (world : World D O) : World D O := { world with session := world.session.rollback, locked := false }

def move (place : Nat) (world : World D O) : World D O := { world with place := place }

variable (rivals : Rivals D O)

def blocked (world : World D O) (op : O) : Bool := world.locked && rivals.waits op

def entry (world : World D O) (op : O) : Entry D O := ⟨world.place, op, world.session.committed⟩

def enter (world : World D O) (op : O) : World D O :=
  if blocked rivals world op then world
  else { world with
    session := world.session.others (rivals.act op)
    history := world.history ++ [world.entry op] }

def enterAll (world : World D O) (ops : List O) : World D O := ops.foldl (enter rivals) world

end World

namespace Prog

open World

variable {D E O : Type} (rivals : Rivals D O)

-- The body, with the operations of the next block of the schedule before each of its accesses. A note is none.
def weave : Prog D E → World D O → List (List O) → World D O × Option E
  | done, world, _ => (world, none)
  | raise error, world, _ => (world, some error)
  | write change next, world, schedule =>
      weave next ((enterAll rivals world (schedule.headD [])).write change) schedule.tail
  | read next, world, schedule =>
      weave (next (enterAll rivals world (schedule.headD [])).session.view) (enterAll rivals world (schedule.headD []))
        schedule.tail
  | lock next, world, schedule => weave next (enterAll rivals world (schedule.headD [])).lock schedule.tail
  | commit next, world, schedule => weave next (enterAll rivals world (schedule.headD [])).commit schedule.tail
  | rollback next, world, schedule => weave next (enterAll rivals world (schedule.headD [])).rollback schedule.tail
  | note place next, world, schedule => weave next (world.move place) schedule

theorem enter_history (world : World D O) (op : O) : world.history <+: (enter rivals world op).history := by
  unfold enter
  split
  · exact List.prefix_refl _
  · exact List.prefix_append _ _

theorem enter_all_history (ops : List O) (world : World D O) : world.history <+: (enterAll rivals world ops).history := by
  induction ops generalizing world with
  | nil => exact List.prefix_refl _
  | cons op rest ih => exact (enter_history rivals world op).trans (ih (enter rivals world op))

theorem weave_history (prog : Prog D E) (world : World D O) (schedule : List (List O)) :
    world.history <+: (weave rivals prog world schedule).1.history := by
  induction prog generalizing world schedule with
  | done => exact List.prefix_refl _
  | raise error => exact List.prefix_refl _
  | write change next ih =>
      exact (enter_all_history rivals _ world).trans (ih ((enterAll rivals world (schedule.headD [])).write change) _)
  | read next ih => exact (enter_all_history rivals _ world).trans (ih _ (enterAll rivals world (schedule.headD [])) _)
  | lock next ih => exact (enter_all_history rivals _ world).trans (ih (enterAll rivals world (schedule.headD [])).lock _)
  | commit next ih =>
      exact (enter_all_history rivals _ world).trans (ih (enterAll rivals world (schedule.headD [])).commit _)
  | rollback next ih =>
      exact (enter_all_history rivals _ world).trans (ih (enterAll rivals world (schedule.headD [])).rollback _)
  | note place next ih => exact ih (world.move place) schedule

theorem enter_all_idle (ops : List O) (world : World D O) (idle : (enterAll rivals world ops).history = world.history) :
    enterAll rivals world ops = world := by
  induction ops generalizing world with
  | nil => rfl
  | cons op rest ih =>
      by_cases stopped : blocked rivals world op = true
      · have same : enter rivals world op = world := by rw [enter, if_pos stopped]
        have step : enterAll rivals world (op :: rest) = enterAll rivals world rest := congrArg (enterAll rivals · rest) same
        rw [step] at idle ⊢
        exact ih world idle
      · have grown := (enter_all_history rivals rest (enter rivals world op)).length_le
        rw [enter, if_neg stopped] at grown
        have total : (enterAll rivals world (op :: rest)).history.length = world.history.length := congrArg List.length idle
        have step : enterAll rivals world (op :: rest) = enterAll rivals (enter rivals world op) rest := rfl
        rw [step, enter, if_neg stopped] at total
        rw [total, List.length_append, List.length_singleton] at grown
        omega

-- An access whose block lets nothing in.
theorem idle_block (next : Prog D E) (access : World D O → World D O)
    (keeps : ∀ world, (access world).history = world.history) (world : World D O) (schedule : List (List O))
    (idle : (weave rivals next (access (enterAll rivals world (schedule.headD []))) schedule.tail).1.history =
      world.history) : enterAll rivals world (schedule.headD []) = world := by
  apply enter_all_idle
  have before := enter_all_history rivals (schedule.headD []) world
  have later := weave_history rivals next (access (enterAll rivals world (schedule.headD []))) schedule.tail
  rw [keeps, idle] at later
  exact later.eq_of_length_le before.length_le

-- A body that no operation comes in between runs as it does on its own.
theorem weave_alone (prog : Prog D E) (world : World D O) (schedule : List (List O))
    (idle : (weave rivals prog world schedule).1.history = world.history) :
    (weave rivals prog world schedule).1.session = (exec prog world.session).1 ∧
      (weave rivals prog world schedule).2 = (exec prog world.session).2 := by
  induction prog generalizing world schedule with
  | done => exact ⟨rfl, rfl⟩
  | raise error => exact ⟨rfl, rfl⟩
  | write change next ih =>
      have same := idle_block rivals next (World.write change) (fun _ => rfl) world schedule idle
      simp only [weave, same] at idle ⊢
      exact ih (world.write change) schedule.tail idle
  | read next ih =>
      have same := idle_block rivals _ id (fun _ => rfl) world schedule idle
      simp only [weave, same] at idle ⊢
      exact ih world.session.view world schedule.tail idle
  | lock next ih =>
      have same := idle_block rivals next World.lock (fun _ => rfl) world schedule idle
      simp only [weave, same] at idle ⊢
      exact ih world.lock schedule.tail idle
  | commit next ih =>
      have same := idle_block rivals next World.commit (fun _ => rfl) world schedule idle
      simp only [weave, same] at idle ⊢
      exact ih world.commit schedule.tail idle
  | rollback next ih =>
      have same := idle_block rivals next World.rollback (fun _ => rfl) world schedule idle
      simp only [weave, same] at idle ⊢
      exact ih world.rollback schedule.tail idle
  | note place next ih => exact ih (world.move place) schedule idle

section Rely

variable (rely : Entry D O → Prop)

-- What an operation that the rely lets in keeps.
def Stable (P : World D O → Prop) : Prop :=
  ∀ world op, P world → blocked rivals world op = false → rely (world.entry op) → P (enter rivals world op)

-- From P, whatever the rely lets in, the body ends in Q.
def Ends (P : World D O → Prop) (prog : Prog D E) (Q : World D O → Option E → Prop) : Prop :=
  ∀ world schedule, P world → (∀ entry ∈ (weave rivals prog world schedule).1.history, rely entry) →
    Q (weave rivals prog world schedule).1 (weave rivals prog world schedule).2

theorem stable_enter_all (P : World D O → Prop) (stable : Stable rivals rely P) (ops : List O) (world : World D O)
    (holds : P world) (relied : ∀ entry ∈ (enterAll rivals world ops).history, rely entry) :
    P (enterAll rivals world ops) := by
  induction ops generalizing world with
  | nil => exact holds
  | cons op rest ih =>
      apply ih (enter rivals world op) ?_ relied
      by_cases stopped : blocked rivals world op = true
      · rw [enter, if_pos stopped]
        exact holds
      · have free : blocked rivals world op = false := Bool.eq_false_iff.mpr stopped
        apply stable world op holds free
        apply relied
        apply (enter_all_history rivals rest (enter rivals world op)).subset
        rw [enter, if_neg stopped]
        exact List.mem_append_right _ (List.mem_singleton_self _)

-- Operations of other sessions leave the pending writes alone.
theorem stable_pending (P : World D O → Prop) (change : D → D) (stable : Stable rivals rely P) :
    Stable rivals rely fun world => P world ∧ world.session.pending = change := by
  rintro world op ⟨holds, same⟩ free relied
  refine ⟨stable world op holds free relied, ?_⟩
  rw [enter, if_neg (by rw [free]; exact Bool.false_ne_true)]
  exact same

variable {P : World D O → Prop} (P' : World D O → Prop) {Q : World D O → Option E → Prop}

theorem ends_done (post : ∀ world, P world → Q world none) : Ends rivals rely P (done : Prog D E) Q :=
  fun world _ holds _ => post world holds

theorem ends_raise (error : E) (post : ∀ world, P world → Q world (some error)) : Ends rivals rely P (raise error) Q :=
  fun world _ holds _ => post world holds

-- What holds before an access still holds after the block in front of it.
theorem before_access (stable : Stable rivals rely P) (next : Prog D E) (access : World D O → World D O)
    (keeps : ∀ world, (access world).history = world.history) (world : World D O) (schedule : List (List O))
    (holds : P world)
    (relied : ∀ entry ∈ (weave rivals next (access (enterAll rivals world (schedule.headD []))) schedule.tail).1.history,
      rely entry) : P (enterAll rivals world (schedule.headD [])) := by
  apply stable_enter_all rivals rely P stable _ world holds
  intro entry member
  apply relied
  apply (weave_history rivals next _ _).subset
  rw [keeps]
  exact member

theorem ends_write (stable : Stable rivals rely P) (change : D → D) (next : Prog D E)
    (step : ∀ world, P world → P' (world.write change)) (rest : Ends rivals rely P' next Q) :
    Ends rivals rely P (write change next) Q := by
  intro world schedule holds relied
  exact rest _ _ (step _ (before_access rivals rely stable next (World.write change) (fun _ => rfl) world schedule holds
    relied)) relied

theorem ends_read (stable : Stable rivals rely P) (next : D → Prog D E)
    (rest : ∀ seen, Ends rivals rely (fun world => P world ∧ world.session.view = seen) (next seen) Q) :
    Ends rivals rely P (read next) Q := by
  intro world schedule holds relied
  exact rest _ _ _ ⟨before_access rivals rely stable _ id (fun _ => rfl) world schedule holds relied, rfl⟩ relied

theorem ends_lock (stable : Stable rivals rely P) (next : Prog D E) (step : ∀ world, P world → P' world.lock)
    (rest : Ends rivals rely P' next Q) : Ends rivals rely P (lock next) Q := by
  intro world schedule holds relied
  exact rest _ _ (step _ (before_access rivals rely stable next World.lock (fun _ => rfl) world schedule holds relied))
    relied

theorem ends_commit (stable : Stable rivals rely P) (next : Prog D E) (step : ∀ world, P world → P' world.commit)
    (rest : Ends rivals rely P' next Q) : Ends rivals rely P (commit next) Q := by
  intro world schedule holds relied
  exact rest _ _ (step _ (before_access rivals rely stable next World.commit (fun _ => rfl) world schedule holds relied))
    relied

theorem ends_rollback (stable : Stable rivals rely P) (next : Prog D E) (step : ∀ world, P world → P' world.rollback)
    (rest : Ends rivals rely P' next Q) : Ends rivals rely P (rollback next) Q := by
  intro world schedule holds relied
  exact rest _ _ (step _ (before_access rivals rely stable next World.rollback (fun _ => rfl) world schedule holds relied))
    relied

theorem ends_note (place : Nat) (next : Prog D E) (step : ∀ world, P world → P' (world.move place))
    (rest : Ends rivals rely P' next Q) : Ends rivals rely P (note place next) Q :=
  fun world schedule holds relied => rest (world.move place) schedule (step world holds) relied

theorem ends_mono (prog : Prog D E) (Q' : World D O → Option E → Prop) (weaker : ∀ world, P world → P' world)
    (stronger : ∀ world outcome, Q world outcome → Q' world outcome) (holds : Ends rivals rely P' prog Q) :
    Ends rivals rely P prog Q' :=
  fun world schedule first relied => stronger _ _ (holds world schedule (weaker world first) relied)

end Rely

end Prog

end SasCore.Txn
