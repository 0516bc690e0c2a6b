import SasCore.Cpas.Dispatch

set_option autoImplicit false

namespace SasCore.Cpas

-- The threads that have set the flag and the runs that will clear it.
inductive Holder where
  | call (call : Nat)
  | run (run : Nat)
deriving DecidableEq, Repr

def RunPhase.holds : RunPhase → Bool
  | .absent => false
  | .cleared => false
  | _ => true

def Dispatch.holds (state : Dispatch) : Holder → Bool
  | .call call => (state.calls call).holds
  | .run run => (state.runs run).holds

theorem live_holds (phase : RunPhase) (live : phase.live = true) : phase.holds = true := by
  cases phase <;> first | rfl | cases live

structure FlagGuarded (state : Dispatch) : Prop where
  once : ∀ first second, state.holds first = true → state.holds second = true → first = second
  covered : ∀ holder, state.holds holder = true → 0 < state.flagRows
  unseen : ∀ call tick, state.calls call ≠ .looked tick true

-- The two statements of set_admin_flag.
def DispatchEvent.setsFlag : DispatchEvent → Bool
  | .selectFlag _ => true
  | .writeFlag _ => true
  | _ => false

-- A call that found the flag unset finds it unset again when it selects the row and when it writes it.
def FlagUnchanged (event : DispatchEvent) (state : Dispatch) : Prop := event.setsFlag = true → state.flagRows = 0

instance (event : DispatchEvent) (state : Dispatch) : Decidable (FlagUnchanged event state) :=
  inferInstanceAs (Decidable (event.setsFlag = true → state.flagRows = 0))

-- No run is dispatched while another is pending or executing.
def DispatchesAlone (event : DispatchEvent) (state : Dispatch) : Prop :=
  ∀ call run, event = .dispatch call run → ∀ other, (state.runs other).live = false

def FlagCovers (state : Dispatch) : Prop := ∀ run, (state.runs run).live = true → 0 < state.flagRows

section Effects

variable (config : ScheduleConfig) (home : Nat → Nat)

-- What a step of a call does to the flag and to the runs.
inductive CallEffect (call : Nat) (state next : Dispatch) : DispatchEvent → Prop where
  | passes (event : DispatchEvent) (phase : CallPhase) (flag : next.flagRows = state.flagRows) (runs : next.runs = state.runs)
      (calls : next.calls = Function.update state.calls call phase)
      (holds : phase.holds = true → (state.calls call).holds = true)
      (looks : ∀ tick, phase = .looked tick true → event = .selectFlag call ∧ 0 < state.flagRows) : CallEffect call state next event
  | sets (tick : Option Ticking) (existing : Bool) (looked : state.calls call = .looked tick existing)
      (flag : next.flagRows = if existing then state.flagRows else state.flagRows + 1) (runs : next.runs = state.runs)
      (calls : next.calls = Function.update state.calls call (.flagged tick)) : CallEffect call state next (.writeFlag call)
  | hands (run : Nat) (held : (state.calls call).holds = true) (absent : state.runs run = .absent)
      (flag : next.flagRows = state.flagRows) (runs : next.runs = Function.update state.runs run .pending)
      (calls : next.calls = Function.update state.calls call .idle) : CallEffect call state next (.dispatch call run)
  | gives (cleared : Bool) (held : (state.calls call).holds = true) (runs : next.runs = state.runs)
      (calls : next.calls = Function.update state.calls call .idle) : CallEffect call state next (.clearFailed call cleared)

theorem call_effect (call : Nat) (event : DispatchEvent) (state next : Dispatch) (actor : event.actor = .call call)
    (moved : callStep config home call state event (state.calls call) = some next) :
    CallEffect call state next event := by
  have quiet : ∀ (next : Dispatch) (phase : CallPhase), next.flagRows = state.flagRows → next.runs = state.runs →
      next.calls = Function.update state.calls call phase → phase.holds = false → (∀ tick, phase ≠ .looked tick true) →
        CallEffect call state next event := fun next phase flag runs calls free blind =>
    .passes event phase flag runs calls (fun held => absurd (free.symm.trans held) Bool.false_ne_true)
      (fun tick same => absurd same (blind tick))
  have move := call_move config home call event _ state next moved
  generalize isPhase : state.calls call = phase at move
  cases move with
  | looks of tick =>
      cases actor
      refine .passes _ _ rfl rfl rfl (fun held => by cases held) fun other same => ⟨rfl, ?_⟩
      simp only [CallPhase.looked.injEq, decide_eq_true_eq] at same
      exact same.2
  | writes of tick existing =>
      cases actor
      exact .sets tick existing isPhase rfl rfl rfl
  | hands of run tick absent =>
      cases actor
      exact .hands run (by rw [isPhase]; rfl) absent rfl rfl rfl
  | fails of tick => exact .passes _ _ rfl rfl rfl (fun _ => by rw [isPhase]; rfl) (fun _ same => by cases same)
  | gives of cleared tick =>
      cases actor
      exact .gives cleared (by rw [isPhase]; rfl) rfl rfl
  | leaves _ _ free => exact quiet _ .idle rfl rfl rfl rfl (by simp)
  | _ => exact quiet _ _ rfl rfl rfl rfl (by simp)

-- What a step of a run does to the flag and to the calls.
inductive RunEffect (run : Nat) (state next : Dispatch) : Prop where
  | passes (phase : RunPhase) (flag : next.flagRows = state.flagRows) (calls : next.calls = state.calls)
      (runs : next.runs = Function.update state.runs run phase)
      (holds : phase.holds = true → (state.runs run).holds = true)
      (lives : phase.live = true → (state.runs run).live = true) : RunEffect run state next
  | clears (held : (state.runs run).holds = true) (calls : next.calls = state.calls)
      (runs : next.runs = Function.update state.runs run .cleared) : RunEffect run state next

theorem run_effect (run : Nat) (event : DispatchEvent) (state next : Dispatch)
    (moved : runStep config run state event (state.runs run) = some next) : RunEffect run state next := by
  have move := run_move config run event _ state next moved
  generalize isPhase : state.runs run = phase at move
  cases move with
  | skips =>
      refine .passes .executing rfl rfl ?_ (fun _ => by rw [isPhase]; rfl) (fun _ => by rw [isPhase]; rfl)
      rw [← isPhase, Function.update_eq_self]
  | ends _ _ live =>
      exact .passes _ rfl rfl rfl (fun _ => by rw [isPhase]; exact live_holds _ live) (fun ended => by cases ended)
  | clears => exact .clears (by rw [isPhase]; rfl) rfl rfl
  | _ => exact .passes _ rfl rfl rfl (fun _ => by rw [isPhase]; rfl) (fun _ => by rw [isPhase]; rfl)

-- A step that leaves the flag alone and makes no new holder.
theorem guarded_of_fewer (state next : Dispatch) (guarded : FlagGuarded state) (flag : next.flagRows = state.flagRows)
    (fewer : ∀ holder, next.holds holder = true → state.holds holder = true)
    (unseen : ∀ call tick, next.calls call ≠ .looked tick true) : FlagGuarded next :=
  ⟨fun first second isFirst isSecond => guarded.once first second (fewer first isFirst) (fewer second isSecond),
    fun holder holds => by
      rw [flag]
      exact guarded.covered holder (fewer holder holds), unseen⟩

-- A step after which nothing holds the flag.
theorem guarded_of_free (next : Dispatch) (free : ∀ holder, next.holds holder = false)
    (unseen : ∀ call tick, next.calls call ≠ .looked tick true) : FlagGuarded next :=
  ⟨fun first _ isFirst => absurd ((free first).symm.trans isFirst) Bool.false_ne_true,
    fun holder holds => absurd ((free holder).symm.trans holds) Bool.false_ne_true, unseen⟩

-- A step after which one holder holds it.
theorem guarded_of_one (next : Dispatch) (owner : Holder) (flag : 0 < next.flagRows)
    (only : ∀ holder, next.holds holder = true → holder = owner)
    (unseen : ∀ call tick, next.calls call ≠ .looked tick true) : FlagGuarded next :=
  ⟨fun first second isFirst isSecond => (only first isFirst).trans (only second isSecond).symm, fun _ _ => flag, unseen⟩

theorem unseen_update (state next : Dispatch) (guarded : FlagGuarded state) (call : Nat) (phase : CallPhase)
    (calls : next.calls = Function.update state.calls call phase) (blind : ∀ tick, phase ≠ .looked tick true) :
    ∀ other tick, next.calls other ≠ .looked tick true := by
  intro other tick
  rw [calls, Function.update_apply]
  split
  · exact blind tick
  · exact guarded.unseen other tick

-- A holder after a step is the thread that moved, or held before.
theorem call_moved_holds (state next : Dispatch) (call : Nat) (phase : CallPhase)
    (calls : next.calls = Function.update state.calls call phase) (other : Nat) (held : next.holds (.call other) = true) :
    (other = call ∧ phase.holds = true) ∨ (other ≠ call ∧ state.holds (.call other) = true) := by
  rw [Dispatch.holds, calls, Function.update_apply] at held
  split at held
  · rename_i same
    exact Or.inl ⟨same, held⟩
  · rename_i apart
    exact Or.inr ⟨apart, held⟩

theorem run_moved_holds (state next : Dispatch) (run : Nat) (phase : RunPhase)
    (runs : next.runs = Function.update state.runs run phase) (other : Nat) (held : next.holds (.run other) = true) :
    (other = run ∧ phase.holds = true) ∨ (other ≠ run ∧ state.holds (.run other) = true) := by
  rw [Dispatch.holds, runs, Function.update_apply] at held
  split at held
  · rename_i same
    exact Or.inl ⟨same, held⟩
  · rename_i apart
    exact Or.inr ⟨apart, held⟩

theorem call_holds_kept (state next : Dispatch) (calls : next.calls = state.calls) (call : Nat) :
    next.holds (.call call) = state.holds (.call call) := by
  rw [Dispatch.holds, Dispatch.holds, calls]

theorem run_holds_kept (state next : Dispatch) (runs : next.runs = state.runs) (run : Nat) :
    next.holds (.run run) = state.holds (.run run) := by
  rw [Dispatch.holds, Dispatch.holds, runs]

theorem call_guarded (call : Nat) (event : DispatchEvent) (state next : Dispatch) (effect : CallEffect call state next event)
    (unchanged : FlagUnchanged event state) (guarded : FlagGuarded state) : FlagGuarded next := by
  cases effect with
  | passes _ phase flag runs calls holds looks =>
      refine guarded_of_fewer state next guarded flag ?_ ?_
      · intro holder held
        cases holder with
        | run run => exact (run_holds_kept state next runs run).symm.trans held
        | call other =>
            rcases call_moved_holds state next call phase calls other held with ⟨same, held⟩ | ⟨_, before⟩
            · rw [same]
              exact holds held
            · exact before
      · refine unseen_update state next guarded call phase calls fun tick same => ?_
        obtain ⟨isSelect, set⟩ := looks tick same
        exact absurd (unchanged (by rw [isSelect]; rfl)) set.ne'
  | sets tick existing looked flag runs calls =>
      have unset : state.flagRows = 0 := unchanged rfl
      have fresh : existing = false := Bool.eq_false_of_not_eq_true fun seen => guarded.unseen call tick (seen ▸ looked)
      refine guarded_of_one next (.call call) ?_ ?_ (unseen_update state next guarded call _ calls (by simp))
      · rw [flag, fresh]
        exact Nat.succ_pos _
      · intro holder held
        cases holder with
        | run run =>
            rw [run_holds_kept state next runs run] at held
            exact absurd unset (guarded.covered (.run run) held).ne'
        | call other =>
            rcases call_moved_holds state next call _ calls other held with ⟨same, _⟩ | ⟨_, before⟩
            · rw [same]
            · exact absurd unset (guarded.covered (.call other) before).ne'
  | hands run held absent flag runs calls =>
      refine guarded_of_one next (.run run) ?_ ?_ (unseen_update state next guarded call _ calls (by simp))
      · rw [flag]
        exact guarded.covered (.call call) held
      · intro holder holds
        cases holder with
        | run other =>
            rcases run_moved_holds state next run _ runs other holds with ⟨same, _⟩ | ⟨_, before⟩
            · rw [same]
            · cases guarded.once (.run other) (.call call) before held
        | call other =>
            rcases call_moved_holds state next call _ calls other holds with ⟨_, idle⟩ | ⟨apart, before⟩
            · cases idle
            · exact absurd (Holder.call.inj (guarded.once (.call other) (.call call) before held)) apart
  | gives cleared held runs calls =>
      refine guarded_of_free next (fun holder => ?_) (unseen_update state next guarded call _ calls (by simp))
      apply Bool.eq_false_of_not_eq_true
      intro holds
      cases holder with
      | run other =>
          rw [run_holds_kept state next runs other] at holds
          cases guarded.once (.run other) (.call call) holds held
      | call other =>
          rcases call_moved_holds state next call _ calls other holds with ⟨_, idle⟩ | ⟨apart, before⟩
          · cases idle
          · exact absurd (Holder.call.inj (guarded.once (.call other) (.call call) before held)) apart

theorem run_guarded (run : Nat) (state next : Dispatch) (effect : RunEffect run state next) (guarded : FlagGuarded state) :
    FlagGuarded next := by
  have unseen : next.calls = state.calls → ∀ call tick, next.calls call ≠ .looked tick true := by
    intro calls call tick
    rw [calls]
    exact guarded.unseen call tick
  cases effect with
  | passes phase flag calls runs holds lives =>
      refine guarded_of_fewer state next guarded flag ?_ (unseen calls)
      intro holder held
      cases holder with
      | call call => exact (call_holds_kept state next calls call).symm.trans held
      | run other =>
          rcases run_moved_holds state next run phase runs other held with ⟨same, held⟩ | ⟨_, before⟩
          · rw [same]
            exact holds held
          · exact before
  | clears held calls runs =>
      refine guarded_of_free next (fun holder => ?_) (unseen calls)
      apply Bool.eq_false_of_not_eq_true
      intro holds
      cases holder with
      | call call =>
          rw [call_holds_kept state next calls call] at holds
          cases guarded.once (.call call) (.run run) holds held
      | run other =>
          rcases run_moved_holds state next run _ runs other holds with ⟨_, idle⟩ | ⟨apart, before⟩
          · cases idle
          · exact absurd (Holder.run.inj (guarded.once (.run other) (.run run) before held)) apart

theorem step_guarded (event : DispatchEvent) (state next : Dispatch) (unchanged : FlagUnchanged event state)
    (moved : dispatchStep config home event state = some next) (guarded : FlagGuarded state) : FlagGuarded next := by
  rw [dispatchStep] at moved
  split at moved
  · cases moved
    exact ⟨guarded.once, guarded.covered, guarded.unseen⟩
  · rename_i call actor
    exact call_guarded call event state next (call_effect config home call event state next actor moved) unchanged guarded
  · rename_i run actor
    exact run_guarded run state next (run_effect config run event state next moved) guarded

end Effects

-- No thread is in a call, no run is under way, and no dispatch lock is taken. The flag may be left over.
structure AtRest (state : Dispatch) : Prop where
  idle : ∀ call, state.calls call = .idle
  noRun : ∀ run, (state.runs run).holds = false
  unlocked : ∀ process, state.dispatchLock process = none

theorem rest_guarded (state : Dispatch) (rest : AtRest state) : FlagGuarded state := by
  refine guarded_of_free state (fun holder => ?_) (fun call tick => ?_)
  · cases holder with
    | call call => rw [Dispatch.holds, rest.idle]; rfl
    | run run => exact rest.noRun run
  · rw [rest.idle]
    simp

section Processes

variable (config : ScheduleConfig) (home : Nat → Nat)

def CallPhase.critical : CallPhase → Bool
  | .locked _ => true
  | .unset _ => true
  | .looked _ _ => true
  | .flagged _ => true
  | .failing _ => true
  | _ => false

def CallPhase.checked : CallPhase → Bool
  | .unset _ => true
  | .looked _ _ => true
  | _ => false

-- The dispatch lock of one process, and what it protects when there is no other.
structure LockHeld (state : Dispatch) : Prop where
  owner : ∀ call, (state.calls call).critical = true → state.dispatchLock (home call) = some call
  unset : ∀ call, (state.calls call).checked = true → state.flagRows = 0

theorem checked_critical (phase : CallPhase) (checked : phase.checked = true) : phase.critical = true := by
  cases phase <;> first | rfl | cases checked

-- What a step of a call leaves to the other calls.
structure LockEffect (call : Nat) (state next : Dispatch) : Prop where
  others : ∀ other, other ≠ call → next.calls other = state.calls other
  kept : ∀ process other, other ≠ call → state.dispatchLock process = some other → next.dispatchLock process = some other
  owner : (next.calls call).critical = true → next.dispatchLock (home call) = some call
  unset : (next.calls call).checked = true → next.flagRows = 0
  grows : next.flagRows ≠ 0 → state.flagRows = 0 → (state.calls call).critical = true

theorem released_other (locks : Nat → Option Nat) (process place call other : Nat) (apart : other ≠ call)
    (held : locks place = some other) : Dispatch.released locks process call place = some other := by
  rw [Dispatch.released]
  split
  · rename_i own
    have elsewhere : place ≠ process := by
      intro same
      rw [same, own] at held
      exact apart (Option.some.inj held).symm
    rw [Function.update_of_ne elsewhere]
    exact held
  · exact held

theorem leave_lock (call process : Nat) (state next : Dispatch)
    (calls : next.calls = Function.update state.calls call .idle)
    (locks : next.dispatchLock = Dispatch.released state.dispatchLock process call)
    (grows : next.flagRows ≠ 0 → state.flagRows = 0 → (state.calls call).critical = true) : LockEffect home call state next := by
  have idle : next.calls call = .idle := by rw [calls, Function.update_self]
  refine ⟨fun other apart => ?_, fun place other apart held => ?_, fun critical => ?_, fun checked => ?_, grows⟩
  · rw [calls, Function.update_of_ne apart]
  · rw [locks]
    exact released_other _ process place call other apart held
  · rw [idle] at critical
    cases critical
  · rw [idle] at checked
    cases checked

-- A step to a phase outside the lock, or to one inside it by the call that has the lock already.
theorem set_lock (call : Nat) (state next : Dispatch) (phase : CallPhase)
    (calls : next.calls = Function.update state.calls call phase) (locks : next.dispatchLock = state.dispatchLock)
    (owner : phase.critical = true → state.dispatchLock (home call) = some call)
    (unset : phase.checked = true → next.flagRows = 0)
    (grows : next.flagRows ≠ 0 → state.flagRows = 0 → (state.calls call).critical = true) : LockEffect home call state next where
  others other apart := by rw [calls, Function.update_of_ne apart]
  kept place other apart held := by rw [locks]; exact held
  owner critical := by
    rw [calls, Function.update_self] at critical
    rw [locks]
    exact owner critical
  unset checked := by
    rw [calls, Function.update_self] at checked
    exact unset checked
  grows := grows

theorem lock_effect (call : Nat) (event : DispatchEvent) (state next : Dispatch) (held : LockHeld home state)
    (moved : callStep config home call state event (state.calls call) = some next) : LockEffect home call state next := by
  have same : state.flagRows ≠ 0 → state.flagRows = 0 → (state.calls call).critical = true := fun grown zero => absurd zero grown
  have outside : ∀ next phase, next.calls = Function.update state.calls call phase → next.dispatchLock = state.dispatchLock →
      next.flagRows = state.flagRows → phase.critical = false → LockEffect home call state next := by
    intro next phase calls locks flag free
    refine set_lock home call state next phase calls locks (fun critical => absurd (free.symm.trans critical) Bool.false_ne_true)
      (fun checked => ?_) ?_
    · exact absurd (free.symm.trans (checked_critical phase checked)) Bool.false_ne_true
    · rw [flag]
      exact same
  have inside : ∀ next phase, next.calls = Function.update state.calls call phase → next.dispatchLock = state.dispatchLock →
      (state.calls call).critical = true → (phase.checked = true → next.flagRows = 0) → LockEffect home call state next :=
    fun next phase calls locks critical unset =>
      set_lock home call state next phase calls locks (fun _ => held.owner call critical) unset (fun _ _ => critical)
  have move := call_move config home call event _ state next moved
  generalize isPhase : state.calls call = phase at move
  cases move with
  | leaves => exact leave_lock home call (home call) state _ rfl rfl same
  | hands => exact leave_lock home call (home call) state _ rfl rfl same
  | gives => exact leave_lock home call (home call) state _ rfl rfl fun _ _ => by rw [isPhase]; rfl
  | enters of _ _ unlocked =>
      refine ⟨fun other apart => Function.update_of_ne apart _ _, fun place other apart taken => ?_,
        fun _ => Function.update_self _ _ _, fun checked => ?_, same⟩
      · have elsewhere : place ≠ home call := by
          intro here
          rw [here, unlocked] at taken
          cases taken
        exact (Function.update_of_ne elsewhere _ _).trans taken
      · have here : Function.update state.calls call (.locked phase.tick) call = .locked phase.tick := Function.update_self _ _ _
        have now : (CallPhase.locked phase.tick).checked = true := here ▸ checked
        cases now
  | finds of tick unset => exact inside _ _ rfl rfl (by rw [isPhase]; rfl) fun _ => unset
  | looks => exact inside _ _ rfl rfl (by rw [isPhase]; rfl) fun _ => held.unset call (by rw [isPhase]; rfl)
  | writes => exact inside _ _ rfl rfl (by rw [isPhase]; rfl) fun checked => by cases checked
  | fails => exact inside _ _ rfl rfl (by rw [isPhase]; rfl) fun checked => by cases checked
  | _ => exact outside _ _ rfl rfl rfl rfl

theorem run_lock (run : Nat) (event : DispatchEvent) (state next : Dispatch)
    (moved : runStep config run state event (state.runs run) = some next) :
    next.calls = state.calls ∧ next.dispatchLock = state.dispatchLock ∧ (state.flagRows = 0 → next.flagRows = 0) := by
  have move := run_move config run event _ state next moved
  generalize state.runs run = phase at move
  cases move with
  | clears of cleared =>
      refine ⟨rfl, rfl, fun zero => ?_⟩
      cases cleared
      · exact zero
      · rfl
  | _ => exact ⟨rfl, rfl, id⟩

-- In one process the lock orders the calls, so nobody sets the flag between another call's check and its write.
theorem step_locked (single : ∀ first second, home first = home second) (event : DispatchEvent) (state next : Dispatch)
    (moved : dispatchStep config home event state = some next) (held : LockHeld home state) : LockHeld home next := by
  rw [dispatchStep] at moved
  split at moved
  · cases moved
    exact ⟨held.owner, held.unset⟩
  · rename_i call actor
    have effect := lock_effect config home call event state next held moved
    have alone : ∀ other, other ≠ call → (state.calls other).critical = true → (state.calls call).critical = false := by
      intro other apart critical
      refine Bool.eq_false_of_not_eq_true fun own => apart ?_
      have first := held.owner other critical
      rw [single other call, held.owner call own] at first
      exact (Option.some.inj first).symm
    constructor
    · intro other critical
      by_cases same : other = call
      · rw [same] at critical ⊢
        exact effect.owner critical
      · rw [effect.others other same] at critical
        exact effect.kept _ other same (held.owner other critical)
    · intro other checked
      by_cases same : other = call
      · rw [same] at checked
        exact effect.unset checked
      · rw [effect.others other same] at checked
        by_contra grown
        have own := effect.grows grown (held.unset other checked)
        exact absurd ((alone other same (checked_critical _ checked)).symm.trans own) Bool.false_ne_true
  · rename_i run actor
    obtain ⟨calls, locks, zero⟩ := run_lock config run event state next moved
    constructor
    · intro call critical
      rw [calls] at critical
      rw [locks]
      exact held.owner call critical
    · intro call checked
      rw [calls] at checked
      exact zero (held.unset call checked)

theorem rest_locked (state : Dispatch) (rest : AtRest state) : LockHeld home state := by
  constructor
  · intro call critical
    rw [rest.idle] at critical
    cases critical
  · intro call checked
    rw [rest.idle] at checked
    cases checked

end Processes

section SingleRun

variable (config : ScheduleConfig) (home : Nat → Nat)

-- Every dispatch of the run finds no run pending or executing, and the flag is set whenever one is.
def OneRunAtATime (events : List DispatchEvent) (state : Dispatch) : Prop :=
  Runs.AllSteps (dispatchStep config home) DispatchesAlone events state ∧
    ∀ first later middle, events = first ++ later → Runs.run (dispatchStep config home) first state = some middle →
      FlagCovers middle

theorem dispatch_flagged (call run : Nat) (state next : Dispatch)
    (moved : dispatchStep config home (.dispatch call run) state = some next) : ∃ tick, state.calls call = .flagged tick := by
  rw [dispatchStep] at moved
  dsimp only [DispatchEvent.actor] at moved
  cases phase : state.calls call with
  | flagged tick => exact ⟨tick, rfl⟩
  | _ =>
      rw [phase] at moved
      cases moved

theorem guarded_alone (event : DispatchEvent) (state next : Dispatch) (moved : dispatchStep config home event state = some next)
    (guarded : FlagGuarded state) : DispatchesAlone event state := by
  intro call run isDispatch other
  rw [isDispatch] at moved
  obtain ⟨tick, flagged⟩ := dispatch_flagged config home call run state next moved
  have held : (state.calls call).holds = true := by rw [flagged]; rfl
  refine Bool.eq_false_of_not_eq_true fun live => ?_
  cases guarded.once (.run other) (.call call) (live_holds _ live) held

theorem guarded_covers (state : Dispatch) (guarded : FlagGuarded state) : FlagCovers state :=
  fun run live => guarded.covered (.run run) (live_holds _ live)

-- With every check still true when its call sets the flag, no two runs are ever under way.
theorem one_run_when_unchanged (events : List DispatchEvent) (state : Dispatch) (rest : AtRest state)
    (unchanged : Runs.AllSteps (dispatchStep config home) FlagUnchanged events state) :
    OneRunAtATime config home events state := by
  have start := rest_guarded state rest
  constructor
  · exact Runs.steps_meet _ FlagUnchanged FlagGuarded DispatchesAlone (step_guarded config home)
      (fun event state next _ => guarded_alone config home event state next) events state unchanged start
  · intro first later middle isRun taken
    rw [isRun, Runs.all_steps_append] at unchanged
    exact guarded_covers middle
      (Runs.run_keeps _ FlagUnchanged FlagGuarded (step_guarded config home) first state middle unchanged.1 taken start)

theorem checked_writes (event : DispatchEvent) (state next : Dispatch) (moved : dispatchStep config home event state = some next)
    (held : LockHeld home state) : FlagUnchanged event state := by
  intro sets
  cases event with
  | selectFlag call =>
      rw [dispatchStep] at moved
      dsimp only [DispatchEvent.actor] at moved
      cases phase : state.calls call with
      | unset tick => exact held.unset call (by rw [phase]; rfl)
      | _ =>
          rw [phase] at moved
          cases moved
  | writeFlag call =>
      rw [dispatchStep] at moved
      dsimp only [DispatchEvent.actor] at moved
      cases phase : state.calls call with
      | looked tick existing => exact held.unset call (by rw [phase]; rfl)
      | _ =>
          rw [phase] at moved
          cases moved
  | _ => cases sets

-- The calls of one process never meet an unmet check, in whatever order they and the runs take their steps.
theorem one_run_in_one_process (single : ∀ first second, home first = home second) (events : List DispatchEvent)
    (state : Dispatch) (rest : AtRest state) : OneRunAtATime config home events state := by
  have always : Runs.AllSteps (dispatchStep config home) (fun _ _ => True) events state := by
    refine Runs.all_steps_true _ events state
  exact one_run_when_unchanged config home events state rest
    (Runs.steps_meet _ (fun _ _ => True) (LockHeld home) FlagUnchanged
      (fun event state next _ => step_locked config home single event state next)
      (fun event state next _ => checked_writes config home event state next) events state always (rest_locked home state rest))

end SingleRun

def dispatchSchedule : ScheduleConfig := ⟨some fun now => if now < 100 then ⟨"2024-05-01", 3⟩ else ⟨"2024-05-02", 3⟩, 2, 4⟩

def restDispatch : Dispatch := ⟨0, 0, [], fun _ => none, fun _ => none, none, fun _ => .idle, fun _ => .absent⟩

theorem rest_dispatch : AtRest restDispatch := ⟨fun _ => rfl, fun _ => rfl, fun _ => rfl⟩

-- Two processes check the flag before either of them sets it.
def twoTriggers : List DispatchEvent :=
  [.enterTrigger 0, .readFlag 0, .enterTrigger 1, .readFlag 1, .selectFlag 0, .selectFlag 1, .writeFlag 0, .writeFlag 1,
    .dispatch 0 0]

-- The first of the two runs to end clears the flag.
def twoRuns : List DispatchEvent := [.dispatch 1 1, .startRun 0, .startRun 1, .endRun 0, .clearFlag 0 true]

theorem two_processes_run_twice :
    ¬ Runs.AllSteps (dispatchStep dispatchSchedule id) DispatchesAlone (twoTriggers ++ twoRuns) restDispatch ∧
      ∃ last, Runs.run (dispatchStep dispatchSchedule id) (twoTriggers ++ twoRuns) restDispatch = some last ∧
        (last.runs 1).live = true ∧ last.flagRows = 0 := by
  constructor
  · intro alone
    rw [Runs.all_steps_append] at alone
    obtain ⟨middle, taken, waiting⟩ : ∃ middle, Runs.run (dispatchStep dispatchSchedule id) twoTriggers restDispatch = some middle ∧
        (middle.runs 0).live = true := ⟨_, rfl, rfl⟩
    obtain ⟨next, moved⟩ : ∃ next, dispatchStep dispatchSchedule id (.dispatch 1 1) middle = some next := by
      cases taken
      exact ⟨_, rfl⟩
    have first := (alone.2 middle taken next moved).1 1 1 rfl 0
    exact absurd (first.symm.trans waiting) Bool.false_ne_true
  · exact ⟨_, rfl, rfl, rfl⟩

-- The second process calls after the first has set the flag, and again after the run has cleared it.
def oneAfterAnother : List DispatchEvent :=
  [.enterTrigger 0, .readFlag 0, .selectFlag 0, .writeFlag 0, .enterTrigger 1, .readFlag 1, .dispatch 0 0, .startRun 0,
    .endRun 0, .clearFlag 0 true, .enterTrigger 1, .readFlag 1, .selectFlag 1, .writeFlag 1, .dispatch 1 1]

theorem one_run_after_another : OneRunAtATime dispatchSchedule id oneAfterAnother restDispatch :=
  one_run_when_unchanged dispatchSchedule id oneAfterAnother restDispatch rest_dispatch (by decide)

-- Two calls of one process, one after the other.
def oneProcess : List DispatchEvent :=
  [.enterTrigger 0, .readFlag 0, .selectFlag 0, .writeFlag 0, .dispatch 0 0, .enterTrigger 1, .readFlag 1, .startRun 0,
    .endRun 0, .clearFlag 0 true]

theorem one_run_one_process :
    OneRunAtATime dispatchSchedule (fun _ => 0) oneProcess restDispatch :=
  one_run_in_one_process dispatchSchedule (fun _ => 0) (fun _ _ => rfl) oneProcess restDispatch rest_dispatch

end SasCore.Cpas
