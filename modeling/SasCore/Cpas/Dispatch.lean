import SasCore.Cpas.Pipeline
import SasCore.Lib.Runs
import Mathlib.Data.String.Basic
import Mathlib.Logic.Function.Basic

set_option autoImplicit false

namespace SasCore.Cpas

-- The cpas_schedule_meta document.
structure TickMeta where
  lastSuccessfulLocalDate : Option String
  lastSuccessfulAt : Option Int
  lastAttemptLocalDate : Option String
  lastAttemptAt : Option Int
deriving DecidableEq, Repr

def TickMeta.empty : TickMeta := ⟨none, none, none, none⟩

-- What a tick goes on with: its local date, and the row and the document that it loaded.
structure Ticking where
  today : String
  row : Option Nat
  doc : TickMeta
deriving DecidableEq, Repr

-- Where a thread of a server process stands in tick_scheduled_cpas and trigger_daily_activities. From `locked` on it
-- holds the dispatch lock; a tick takes its document along.
inductive CallPhase where
  | idle
  | timed (instant : Int)
  | ticking (instant : Int)
  | loaded (tick : Ticking)
  | notRunning (tick : Ticking)
  | selected (tick : Ticking) (target : Option Nat)
  | attempted (tick : Ticking)
  | locked (tick : Option Ticking)
  | unset (tick : Option Ticking)
  | looked (tick : Option Ticking) (existing : Bool)
  | flagged (tick : Option Ticking)
  | failing (tick : Option Ticking)
deriving DecidableEq, Repr

-- lastAttemptLocalDate and lastAttemptAt of the loaded document.
def Ticking.attempt (tick : Ticking) (now : Int) : TickMeta :=
  { tick.doc with
    lastAttemptLocalDate := some tick.today
    lastAttemptAt := some (Registry.wholeSecond now) }

-- What a tick has loaded, from its read of the document to the dispatch.
def CallPhase.tick : CallPhase → Option Ticking
  | .loaded tick => some tick
  | .notRunning tick => some tick
  | .selected tick _ => some tick
  | .attempted tick => some tick
  | .locked tick => tick
  | .unset tick => tick
  | .looked tick _ => tick
  | .flagged tick => tick
  | .failing tick => tick
  | _ => none

-- The flag set, the run not yet handed over.
def CallPhase.holds : CallPhase → Bool
  | .flagged _ => true
  | .failing _ => true
  | _ => false

-- An exception out of the database ends a call that has not set the flag.
def CallPhase.raises : CallPhase → Bool
  | .idle => false
  | .flagged _ => false
  | .failing _ => false
  | _ => true

-- A dispatched run: in the queue, in execute_cpas_pipeline, with the steps of mark_scheduled_success_if_applicable, and
-- after it, first with the flag to be cleared.
inductive RunPhase where
  | absent
  | pending
  | executing
  | marking (instant : Int)
  | markLoaded (instant : Int) (row : Option Nat) (doc : TickMeta)
  | markSelected (instant : Int) (row : Option Nat) (doc : TickMeta) (target : Option Nat)
  | marked
  | ended
  | cleared
deriving DecidableEq, Repr

def RunPhase.live : RunPhase → Bool
  | .absent => false
  | .ended => false
  | .cleared => false
  | _ => true

-- The committed rows of the flag and of the document, the locks of every process, the admission lock, and the threads.
structure Dispatch where
  clock : Int
  flagRows : Nat
  metaRows : List TickMeta
  dispatchLock : Nat → Option Nat
  tickLock : Nat → Option Nat
  admission : Option Nat
  calls : Nat → CallPhase
  runs : Nat → RunPhase

inductive DispatchEvent where
  | advance (seconds : Nat)
  | readClock (call : Nat)
  | enterTick (call : Nat) (enabled : Bool)
  | loadMeta (call row : Nat)
  | readRunning (call : Nat)
  | selectMeta (call row : Nat)
  | saveAttempt (call : Nat)
  | enterTrigger (call : Nat)
  | readFlag (call : Nat)
  | selectFlag (call : Nat)
  | writeFlag (call : Nat)
  | dispatch (call run : Nat)
  | failDispatch (call : Nat)
  | clearFailed (call : Nat) (cleared : Bool)
  | abandon (call : Nat)
  | startRun (run : Nat)
  | enterMark (run : Nat) (enabled : Bool)
  | loadMark (run row : Nat)
  | selectMark (run row : Nat)
  | saveMark (run : Nat)
  | endRun (run : Nat)
  | clearFlag (run : Nat) (cleared : Bool)
deriving DecidableEq, Repr

inductive Actor where
  | clock (seconds : Nat)
  | call (call : Nat)
  | run (run : Nat)

def DispatchEvent.actor : DispatchEvent → Actor
  | .advance seconds => .clock seconds
  | .readClock call => .call call
  | .enterTick call _ => .call call
  | .loadMeta call _ => .call call
  | .readRunning call => .call call
  | .selectMeta call _ => .call call
  | .saveAttempt call => .call call
  | .enterTrigger call => .call call
  | .readFlag call => .call call
  | .selectFlag call => .call call
  | .writeFlag call => .call call
  | .dispatch call _ => .call call
  | .failDispatch call => .call call
  | .clearFailed call _ => .call call
  | .abandon call => .call call
  | .startRun run => .run run
  | .enterMark run _ => .run run
  | .loadMark run _ => .run run
  | .selectMark run _ => .run run
  | .saveMark run => .run run
  | .endRun run => .run run
  | .clearFlag run _ => .run run

-- query.first(): nothing without rows, else whichever row the database gives.
def firstRow (rows : List TickMeta) (row : Nat) : Option (Option Nat) :=
  if rows = [] then some none else if row < rows.length then some (some row) else none

-- _load_meta
def docAt (rows : List TickMeta) (found : Option Nat) : TickMeta := (found.bind (rows[·]?)).getD TickMeta.empty

-- _save_meta. A document that equals the loaded one of the same row is no change, and nothing is sent.
def putMeta (rows : List TickMeta) (loadedRow : Option Nat) (loaded doc : TickMeta) : Option Nat → List TickMeta
  | none => rows ++ [doc]
  | some target => if loadedRow = some target ∧ doc = loaded then rows else rows.set target doc

namespace Dispatch

def setCall (state : Dispatch) (call : Nat) (phase : CallPhase) : Dispatch :=
  { state with calls := Function.update state.calls call phase }

def setRun (state : Dispatch) (run : Nat) (phase : RunPhase) : Dispatch :=
  { state with runs := Function.update state.runs run phase }

def released (locks : Nat → Option Nat) (process call : Nat) : Nat → Option Nat :=
  if locks process = some call then Function.update locks process none else locks

-- The thread returns or raises, out of the locks it holds.
def leave (state : Dispatch) (process call : Nat) : Dispatch :=
  { state with
    dispatchLock := released state.dispatchLock process call
    tickLock := released state.tickLock process call
    calls := Function.update state.calls call .idle }

end Dispatch

def windowOpen (config : ScheduleConfig) (instant : Int) : Bool :=
  match isWithinCpasWindow config instant with
  | .ok inWindow => inWindow
  | .error _ => false

def localDate (config : ScheduleConfig) (instant : Int) : String :=
  match localNow config instant with
  | .ok time => time.date
  | .error _ => ""

-- lastSuccessfulLocalDate and lastSuccessfulAt of the loaded document.
def TickMeta.success (config : ScheduleConfig) (doc : TickMeta) (instant : Int) : TickMeta :=
  { doc with
    lastSuccessfulLocalDate := some (localDate config instant)
    lastSuccessfulAt := some (Registry.wholeSecond instant) }

section Steps

variable (config : ScheduleConfig) (home : Nat → Nat)

def entered (call : Nat) (state : Dispatch) (tick : Option Ticking) : Option Dispatch :=
  if state.dispatchLock (home call) ≠ none then none
  else
    some { state.setCall call (.locked tick) with
      dispatchLock := Function.update state.dispatchLock (home call) (some call) }

-- A step of tick_scheduled_cpas, or of trigger_daily_activities out of a tick or called for itself.
def callStep (call : Nat) (state : Dispatch) : DispatchEvent → CallPhase → Option Dispatch
  | .readClock _, .idle => some (state.setCall call (.timed state.clock))
  | .enterTick _ enabled, .timed instant =>
      if state.tickLock (home call) ≠ none then none
      else if enabled && windowOpen config instant then
        some { state.setCall call (.ticking instant) with
          tickLock := Function.update state.tickLock (home call) (some call) }
      else some (state.leave (home call) call)
  | .loadMeta _ row, .ticking instant =>
      (firstRow state.metaRows row).map fun found =>
        let doc := docAt state.metaRows found
        let today := localDate config instant
        if doc.lastSuccessfulLocalDate = some today then state.leave (home call) call
        else state.setCall call (.loaded ⟨today, found, doc⟩)
  | .readRunning _, .loaded tick =>
      some (if 0 < state.flagRows then state.leave (home call) call else state.setCall call (.notRunning tick))
  | .selectMeta _ row, .notRunning tick =>
      (firstRow state.metaRows row).map fun target => state.setCall call (.selected tick target)
  | .saveAttempt _, .selected tick target =>
      some { state.setCall call (.attempted tick) with
        metaRows := putMeta state.metaRows tick.row tick.doc (tick.attempt state.clock) target }
  | .enterTrigger _, .idle => entered home call state none
  | .enterTrigger _, .attempted tick => entered home call state (some tick)
  | .readFlag _, .locked tick =>
      some (if 0 < state.flagRows then state.leave (home call) call else state.setCall call (.unset tick))
  | .selectFlag _, .unset tick => some (state.setCall call (.looked tick (0 < state.flagRows)))
  -- An UPDATE of the flag row to what it already holds is not sent.
  | .writeFlag _, .looked tick existing =>
      some { state.setCall call (.flagged tick) with
        flagRows := if existing then state.flagRows else state.flagRows + 1 }
  | .dispatch _ run, .flagged _ =>
      if state.runs run = .absent then some ((state.setRun run .pending).leave (home call) call) else none
  | .failDispatch _, .flagged tick => some (state.setCall call (.failing tick))
  | .clearFailed _ cleared, .failing _ =>
      some { state.leave (home call) call with flagRows := if cleared then 0 else state.flagRows }
  | .abandon _, phase => if phase.raises then some (state.leave (home call) call) else none
  | _, _ => none

def freed (admission : Option Nat) (run : Nat) : Option Nat := if admission = some run then none else admission

-- A run, from the worker that takes it up to the flag it clears. The pipeline may end at any of its steps.
def runStep (run : Nat) (state : Dispatch) : DispatchEvent → RunPhase → Option Dispatch
  | .startRun _, .pending => some (state.setRun run .executing)
  | .enterMark _ enabled, .executing =>
      if state.admission ≠ none then none
      else if enabled && windowOpen config state.clock then
        some { state.setRun run (.marking state.clock) with admission := some run }
      else some state
  | .loadMark _ row, .marking instant =>
      (firstRow state.metaRows row).map fun found =>
        state.setRun run (.markLoaded instant found (docAt state.metaRows found))
  | .selectMark _ row, .markLoaded instant found doc =>
      (firstRow state.metaRows row).map fun target => state.setRun run (.markSelected instant found doc target)
  | .saveMark _, .markSelected instant found doc target =>
      some { state.setRun run .marked with
        metaRows := putMeta state.metaRows found doc (doc.success config instant) target
        admission := freed state.admission run }
  | .endRun _, phase =>
      if phase.live = true ∧ phase ≠ .pending then
        some { state.setRun run .ended with admission := freed state.admission run }
      else none
  | .clearFlag _ cleared, .ended =>
      some { state.setRun run .cleared with flagRows := if cleared then 0 else state.flagRows }
  | _, _ => none

def dispatchStep (event : DispatchEvent) (state : Dispatch) : Option Dispatch :=
  match event.actor with
  | .clock seconds => some { state with clock := state.clock + seconds }
  | .call call => callStep config home call state event (state.calls call)
  | .run run => runStep config run state event (state.runs run)

-- The steps of a call, one for each event that is taken and one for leaving early.
inductive CallMove (call : Nat) (state : Dispatch) : DispatchEvent → CallPhase → Dispatch → Prop where
  | leaves (event : DispatchEvent) (phase : CallPhase) (free : phase.holds = false) :
      CallMove call state event phase (state.leave (home call) call)
  | times (of : Nat) : CallMove call state (.readClock of) .idle (state.setCall call (.timed state.clock))
  | ticks (of : Nat) (enabled : Bool) (instant : Int) :
      CallMove call state (.enterTick of enabled) (.timed instant)
        { state.setCall call (.ticking instant) with
          tickLock := Function.update state.tickLock (home call) (some call) }
  | loads (of row : Nat) (instant : Int) (found : Option Nat) (isFound : firstRow state.metaRows row = some found)
      (fresh : (docAt state.metaRows found).lastSuccessfulLocalDate ≠ some (localDate config instant)) :
      CallMove call state (.loadMeta of row) (.ticking instant)
        (state.setCall call (.loaded ⟨localDate config instant, found, docAt state.metaRows found⟩))
  | checks (of : Nat) (tick : Ticking) :
      CallMove call state (.readRunning of) (.loaded tick) (state.setCall call (.notRunning tick))
  | selects (of row : Nat) (tick : Ticking) (target : Option Nat) :
      CallMove call state (.selectMeta of row) (.notRunning tick) (state.setCall call (.selected tick target))
  | saves (of : Nat) (tick : Ticking) (target : Option Nat) :
      CallMove call state (.saveAttempt of) (.selected tick target)
        { state.setCall call (.attempted tick) with
          metaRows := putMeta state.metaRows tick.row tick.doc (tick.attempt state.clock) target }
  | enters (of : Nat) (phase : CallPhase) (free : phase.holds = false) (unlocked : state.dispatchLock (home call) = none) :
      CallMove call state (.enterTrigger of) phase
        { state.setCall call (.locked phase.tick) with
          dispatchLock := Function.update state.dispatchLock (home call) (some call) }
  | finds (of : Nat) (tick : Option Ticking) (unset : state.flagRows = 0) :
      CallMove call state (.readFlag of) (.locked tick) (state.setCall call (.unset tick))
  | looks (of : Nat) (tick : Option Ticking) :
      CallMove call state (.selectFlag of) (.unset tick) (state.setCall call (.looked tick (0 < state.flagRows)))
  | writes (of : Nat) (tick : Option Ticking) (existing : Bool) :
      CallMove call state (.writeFlag of) (.looked tick existing)
        { state.setCall call (.flagged tick) with
          flagRows := if existing then state.flagRows else state.flagRows + 1 }
  | hands (of run : Nat) (tick : Option Ticking) (absent : state.runs run = .absent) :
      CallMove call state (.dispatch of run) (.flagged tick) ((state.setRun run .pending).leave (home call) call)
  | fails (of : Nat) (tick : Option Ticking) :
      CallMove call state (.failDispatch of) (.flagged tick) (state.setCall call (.failing tick))
  | gives (of : Nat) (cleared : Bool) (tick : Option Ticking) :
      CallMove call state (.clearFailed of cleared) (.failing tick)
        { state.leave (home call) call with flagRows := if cleared then 0 else state.flagRows }

inductive RunMove (run : Nat) (state : Dispatch) : DispatchEvent → RunPhase → Dispatch → Prop where
  | starts (of : Nat) : RunMove run state (.startRun of) .pending (state.setRun run .executing)
  | enters (of : Nat) (enabled : Bool) (free : state.admission = none) :
      RunMove run state (.enterMark of enabled) .executing
        { state.setRun run (.marking state.clock) with admission := some run }
  | skips (of : Nat) (enabled : Bool) : RunMove run state (.enterMark of enabled) .executing state
  | loads (of row : Nat) (instant : Int) (found : Option Nat) :
      RunMove run state (.loadMark of row) (.marking instant)
        (state.setRun run (.markLoaded instant found (docAt state.metaRows found)))
  | selects (of row : Nat) (instant : Int) (found : Option Nat) (doc : TickMeta) (target : Option Nat) :
      RunMove run state (.selectMark of row) (.markLoaded instant found doc)
        (state.setRun run (.markSelected instant found doc target))
  | saves (of : Nat) (instant : Int) (found : Option Nat) (doc : TickMeta) (target : Option Nat) :
      RunMove run state (.saveMark of) (.markSelected instant found doc target)
        { state.setRun run .marked with
          metaRows := putMeta state.metaRows found doc (doc.success config instant) target
          admission := freed state.admission run }
  | ends (of : Nat) (phase : RunPhase) (live : phase.live = true) :
      RunMove run state (.endRun of) phase { state.setRun run .ended with admission := freed state.admission run }
  | clears (of : Nat) (cleared : Bool) :
      RunMove run state (.clearFlag of cleared) .ended
        { state.setRun run .cleared with flagRows := if cleared then 0 else state.flagRows }

theorem run_move (run : Nat) (event : DispatchEvent) (phase : RunPhase) (state next : Dispatch)
    (moved : runStep config run state event phase = some next) : RunMove config run state event phase next := by
  rw [runStep.eq_def] at moved
  split at moved
  case h_1 =>
    cases moved
    exact .starts _
  case h_2 =>
    split at moved
    · cases moved
    · rename_i unlocked
      split at moved <;> cases moved
      · exact .enters _ _ (not_not.mp unlocked)
      · exact .skips _ _
  case h_3 =>
    obtain ⟨found, _, isNext⟩ := Option.map_eq_some_iff.mp moved
    cases isNext
    exact .loads _ _ _ found
  case h_4 =>
    obtain ⟨target, _, isNext⟩ := Option.map_eq_some_iff.mp moved
    cases isNext
    exact .selects _ _ _ _ _ target
  case h_5 =>
    cases moved
    exact .saves _ _ _ _ _
  case h_6 =>
    split at moved
    · rename_i going
      cases moved
      exact .ends _ _ going.1
    · cases moved
  case h_7 =>
    cases moved
    exact .clears _ _
  case h_8 => cases moved

theorem raising_free (phase : CallPhase) (raises : phase.raises = true) : phase.holds = false := by
  cases phase <;> first | rfl | cases raises

theorem call_move (call : Nat) (event : DispatchEvent) (phase : CallPhase) (state next : Dispatch)
    (moved : callStep config home call state event phase = some next) : CallMove config home call state event phase next := by
  rw [callStep.eq_def] at moved
  split at moved
  case h_1 =>
    cases moved
    exact .times _
  case h_2 =>
    split at moved
    · cases moved
    · split at moved <;> cases moved
      · exact .ticks _ _ _
      · exact .leaves _ _ rfl
  case h_3 =>
    obtain ⟨found, isFound, isNext⟩ := Option.map_eq_some_iff.mp moved
    dsimp only at isNext
    split at isNext
    · cases isNext
      exact .leaves _ _ rfl
    · rename_i fresh
      cases isNext
      exact .loads _ _ _ found isFound fresh
  case h_4 =>
    split at moved <;> cases moved
    · exact .leaves _ _ rfl
    · exact .checks _ _
  case h_5 =>
    obtain ⟨target, _, isNext⟩ := Option.map_eq_some_iff.mp moved
    cases isNext
    exact .selects _ _ _ target
  case h_6 =>
    cases moved
    exact .saves _ _ _
  case h_7 =>
    rw [entered] at moved
    split at moved
    · cases moved
    · rename_i unlocked
      cases moved
      exact .enters _ .idle rfl (not_not.mp unlocked)
  case h_8 tick =>
    rw [entered] at moved
    split at moved
    · cases moved
    · rename_i unlocked
      cases moved
      exact .enters _ (.attempted tick) rfl (not_not.mp unlocked)
  case h_9 =>
    split at moved
    · cases moved
      exact .leaves _ _ rfl
    · rename_i unset
      cases moved
      exact .finds _ _ (Nat.eq_zero_of_not_pos unset)
  case h_10 =>
    cases moved
    exact .looks _ _
  case h_11 =>
    cases moved
    exact .writes _ _ _
  case h_12 =>
    split at moved
    · rename_i absent
      cases moved
      exact .hands _ _ _ absent
    · cases moved
  case h_13 =>
    cases moved
    exact .fails _ _
  case h_14 =>
    cases moved
    exact .gives _ _ _
  case h_15 =>
    split at moved
    · rename_i raises
      cases moved
      exact .leaves _ _ (raising_free _ raises)
    · cases moved
  case h_16 => cases moved

end Steps

end SasCore.Cpas
