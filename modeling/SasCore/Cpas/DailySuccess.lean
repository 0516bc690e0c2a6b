import SasCore.Cpas.SingleRun

set_option autoImplicit false

namespace SasCore.Cpas

def RunPhase.markInstant : RunPhase → Option Int
  | .marking instant => some instant
  | .markLoaded instant _ _ => some instant
  | .markSelected instant _ _ _ => some instant
  | _ => none

def recordedDate (rows : List TickMeta) : Option String := rows.head?.bind (·.lastSuccessfulLocalDate)

-- No recorded date is lost or replaced by an older one.
def RecordsGrow (rows later : List TickMeta) : Prop :=
  ∀ (place : Nat) (row : TickMeta) (date : String), rows[place]? = some row → row.lastSuccessfulLocalDate = some date →
    ∃ other newer, later[place]? = some other ∧ other.lastSuccessfulLocalDate = some newer ∧ date ≤ newer

-- A tick with this local date dispatches nothing.
def NotDispatched (date : String) (event : DispatchEvent) (state : Dispatch) : Prop :=
  ∀ call run, event = .dispatch call run → ∀ tick, (state.calls call).tick = some tick → tick.today ≠ date

section Properties

variable (config : ScheduleConfig) (home : Nat → Nat)

-- What was recorded stays recorded, and no tick of a recorded day dispatches a run.
def OneSuccessADay (events : List DispatchEvent) (state : Dispatch) : Prop :=
  ∀ first later middle, events = first ++ later → Runs.run (dispatchStep config home) first state = some middle →
    (∀ second others last, later = second ++ others → Runs.run (dispatchStep config home) second middle = some last →
      RecordsGrow middle.metaRows last.metaRows) ∧
    ∀ row ∈ middle.metaRows, ∀ date, row.lastSuccessfulLocalDate = some date →
      Runs.AllSteps (dispatchStep config home) (NotDispatched date) later middle

-- The conditions on the tick and on the finishing run. The date of a tick is not older than the record it loads; where it
-- writes the document and where it dispatches, the record is the one it loaded; and a first document is written once.
def undisturbed (event : DispatchEvent) (state : Dispatch) : Bool :=
  match event with
  | .loadMeta call _ =>
      match state.calls call with
      | .ticking instant => (recordedDate state.metaRows).all (· ≤ localDate config instant)
      | _ => true
  | .saveAttempt call =>
      match state.calls call with
      | .selected tick target =>
          recordedDate state.metaRows == tick.doc.lastSuccessfulLocalDate && (target.isSome || state.metaRows.isEmpty)
      | _ => true
  | .dispatch call _ =>
      match state.calls call with
      | .flagged (some tick) => recordedDate state.metaRows == tick.doc.lastSuccessfulLocalDate
      | _ => true
  | .saveMark run =>
      match state.runs run with
      | .markSelected _ _ _ target => target.isSome || state.metaRows.isEmpty
      | _ => true
  | _ => true

def Undisturbed (event : DispatchEvent) (state : Dispatch) : Prop := undisturbed config event state = true

instance (event : DispatchEvent) (state : Dispatch) : Decidable (Undisturbed config event state) :=
  inferInstanceAs (Decidable (undisturbed config event state = true))

-- Later readings of the clock fall on no earlier local date.
def DatesGrow : Prop := ∀ first second : Int, first ≤ second → localDate config first ≤ localDate config second

structure MetaSound (state : Dispatch) : Prop where
  single : state.metaRows.length ≤ 1
  past : ∀ date, recordedDate state.metaRows = some date → date ≤ localDate config state.clock
  ticks : ∀ call tick, (state.calls call).tick = some tick → ∀ date, tick.doc.lastSuccessfulLocalDate = some date →
    date < tick.today
  marks : ∀ run instant, (state.runs run).markInstant = some instant → state.admission = some run ∧ instant ≤ state.clock ∧
    ∀ date, recordedDate state.metaRows = some date → date ≤ localDate config instant

end Properties

-- With at most one row, the first row is what is recorded.
theorem recorded_of_single (rows : List TickMeta) (single : rows.length ≤ 1) (place : Nat) (row : TickMeta)
    (found : rows[place]? = some row) : place = 0 ∧ recordedDate rows = row.lastSuccessfulLocalDate := by
  have bound : place < rows.length := (List.getElem?_eq_some_iff.mp found).1
  have first : place = 0 := by omega
  rw [first] at found
  refine ⟨first, ?_⟩
  rw [recordedDate, List.head?_eq_getElem?, found, Option.bind_some]

theorem records_grow_refl (rows : List TickMeta) : RecordsGrow rows rows :=
  fun _ row date found isDate => ⟨row, date, found, isDate, le_rfl⟩

theorem records_grow_trans (first second third : List TickMeta) (before : RecordsGrow first second)
    (after : RecordsGrow second third) : RecordsGrow first third := by
  intro place row date found isDate
  obtain ⟨other, newer, isOther, isNewer, le⟩ := before place row date found isDate
  obtain ⟨last, newest, isLast, isNewest, le'⟩ := after place other newer isOther isNewer
  exact ⟨last, newest, isLast, isNewest, le.trans le'⟩

-- What a write of the document leaves when at most one row is there and a new one is only added to none.
theorem put_meta_single (rows : List TickMeta) (loadedRow : Option Nat) (loaded doc : TickMeta) (target : Option Nat)
    (single : rows.length ≤ 1) (fresh : target = none → rows = []) :
    putMeta rows loadedRow loaded doc target = rows ∨ putMeta rows loadedRow loaded doc target = [doc] := by
  cases target with
  | none =>
      right
      rw [putMeta, fresh rfl, List.nil_append]
  | some place =>
      rw [putMeta]
      split
      · exact .inl rfl
      · cases rows with
        | nil => exact .inl rfl
        | cons row rest =>
            have alone : rest = [] := List.eq_nil_of_length_eq_zero (by simpa using single)
            rw [alone]
            cases place with
            | zero => exact .inr rfl
            | succ other => exact .inl rfl

section Effects

variable (config : ScheduleConfig) (home : Nat → Nat)

-- What a step of a call does to the document and to what the calls have loaded of it.
inductive CallMeta (call : Nat) (state next : Dispatch) : DispatchEvent → Prop where
  | passes (event : DispatchEvent) (rows : next.metaRows = state.metaRows)
      (carried : ∀ tick, (next.calls call).tick = some tick → (state.calls call).tick = some tick) :
      CallMeta call state next event
  | loads (row : Nat) (instant : Int) (found : Option Nat) (ticking : state.calls call = .ticking instant)
      (isFound : firstRow state.metaRows row = some found)
      (fresh : (docAt state.metaRows found).lastSuccessfulLocalDate ≠ some (localDate config instant))
      (rows : next.metaRows = state.metaRows)
      (loaded : (next.calls call).tick = some ⟨localDate config instant, found, docAt state.metaRows found⟩) :
      CallMeta call state next (.loadMeta call row)
  | saves (tick : Ticking) (target : Option Nat) (doc : TickMeta) (selected : state.calls call = .selected tick target)
      (kept : doc.lastSuccessfulLocalDate = tick.doc.lastSuccessfulLocalDate)
      (rows : next.metaRows = putMeta state.metaRows tick.row tick.doc doc target)
      (carried : (next.calls call).tick = some tick) : CallMeta call state next (.saveAttempt call)

-- What every step of a call leaves alone.
structure CallFrame (call : Nat) (state next : Dispatch) : Prop where
  clock : next.clock = state.clock
  admission : next.admission = state.admission
  others : ∀ other, other ≠ call → next.calls other = state.calls other
  marks : ∀ run, (next.runs run).markInstant = (state.runs run).markInstant

theorem set_frame (call : Nat) (state next : Dispatch) (phase : CallPhase) (clock : next.clock = state.clock)
    (admission : next.admission = state.admission) (calls : next.calls = Function.update state.calls call phase)
    (runs : next.runs = state.runs) : CallFrame call state next :=
  ⟨clock, admission, fun other apart => by rw [calls, Function.update_of_ne apart], fun run => by rw [runs]⟩

theorem call_frame (call : Nat) (event : DispatchEvent) (state next : Dispatch)
    (moved : callStep config home call state event (state.calls call) = some next) : CallFrame call state next := by
  have move := call_move config home call event _ state next moved
  generalize isPhase : state.calls call = phase at move
  cases move with
  | hands of run tick absent =>
      refine ⟨rfl, rfl, fun other apart => Function.update_of_ne apart _ _, fun other => ?_⟩
      have pends : ((state.setRun run .pending).leave (home call) call).runs = Function.update state.runs run .pending := rfl
      rw [pends, Function.update_apply]
      split
      · rename_i same
        rw [same, absent]
        rfl
      · rfl
  | leaves => exact set_frame call state _ .idle rfl rfl rfl rfl
  | gives => exact set_frame call state _ .idle rfl rfl rfl rfl
  | _ => exact set_frame call state _ _ rfl rfl rfl rfl

theorem call_meta (call : Nat) (event : DispatchEvent) (state next : Dispatch) (actor : event.actor = .call call)
    (moved : callStep config home call state event (state.calls call) = some next) : CallMeta config call state next event := by
  have self : ∀ phase : CallPhase, Function.update state.calls call phase call = phase := fun _ => Function.update_self _ _ _
  have carries : ∀ (next : Dispatch) (phase : CallPhase), next.metaRows = state.metaRows →
      next.calls = Function.update state.calls call phase →
        (∀ tick, phase.tick = some tick → (state.calls call).tick = some tick) → CallMeta config call state next event := by
    intro next phase rows calls carried
    refine .passes _ rows fun tick isTick => carried tick ?_
    rw [calls, self] at isTick
    exact isTick
  have forgets : ∀ tick, CallPhase.idle.tick = some tick → (state.calls call).tick = some tick := fun _ isTick => by cases isTick
  have move := call_move config home call event _ state next moved
  generalize isPhase : state.calls call = phase at move forgets carries
  cases move with
  | leaves => exact carries _ .idle rfl rfl forgets
  | hands => exact carries _ .idle rfl rfl forgets
  | gives => exact carries _ .idle rfl rfl forgets
  | times => exact carries _ _ rfl rfl fun _ isTick => by cases isTick
  | ticks => exact carries _ _ rfl rfl fun _ isTick => by cases isTick
  | loads of row instant found isFound fresh =>
      cases actor
      exact .loads row instant found isPhase isFound fresh rfl (congrArg CallPhase.tick (self (.loaded _)))
  | saves of tick target =>
      cases actor
      exact .saves tick target (tick.attempt state.clock) isPhase rfl rfl (congrArg CallPhase.tick (self (.attempted tick)))
  | _ => exact carries _ _ rfl rfl fun _ isTick => isTick

end Effects

section Invariant

variable (config : ScheduleConfig) (home : Nat → Nat)

theorem doc_at_recorded (rows : List TickMeta) (row : Nat) (found : Option Nat) (single : rows.length ≤ 1)
    (isFound : firstRow rows row = some found) :
    (docAt rows found).lastSuccessfulLocalDate = recordedDate rows := by
  rw [firstRow] at isFound
  split at isFound
  · rename_i empty
    cases isFound
    rw [empty]
    rfl
  · split at isFound
    · rename_i bound
      cases isFound
      have here : rows[row]? = some rows[row] := List.getElem?_eq_getElem bound
      rw [docAt, Option.bind_some, here, Option.getD_some, (recorded_of_single rows single row _ here).2]
    · cases isFound

-- What a write leaves recorded, when the document that it writes has this date.
theorem recorded_put (rows : List TickMeta) (loadedRow : Option Nat) (loaded doc : TickMeta) (target : Option Nat)
    (single : rows.length ≤ 1) (fresh : target = none → rows = []) :
    (putMeta rows loadedRow loaded doc target).length ≤ 1 ∧
      (putMeta rows loadedRow loaded doc target = rows ∨
        recordedDate (putMeta rows loadedRow loaded doc target) = doc.lastSuccessfulLocalDate) := by
  rcases put_meta_single rows loadedRow loaded doc target single fresh with same | written
  · rw [same]
    exact ⟨single, .inl rfl⟩
  · rw [written]
    exact ⟨le_rfl, .inr rfl⟩

-- Replacing what is recorded by the same or a later date.
theorem records_grow_put (rows : List TickMeta) (loadedRow : Option Nat) (loaded doc : TickMeta) (target : Option Nat)
    (single : rows.length ≤ 1) (fresh : target = none → rows = [])
    (later : ∀ date, recordedDate rows = some date → ∃ newer, doc.lastSuccessfulLocalDate = some newer ∧ date ≤ newer) :
    RecordsGrow rows (putMeta rows loadedRow loaded doc target) := by
  rcases put_meta_single rows loadedRow loaded doc target single fresh with same | written
  · rw [same]
    exact records_grow_refl rows
  · intro place row date found isDate
    obtain ⟨first, recorded⟩ := recorded_of_single rows single place row found
    obtain ⟨newer, isNewer, le⟩ := later date (recorded.trans isDate)
    rw [written, first]
    exact ⟨doc, newer, rfl, isNewer, le⟩

-- A first document is written into an empty table.
theorem fresh_of_written (target : Option Nat) (rows : List TickMeta) (written : (target.isSome || rows.isEmpty) = true) :
    target = none → rows = [] := by
  intro none
  rw [none] at written
  exact List.isEmpty_iff.mp written

-- A step of a call keeps the recorded date; then only its own thread can have loaded anything new.
theorem recorded_kept_sound (call : Nat) (state next : Dispatch) (frame : CallFrame call state next)
    (single : next.metaRows.length ≤ 1) (recorded : recordedDate next.metaRows = recordedDate state.metaRows)
    (own : ∀ tick, (next.calls call).tick = some tick → ∀ date, tick.doc.lastSuccessfulLocalDate = some date →
      date < tick.today)
    (sound : MetaSound config state) : MetaSound config next := by
  refine ⟨single, ?_, ?_, ?_⟩
  · rw [recorded, frame.clock]
    exact sound.past
  · intro other tick isTick
    by_cases same : other = call
    · rw [same] at isTick
      exact own tick isTick
    · rw [frame.others other same] at isTick
      exact sound.ticks other tick isTick
  · intro run instant isMark
    rw [frame.marks] at isMark
    rw [recorded, frame.admission, frame.clock]
    exact sound.marks run instant isMark

theorem call_sound (call : Nat) (event : DispatchEvent) (state next : Dispatch) (actor : event.actor = .call call)
    (moved : callStep config home call state event (state.calls call) = some next)
    (meets : Undisturbed config event state) (sound : MetaSound config state) :
    MetaSound config next ∧ RecordsGrow state.metaRows next.metaRows := by
  have frame := call_frame config home call event state next moved
  have effect := call_meta config home call event state next actor moved
  have unwritten (rows : next.metaRows = state.metaRows)
      (own : ∀ tick, (next.calls call).tick = some tick → ∀ date, tick.doc.lastSuccessfulLocalDate = some date →
        date < tick.today) : MetaSound config next ∧ RecordsGrow state.metaRows next.metaRows := by
    refine ⟨recorded_kept_sound config call state next frame ?_ (congrArg recordedDate rows) own sound, ?_⟩
    · rw [rows]
      exact sound.single
    · rw [rows]
      exact records_grow_refl _
  cases effect with
  | passes _ rows carried => exact unwritten rows fun tick isTick => sound.ticks call tick (carried tick isTick)
  | loads row instant found isTicking isFound fresh rows loaded =>
      refine unwritten rows fun tick isTick date isDate => ?_
      cases loaded.symm.trans isTick
      have recorded := doc_at_recorded state.metaRows row found sound.single isFound
      have notToday : date ≠ localDate config instant := fun same => fresh (same ▸ isDate)
      rw [Undisturbed, undisturbed, isTicking] at meets
      dsimp only at meets
      rw [recorded.symm.trans isDate, Option.all_some, decide_eq_true_eq] at meets
      exact lt_of_le_of_ne meets notToday
  | saves tick target doc selected kept rows carried =>
      rw [Undisturbed, undisturbed, selected] at meets
      dsimp only at meets
      rw [Bool.and_eq_true, beq_iff_eq] at meets
      have asLoaded := meets.1
      have fresh := fresh_of_written target state.metaRows meets.2
      have put := recorded_put state.metaRows tick.row tick.doc doc target sound.single fresh
      have same : recordedDate next.metaRows = recordedDate state.metaRows := by
        rw [rows]
        rcases put.2 with unchanged | written
        · rw [unchanged]
        · rw [written, kept, asLoaded]
      refine ⟨recorded_kept_sound config call state next frame (rows ▸ put.1) same (fun other isTick => ?_) sound, ?_⟩
      · cases carried.symm.trans isTick
        exact sound.ticks call tick (by rw [selected]; rfl)
      · rw [rows]
        exact records_grow_put _ _ _ _ _ sound.single fresh fun date isDate =>
          ⟨date, by rw [kept, ← asLoaded, isDate], le_rfl⟩

theorem freed_apart (admission : Option Nat) (run other : Nat) (apart : other ≠ run) (holds : admission = some other) :
    freed admission run = some other := by
  rw [freed, if_neg, holds]
  intro own
  exact apart (Option.some.inj (holds.symm.trans own))

-- A step of a run that leaves the documents, the calls and the clock alone and makes no new mark.
structure RunQuiet (run : Nat) (phase : RunPhase) (state next : Dispatch) : Prop where
  runs : next.runs = Function.update state.runs run phase
  clock : next.clock = state.clock
  rows : next.metaRows = state.metaRows
  calls : next.calls = state.calls
  others : ∀ other, other ≠ run → state.admission = some other → next.admission = some other
  own : ∀ instant, phase.markInstant = some instant →
    (state.runs run).markInstant = some instant ∧ next.admission = state.admission

theorem quiet_marks (run : Nat) (phase : RunPhase) (state next : Dispatch) (quiet : RunQuiet run phase state next)
    (sound : MetaSound config state) (other : Nat) (instant : Int) (isMark : (next.runs other).markInstant = some instant) :
    next.admission = some other ∧ instant ≤ next.clock ∧
      ∀ date, recordedDate next.metaRows = some date → date ≤ localDate config instant := by
  rw [quiet.clock, quiet.rows]
  rw [quiet.runs, Function.update_apply] at isMark
  split at isMark
  · rename_i same
    obtain ⟨before, admission⟩ := quiet.own instant isMark
    rw [same, admission]
    exact sound.marks run instant before
  · rename_i apart
    obtain ⟨holds, rest⟩ := sound.marks other instant isMark
    exact ⟨quiet.others other apart holds, rest⟩

theorem quiet_sound (run : Nat) (phase : RunPhase) (state next : Dispatch) (quiet : RunQuiet run phase state next)
    (sound : MetaSound config state) : MetaSound config next ∧ RecordsGrow state.metaRows next.metaRows := by
  refine ⟨⟨?_, ?_, ?_, quiet_marks config run phase state next quiet sound⟩, ?_⟩
  · rw [quiet.rows]
    exact sound.single
  · rw [quiet.rows, quiet.clock]
    exact sound.past
  · rw [quiet.calls]
    exact sound.ticks
  · rw [quiet.rows]
    exact records_grow_refl _

theorem run_sound (grow : DatesGrow config) (run : Nat) (event : DispatchEvent) (state next : Dispatch)
    (actor : event.actor = .run run) (moved : runStep config run state event (state.runs run) = some next)
    (meets : Undisturbed config event state) (sound : MetaSound config state) :
    MetaSound config next ∧ RecordsGrow state.metaRows next.metaRows := by
  have keeps (next : Dispatch) (phase : RunPhase) (quiet : RunQuiet run phase state next) :=
    quiet_sound config run phase state next quiet sound
  have move := run_move config run event _ state next moved
  generalize isPhase : state.runs run = phase at move
  have unmarked (instant : Int) (isMark : phase.markInstant = some instant) :
      (state.runs run).markInstant = some instant ∧ state.admission = state.admission :=
    ⟨(congrArg RunPhase.markInstant isPhase).trans isMark, rfl⟩
  cases move with
  | starts => exact keeps _ .executing ⟨rfl, rfl, rfl, rfl, fun _ _ holds => holds, fun _ isMark => by cases isMark⟩
  | skips => exact ⟨sound, records_grow_refl _⟩
  | loads => exact keeps _ _ ⟨rfl, rfl, rfl, rfl, fun _ _ holds => holds, unmarked⟩
  | selects => exact keeps _ _ ⟨rfl, rfl, rfl, rfl, fun _ _ holds => holds, unmarked⟩
  | ends => exact keeps _ .ended ⟨rfl, rfl, rfl, rfl, freed_apart _ run, fun _ isMark => by cases isMark⟩
  | clears => exact keeps _ .cleared ⟨rfl, rfl, rfl, rfl, fun _ _ holds => holds, fun _ isMark => by cases isMark⟩
  | enters of enabled free =>
      refine ⟨⟨sound.single, sound.past, sound.ticks, fun other instant isMark => ?_⟩, records_grow_refl _⟩
      by_cases same : other = run
      · have here : Function.update state.runs run (.marking state.clock) other = .marking state.clock := by
          rw [same, Function.update_self]
        have isInstant : some state.clock = some instant := (congrArg RunPhase.markInstant here).symm.trans isMark
        cases isInstant
        exact ⟨congrArg some same.symm, le_rfl, sound.past⟩
      · have there : Function.update state.runs run (.marking state.clock) other = state.runs other :=
          Function.update_of_ne same _ _
        obtain ⟨holds, _⟩ := sound.marks other instant ((congrArg RunPhase.markInstant there).symm.trans isMark)
        rw [free] at holds
        cases holds
  | saves of instant found doc target =>
      cases actor
      obtain ⟨owned, started, before⟩ := sound.marks run instant (by rw [isPhase]; rfl)
      rw [Undisturbed, undisturbed, isPhase] at meets
      have fresh := fresh_of_written target state.metaRows meets
      have put := recorded_put state.metaRows found doc (doc.success config instant) target sound.single fresh
      refine ⟨⟨put.1, fun date isDate => ?_, sound.ticks, fun other time isMark => ?_⟩, ?_⟩
      · rcases put.2 with unchanged | written
        · exact sound.past date (unchanged ▸ isDate)
        · cases written.symm.trans isDate
          exact grow instant state.clock started
      · have apart : other ≠ run := by
          intro same
          have here : Function.update state.runs run .marked other = .marked := by rw [same, Function.update_self]
          cases (congrArg RunPhase.markInstant here).symm.trans isMark
        have there : Function.update state.runs run .marked other = state.runs other := Function.update_of_ne apart _ _
        obtain ⟨holds, _⟩ := sound.marks other time ((congrArg RunPhase.markInstant there).symm.trans isMark)
        exact absurd (Option.some.inj (holds.symm.trans owned)) apart
      · exact records_grow_put _ _ _ _ _ sound.single fresh fun date isDate => ⟨_, rfl, before date isDate⟩

theorem step_sound (grow : DatesGrow config) (event : DispatchEvent) (state next : Dispatch)
    (moved : dispatchStep config home event state = some next) (meets : Undisturbed config event state)
    (sound : MetaSound config state) : MetaSound config next ∧ RecordsGrow state.metaRows next.metaRows := by
  rw [dispatchStep] at moved
  split at moved
  · rename_i seconds actor
    cases moved
    have later : state.clock ≤ state.clock + seconds := by omega
    refine ⟨⟨sound.single, fun date isDate => ?_, sound.ticks, fun run instant isMark => ?_⟩, records_grow_refl _⟩
    · exact (sound.past date isDate).trans (grow _ _ later)
    · obtain ⟨holds, started, before⟩ := sound.marks run instant isMark
      exact ⟨holds, started.trans later, before⟩
  · rename_i call actor
    exact call_sound config home call event state next actor moved meets sound
  · rename_i run actor
    exact run_sound config grow run event state next actor moved meets sound

-- Some row has the date, or a later one.
def RecordedSince (date : String) (state : Dispatch) : Prop :=
  ∃ newer, recordedDate state.metaRows = some newer ∧ date ≤ newer

theorem recorded_stays (first second : Dispatch) (single : second.metaRows.length ≤ 1)
    (grows : RecordsGrow first.metaRows second.metaRows) (date : String) (recorded : RecordedSince date first) :
    RecordedSince date second := by
  obtain ⟨newer, isNewer, le⟩ := recorded
  obtain ⟨row, isRow, isDate⟩ := Option.bind_eq_some_iff.mp isNewer
  rw [List.head?_eq_getElem?] at isRow
  obtain ⟨other, newest, isOther, isNewest, le'⟩ := grows 0 row newer isRow isDate
  have held := (recorded_of_single second.metaRows single 0 other isOther).2
  exact ⟨newest, held.trans isNewest, le.trans le'⟩

theorem recorded_not_dispatched (date : String) (event : DispatchEvent) (state next : Dispatch)
    (moved : dispatchStep config home event state = some next) (meets : Undisturbed config event state)
    (sound : MetaSound config state) (recorded : RecordedSince date state) : NotDispatched date event state := by
  intro call run isDispatch tick isTick
  rw [isDispatch] at moved meets
  obtain ⟨held, flagged⟩ := dispatch_flagged config home call run state next moved
  have own : held = some tick := by
    rw [flagged] at isTick
    exact isTick
  rw [Undisturbed, undisturbed, flagged, own] at meets
  have asLoaded : recordedDate state.metaRows = tick.doc.lastSuccessfulLocalDate := beq_iff_eq.mp meets
  obtain ⟨newer, isNewer, le⟩ := recorded
  exact (le.trans_lt (sound.ticks call tick isTick newer (asLoaded.symm.trans isNewer))).ne'

-- No thread has loaded the document, no run is under way, and at most one document is stored, of no later day.
structure MetaAtRest (state : Dispatch) : Prop where
  rest : AtRest state
  single : state.metaRows.length ≤ 1
  past : ∀ date, recordedDate state.metaRows = some date → date ≤ localDate config state.clock

theorem rest_sound (state : Dispatch) (start : MetaAtRest config state) : MetaSound config state := by
  refine ⟨start.single, start.past, fun call tick isTick => ?_, fun run instant isMark => ?_⟩
  · rw [start.rest.idle] at isTick
    cases isTick
  · have noRun := start.rest.noRun run
    cases phase : state.runs run with
    | absent =>
        rw [phase] at isMark
        cases isMark
    | cleared =>
        rw [phase] at isMark
        cases isMark
    | _ =>
        rw [phase] at noRun
        cases noRun

-- With the document of every tick and of every finishing run still as it was loaded, a day has one scheduled success.
theorem one_success_when_undisturbed (grow : DatesGrow config) (events : List DispatchEvent) (state : Dispatch)
    (start : MetaAtRest config state)
    (calm : Runs.AllSteps (dispatchStep config home) (Undisturbed config) events state) :
    OneSuccessADay config home events state := by
  have keeps : ∀ event state next, Undisturbed config event state → dispatchStep config home event state = some next →
      MetaSound config state → MetaSound config next := fun event state next meets moved sound =>
    (step_sound config home grow event state next moved meets sound).1
  intro first later middle split taken
  rw [split, Runs.all_steps_append] at calm
  have sound := Runs.run_keeps _ _ (MetaSound config) keeps first state middle calm.1 taken (rest_sound config state start)
  have onward := calm.2 middle taken
  constructor
  · intro second others last isLater reached
    rw [isLater, Runs.all_steps_append] at onward
    have both := Runs.run_keeps _ _ (fun held => MetaSound config held ∧ RecordsGrow middle.metaRows held.metaRows)
      (fun event held next meets moved before =>
        have after := step_sound config home grow event held next moved meets before.1
        ⟨after.1, records_grow_trans _ _ _ before.2 after.2⟩)
      second middle last onward.1 reached ⟨sound, records_grow_refl _⟩
    exact both.2
  · intro row member date isDate
    obtain ⟨place, isRow⟩ := List.mem_iff_getElem?.mp member
    have recorded : RecordedSince date middle :=
      ⟨date, (recorded_of_single _ sound.single place row isRow).2.trans isDate, le_rfl⟩
    exact Runs.steps_meet _ _ (fun held => MetaSound config held ∧ RecordedSince date held) (NotDispatched date)
      (fun event held next meets moved before =>
        have after := step_sound config home grow event held next moved meets before.1
        ⟨after.1, recorded_stays held next after.1.single after.2 date before.2⟩)
      (fun event held next meets moved before =>
        recorded_not_dispatched config home date event held next moved meets before.1 before.2)
      later middle onward ⟨sound, recorded⟩

end Invariant

theorem dispatch_dates_grow : DatesGrow dispatchSchedule := by
  intro first second le
  simp only [localDate, localNow, dispatchSchedule]
  by_cases early : second < 100
  · have before : first < 100 := by omega
    simp [early, before]
  · by_cases before : first < 100
    · simp only [early, before, if_true, if_false]
      decide
    · simp [early, before]

theorem rest_meta : MetaAtRest dispatchSchedule restDispatch := ⟨rest_dispatch, by decide, fun _ isDate => by cases isDate⟩

-- A call of one server process that dispatches a run, and the run up to its success and its end.
def callDispatches (call run : Nat) : List DispatchEvent :=
  [.enterTrigger call, .readFlag call, .selectFlag call, .writeFlag call, .dispatch call run]

def runSucceeds (run : Nat) : List DispatchEvent :=
  [.startRun run, .enterMark run true, .loadMark run 0, .selectMark run 0, .saveMark run, .endRun run, .clearFlag run true]

def tickSaves (call : Nat) : List DispatchEvent := [.readRunning call, .selectMeta call 0, .saveAttempt call]

def tickLoads (call : Nat) : List DispatchEvent := [.readClock call, .enterTick call true, .loadMeta call 0]

-- A tick dispatches the run of the day, the next tick leaves it at that, and one of the next day dispatches again.
def dailyTicks : List DispatchEvent :=
  tickLoads 0 ++ tickSaves 0 ++ callDispatches 0 0 ++ runSucceeds 0 ++ tickLoads 0 ++ [.advance 100] ++ tickLoads 0 ++
    tickSaves 0 ++ callDispatches 0 1 ++ runSucceeds 1

theorem one_success_daily_ticks : OneSuccessADay dispatchSchedule (fun _ => 0) dailyTicks restDispatch :=
  one_success_when_undisturbed dispatchSchedule (fun _ => 0) dispatch_dates_grow dailyTicks restDispatch rest_meta
    (by decide +kernel)

-- The run of a call ends between a tick's read of the document and its check of the flag, and the tick writes back what
-- it has read.
def overtakenTick : List DispatchEvent := callDispatches 1 0 ++ tickLoads 0 ++ runSucceeds 0

theorem overtaken_tick_forgets :
    ¬ OneSuccessADay dispatchSchedule (fun _ => 0) (overtakenTick ++ (tickSaves 0 ++ callDispatches 0 1)) restDispatch := by
  intro once
  obtain ⟨middle, taken, recorded⟩ : ∃ middle,
      Runs.run (dispatchStep dispatchSchedule fun _ => 0) overtakenTick restDispatch = some middle ∧
        middle.metaRows = [⟨some "2024-05-01", some 0, none, none⟩] := ⟨_, rfl, by decide +kernel⟩
  obtain ⟨last, reached, lost⟩ : ∃ last, Runs.run (dispatchStep dispatchSchedule fun _ => 0) (tickSaves 0) middle = some last ∧
      last.metaRows = [⟨none, none, some "2024-05-01", some 0⟩] := by
    cases taken
    exact ⟨_, rfl, by decide +kernel⟩
  have grows := (once _ _ middle rfl taken).1 _ _ last rfl reached
  rw [recorded, lost] at grows
  obtain ⟨other, newer, isOther, isNewer, _⟩ := grows 0 _ "2024-05-01" rfl rfl
  cases isOther
  cases isNewer

end SasCore.Cpas
