import SasCore.Lib.Sweep
import SasCore.Registry.Run

set_option autoImplicit false
set_option linter.unusedSectionVars false

namespace SasCore.Registry

variable {K : Type} [Field K] [LinearOrder K]

-- The batches of the protocol: every item has its own clock readings and finds its own answers
-- from the protection records.
structure GrantItem (K : Type) where
  checks : GrantChecks K
  req : GrantRequest K
  grantId : String
  readings : Readings

structure HeartbeatItem (K : Type) where
  checks : HeartbeatChecks K
  req : HeartbeatRequest
  readings : Readings

structure ReleaseItem where
  cbsdId : String
  grantId : String
  readings : Readings

structure RegistrationItem (K : Type) where
  validated : Except Nat (Registration K)
  req : RegistrationRequest
  readings : Readings

-- pending_by_cbsd
abbrev Pending := String → List FrequencyRange

def rememberRange (req : GrantRequest K) (response : GrantResponse) (pending : Pending) : Pending :=
  match req.operationParam.map parseFreq with
  | some (.ok range) =>
      if response.responseCode = success then
        fun id => if id = req.cbsdId then pending id ++ [range] else pending id
      else pending
  | _ => pending

def grantBatchItem (certificateHash : Option String) (item : GrantItem K) (state : Store K × Pending) :
    GrantResponse × (Store K × Pending) :=
  let handled := grantItem item.checks certificateHash item.req (state.2 item.req.cbsdId) item.grantId item.readings.read
    state.1
  (handled.2, (handled.1, rememberRange item.req handled.2 state.2))

def processGrant (certificateHash : Option String) (items : List (GrantItem K)) (store : Store K) :
    List GrantResponse × Store K :=
  let handled := Sweep.sweep (grantBatchItem certificateHash) items (store, fun _ => [])
  (handled.1, handled.2.1)

def processHeartbeat (certificateHash : Option String) (items : List (HeartbeatItem K)) (store : Store K) :
    List HeartbeatResponse × Store K :=
  Sweep.sweep (fun item current =>
    (heartbeatItem item.checks certificateHash item.readings.read item.req current).swap) items store

def processRelinquishment (certificateHash : Option String) (items : List ReleaseItem) (store : Store K) :
    List ServiceResponse × Store K :=
  Sweep.sweep (fun item current =>
    (relinquishmentItem certificateHash item.readings.read item.cbsdId item.grantId current).swap) items store

def processDeregistration (certificateHash : Option String) (items : List ReleaseItem) (store : Store K) :
    List ServiceResponse × Store K :=
  Sweep.sweep (fun item current => (deregistrationItem certificateHash item.readings.read item.cbsdId current).swap)
    items store

def processRegistration (certificateHash : Option String) (items : List (RegistrationItem K)) (store : Store K) :
    List ServiceResponse × Store K :=
  Sweep.sweep (fun item current =>
    (registrationItem item.validated certificateHash item.readings.read item.req current).swap) items store

inductive Operation (K : Type) where
  | grant (certificateHash : Option String) (items : List (GrantItem K))
  | heartbeat (certificateHash : Option String) (items : List (HeartbeatItem K))
  | relinquishment (certificateHash : Option String) (items : List ReleaseItem)
  | deregistration (certificateHash : Option String) (items : List ReleaseItem)
  | registration (certificateHash : Option String) (items : List (RegistrationItem K))
  | cpasApply (decisions : List (CpasDecision K)) (readings : Readings)

def Operation.readings : Operation K → List Readings
  | .grant _ items => items.map (·.readings)
  | .heartbeat _ items => items.map (·.readings)
  | .relinquishment _ items => items.map (·.readings)
  | .deregistration _ items => items.map (·.readings)
  | .registration _ items => items.map (·.readings)
  | .cpasApply _ readings => [readings]

def perform (operation : Operation K) (store : Store K) : Store K :=
  match operation with
  | .grant cert items => (processGrant cert items store).2
  | .heartbeat cert items => (processHeartbeat cert items store).2
  | .relinquishment cert items => (processRelinquishment cert items store).2
  | .deregistration cert items => (processDeregistration cert items store).2
  | .registration cert items => (processRegistration cert items store).2
  | .cpasApply decisions readings => (applyCpasDecisions readings.read decisions 0 store).1

def performAll (operations : List (Operation K)) (store : Store K) : Store K :=
  operations.foldl (fun current operation => perform operation current) store

-- One clock is read throughout and never goes back.
def InOrder : Int → List Readings → Prop
  | _, [] => True
  | now, readings :: rest => now ≤ readings.read 0 ∧ InOrder readings.finish rest

instance inOrderDecidable : (now : Int) → (all : List Readings) → Decidable (InOrder now all)
  | _, [] => isTrue trivial
  | now, readings :: rest =>
      @instDecidableAnd (now ≤ readings.read 0) (InOrder readings.finish rest) _ (inOrderDecidable readings.finish rest)

def endOf (now : Int) (all : List Readings) : Int := all.foldl (fun _ readings => readings.finish) now

def clockOf (operations : List (Operation K)) : List Readings := operations.flatMap (·.readings)

theorem run_append (first second : List (Event K)) (store : Store K) :
    run (first ++ second) store = run second (run first store) := by
  rw [run, List.foldl_append]
  rfl

theorem in_order_append (now : Int) (first second : List Readings) (ordered : InOrder now (first ++ second)) :
    InOrder now first ∧ InOrder (endOf now first) second := by
  induction first generalizing now with
  | nil => exact ⟨trivial, ordered⟩
  | cons readings rest ih =>
      obtain ⟨head, tail⟩ := ih readings.finish ordered.2
      exact ⟨⟨ordered.1, head⟩, tail⟩

-- A run of sections whose clock readings fit between two moments.
def RunsTo (now finish : Int) (store after : Store K) : Prop :=
  ∃ events, run events store = after ∧ WellTimed now events ∧ finishTime now events ≤ finish

theorem well_timed_earlier (now earlier : Int) (events : List (Event K)) (le : earlier ≤ now)
    (timed : WellTimed now events) : WellTimed earlier events := by
  cases events with
  | nil => trivial
  | cons event rest => exact ⟨le.trans timed.1, timed.2⟩

theorem well_timed_append (now : Int) (first second : List (Event K)) (firstTimed : WellTimed now first)
    (secondTimed : WellTimed (finishTime now first) second) : WellTimed now (first ++ second) := by
  induction first generalizing now with
  | nil => exact secondTimed
  | cons event rest ih => exact ⟨firstTimed.1, ih event.readings.finish firstTimed.2 secondTimed⟩

theorem finish_time_le (earlier now : Int) (events : List (Event K)) (le : earlier ≤ now) :
    finishTime earlier events ≤ finishTime now events := by
  cases events with
  | nil => exact le
  | cons event rest => exact le_refl _

theorem runs_to_refl (now : Int) (store : Store K) : RunsTo now now store store := ⟨[], rfl, trivial, le_refl now⟩

theorem runs_to_trans (now mid finish : Int) (first second third : Store K) (one : RunsTo now mid first second)
    (two : RunsTo mid finish second third) : RunsTo now finish first third := by
  obtain ⟨early, earlyRun, earlyTimed, earlyEnd⟩ := one
  obtain ⟨late, lateRun, lateTimed, lateEnd⟩ := two
  refine ⟨early ++ late, ?_, ?_, ?_⟩
  · rw [run_append, earlyRun, lateRun]
  · exact well_timed_append now early late earlyTimed (well_timed_earlier mid _ late earlyEnd lateTimed)
  · have appended : finishTime now (early ++ late) = finishTime (finishTime now early) late := by
      rw [finishTime, List.foldl_append]
      rfl
    rw [appended]
    exact (finish_time_le _ mid late earlyEnd).trans lateEnd

theorem runs_to_event (now : Int) (event : Event K) (store : Store K) (begins : now ≤ event.readings.read 0) :
    RunsTo now event.readings.finish store (step event store) :=
  ⟨[event], rfl, ⟨begins, trivial⟩, le_refl _⟩

theorem runs_to_skip (now : Int) (readings : Readings) (store : Store K) (begins : now ≤ readings.read 0) :
    RunsTo now readings.finish store store :=
  ⟨[], rfl, trivial, begins.trans (readings.bounded 0)⟩

-- A batch runs item by item, when every item is a section or leaves the store alone.
theorem sweep_runs {ι ρ σ : Type} (visit : ι → σ → ρ × σ) (view : σ → Store K) (readings : ι → Readings)
    (item : ∀ entry state now, now ≤ (readings entry).read 0 →
      RunsTo now (readings entry).finish (view state) (view (visit entry state).2))
    (entries : List ι) (state : σ) (now : Int) (ordered : InOrder now (entries.map readings)) :
    RunsTo now (endOf now (entries.map readings)) (view state) (view (Sweep.sweep visit entries state).2) := by
  induction entries generalizing state now with
  | nil => exact runs_to_refl now (view state)
  | cons entry rest ih =>
      have first := item entry state now ordered.1
      have later := ih (visit entry state).2 (readings entry).finish ordered.2
      exact runs_to_trans now _ _ _ _ _ first later

theorem grant_item_runs (certificateHash : Option String) (item : GrantItem K) (pending : List FrequencyRange)
    (store : Store K) (now : Int) (begins : now ≤ item.readings.read 0) :
    RunsTo now item.readings.finish store
      (grantItem item.checks certificateHash item.req pending item.grantId item.readings.read store).1 := by
  have skipped := runs_to_skip now item.readings store begins
  unfold grantItem
  split
  · exact skipped
  · split
    · exact skipped
    · split
      · exact skipped
      · rename_i proposal _
        split
        · exact runs_to_event now (.create item.checks certificateHash item.req (store.findCbsd item.req.cbsdId) pending
            proposal item.grantId item.readings) store begins
        · exact skipped

theorem perform_runs (operation : Operation K) (store : Store K) (now : Int)
    (ordered : InOrder now operation.readings) :
    RunsTo now (endOf now operation.readings) store (perform operation store) := by
  cases operation with
  | grant cert items =>
      exact sweep_runs (grantBatchItem cert) Prod.fst (·.readings)
        (fun item state now begins => grant_item_runs cert item (state.2 item.req.cbsdId) state.1 now begins)
        items (store, fun _ => []) now ordered
  | heartbeat cert items =>
      refine sweep_runs _ id HeartbeatItem.readings (fun item state now begins => ?_) items store now ordered
      exact runs_to_event now (.heartbeat item.checks cert item.req item.readings) state begins
  | relinquishment cert items =>
      refine sweep_runs _ id ReleaseItem.readings (fun item state now begins => ?_) items store now ordered
      exact runs_to_event now (.relinquish cert item.cbsdId item.grantId item.readings) state begins
  | deregistration cert items =>
      refine sweep_runs _ id ReleaseItem.readings (fun item state now begins => ?_) items store now ordered
      exact runs_to_event now (.deregister cert item.cbsdId item.readings) state begins
  | registration cert items =>
      refine sweep_runs _ id RegistrationItem.readings (fun item state now begins => ?_) items store now ordered
      exact runs_to_event now (.register item.validated cert item.req item.readings) state begins
  | cpasApply decisions readings => exact runs_to_event now (.cpasApply decisions readings) store ordered.1

theorem perform_all_runs (operations : List (Operation K)) (store : Store K) (now : Int)
    (ordered : InOrder now (clockOf operations)) :
    RunsTo now (endOf now (clockOf operations)) store (performAll operations store) := by
  induction operations generalizing store now with
  | nil => exact runs_to_refl now store
  | cons operation rest ih =>
      rw [clockOf, List.flatMap_cons] at ordered ⊢
      obtain ⟨head, tail⟩ := in_order_append now _ _ ordered
      have first := perform_runs operation store now head
      have later := ih (perform operation store) _ tail
      have whole := runs_to_trans now _ _ _ _ _ first later
      rw [endOf, List.foldl_append]
      exact whole

end SasCore.Registry
