import SasCore.Ppa.CreationRace
import SasCore.Fad.Identifiers
import SasCore.Fad.RecordShape
import SasCore.Cpas.Generations
import SasCore.Lib.Faults

set_option autoImplicit false
set_option linter.unusedSectionVars false

namespace SasCore.Ppa

open Injection Federal Registry Spectrum Txn Txn.Prog
open Cpas (bumpedGenerations counter)

section Rows

structure CreationStatus where
  completed : Bool
  withError : Bool
  updatedAt : String
  reason : Option String
  ppaId : Option String
deriving DecidableEq, Repr

structure PpaAudit where
  event : String
  writtenAt : String
  detail : List (String × String)
deriving DecidableEq, Repr

-- The rows of admin_injected_data that create_ppa writes, each kind in the order of the ids. A zone row is `none` where
-- json.loads rejects its text.
structure PpaBook (K : Type) where
  zones : List (Option (Json K))
  generations : List (List (String × Nat))
  statuses : List CreationStatus
  audits : List PpaAudit

variable {K : Type}

def PpaBook.meta (book : PpaBook K) : List (String × Nat) := book.generations.getLast?.getD []

def addZone (record : Json K) (book : PpaBook K) : PpaBook K := { book with zones := book.zones ++ [some (zonePayload record)] }

def clearGenerations (book : PpaBook K) : PpaBook K := { book with generations := [] }

def addGenerations (generations : List (String × Nat)) (book : PpaBook K) : PpaBook K :=
  { book with generations := book.generations ++ [generations] }

-- set_admin_flag: the first row of the kind takes the payload.
def putStatus (status : CreationStatus) (book : PpaBook K) : PpaBook K := { book with statuses := status :: book.statuses.tail }

def addAudit (row : PpaAudit) (book : PpaBook K) : PpaBook K := { book with audits := book.audits ++ [row] }

end Rows

section Faults

-- The places of create_ppa where an exception may be raised, in the order of the source.
inductive Place where
  | startStatus | startCommit | validation | lock | zone | readGenerations | deleteGenerations | addGenerations
  | status | statusCommit | audit | finalCommit | errorStatus | errorStatusCommit | errorAudit | errorCommit
deriving DecidableEq, Repr

def Place.isCommit : Place → Bool
  | .startCommit | .statusCommit | .finalCommit | .errorStatusCommit | .errorCommit => true
  | _ => false

-- An exception, and whether the session takes further statements after it.
structure Fault where
  errorType : String
  usable : Bool
deriving DecidableEq, Repr

inductive CreationError where
  | domain (reason : String)
  | internal (fault : Fault)
deriving DecidableEq, Repr

def CreationError.usable : CreationError → Bool
  | .domain _ => true
  | .internal fault => fault.usable

def CreationError.reason : CreationError → String
  | .domain reason => reason
  | .internal fault => "internal_error:" ++ fault.errorType

def CreationError.event : CreationError → String
  | .domain _ => "create_ppa_error"
  | .internal _ => "create_ppa_internal_error"

def CreationError.detail : CreationError → List (String × String)
  | .domain reason => [("reason", reason)]
  | .internal fault => [("errorType", fault.errorType)]

-- What a call meets: the exceptions of the code it calls, the clock, and the token of the new id.
structure Surroundings where
  raises : Place → Option Fault
  clock : Place → String
  token : String
  today : String

-- A session whose commit failed takes no statement before a rollback.
def Surroundings.fault (calls : Surroundings) (place : Place) : Option CreationError :=
  (calls.raises place).map fun fault => .internal (if place.isCommit then { fault with usable := false } else fault)

def creationReasons : List String :=
  ["missing_palIds", "invalid_palIds", "duplicate_palIds", "missing_cbsdIds", "invalid_cbsdIds", "duplicate_cbsdIds",
    "unknown_palId", "inactive_pal", "pal_holder_mismatch", "unknown_cbsdId", "cbsd_not_pal_holder", "cbsd_missing_location",
    "service_area_unavailable", "service_area_required", "cbsd_outside_service_area", "census_dataset_missing",
    "cbsd_outside_census", "contour_empty_after_clip", "contour_outside_census", "cbsd_outside_max_contour",
    "invalid_providedContour", "claimedBoundary_outside_service_area", "claimedBoundary_exceeds_rf_maximum",
    "overlaps_existing_ppa", "ppa_zone_must_be_single_feature", "ppa_zone_invalid_geometry", "ppa_zone_empty_geometry"]

-- What _validate_and_build raises: a PpaCreationError, or an exception named by its type.
def creationError (text : String) : CreationError :=
  if creationReasons.contains text || "rf_contour_unavailable:".toList.isPrefixOf text.toList then .domain text
  else .internal ⟨text, true⟩

end Faults

section Creation

variable {K : Type} (calls : Surroundings)

def setPpaCreationStatus (status : CreationStatus) (place commitPlace : Place) (next : Prog (PpaBook K) CreationError) :
    Prog (PpaBook K) CreationError :=
  attempt calls.fault place (write (putStatus status) (attempt calls.fault commitPlace (commit next)))

def appendAudit (event : String) (detail : List (String × String)) (place : Place) (next : Prog (PpaBook K) CreationError) :
    Prog (PpaBook K) CreationError :=
  attempt calls.fault place (write (addAudit ⟨event, calls.clock place, detail⟩) next)

def persistZone (record : Json K) (next : Prog (PpaBook K) CreationError) : Prog (PpaBook K) CreationError :=
  attempt calls.fault .zone (write (addZone record) next)

-- bump_injection_generation of the zones: the rows are deleted before the new one is added.
def bumpZoneGeneration (next : Prog (PpaBook K) CreationError) : Prog (PpaBook K) CreationError :=
  attempt calls.fault .readGenerations (read fun book =>
    attempt calls.fault .deleteGenerations (write clearGenerations
      (attempt calls.fault .addGenerations (write (addGenerations (bumpedGenerations "zone" book.meta)) next))))

def startCreation : Prog (PpaBook K) CreationError :=
  setPpaCreationStatus calls ⟨false, false, calls.clock .startStatus, none, none⟩ .startStatus .startCommit done

-- The block under exclusive_iap_admission.
def admitZone (ppaId : String) (record : Json K) : Prog (PpaBook K) CreationError :=
  attempt calls.fault .lock (lock (persistZone calls record (bumpZoneGeneration calls
    (setPpaCreationStatus calls ⟨true, false, calls.clock .status, none, some ppaId⟩ .status .statusCommit
      (appendAudit calls "create_ppa_ok" [("ppaId", ppaId)] .audit (attempt calls.fault .finalCommit (commit done)))))))

-- The two handlers. Where the session is not usable, their first query raises.
def recordError (error : CreationError) : Prog (PpaBook K) CreationError :=
  if error.usable then
    setPpaCreationStatus calls ⟨true, true, calls.clock .errorStatus, some error.reason, none⟩ .errorStatus .errorStatusCommit
      (appendAudit calls error.event error.detail .errorAudit (attempt calls.fault .errorCommit (commit done)))
  else raise error

-- What create_ppa ends with, and what is stored then.
inductive CreateOutcome (K : Type) where
  | returned (ppaId : String) (stored : PpaBook K)
  | raised (stored : PpaBook K)

def handleError (error : CreationError) (session : Session (PpaBook K)) : CreateOutcome K :=
  match exec (recordError calls error) session with
  | (left, none) => .returned "" left.committed
  | (left, some _) => .raised left.committed

variable [Field K] [LinearOrder K] (env : PpaEnv K) (tables : PpaTables K)

def buildFrom (body : Json K) (book : PpaBook K) : Except String (String × Json K) :=
  validateAndBuild env tables (book.zones.filterMap id) (if body.isObject then body else .object []) calls.token calls.today

def validated (body : Json K) (book : PpaBook K) : Except CreationError (String × Json K) :=
  match calls.fault .validation with
  | some error => .error error
  | none =>
      match buildFrom calls env tables body book with
      | .error text => .error (creationError text)
      | .ok built => .ok built

def createPpa (body : Json K) (book : PpaBook K) : CreateOutcome K :=
  match exec (startCreation calls) (Session.start book) with
  | (session, some _) => .raised session.committed
  | (session, none) =>
      match validated calls env tables body session.view with
      | .error error => handleError calls error session
      | .ok built =>
          match exec (admitZone calls built.1 built.2) session with
          | (left, none) => .returned built.1 left.committed
          | (left, some error) => handleError calls error left

end Creation

section Claims

variable {K : Type}

def zoneGeneration (book : PpaBook K) : Nat := counter book.meta .zone

-- A returned id stands for one new zone under it, the empty text for no change.
def AllOrNothing (before : PpaBook K) : CreateOutcome K → Prop
  | .raised _ => True
  | .returned ppaId stored =>
      if ppaId = "" then stored.zones = before.zones ∧ stored.generations = before.generations
      else
        ∃ record : Json K, record.field "id" = .text ppaId ∧ stored.zones = before.zones ++ [some (zonePayload record)] ∧
          zoneGeneration before < zoneGeneration stored

def beforeInsert : List Place := [.startStatus, .startCommit, .validation, .lock, .zone]

def afterInsert : List Place :=
  [.readGenerations, .deleteGenerations, .addGenerations, .status, .statusCommit, .audit, .finalCommit]

def inHandler : List Place := [.errorStatus, .errorStatusCommit, .errorAudit, .errorCommit]

variable [Field K] [LinearOrder K] (calls : Surroundings) (env : PpaEnv K) (tables : PpaTables K)

-- No handler runs to its end for an exception that was raised once the zone was added.
def NothingLate (body : Json K) (book : PpaBook K) : Prop :=
  firstFault calls.fault beforeInsert = none → (buildFrom calls env tables body book).isOk = true →
    ∀ error ∈ firstFault calls.fault afterInsert, error.usable = true → firstFault calls.fault inHandler ≠ none

end Claims

section Steps

variable {K : Type} (calls : Surroundings) (session : Session (PpaBook K))

-- A status is written and committed.
theorem status_runs (inside : Session (PpaBook K) → Prop) (status : CreationStatus) (place commitPlace : Place) (rest : List Place)
    (next : Prog (PpaBook K) CreationError) (final : Session (PpaBook K)) (holds : inside session)
    (written : inside (session.write (putStatus status)))
    (runs : Runs calls.fault rest inside next (session.write (putStatus status)).commit final) :
    Runs calls.fault (place :: commitPlace :: rest) inside (setPpaCreationStatus calls status place commitPlace next) session
      final := by
  apply runs_attempt _ _ _ _ _ _ _ holds
  apply runs_write
  apply runs_attempt _ _ _ _ _ _ _ written
  exact runs_commit _ _ _ _ _ _ runs

theorem start_runs :
    Runs calls.fault [.startStatus, .startCommit] (fun _ => True) (startCreation calls) session
      (Session.start (putStatus ⟨false, false, calls.clock .startStatus, none, none⟩ session.view)) := by
  apply status_runs _ _ _ _ _ _ _ _ _ trivial trivial
  exact runs_done _ _ _

-- From the insert on, the new zone is in the session or committed.
def Inserted (record : Json K) (book : PpaBook K) (session : Session (PpaBook K)) : Prop :=
  session.view.zones = (addZone record book).zones

-- What the block commits.
def admitted (ppaId : String) (record : Json K) (book : PpaBook K) : PpaBook K :=
  addAudit ⟨"create_ppa_ok", calls.clock .audit, [("ppaId", ppaId)]⟩
    (putStatus ⟨true, false, calls.clock .status, none, some ppaId⟩
      (addGenerations (bumpedGenerations "zone" book.meta) (clearGenerations (addZone record book))))

def afterZone (ppaId : String) (record : Json K) : Prog (PpaBook K) CreationError :=
  write (addZone record) (bumpZoneGeneration calls
    (setPpaCreationStatus calls ⟨true, false, calls.clock .status, none, some ppaId⟩ .status .statusCommit
      (appendAudit calls "create_ppa_ok" [("ppaId", ppaId)] .audit (attempt calls.fault .finalCommit (commit done)))))

theorem after_zone_runs (ppaId : String) (record : Json K) :
    Runs calls.fault afterInsert (Inserted record session.view) (afterZone calls ppaId record) session
      (Session.start (admitted calls ppaId record session.view)) := by
  apply runs_write
  apply runs_attempt
  · rfl
  apply runs_read
  apply runs_attempt
  · rfl
  apply runs_write
  apply runs_attempt
  · rfl
  apply runs_write
  apply status_runs
  · rfl
  · rfl
  apply runs_attempt
  · rfl
  apply runs_write
  apply runs_attempt
  · rfl
  exact runs_commit _ _ _ _ _ _ (runs_done _ _ _)

-- Up to the insert the session is as it was.
theorem before_zone_runs (ppaId : String) (record : Json K) :
    (∃ error, firstFault calls.fault [.lock, .zone] = some error ∧ exec (admitZone calls ppaId record) session = (session, some error)) ∨
      (firstFault calls.fault [.lock, .zone] = none ∧
        exec (admitZone calls ppaId record) session = exec (afterZone calls ppaId record) session) := by
  cases lock : calls.fault .lock with
  | some error =>
      left
      exact ⟨error, first_fault_cons_some _ _ _ _ lock, exec_attempt_some _ _ _ _ _ lock⟩
  | none =>
      rw [first_fault_cons_none _ _ _ lock, admitZone, exec_attempt_none _ _ _ _ lock]
      cases zone : calls.fault .zone with
      | some error =>
          left
          exact ⟨error, first_fault_cons_some _ _ _ _ zone, exec_attempt_some _ _ _ _ _ zone⟩
      | none =>
          right
          exact ⟨first_fault_cons_none _ _ _ zone, exec_attempt_none _ _ _ _ zone⟩

-- What a handler commits with what was pending.
def failed (error : CreationError) (book : PpaBook K) : PpaBook K :=
  addAudit ⟨error.event, calls.clock .errorAudit, error.detail⟩
    (putStatus ⟨true, true, calls.clock .errorStatus, some error.reason, none⟩ book)

theorem handler_runs (error : CreationError) (usable : error.usable = true) :
    Runs calls.fault inHandler (fun _ => True) (recordError calls error) session
      (Session.start (failed calls error session.view)) := by
  rw [recordError, if_pos usable]
  apply status_runs _ _ _ _ _ _ _ _ _ trivial trivial
  apply runs_attempt _ _ _ _ _ _ _ trivial
  apply runs_write
  apply runs_attempt _ _ _ _ _ _ _ trivial
  exact runs_commit _ _ _ _ _ _ (runs_done _ _ _)

-- A handler raises in its turn, or commits all that is pending.
theorem handle_error_cases (error : CreationError) :
    ((error.usable = true → firstFault calls.fault inHandler ≠ none) ∧ ∃ stored, handleError calls error session = .raised stored) ∨
      (error.usable = true ∧ firstFault calls.fault inHandler = none ∧
        handleError calls error session = .returned "" (failed calls error session.view)) := by
  by_cases usable : error.usable = true
  · have runs := handler_runs calls session error usable
    cases met : firstFault calls.fault inHandler with
    | some again =>
        obtain ⟨left, stops, _⟩ := runs_stops _ _ _ _ _ _ again runs met
        left
        exact ⟨fun _ => Option.some_ne_none again, left.committed, by rw [handleError, stops]⟩
    | none =>
        right
        exact ⟨usable, rfl, by rw [handleError, runs_ends _ _ _ _ _ _ runs met]; rfl⟩
  · left
    refine ⟨fun held => absurd held usable, session.committed, ?_⟩
    rw [handleError, recordError, if_neg usable]
    rfl

end Steps

section Outcome

variable {K : Type} [Field K] [LinearOrder K] (calls : Surroundings) (env : PpaEnv K) (tables : PpaTables K) (body : Json K)
  (book : PpaBook K)

theorem built_id (built : String × Json K) (ok : buildFrom calls env tables body book = .ok built) :
    built.1 ≠ "" ∧ built.2.field "id" = .text built.1 := by
  obtain ⟨palIds, _, afterPals⟩ := Collect.bind_ok _ _ built ok
  obtain ⟨cbsdIds, _, afterCbsds⟩ := Collect.bind_ok _ _ built afterPals
  obtain ⟨pals, _, afterLoad⟩ := Collect.bind_ok _ _ built afterCbsds
  obtain ⟨selected, _, afterSelect⟩ := Collect.bind_ok _ _ built afterLoad
  obtain ⟨holder, _, afterHolder⟩ := Collect.bind_ok _ _ built afterSelect
  obtain ⟨cbsds, _, afterRows⟩ := Collect.bind_ok _ _ built afterHolder
  obtain ⟨locations, _, afterPlaces⟩ := Collect.bind_ok _ _ built afterRows
  obtain ⟨contour, _, afterContour⟩ := Collect.bind_ok _ _ built afterPlaces
  obtain ⟨clash, _, ending⟩ := Collect.bind_ok _ _ built afterContour
  cases clash with
  | true => cases ending
  | false =>
      obtain ⟨ppaId, named, withId⟩ := Collect.bind_ok _ _ built ending
      obtain ⟨zone, _, same⟩ := Collect.bind_ok _ _ built withId
      cases same
      obtain ⟨tail, owned⟩ := Fad.rewritten_zone_id _ _ _ _ named
      refine ⟨?_, rfl⟩
      rw [owned]
      exact Fad.prefixed_filled _ _ (by decide)

theorem error_keeps (error : CreationError) (session : Session (PpaBook K)) (zones : session.view.zones = book.zones)
    (generations : session.view.generations = book.generations) : AllOrNothing book (handleError calls error session) := by
  rcases handle_error_cases calls session error with ⟨_, stored, raised⟩ | ⟨_, _, returned⟩
  · rw [raised]
    trivial
  · rw [returned, AllOrNothing, if_pos rfl]
    exact ⟨zones, generations⟩

-- A handler that runs to its end commits the zone that was added.
theorem late_error_keeps_iff (record : Json K) (error : CreationError) (session : Session (PpaBook K))
    (inserted : Inserted record book session) :
    AllOrNothing book (handleError calls error session) ↔ (error.usable = true → firstFault calls.fault inHandler ≠ none) := by
  rcases handle_error_cases calls session error with ⟨again, stored, raised⟩ | ⟨usable, quiet, returned⟩
  · rw [raised]
    exact iff_of_true trivial again
  · rw [returned, AllOrNothing, if_pos rfl]
    refine iff_of_false (fun same => ?_) fun again => again usable quiet
    have grown : book.zones ++ [some (zonePayload record)] = book.zones := inserted.symm.trans same.1
    simp at grown

theorem admitted_keeps (ppaId : String) (record : Json K) (filled : ppaId ≠ "") (named : record.field "id" = .text ppaId) :
    AllOrNothing book (.returned ppaId (admitted calls ppaId record book)) := by
  rw [AllOrNothing, if_neg filled]
  refine ⟨record, named, rfl, ?_⟩
  have bumped : zoneGeneration (admitted calls ppaId record book) = zoneGeneration book + 1 := by
    have counted := Cpas.counter_bumped .zone .zone book.meta
    rw [if_pos rfl] at counted
    exact counted
  rw [bumped]
  exact Nat.lt_succ_self _

-- Once the first status is committed.
theorem body_keeps_iff (status : CreationStatus) :
    AllOrNothing book
        (match validated calls env tables body (putStatus status book) with
        | .error error => handleError calls error (Session.start (putStatus status book))
        | .ok built =>
            match exec (admitZone calls built.1 built.2) (Session.start (putStatus status book)) with
            | (left, none) => .returned built.1 left.committed
            | (left, some error) => handleError calls error left) ↔
      (firstFault calls.fault [.validation, .lock, .zone] = none → (buildFrom calls env tables body book).isOk = true →
        ∀ error ∈ firstFault calls.fault afterInsert, error.usable = true → firstFault calls.fault inHandler ≠ none) := by
  cases validation : calls.fault .validation with
  | some error =>
      rw [validated, validation, first_fault_cons_some _ _ _ _ validation]
      exact iff_of_true (error_keeps calls book error _ rfl rfl) (fun quiet => by cases quiet)
  | none =>
      have same : buildFrom calls env tables body (putStatus status book) = buildFrom calls env tables body book := rfl
      rw [validated, validation, first_fault_cons_none _ _ _ validation, same]
      cases ok : buildFrom calls env tables body book with
      | error text =>
          exact iff_of_true (error_keeps calls book (creationError text) _ rfl rfl) (fun _ built => by cases built)
      | ok built =>
          rcases before_zone_runs calls (Session.start (putStatus status book)) built.1 built.2 with
            ⟨error, met, stops⟩ | ⟨quiet, passes⟩
          · simp only [stops, met]
            exact iff_of_true (error_keeps calls book error _ rfl rfl) (fun quiet => by cases quiet)
          · have runs := after_zone_runs calls (Session.start (putStatus status book)) built.1 built.2
            simp only [passes, quiet]
            cases met : firstFault calls.fault afterInsert with
            | none =>
                obtain ⟨filled, named⟩ := built_id calls env tables body book built ok
                rw [runs_ends _ _ _ _ _ _ runs met]
                exact iff_of_true (admitted_keeps calls book built.1 built.2 filled named) (fun _ _ error raised => by cases raised)
            | some error =>
                obtain ⟨left, stops, inserted⟩ := runs_stops _ _ _ _ _ _ error runs met
                rw [stops]
                have kept := late_error_keeps_iff calls book built.2 error left inserted
                simpa [Except.isOk, Except.toBool] using kept

-- For every database, request and set of exceptions: create_ppa stores all or nothing exactly when no handler runs to its end
-- for an exception that was raised after the zone was added.
theorem creation_all_or_nothing_iff :
    AllOrNothing book (createPpa calls env tables body book) ↔ NothingLate calls env tables body book := by
  have starts := start_runs calls (Session.start book)
  have split : firstFault calls.fault beforeInsert =
      (firstFault calls.fault [.startStatus, .startCommit]).or (firstFault calls.fault [.validation, .lock, .zone]) :=
    first_fault_append calls.fault [.startStatus, .startCommit] [.validation, .lock, .zone]
  rw [NothingLate, split]
  cases opening : firstFault calls.fault [.startStatus, .startCommit] with
  | some error =>
      obtain ⟨left, stops, _⟩ := runs_stops _ _ _ _ _ _ error starts opening
      rw [createPpa, stops]
      exact iff_of_true trivial (fun quiet => by cases quiet)
  | none =>
      rw [createPpa, runs_ends _ _ _ _ _ _ starts opening, Option.none_or]
      exact body_keeps_iff calls env tables body book _

end Outcome

-- A locked database fails the DELETE of the generations, and the handler commits the zone.
def lockedCalls : Surroundings :=
  ⟨fun place => if place = .deleteGenerations then some ⟨"OperationalError", true⟩ else none, fun _ => "now", "a", "today"⟩

def emptyBook : PpaBook Rat := ⟨[], [], [], []⟩

theorem failed_creation_stored :
    ¬ ∀ (calls : Surroundings) (body : Json Rat) (book : PpaBook Rat),
      AllOrNothing book (createPpa calls plotEnv plotTables body book) := by
  intro claim
  have kept := claim lockedCalls (clusterBody "fcc/sn") emptyBook
  have stored : createPpa lockedCalls plotEnv plotTables (clusterBody "fcc/sn") emptyBook =
      .returned "" ⟨[some (zonePayload (plotRecord squareRing "fcc/sn" "a"))], [],
        [⟨true, true, "now", some "internal_error:OperationalError", none⟩],
        [⟨"create_ppa_internal_error", "now", [("errorType", "OperationalError")]⟩]⟩ := rfl
  rw [stored, AllOrNothing, if_pos rfl] at kept
  cases kept.1

end SasCore.Ppa
