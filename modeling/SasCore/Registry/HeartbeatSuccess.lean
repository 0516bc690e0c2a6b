import SasCore.Registry.LifecycleSafety

set_option autoImplicit false
set_option linter.unusedSectionVars false

namespace SasCore.Registry

variable {K : Type} [Field K] [LinearOrder K]

def transmitExpireSec : Int := 60
def dpaNeighborhoodTransmitExpireSec : Int := 240
def maxTransmitExpireOutsideSec : Int := 24 * 3600 - 60
def minWithoutGrantReports : Nat := 15
def expectedBandwidthHz : Int := 10000000

def transmitExpireHorizonSec (capped : Bool) : Int :=
  if capped then min dpaNeighborhoodTransmitExpireSec maxTransmitExpireOutsideSec
  else min transmitExpireSec maxTransmitExpireOutsideSec

-- An entry of rcvdPowerMeasReports: the outer option says that the key is missing, the inner one
-- that int() fails on its value.
structure RcvdPowerMeasReport where
  measFrequency : Option (Option Int)
  measBandwidth : Option (Option Int)
  hasRcvdPower : Bool
deriving DecidableEq, Repr

inductive RcvdPowerMeasReports where
  | missing | notList
  | entries (items : List (Option RcvdPowerMeasReport))
deriving DecidableEq, Repr

inductive MeasReport where
  | missing | notObject
  | object (rcvdPowerMeasReports : RcvdPowerMeasReports)
deriving DecidableEq, Repr

def measEntryError : Option RcvdPowerMeasReport → Option Nat
  | none => some invalidParam
  | some item =>
      match item.measFrequency, item.measBandwidth, item.hasRcvdPower with
      | some (some freq), some (some bandwidth), true =>
          if bandwidth ≠ expectedBandwidthHz then some invalidParam
          else if freq < cbrsLowHz ∨ cbrsHighHz ≤ freq then some invalidParam
          else none
      | some _, some _, true => some invalidParam
      | _, _, _ => some missingParam

def validateMeasReport (report : MeasReport) (requireFullCbrs : Bool) : Option Nat :=
  match report with
  | .missing => some missingParam
  | .notObject => some invalidParam
  | .object .missing => some missingParam
  | .object .notList => some missingParam
  | .object (.entries items) =>
      if items = [] then some missingParam
      else if requireFullCbrs ∧ items.length < minWithoutGrantReports then some missingParam
      else items.findSome? measEntryError

-- The checks of process_heartbeat with its own report check and its own transmit horizon.
def servedChecks (checks : HeartbeatChecks K) (report : HeartbeatRequest → MeasReport)
    (capped : Cbsd K → Grant K → Bool) : HeartbeatChecks K :=
  { checks with
    measError := fun req => validateMeasReport (report req) false
    txHorizonSec := fun cbsd grant => transmitExpireHorizonSec (capped cbsd grant) }

-- The row the transmit time and the AUTHORIZE transition go by.
def grantInForce (checks : HeartbeatChecks K) (clock : Clock) (req : HeartbeatRequest) (grant : Grant K) : Grant K :=
  if req.grantRenew then (applyRenewal checks.pals checks.stamp grant (clock 5)).1 else grant

def Grant.Authorized (grant : Grant K) : Prop :=
  grant.lifecycleState = some .authorized ∧ grant.authorized = true ∧ grant.terminated = false

-- The table takes AUTHORIZE, or there is nothing to change.
def Grant.TakesAuthorize (grant : Grant K) (now : Int) : Prop :=
  resolveGrantState grant now ∈ (grantTransitions .authorize).sources ∨ grant.Authorized

-- All three required fields are given.
def HeartbeatRequest.Complete (req : HeartbeatRequest) : Prop :=
  req.cbsdId ≠ "" ∧ req.grantId ≠ "" ∧ req.operationState ≠ ""

-- What a SUCCESS promises of the committed row.
def AuthorizedAfter (req : HeartbeatRequest) (lastReading : Int) (handled : Store K × HeartbeatResponse) : Prop :=
  ∃ row, handled.1.findGrant req.grantId req.cbsdId = some row ∧ row.Authorized ∧
    row.transmitExpireTime = some handled.2.transmitExpireTime ∧
    handled.2.transmitExpireTime ≤ row.grantExpireTime ∧
    handled.2.transmitExpireTime ≤ lastReading + 240 * second

theorem transmit_horizon_bound (capped : Bool) : transmitExpireHorizonSec capped ≤ 240 := by
  cases capped <;> decide

def ReportRefused (code : Nat) : Prop := code = missingParam ∨ code = invalidParam

theorem meas_entry_error_code (item : Option RcvdPowerMeasReport) (code : Nat) (failed : measEntryError item = some code) :
    ReportRefused code := by
  have invalid : ∀ other : Nat, some invalidParam = some other → ReportRefused other :=
    fun _ same => Or.inr (Option.some.inj same).symm
  unfold measEntryError at failed
  split at failed
  · exact invalid code failed
  · split at failed
    · split at failed
      · exact invalid code failed
      · split at failed
        · exact invalid code failed
        · cases failed
    · exact invalid code failed
    · exact Or.inl (Option.some.inj failed).symm

theorem validate_meas_report_code (report : MeasReport) (requireFullCbrs : Bool) (code : Nat)
    (failed : validateMeasReport report requireFullCbrs = some code) : ReportRefused code := by
  have missing : ∀ other : Nat, some missingParam = some other → ReportRefused other :=
    fun _ same => Or.inl (Option.some.inj same).symm
  unfold validateMeasReport at failed
  split at failed
  · exact missing code failed
  · exact Or.inr (Option.some.inj failed).symm
  · exact missing code failed
  · exact missing code failed
  · split at failed
    · exact missing code failed
    · split at failed
      · exact missing code failed
      · obtain ⟨item, _, wrong⟩ := List.exists_of_findSome?_eq_some failed
        exact meas_entry_error_code item code wrong

theorem find_mapped (meets : Grant K → Bool) (old fresh : Grant K) (id : fresh.id = old.id) (met : meets fresh = true)
    (rows : List (Grant K)) (found : rows.find? meets = some old) :
    (rows.map fun grant => if grant.id = fresh.id then fresh else grant).find? meets = some fresh := by
  induction rows with
  | nil => cases found
  | cons row rest ih =>
      rw [List.map_cons]
      by_cases same : row.id = fresh.id
      · rw [if_pos same, List.find?_cons_of_pos met]
      · rw [if_neg same]
        by_cases first : meets row = true
        · rw [List.find?_cons_of_pos first] at found
          cases found
          exact absurd id.symm same
        · rw [List.find?_cons_of_neg first] at found ⊢
          exact ih found

-- An UPDATE through the row just read is found again under the same two identifiers.
theorem find_after_put (store : Store K) (grantId cbsdId : String) (old fresh : Grant K)
    (found : store.findGrant grantId cbsdId = some old) (id : fresh.id = old.id) (named : fresh.grantId = old.grantId)
    (owner : fresh.cbsdId = old.cbsdId) : (store.putGrant fresh).findGrant grantId cbsdId = some fresh := by
  have matching := List.find?_some found
  simp only [decide_eq_true_eq] at matching
  have met : decide (fresh.grantId = grantId ∧ fresh.cbsdId = cbsdId) = true :=
    decide_eq_true ⟨named.trans matching.1, owner.trans matching.2⟩
  exact find_mapped (fun grant => decide (grant.grantId = grantId ∧ grant.cbsdId = cbsdId)) old fresh id met
    store.grants found

section Served

variable (checks : HeartbeatChecks K) (report : HeartbeatRequest → MeasReport) (capped : Cbsd K → Grant K → Bool)
  (clock : Clock) (req : HeartbeatRequest) (cbsd : Cbsd K) (grant : Grant K)

-- Behind the protection checks a heartbeat is authorized, or refused with one of two codes.
theorem measured_cases :
    heartbeatMeasured (servedChecks checks report capped) clock req cbsd grant =
        heartbeatAuthorize (servedChecks checks report capped) clock req cbsd (grantInForce checks clock req grant) ∨
      ReportRefused (heartbeatMeasured (servedChecks checks report capped) clock req cbsd grant).2.responseCode := by
  unfold heartbeatMeasured
  dsimp only
  split
  · rename_i code failed
    right
    split at failed
    · exact validate_meas_report_code (report req) false code failed
    · cases failed
  · unfold heartbeatRenew grantInForce
    by_cases renew : req.grantRenew = true
    · rw [if_pos renew, if_pos renew]
      by_cases renewed : (applyRenewal checks.pals checks.stamp grant (clock 5)).2.ok = true
      · exact Or.inl (if_pos renewed)
      · right
        have refused := refused_renewal_code checks.pals checks.stamp grant (clock 5) renewed
        dsimp only [servedChecks]
        rw [if_neg renewed]
        exact Or.inr refused
    · rw [if_neg renew, if_neg renew]
      exact Or.inl rfl

theorem measured_served
    (answered : (heartbeatMeasured (servedChecks checks report capped) clock req cbsd grant).2.responseCode = success) :
    heartbeatMeasured (servedChecks checks report capped) clock req cbsd grant =
      heartbeatAuthorize (servedChecks checks report capped) clock req cbsd (grantInForce checks clock req grant) := by
  rcases measured_cases checks report capped clock req cbsd grant with served | refused | refused
  · exact served
  · rw [refused] at answered
    cases answered
  · rw [refused] at answered
    cases answered

theorem protected_served :
    (heartbeatProtected (servedChecks checks report capped) clock req cbsd grant).2.responseCode = success →
      heartbeatProtected (servedChecks checks report capped) clock req cbsd grant =
        heartbeatAuthorize (servedChecks checks report capped) clock req cbsd (grantInForce checks clock req grant) := by
  unfold heartbeatProtected
  dsimp only
  split
  · intro answered
    cases answered
  · split
    · intro answered
      cases answered
    · split
      · intro answered
        cases answered
      · split
        · intro answered
          cases answered
        · split
          · intro answered
            cases answered
          · exact measured_served checks report capped clock req cbsd grant

theorem grant_served :
    (heartbeatGrant (servedChecks checks report capped) clock req cbsd grant).2.responseCode = success →
      heartbeatGrant (servedChecks checks report capped) clock req cbsd grant =
        heartbeatAuthorize (servedChecks checks report capped) clock req cbsd (grantInForce checks clock req grant) := by
  unfold heartbeatGrant
  dsimp only
  split
  · intro answered
    cases answered
  · split
    · intro answered
      cases answered
    · split
      · exact protected_served checks report capped clock req cbsd grant
      · rename_i refused
        intro answered
        have nonzero := operation_refused_code grant req.operationState (clock 1) (by simpa using refused)
        exact absurd answered (lifecycle_refusal_code clock req grant _ nonzero)

end Served

theorem complete_iff (req : HeartbeatRequest) :
    req.Complete ↔ ¬ (req.cbsdId = "" ∨ req.grantId = "" ∨ req.operationState = "") := by
  simp only [HeartbeatRequest.Complete, not_or, ne_eq]

theorem authorize_fields (req : HeartbeatRequest) (complete : req.Complete) :
    missingRequiredFields (("operationState", req.operationState) :: req.payload)
      (grantTransitions .authorize).requiredFields = [] := by
  obtain ⟨cbsdId, grantId, operationState⟩ := complete
  simp [missingRequiredFields, grantTransitions, Payload.get, HeartbeatRequest.payload, idPayload, List.lookup_cons,
    cbsdId, grantId, operationState]

theorem authorized_row_iff (grant : Grant K) (payload : Payload) (now : Int)
    (fields : missingRequiredFields payload (grantTransitions .authorize).requiredFields = []) :
    (applyGrantEvent grant .authorize payload now).1.Authorized ↔ grant.TakesAuthorize now := by
  rw [event_row grant .authorize payload now (fun same => by cases same) fields]
  unfold Grant.TakesAuthorize
  split
  · rename_i source
    exact ⟨fun _ => Or.inl source, fun _ => ⟨rfl, rfl, rfl⟩⟩
  · rename_i foreign
    exact ⟨Or.inr, fun takes => takes.resolve_left foreign⟩

theorem transmit_within_expiry (grantExpire now horizonSec : Int) :
    computeTransmitExpireTime grantExpire now horizonSec ≤ grantExpire :=
  (min_le_right _ _).trans (whole_second_below grantExpire)

theorem transmit_within_horizon (grantExpire now later horizonSec : Int) (short : horizonSec ≤ 240) (le : now ≤ later) :
    computeTransmitExpireTime grantExpire now horizonSec ≤ later + 240 * second := by
  have first : computeTransmitExpireTime grantExpire now horizonSec ≤ wholeSecond now + horizonSec * second :=
    min_le_left _ _
  have floored := whole_second_below now
  unfold second at first ⊢
  omega

section Committed

variable (checks : HeartbeatChecks K) (report : HeartbeatRequest → MeasReport) (capped : Cbsd K → Grant K → Bool)
  (clock : Clock) (req : HeartbeatRequest) (cbsd : Cbsd K) (grant : Grant K)

theorem grant_in_force_frame :
    (grantInForce checks clock req grant).id = grant.id ∧ (grantInForce checks clock req grant).grantId = grant.grantId ∧
      (grantInForce checks clock req grant).cbsdId = grant.cbsdId := by
  unfold grantInForce
  split
  · rw [apply_renewal_frame]
    exact ⟨rfl, rfl, rfl⟩
  · exact ⟨rfl, rfl, rfl⟩

-- What AUTHORIZE leaves of the promise is the state column and the flags; the rest always holds.
theorem authorize_promise (ordered : ∀ first later, first ≤ later → clock first ≤ clock later)
    (complete : req.Complete) :
    let handled := heartbeatAuthorize (servedChecks checks report capped) clock req cbsd grant
    handled.1.id = grant.id ∧ handled.1.grantId = grant.grantId ∧ handled.1.cbsdId = grant.cbsdId ∧
      handled.1.transmitExpireTime = some handled.2.transmitExpireTime ∧
      handled.2.transmitExpireTime ≤ handled.1.grantExpireTime ∧
      handled.2.transmitExpireTime ≤ clock 7 + 240 * second ∧
      (handled.1.Authorized ↔ grant.TakesAuthorize (clock 7)) := by
  intro handled
  let tx := computeTransmitExpireTime grant.grantExpireTime (clock 6) (transmitExpireHorizonSec (capped cbsd grant))
  let timed : Grant K := { grant with transmitExpireTime := some tx }
  have advances := apply_grant_event_advances timed .authorize (("operationState", req.operationState) :: req.payload) (clock 7)
  have expiry := apply_grant_event_expiry timed .authorize (("operationState", req.operationState) :: req.payload) (clock 7)
  refine ⟨advances.id, ?_, advances.cbsdId, ?_, ?_, ?_, ?_⟩
  · exact apply_grant_event_names timed .authorize _ (clock 7)
  · exact apply_grant_event_transmit timed .authorize _ (clock 7)
  · have within := transmit_within_expiry grant.grantExpireTime (clock 6) (transmitExpireHorizonSec (capped cbsd grant))
    exact within.trans (le_of_eq expiry.symm)
  · exact transmit_within_horizon _ _ _ _ (transmit_horizon_bound _) (ordered 6 7 (by omega))
  · exact authorized_row_iff timed _ (clock 7) (authorize_fields req complete)

end Committed

theorem success_authorizes_iff (checks : HeartbeatChecks K) (report : HeartbeatRequest → MeasReport)
    (capped : Cbsd K → Grant K → Bool) (certificateHash : Option String) (clock : Clock) (req : HeartbeatRequest)
    (store : Store K) (ordered : ∀ first later, first ≤ later → clock first ≤ clock later)
    (answered : (heartbeatItem (servedChecks checks report capped) certificateHash clock req store).2.responseCode = success) :
    ∃ grant, store.findGrant req.grantId req.cbsdId = some grant ∧
      (AuthorizedAfter req (clock 7) (heartbeatItem (servedChecks checks report capped) certificateHash clock req store) ↔
        (grantInForce checks clock req grant).TakesAuthorize (clock 7)) := by
  revert answered
  unfold heartbeatItem
  split
  · intro answered
    cases answered
  · rename_i complete
    split
    · intro answered
      cases answered
    · rename_i cbsd _
      split
      · intro answered
        cases answered
      · split
        · intro answered
          cases answered
        · rename_i grant found
          dsimp only
          intro answered
          rw [grant_served checks report capped clock req cbsd grant answered]
          obtain ⟨id, named, owner, transmit, inTime, short, authorized⟩ :=
            authorize_promise checks report capped clock req cbsd (grantInForce checks clock req grant) ordered
              ((complete_iff req).mpr complete)
          obtain ⟨sameId, sameName, sameOwner⟩ := grant_in_force_frame checks clock req grant
          have committed := find_after_put store req.grantId req.cbsdId grant _ found (id.trans sameId)
            (named.trans sameName) (owner.trans sameOwner)
          refine ⟨grant, found, ?_⟩
          rw [← authorized]
          constructor
          · rintro ⟨row, rowFound, kept, _⟩
            rw [committed] at rowFound
            cases rowFound
            exact kept
          · intro kept
            exact ⟨_, committed, kept, transmit, inTime, short⟩

def grantedStore : Store Rat := performAll (sampleOperations.take 2) Store.empty

def plainChecks : HeartbeatChecks Rat := servedChecks openHeartbeatChecks (fun _ => .missing) fun _ _ => false

def firstHeartbeat : HeartbeatRequest := ⟨"fcc/sn", "grant/1", "GRANTED", false⟩

theorem success_authorizes_sample :
    ∃ grant, grantedStore.findGrant firstHeartbeat.grantId firstHeartbeat.cbsdId = some grant ∧
      (AuthorizedAfter firstHeartbeat ((fun _ => 2 * second : Clock) 7)
          (heartbeatItem plainChecks none (fun _ => 2 * second) firstHeartbeat grantedStore) ↔
        (grantInForce openHeartbeatChecks (fun _ => 2 * second) firstHeartbeat grant).TakesAuthorize (2 * second)) :=
  success_authorizes_iff openHeartbeatChecks (fun _ => .missing) (fun _ _ => false) none (fun _ => 2 * second) firstHeartbeat
    grantedStore (fun _ _ _ => le_refl _) (by decide +kernel)

-- The second turns between the transmit time and the AUTHORIZE transition.
def turningClock : Clock := fun n => if n < 7 then 900500000 else 901000000

theorem turning_clock_ordered : ∀ first later, first ≤ later → turningClock first ≤ turningClock later := by
  intro first later le
  unfold turningClock
  split
  · split <;> omega
  · rw [if_neg (by omega)]

theorem granted_row_answered_success :
    (∀ first later, first ≤ later → turningClock first ≤ turningClock later) ∧
      (heartbeatItem plainChecks none turningClock firstHeartbeat grantedStore).2.responseCode = success ∧
      ¬ AuthorizedAfter firstHeartbeat (turningClock 7)
        (heartbeatItem plainChecks none turningClock firstHeartbeat grantedStore) := by
  refine ⟨turning_clock_ordered, by decide +kernel, ?_⟩
  rintro ⟨row, found, authorized, _⟩
  have column : ((heartbeatItem plainChecks none turningClock firstHeartbeat grantedStore).1.findGrant
      firstHeartbeat.grantId firstHeartbeat.cbsdId).map Grant.lifecycleState = some (some .granted) := by decide +kernel
  rw [found, Option.map_some, authorized.1] at column
  cases column

end SasCore.Registry
