import SasCore.Registry.GrantService
import SasCore.Registry.CpasApply

set_option autoImplicit false
set_option linter.unusedSectionVars false

namespace SasCore.Registry

variable {K : Type} [Field K] [LinearOrder K]

theorem id_payload_missing (cbsdId grantId : String) (named : cbsdId ≠ "") :
    missingRequiredFields (idPayload cbsdId grantId) (grantTransitions .terminate).requiredFields =
      if grantId = "" then ["grantId"] else [] := by
  by_cases empty : grantId = ""
  · simp [missingRequiredFields, grantTransitions, idPayload, Payload.get, List.lookup_cons, named, empty]
  · simp [missingRequiredFields, grantTransitions, idPayload, Payload.get, List.lookup_cons, named, empty]

-- Only a grant whose time is over is stored as expired.
def Grant.ExpiredPast (now : Int) (grant : Grant K) : Prop :=
  grant.lifecycleState = some .expired → wholeSecond grant.grantExpireTime ≤ wholeSecond now

-- An item may rewrite a row this way: identity and range stay, and a dead grant stays dead.
structure Grant.Advances (old fresh : Grant K) : Prop where
  id : fresh.id = old.id
  cbsdPk : fresh.cbsdPk = old.cbsdPk
  cbsdId : fresh.cbsdId = old.cbsdId
  low : fresh.lowFrequency = old.lowFrequency
  high : fresh.highFrequency = old.highFrequency
  dead : old.terminalColumn = true → fresh.terminalColumn = true

theorem advances_refl (grant : Grant K) : grant.Advances grant := ⟨rfl, rfl, rfl, rfl, rfl, id⟩

theorem advances_trans (first second third : Grant K) (one : first.Advances second) (two : second.Advances third) :
    first.Advances third :=
  ⟨two.id.trans one.id, two.cbsdPk.trans one.cbsdPk, two.cbsdId.trans one.cbsdId, two.low.trans one.low,
    two.high.trans one.high, fun dead => two.dead (one.dead dead)⟩

theorem expired_past_later (grant : Grant K) (now later : Int) (le : now ≤ later) (past : grant.ExpiredPast now) :
    grant.ExpiredPast later :=
  fun expired => (past expired).trans (whole_second_le now later le)

-- What an item that reads its clock between `now` and `finish` may make of a row. Only the last
-- part relies on the clock.
structure KeepsRow (now finish : Int) (old fresh : Grant K) : Prop where
  advances : old.Advances fresh
  sync : old.InSync → fresh.InSync
  expiry : now ≤ finish → old.ExpiredPast now → fresh.ExpiredPast finish

theorem keeps_row_refl (now finish : Int) (grant : Grant K) : KeepsRow now finish grant grant :=
  ⟨advances_refl grant, id, fun le past => expired_past_later grant now finish le past⟩

theorem apply_grant_event_expiry (grant : Grant K) (event : GrantEvent) (payload : Payload) (now : Int) :
    (applyGrantEvent grant event payload now).1.grantExpireTime = grant.grantExpireTime := by
  rw [apply_grant_event_frame]

theorem apply_grant_event_transmit (grant : Grant K) (event : GrantEvent) (payload : Payload) (now : Int) :
    (applyGrantEvent grant event payload now).1.transmitExpireTime = grant.transmitExpireTime := by
  rw [apply_grant_event_frame]

theorem apply_grant_event_names (grant : Grant K) (event : GrantEvent) (payload : Payload) (now : Int) :
    (applyGrantEvent grant event payload now).1.grantId = grant.grantId := by
  rw [apply_grant_event_frame]

theorem apply_grant_event_advances (grant : Grant K) (event : GrantEvent) (payload : Payload) (now : Int) :
    grant.Advances (applyGrantEvent grant event payload now).1 := by
  have dead := apply_grant_event_terminal grant event payload now
  have frame := apply_grant_event_frame grant event payload now
  refine ⟨?_, ?_, ?_, ?_, ?_, dead⟩ <;> rw [frame]

-- A row is stored as expired only if it was so before or the event is the expiry.
theorem apply_grant_event_expired (grant : Grant K) (event : GrantEvent) (payload : Payload) (now : Int)
    (expired : (applyGrantEvent grant event payload now).1.lifecycleState = some .expired) :
    grant.lifecycleState = some .expired ∨ event = .expire := by
  rcases apply_grant_event_cases grant event payload now with same | ⟨moved, _, _⟩
  · rw [same] at expired
    exact Or.inl expired
  · rw [moved] at expired
    cases event with
    | expire => exact Or.inr rfl
    | approve => cases expired
    | authorize => cases expired
    | suspend => cases expired
    | terminate => cases expired
    | relinquish => cases expired

theorem keeps_event (grant : Grant K) (event : GrantEvent) (payload : Payload) (reading now finish : Int)
    (timeOver : event = .expire → wholeSecond grant.grantExpireTime ≤ wholeSecond finish) :
    KeepsRow now finish grant (applyGrantEvent grant event payload reading).1 := by
  refine ⟨apply_grant_event_advances grant event payload reading,
    apply_grant_event_sync grant event payload reading, ?_⟩
  intro le past expired
  rw [apply_grant_event_expiry]
  rcases apply_grant_event_expired grant event payload reading expired with before | isExpire
  · exact expired_past_later grant now finish le past before
  · exact timeOver isExpire

section Heartbeat

variable (checks : HeartbeatChecks K) (clock : Clock) (req : HeartbeatRequest) (cbsd : Cbsd K)

theorem federal_termination_keeps (grant : Grant K) (reading now finish : Int) :
    KeepsRow now finish grant (persistFederalTermination grant req reading) := by
  have applied := keeps_event grant .terminate req.payload reading now finish (fun same => by cases same)
  unfold persistFederalTermination
  dsimp only
  split
  · exact applied
  · have advances := applied.advances
    refine ⟨?_, fun _ => rfl, fun _ _ column => by cases column⟩
    exact ⟨advances.id, advances.cbsdPk, advances.cbsdId, advances.low, advances.high, fun _ => rfl⟩

theorem federal_termination_expiry (grant : Grant K) (reading : Int) :
    (persistFederalTermination grant req reading).grantExpireTime = grant.grantExpireTime := by
  unfold persistFederalTermination
  dsimp only
  split
  · exact apply_grant_event_expiry grant .terminate req.payload reading
  · exact apply_grant_event_expiry grant .terminate req.payload reading

theorem heartbeat_authorize_keeps (grant : Grant K) (now finish : Int) :
    KeepsRow now finish grant (heartbeatAuthorize checks clock req cbsd grant).1 := by
  have kept := keeps_event
    { grant with transmitExpireTime := some (computeTransmitExpireTime grant.grantExpireTime (clock 6)
        (checks.txHorizonSec cbsd grant)) }
    .authorize (("operationState", req.operationState) :: req.payload) (clock 7) now finish (fun same => by cases same)
  have advances := kept.advances
  exact ⟨⟨advances.id, advances.cbsdPk, advances.cbsdId, advances.low, advances.high, advances.dead⟩, kept.sync,
    kept.expiry⟩

theorem apply_renewal_frame (pals : List PalRow) (stamp : SyncStamp) (grant : Grant K) (now : Int) :
    (applyRenewal pals stamp grant now).1 =
      { grant with
        grantExpireTime := (applyRenewal pals stamp grant now).1.grantExpireTime
        grantJson := (applyRenewal pals stamp grant now).1.grantJson } := by
  unfold applyRenewal
  dsimp only
  split <;> rfl

theorem compute_renewal_cases (pals : List PalRow) (grant : Grant K) (now : Int) :
    (∃ expire, computeRenewal pals grant now = ⟨true, success, some expire, none⟩) ∨
      ∃ detail, computeRenewal pals grant now = renewalRefused detail := by
  unfold computeRenewal
  dsimp only
  split
  · exact Or.inr ⟨_, rfl⟩
  · split
    · exact Or.inr ⟨_, rfl⟩
    · split
      · exact Or.inl ⟨_, rfl⟩
      · split
        · exact Or.inr ⟨_, rfl⟩
        · split
          · exact Or.inr ⟨_, rfl⟩
          · split
            · exact Or.inr ⟨_, rfl⟩
            · exact Or.inl ⟨_, rfl⟩

theorem refused_renewal_code (pals : List PalRow) (stamp : SyncStamp) (grant : Grant K) (now : Int)
    (refused : (applyRenewal pals stamp grant now).2.ok ≠ true) :
    (applyRenewal pals stamp grant now).2.responseCode = invalidParam := by
  rcases compute_renewal_cases pals grant now with ⟨expire, computed⟩ | ⟨detail, computed⟩
  · rw [applyRenewal, computed] at refused
    dsimp only at refused
    split at refused <;> exact absurd rfl refused
  · rw [applyRenewal, computed]
    rfl

theorem compute_renewal_dead (pals : List PalRow) (grant : Grant K) (now : Int) (dead : grant.terminalColumn = true) :
    computeRenewal pals grant now = renewalRefused "terminal_or_expired" := by
  have terminal := (terminal_column_resolved grant (wholeSecond now) dead).1
  simp [computeRenewal, terminal]

theorem apply_renewal_dead (pals : List PalRow) (stamp : SyncStamp) (grant : Grant K) (now : Int)
    (dead : grant.terminalColumn = true) :
    applyRenewal pals stamp grant now = (grant, renewalRefused "terminal_or_expired") := by
  rw [applyRenewal, compute_renewal_dead pals grant now dead]
  rfl

theorem apply_renewal_keeps (grant : Grant K) (reading now finish : Int) :
    KeepsRow now finish grant (applyRenewal checks.pals checks.stamp grant reading).1 := by
  have frame := apply_renewal_frame checks.pals checks.stamp grant reading
  refine ⟨?_, ?_, ?_⟩
  · rw [frame]
    exact ⟨rfl, rfl, rfl, rfl, rfl, id⟩
  · rw [frame]
    exact id
  · intro le past expired
    have column : grant.lifecycleState = some .expired := by
      rw [frame] at expired
      exact expired
    have dead : grant.terminalColumn = true := by simp [Grant.terminalColumn, column, GrantState.terminal]
    rw [apply_renewal_dead checks.pals checks.stamp grant reading dead]
    exact expired_past_later grant now finish le past column

theorem keeps_row_same_time (now finish : Int) (first second third : Grant K) (one : KeepsRow now finish first second)
    (two : KeepsRow finish finish second third) : KeepsRow now finish first third :=
  ⟨advances_trans first second third one.advances two.advances, fun sync => two.sync (one.sync sync),
    fun le past => two.expiry (le_refl finish) (one.expiry le past)⟩

theorem heartbeat_renew_keeps (grant : Grant K) (now finish : Int) :
    KeepsRow now finish grant (heartbeatRenew checks clock req cbsd grant).1 := by
  have renewed := apply_renewal_keeps checks grant (clock 5) now finish
  unfold heartbeatRenew
  split
  · dsimp only
    split
    · exact keeps_row_same_time now finish grant _ _ renewed
        (heartbeat_authorize_keeps checks clock req cbsd _ finish finish)
    · exact renewed
  · exact heartbeat_authorize_keeps checks clock req cbsd grant now finish

theorem heartbeat_measured_keeps (grant : Grant K) (now finish : Int) :
    KeepsRow now finish grant (heartbeatMeasured checks clock req cbsd grant).1 := by
  unfold heartbeatMeasured
  dsimp only
  split
  · exact keeps_row_refl now finish grant
  · exact heartbeat_renew_keeps checks clock req cbsd grant now finish

theorem heartbeat_protected_keeps (grant : Grant K) (now finish : Int) (ends : clock 3 ≤ finish) :
    KeepsRow now finish grant (heartbeatProtected checks clock req cbsd grant).1 := by
  have same := keeps_row_refl now finish grant
  unfold heartbeatProtected
  dsimp only
  split
  · exact same
  · split
    · exact federal_termination_keeps req grant (clock 2) now finish
    · split
      · rename_i timeOver
        exact keeps_event grant .expire req.payload (clock 4) now finish
          (fun _ => timeOver.trans (whole_second_le _ _ ends))
      · split
        · exact keeps_event grant .terminate req.payload (clock 4) now finish (fun kind => by cases kind)
        · split
          · exact same
          · exact heartbeat_measured_keeps checks clock req cbsd grant now finish

theorem heartbeat_grant_keeps (grant : Grant K) (now finish : Int) (ends : clock 3 ≤ finish) :
    KeepsRow now finish grant (heartbeatGrant checks clock req cbsd grant).1 := by
  have same := keeps_row_refl now finish grant
  unfold heartbeatGrant
  split
  · exact same
  · split
    · exact keeps_event grant .terminate req.payload (clock 0) now finish (fun kind => by cases kind)
    · dsimp only
      split
      · exact heartbeat_protected_keeps checks clock req cbsd grant now finish ends
      · exact same

theorem operation_allowed_reach (grant : Grant K) (operationState : String) (now : Int)
    (allowed : (heartbeatOperationAllowed grant operationState now).ok = true) (dead : grant.terminalColumn = true) :
    grant.lifecycleState = some .expired := by
  obtain ⟨terminal, column⟩ := terminal_column_resolved grant now dead
  unfold heartbeatOperationAllowed at allowed
  dsimp only at allowed
  split at allowed
  · cases allowed
  · split at allowed
    · cases allowed
    · rename_i notTerminated notRelinquished
      rw [column]
      cases state : resolveGrantState grant now <;> simp_all [GrantState.terminal]

theorem operation_refused_code (grant : Grant K) (operationState : String) (now : Int)
    (refused : (heartbeatOperationAllowed grant operationState now).ok = false) :
    (heartbeatOperationAllowed grant operationState now).responseCode ≠ success := by
  unfold heartbeatOperationAllowed at refused ⊢
  dsimp only at refused ⊢
  split
  · simp [terminatedGrant, success]
  · split
    · simp [invalidParam, success]
    · split
      · simp [unsyncOpParam, success]
      · split
        · simp [suspendedGrant, success]
        · simp_all

theorem lifecycle_refusal_code (grant : Grant K) (code : Nat) (nonzero : code ≠ success) :
    (lifecycleRefusal clock req grant code).responseCode ≠ success := by
  unfold lifecycleRefusal
  split
  · simp [base, invalidParam, success]
  · split
    · simp [suspendedResponse, base, suspendedGrant, success]
    · exact nonzero

-- Refused, and not renewed.
def TurnedDown (grant : Grant K) (handled : Grant K × HeartbeatResponse) : Prop :=
  handled.2.responseCode ≠ success ∧ handled.1.grantExpireTime = grant.grantExpireTime

-- A stored expiry lies in the past, so the comparison with the clock stops the heartbeat at the latest.
theorem heartbeat_protected_expired (grant : Grant K)
    (timeOver : wholeSecond grant.grantExpireTime ≤ wholeSecond (clock 3)) :
    TurnedDown grant (heartbeatProtected checks clock req cbsd grant) := by
  unfold heartbeatProtected
  dsimp only
  split
  · exact ⟨by simp [suspendedResponse, base, suspendedGrant, success], rfl⟩
  · split
    · exact ⟨by simp [answer, base, terminatedGrant, success], federal_termination_expiry req grant (clock 2)⟩
    · exact ⟨by simp [answer, base, invalidParam, success], apply_grant_event_expiry grant .expire req.payload (clock 4)⟩

theorem heartbeat_grant_dead (grant : Grant K) (now : Int) (past : grant.ExpiredPast now) (begins : now ≤ clock 0)
    (ordered : ∀ first later, first ≤ later → clock first ≤ clock later) (dead : grant.terminalColumn = true) :
    TurnedDown grant (heartbeatGrant checks clock req cbsd grant) := by
  unfold heartbeatGrant
  split
  · exact ⟨by simp [answer, base, blacklistedCode, success], rfl⟩
  · split
    · exact ⟨by simp [answer, base, terminatedGrant, success],
        apply_grant_event_expiry grant .terminate req.payload (clock 0)⟩
    · dsimp only
      split
      · rename_i allowed
        have column := operation_allowed_reach grant req.operationState (clock 1) allowed dead
        have before := begins.trans (ordered 0 3 (Nat.zero_le 3))
        exact heartbeat_protected_expired checks clock req cbsd grant
          ((past column).trans (whole_second_le now (clock 3) before))
      · rename_i refused
        have nonzero := operation_refused_code grant req.operationState (clock 1) (by simpa using refused)
        exact ⟨lifecycle_refusal_code clock req grant _ nonzero, rfl⟩

end Heartbeat

theorem decide_grant_keeps (decision : CpasDecision K) (reading now finish : Int) (grant : Grant K) :
    KeepsRow now finish grant (decideGrant decision reading grant).1 := by
  have same := keeps_row_refl now finish grant
  unfold decideGrant
  cases decision.action with
  | reducePower =>
      dsimp only
      split
      · exact same
      · split
        · exact same
        · exact ⟨⟨rfl, rfl, rfl, rfl, rfl, id⟩, id, same.expiry⟩
  | suspend => exact keeps_event grant .suspend _ reading now finish (fun kind => by cases kind)
  | terminate => exact keeps_event grant .terminate _ reading now finish (fun kind => by cases kind)
  | unknown => exact same

end SasCore.Registry
