import SasCore.Lib.Gather
import SasCore.Registry.Operations
import SasCore.Registry.RegistrationChecks
import SasCore.Spectrum.Channels

set_option autoImplicit false
set_option linter.unusedSectionVars false

-- The loops of the six process functions, round by round.
namespace SasCore.Routes

open Gather Registry Spectrum

variable {K : Type} [Field K] [LinearOrder K]

section Heartbeat

variable (checks : HeartbeatChecks K) (clock : Clock) (req : HeartbeatRequest) (store : Store K) (cbsd : Cbsd K) (grant : Grant K)

-- The rest of the round behind a lookup, with the row that its commit writes.
def heartbeatAuthorizeBody : Round (Store K) HeartbeatResponse :=
  let authorized := heartbeatAuthorize checks clock req cbsd grant
  respond (store.putGrant authorized.1) authorized.2

def heartbeatRenewBody : Round (Store K) HeartbeatResponse :=
  if req.grantRenew then
    let renewed := applyRenewal checks.pals checks.stamp grant (clock 5)
    if !renewed.2.ok then respond (store.putGrant renewed.1) (answer clock req renewed.2.responseCode)
    else heartbeatAuthorizeBody checks clock req store cbsd renewed.1
  else heartbeatAuthorizeBody checks clock req store cbsd grant

def heartbeatMeasuredBody : Round (Store K) HeartbeatResponse :=
  if grant.measReportRequested && cbsd.registration.measCapability.contains measWithGrant then
    match checks.measError req with
    | some code => respond (store.putGrant grant) (answer clock req code)
    | none => heartbeatRenewBody checks clock req store cbsd grant
  else heartbeatRenewBody checks clock req store cbsd grant

def heartbeatProtectedBody : Round (Store K) HeartbeatResponse :=
  if checks.overlapsActiveDpa grant then respond (store.putGrant grant) (suspendedResponse grant req clock)
  else if checks.federalCode cbsd grant = some terminatedGrant then
    respond (store.putGrant (persistFederalTermination grant req (clock 2))) (answer clock req terminatedGrant)
  else if wholeSecond grant.grantExpireTime ≤ wholeSecond (clock 3) then
    respond (store.putGrant (applyGrantEvent grant .expire req.payload (clock 4)).1) (answer clock req invalidParam)
  else if checks.overlapsWisp grant then
    respond (store.putGrant (applyGrantEvent grant .terminate req.payload (clock 4)).1) (answer clock req terminatedGrant)
  else if checks.federalCode cbsd grant = some suspendedGrant then
    respond (store.putGrant grant) (suspendedResponse grant req clock)
  else heartbeatMeasuredBody checks clock req store cbsd grant

def heartbeatRefusedBody (code : Nat) : Round (Store K) HeartbeatResponse :=
  if code = invalidParam then respond (store.putGrant grant) (base invalidParam (some req.cbsdId) none clock)
  else if code = terminatedGrant then respond (store.putGrant grant) (answer clock req terminatedGrant)
  else if code = suspendedGrant then respond (store.putGrant grant) (suspendedResponse grant req clock)
  else respond (store.putGrant grant) (answer clock req code)

def heartbeatGrantBody : Round (Store K) HeartbeatResponse :=
  if checks.blacklisted cbsd then respond (store.putGrant grant) (answer clock req blacklistedCode)
  else if checks.peerHasGrant cbsd then
    respond (store.putGrant (applyGrantEvent grant .terminate req.payload (clock 0)).1) (answer clock req terminatedGrant)
  else
    let life := heartbeatOperationAllowed grant req.operationState (clock 1)
    if !life.ok then heartbeatRefusedBody clock req store grant life.responseCode
    else heartbeatProtectedBody checks clock req store cbsd grant

def heartbeatBody (certificateHash : Option String) : Round (Store K) HeartbeatResponse :=
  if req.cbsdId = "" ∨ req.grantId = "" ∨ req.operationState = "" then
    let echo := req.grantId ≠ "" ∧ req.cbsdId ≠ "" ∧ (store.findGrant req.grantId req.cbsdId).isSome
    respond store (base missingParam (if req.cbsdId = "" then none else some req.cbsdId)
      (if echo then some req.grantId else none) clock)
  else if (store.findCbsd req.cbsdId).any fun cbsd => cbsdCertificateMismatch cbsd certificateHash then
    respond store (base invalidParam none none clock)
  else
    match store.findGrant req.grantId req.cbsdId with
    | none => respond store (base invalidParam (some req.cbsdId) none clock)
    | some grant =>
        match store.findCbsd req.cbsdId with
        | none => respond store (base invalidParam (some req.cbsdId) none clock)
        | some cbsd => heartbeatGrantBody checks clock req store cbsd grant

theorem renew_body :
    heartbeatRenewBody checks clock req store cbsd grant =
      respond (store.putGrant (heartbeatRenew checks clock req cbsd grant).1) (heartbeatRenew checks clock req cbsd grant).2 := by
  rw [heartbeatRenewBody, heartbeatRenew]
  split
  · cases passed : (applyRenewal checks.pals checks.stamp grant (clock 5)).2.ok with
    | true => simp only [passed, Bool.not_true, Bool.false_eq_true, if_false, if_true, heartbeatAuthorizeBody]
    | false => simp only [passed, Bool.not_false, Bool.false_eq_true, if_false, if_true]
  · rfl

theorem measured_body :
    heartbeatMeasuredBody checks clock req store cbsd grant =
      respond (store.putGrant (heartbeatMeasured checks clock req cbsd grant).1) (heartbeatMeasured checks clock req cbsd grant).2 := by
  rw [heartbeatMeasuredBody, heartbeatMeasured]
  cases measured : grant.measReportRequested && cbsd.registration.measCapability.contains measWithGrant with
  | false => exact renew_body checks clock req store cbsd grant
  | true =>
      simp only [if_true]
      cases checks.measError req with
      | some code => rfl
      | none => exact renew_body checks clock req store cbsd grant

theorem protected_body :
    heartbeatProtectedBody checks clock req store cbsd grant =
      respond (store.putGrant (heartbeatProtected checks clock req cbsd grant).1) (heartbeatProtected checks clock req cbsd grant).2 := by
  unfold heartbeatProtectedBody heartbeatProtected
  dsimp only
  split
  · rfl
  · split
    · rfl
    · split
      · rfl
      · split
        · rfl
        · split
          · rfl
          · exact measured_body checks clock req store cbsd grant

theorem refused_body (code : Nat) :
    heartbeatRefusedBody clock req store grant code = respond (store.putGrant grant) (lifecycleRefusal clock req grant code) := by
  rw [heartbeatRefusedBody, lifecycleRefusal]
  by_cases invalid : code = invalidParam
  · rw [if_pos invalid, if_pos invalid]
  · rw [if_neg invalid, if_neg invalid]
    by_cases suspended : code = suspendedGrant
    · rw [suspended, if_neg (by decide), if_pos rfl, if_pos rfl]
    · rw [if_neg suspended, if_neg suspended]
      split
      · rename_i terminated
        rw [terminated]
      · rfl

theorem grant_row_body :
    heartbeatGrantBody checks clock req store cbsd grant =
      respond (store.putGrant (heartbeatGrant checks clock req cbsd grant).1) (heartbeatGrant checks clock req cbsd grant).2 := by
  unfold heartbeatGrantBody heartbeatGrant
  dsimp only
  split
  · rfl
  · split
    · rfl
    · by_cases allowed : (heartbeatOperationAllowed grant req.operationState (clock 1)).ok = true
      · rw [if_neg (by simp [allowed]), if_pos allowed]
        exact protected_body checks clock req store cbsd grant
      · rw [if_pos (by simp [allowed]), if_neg allowed]
        exact refused_body clock req store grant _

-- A round of the loop appends the answer of the item.
theorem heartbeat_body (certificateHash : Option String) :
    heartbeatBody checks clock req store certificateHash =
      respond (heartbeatItem checks certificateHash clock req store).1 (heartbeatItem checks certificateHash clock req store).2 := by
  rw [heartbeatBody, heartbeatItem]
  split
  · rfl
  · cases found : store.findCbsd req.cbsdId with
    | none =>
        simp only [Option.any_none, Bool.false_eq_true, if_false]
        split
        · rfl
        · rfl
    | some cbsd =>
        simp only [Option.any_some]
        split
        · rfl
        · cases store.findGrant req.grantId req.cbsdId with
          | none => rfl
          | some grant => exact grant_row_body checks clock req store cbsd grant

end Heartbeat

section Release

variable (certificateHash : Option String) (clock : Clock) (cbsdId grantId : String) (store : Store K)

def relinquishmentBody : Round (Store K) ServiceResponse :=
  if cbsdId = "" ∨ grantId = "" then respond store ⟨missingParam, if cbsdId = "" then none else some cbsdId, none⟩
  else
    match store.findCbsd cbsdId with
    | none => respond store ⟨invalidParam, none, none⟩
    | some cbsd =>
        if cbsdCertificateMismatch cbsd certificateHash then respond store ⟨invalidParam, none, none⟩
        else
          match store.findGrant grantId cbsdId with
          | none => respond store ⟨invalidParam, some cbsdId, none⟩
          | some grant =>
              if grant.terminated then respond store ⟨invalidParam, some cbsdId, none⟩
              else
                let applied := applyGrantEvent grant .relinquish (idPayload cbsdId grantId) (clock 0)
                if !applied.2.ok then respond store ⟨applied.2.responseCode, some cbsdId, none⟩
                else respond (store.putGrant applied.1) ⟨success, some cbsdId, some grantId⟩

def deregistrationBody : Round (Store K) ServiceResponse :=
  if cbsdId = "" then respond store ⟨missingParam, none, none⟩
  else
    match store.findCbsd cbsdId with
    | none => respond store ⟨invalidParam, none, none⟩
    | some cbsd =>
        if cbsdCertificateMismatch cbsd certificateHash then respond store ⟨invalidParam, none, none⟩
        else
          let outcome := evaluateCbsdTransition .deregister (resolveCbsdState (some cbsd)) [("cbsdId", cbsdId)]
          if !outcome.ok then respond store ⟨outcome.responseCode, none, none⟩
          else respond ((store.mapGrantsOf cbsdId (terminateRow clock cbsdId)).deleteCbsd cbsd.id) ⟨success, some cbsdId, none⟩

theorem relinquishment_body :
    relinquishmentBody certificateHash clock cbsdId grantId store =
      respond (relinquishmentItem certificateHash clock cbsdId grantId store).1
        (relinquishmentItem certificateHash clock cbsdId grantId store).2 := by
  rw [relinquishmentBody, relinquishmentItem]
  split
  · rfl
  · cases store.findCbsd cbsdId with
    | none => rfl
    | some cbsd =>
        dsimp only
        split
        · rfl
        · cases store.findGrant grantId cbsdId with
          | none => rfl
          | some grant =>
              dsimp only
              split
              · rfl
              · by_cases applied : (applyGrantEvent grant .relinquish (idPayload cbsdId grantId) (clock 0)).2.ok = true
                · rw [if_neg (by simp [applied]), if_pos applied]
                · rw [if_pos (by simp [applied]), if_neg applied]

theorem deregistration_body :
    deregistrationBody certificateHash clock cbsdId store =
      respond (deregistrationItem certificateHash clock cbsdId store).1 (deregistrationItem certificateHash clock cbsdId store).2 := by
  rw [deregistrationBody, deregistrationItem]
  split
  · rfl
  · cases store.findCbsd cbsdId with
    | none => rfl
    | some cbsd =>
        dsimp only
        split
        · rfl
        · by_cases passed : (evaluateCbsdTransition .deregister (resolveCbsdState (some cbsd)) [("cbsdId", cbsdId)]).ok = true
          · rw [if_neg (by simp [passed]), if_pos passed]
          · rw [if_pos (by simp [passed]), if_neg passed]

end Release

section Grant

variable (checks : GrantChecks K) (certificateHash : Option String) (req : GrantRequest K) (grantId : String) (clock : Clock)
  (store : Store K) (pending : Pending) (cbsd : Cbsd K)

-- continue behind a refusal: nothing but the response changes.
def grantRefusal (code : Nat) (cbsdId : Option String) : Round (Store K × Pending) GrantResponse :=
  respond (store, pending) (grantRefused code cbsdId)

def grantLockedBody (proposal : Proposal K) : Round (Store K × Pending) GrantResponse :=
  match store.findCbsd req.cbsdId with
  | none => grantRefusal store pending invalidParam none
  | some cbsd =>
      if cbsdCertificateMismatch cbsd certificateHash then grantRefusal store pending invalidParam none
      else if hasFreqConflict (store.activeGrants req.cbsdId) proposal.range.low proposal.range.high (pending req.cbsdId) then
        grantRefusal store pending grantConflict (some req.cbsdId)
      else if checks.peerHasGrant cbsd then grantRefusal store pending grantConflict (some req.cbsdId)
      else if checks.iap store cbsd proposal.range.low proposal.range.high proposal.maxEirp then
        grantRefusal store pending interference (some req.cbsdId)
      else
        let grant := newGrant checks req cbsd proposal grantId clock
        respond (store.addGrant grant, Function.update pending req.cbsdId (pending req.cbsdId ++ [proposal.range]))
          (grantedResponse grant)

-- The location checks in turn, then the section under the locks.
def grantPlacedBody (proposal : Proposal K) : Round (Store K × Pending) GrantResponse :=
  if locationBlocks checks store cbsd proposal .exclusionZone then grantRefusal store pending interference (some req.cbsdId)
  else if locationBlocks checks store cbsd proposal .gwpz then grantRefusal store pending interference (some req.cbsdId)
  else if locationBlocks checks store cbsd proposal .quietZone then grantRefusal store pending interference (some req.cbsdId)
  else if locationBlocks checks store cbsd proposal .fssGwbl then grantRefusal store pending interference (some req.cbsdId)
  else if locationBlocks checks store cbsd proposal .dpa then grantRefusal store pending interference (some req.cbsdId)
  else if locationBlocks checks store cbsd proposal .canadianBorder then grantRefusal store pending interference (some req.cbsdId)
  else grantLockedBody checks certificateHash req grantId clock store pending proposal

def grantParamBody (op : OperationParam K) : Round (Store K × Pending) GrantResponse :=
  if op.maxEirp matches .absent then grantRefusal store pending missingParam (some req.cbsdId)
  else
    match parseFreq op with
    | .error code => grantRefusal store pending code (some req.cbsdId)
    | .ok range =>
        match op.maxEirp with
        | .given maxEirp =>
            if maxAllowedEirpMhz cbsd ((checks.fccMaxEirp cbsd.fccId).getD catBMaxEirp10mhz) < maxEirp then
              grantRefusal store pending invalidParam (some req.cbsdId)
            else
              match checks.resolveChannel cbsd range.low range.high with
              | .error code => grantRefusal store pending code (some req.cbsdId)
              | .ok channel => grantPlacedBody checks certificateHash req grantId clock store pending cbsd ⟨range, maxEirp, channel⟩
        | _ => grantRefusal store pending invalidParam (some req.cbsdId)

def grantMeasuredBody : Round (Store K × Pending) GrantResponse :=
  match req.operationParam with
  | none => grantRefusal store pending missingParam (some req.cbsdId)
  | some op => grantParamBody checks certificateHash req grantId clock store pending cbsd op

def grantBody : Round (Store K × Pending) GrantResponse :=
  if req.cbsdId = "" then grantRefusal store pending missingParam none
  else
    match store.findCbsd req.cbsdId with
    | none => grantRefusal store pending invalidParam none
    | some cbsd =>
        if cbsdCertificateMismatch cbsd certificateHash then grantRefusal store pending invalidParam none
        else if checks.blacklisted cbsd then grantRefusal store pending blacklistedCode (some req.cbsdId)
        else if checks.askMeas && cbsd.registration.measCapability.contains measWithoutGrant then
          match checks.measError req with
          | some code => grantRefusal store pending code (some req.cbsdId)
          | none => grantMeasuredBody checks certificateHash req grantId clock store pending cbsd
        else grantMeasuredBody checks certificateHash req grantId clock store pending cbsd

-- The round appends this answer, whatever it leaves of the ranges of the batch.
def AnswersGrant (round : Round (Store K × Pending) GrantResponse) (result : Store K × GrantResponse) : Prop :=
  ∃ ranges, round = respond (result.1, ranges) result.2

theorem refusal_answers (code : Nat) (cbsdId : Option String) :
    AnswersGrant (grantRefusal store pending code cbsdId) (store, grantRefused code cbsdId) := ⟨pending, rfl⟩

theorem grant_locked_body (proposal : Proposal K) :
    AnswersGrant (grantLockedBody checks certificateHash req grantId clock store pending proposal)
      (lockedCreate checks certificateHash req (store.findCbsd req.cbsdId) (pending req.cbsdId) proposal grantId clock store) := by
  unfold grantLockedBody lockedCreate
  cases store.findCbsd req.cbsdId with
  | none => exact refusal_answers store pending _ _
  | some cbsd =>
      dsimp only
      split
      · exact refusal_answers store pending _ _
      · split
        · exact refusal_answers store pending _ _
        · split
          · exact refusal_answers store pending _ _
          · split
            · exact refusal_answers store pending _ _
            · exact ⟨_, rfl⟩

-- What follows the screening of a request.
def screened (screen : Except GrantResponse (Proposal K)) : Store K × GrantResponse :=
  match screen with
  | .error response => (store, response)
  | .ok proposal =>
      if locationAllows checks store cbsd proposal then
        lockedCreate checks certificateHash req (store.findCbsd req.cbsdId) (pending req.cbsdId) proposal grantId clock store
      else (store, grantRefused interference (some req.cbsdId))

-- screenRequest, with the round's order of its steps.
def screenParam (op : OperationParam K) : Except GrantResponse (Proposal K) :=
  if op.maxEirp matches .absent then .error (grantRefused missingParam (some req.cbsdId))
  else
    match parseFreq op with
    | .error code => .error (grantRefused code (some req.cbsdId))
    | .ok range =>
        match op.maxEirp with
        | .given maxEirp =>
            if maxAllowedEirpMhz cbsd ((checks.fccMaxEirp cbsd.fccId).getD catBMaxEirp10mhz) < maxEirp then
              .error (grantRefused invalidParam (some req.cbsdId))
            else
              match checks.resolveChannel cbsd range.low range.high with
              | .error code => .error (grantRefused code (some req.cbsdId))
              | .ok channel => .ok ⟨range, maxEirp, channel⟩
        | _ => .error (grantRefused invalidParam (some req.cbsdId))

def screenOperation : Except GrantResponse (Proposal K) :=
  match req.operationParam with
  | none => .error (grantRefused missingParam (some req.cbsdId))
  | some op => screenParam checks req cbsd op

theorem screen_steps :
    screenRequest checks certificateHash req cbsd =
      if cbsdCertificateMismatch cbsd certificateHash then .error (grantRefused invalidParam none)
      else if checks.blacklisted cbsd then .error (grantRefused blacklistedCode (some req.cbsdId))
      else if checks.askMeas && cbsd.registration.measCapability.contains measWithoutGrant then
        match checks.measError req with
        | some code => .error (grantRefused code (some req.cbsdId))
        | none => screenOperation checks req cbsd
      else screenOperation checks req cbsd := by
  unfold screenRequest screenOperation screenParam
  dsimp only
  split
  · rfl
  · split
    · rfl
    · cases measured : checks.askMeas && cbsd.registration.measCapability.contains measWithoutGrant with
      | false => rfl
      | true => cases checks.measError req <;> rfl

theorem grant_placed_body (proposal : Proposal K) :
    AnswersGrant (grantPlacedBody checks certificateHash req grantId clock store pending cbsd proposal)
      (screened checks certificateHash req grantId clock store pending cbsd (.ok proposal)) := by
  have refused := refusal_answers store pending interference (some req.cbsdId)
  have locked := grant_locked_body checks certificateHash req grantId clock store pending proposal
  rw [grantPlacedBody, screened]
  simp only [locationAllows, locationChecks, List.all_cons, List.all_nil, Bool.and_true]
  cases locationBlocks checks store cbsd proposal .exclusionZone with
  | true => exact refused
  | false =>
      cases locationBlocks checks store cbsd proposal .gwpz with
      | true => exact refused
      | false =>
          cases locationBlocks checks store cbsd proposal .quietZone with
          | true => exact refused
          | false =>
              cases locationBlocks checks store cbsd proposal .fssGwbl with
              | true => exact refused
              | false =>
                  cases locationBlocks checks store cbsd proposal .dpa with
                  | true => exact refused
                  | false =>
                      cases locationBlocks checks store cbsd proposal .canadianBorder with
                      | true => exact refused
                      | false => exact locked

theorem grant_param_body (op : OperationParam K) :
    AnswersGrant (grantParamBody checks certificateHash req grantId clock store pending cbsd op)
      (screened checks certificateHash req grantId clock store pending cbsd (screenParam checks req cbsd op)) := by
  have refused := refusal_answers store pending
  unfold grantParamBody screenParam
  split
  · exact refused _ _
  · cases parseFreq op with
    | error code => exact refused _ _
    | ok range =>
        dsimp only
        cases op.maxEirp with
        | absent => exact refused _ _
        | malformed => exact refused _ _
        | given maxEirp =>
            dsimp only
            by_cases exceeds : maxAllowedEirpMhz cbsd ((checks.fccMaxEirp cbsd.fccId).getD catBMaxEirp10mhz) < maxEirp
            · rw [if_pos exceeds, if_pos exceeds]
              exact refused _ _
            · rw [if_neg exceeds, if_neg exceeds]
              cases checks.resolveChannel cbsd range.low range.high with
              | error code => exact refused _ _
              | ok channel => exact grant_placed_body checks certificateHash req grantId clock store pending cbsd _

theorem grant_item_screened (asked : req.cbsdId ≠ "") (found : store.findCbsd req.cbsdId = some cbsd) :
    grantItem checks certificateHash req (pending req.cbsdId) grantId clock store =
      screened checks certificateHash req grantId clock store pending cbsd (screenRequest checks certificateHash req cbsd) := by
  cases screen : screenRequest checks certificateHash req cbsd with
  | error response => simp only [grantItem, if_neg asked, found, screen, screened]
  | ok proposal => simp only [grantItem, if_neg asked, found, screen, screened]

-- A round of the loop appends the answer of the item.
theorem grant_body :
    AnswersGrant (grantBody checks certificateHash req grantId clock store pending)
      (grantItem checks certificateHash req (pending req.cbsdId) grantId clock store) := by
  have refused := refusal_answers store pending
  unfold grantBody grantItem
  split
  · exact refused _ _
  · rename_i asked
    cases found : store.findCbsd req.cbsdId with
    | none => exact refused _ _
    | some cbsd =>
        have item := grant_item_screened checks certificateHash req grantId clock store pending cbsd asked found
        rw [grantItem, if_neg asked] at item
        simp only [found] at item ⊢
        rw [item]
        have param : AnswersGrant (grantMeasuredBody checks certificateHash req grantId clock store pending cbsd)
            (screened checks certificateHash req grantId clock store pending cbsd (screenOperation checks req cbsd)) := by
          unfold grantMeasuredBody screenOperation
          cases req.operationParam with
          | none => exact refused _ _
          | some op => exact grant_param_body checks certificateHash req grantId clock store pending cbsd op
        rw [screen_steps]
        split
        · exact refused _ _
        · split
          · exact refused _ _
          · split
            · cases checks.measError req with
              | some code => exact refused _ _
              | none => exact param
            · exact param

end Grant

section Registration

variable (env : RegistrationEnv K) (certificateHash : Option String) (clock : Clock) (request : Json K) (store : Store K)

structure RegistrationResponse extends ServiceResponse where
  measReportConfig : Option (List String)
deriving DecidableEq, Repr

def registrationAnswer (response : ServiceResponse) : RegistrationResponse := ⟨response, none⟩

-- continue behind a refusal, but the code of an exception ends the request.
def registrationRefusal (code : Nat) : Round (Store K) RegistrationResponse :=
  if code = raisedCode then raised "process_registration"
  else respond store (registrationAnswer (registrationRefused code))

-- The section under the CBSD lock. A row of the same device under another id fails at the flush.
def registrationLockedBody (merged : Json K) : Round (Store K) RegistrationResponse :=
  let req := requestOf request
  let cbsdId := makeCbsdId req.fccId req.cbsdSerialNumber
  match store.findCbsd cbsdId with
  | some existing =>
      if cbsdCertificateMismatch existing certificateHash then registrationRefusal store invalidParam
      else
        let outcome := evaluateCbsdTransition .reregister (resolveCbsdState (some existing)) req.payload
        if !outcome.ok then respond store (registrationAnswer (registrationRefused outcome.responseCode))
        else
          respond (terminateGrants clock cbsdId (store.putCbsd (reregisteredRow existing req (env.registrationOf merged) certificateHash)))
            (registrationAnswer ⟨success, some cbsdId, none⟩)
  | none =>
      let outcome := evaluateCbsdTransition .register .unregistered req.payload
      if !outcome.ok then respond store (registrationAnswer (registrationRefused outcome.responseCode))
      else if store.cbsds.any fun cbsd => cbsd.fccId = req.fccId && cbsd.cbsdSerialNumber = req.cbsdSerialNumber then
        registrationRefusal store invalidParam
      else
        respond
          (store.addCbsd
            { id := store.nextCbsdPk
              cbsdId := cbsdId
              fccId := req.fccId
              userId := req.userId
              cbsdSerialNumber := req.cbsdSerialNumber
              cbsdCategory := (env.registrationOf merged).cbsdCategory
              certificateHash := certificateHash
              lifecycleState := some .registered
              registration := env.registrationOf merged })
          (registrationAnswer ⟨success, some cbsdId, none⟩)

def registrationMergedBody (merged installation : Json K) : Round (Store K) RegistrationResponse :=
  match validateParams env request merged installation with
  | .error code => registrationRefusal store code
  | .ok (some code) => registrationRefusal store code
  | .ok none =>
      if hasPendingParams merged installation then registrationRefusal store pendingCode
      else if env.quietZoneBlocks installation (merged.field "cbsdCategory") then registrationRefusal store invalidParam
      else registrationLockedBody env certificateHash clock request store merged

def registrationBody : Round (Store K) RegistrationResponse :=
  let req := requestOf request
  if missingRegistrationFields req then registrationRefusal store missingParam
  else if env.blacklisted req.fccId req.cbsdSerialNumber then registrationRefusal store blacklistedRegistration
  else
    match env.verifyRequestCpi request with
    | .error code => registrationRefusal store code
    | .ok signed =>
        match mergeRegistration request (env.conditionals req.fccId req.cbsdSerialNumber) signed with
        | .error code => registrationRefusal store code
        | .ok merged =>
            match installationOf merged with
            | .error code => registrationRefusal store code
            | .ok installation => registrationMergedBody env certificateHash clock request store merged installation

-- What a round does behind the checks of a request.
def registered (checked : Except Nat (Json K)) : Round (Store K) RegistrationResponse :=
  match checked with
  | .error code => registrationRefusal store code
  | .ok merged =>
      let handled := registrationItem (.ok (env.registrationOf merged)) certificateHash clock (requestOf request) store
      respond handled.1 (registrationAnswer handled.2)

theorem registration_locked_body (merged : Json K) :
    registrationLockedBody env certificateHash clock request store merged =
      registered env certificateHash clock request store (.ok merged) := by
  unfold registrationLockedBody registered registrationItem
  dsimp only
  cases store.findCbsd (makeCbsdId (requestOf request).fccId (requestOf request).cbsdSerialNumber) with
  | some existing =>
      dsimp only
      split
      · rfl
      · cases passed : (evaluateCbsdTransition .reregister (resolveCbsdState (some existing)) (requestOf request).payload).ok with
        | true => rfl
        | false => rfl
  | none =>
      dsimp only
      split
      · rfl
      · split
        · rfl
        · rfl

-- A round of the loop raises, or appends the answer of the item.
theorem registration_body :
    registrationBody env certificateHash clock request store =
      registered env certificateHash clock request store (checkRegistration env request) := by
  unfold registrationBody checkRegistration
  dsimp only
  split
  · rfl
  · split
    · rfl
    · cases env.verifyRequestCpi request with
      | error code => rfl
      | ok signed =>
          simp only [bind, Except.bind]
          cases mergeRegistration request (env.conditionals (requestOf request).fccId (requestOf request).cbsdSerialNumber) signed with
          | error code => rfl
          | ok merged =>
              dsimp only
              cases installationOf merged with
              | error code => rfl
              | ok installation =>
                  simp only [registrationMergedBody]
                  cases validateParams env request merged installation with
                  | error code => rfl
                  | ok invalid =>
                      cases invalid with
                      | some code => rfl
                      | none =>
                          dsimp only
                          split
                          · rfl
                          · split
                            · rfl
                            · exact registration_locked_body env certificateHash clock request store merged

theorem refused_registration_appends (code : Nat) : Appends (registrationRefusal store code : Round (Store K) RegistrationResponse) := by
  rw [registrationRefusal]
  split
  · exact raised_appends _
  · exact respond_appends _ _

theorem registration_appends : Appends (registrationBody env certificateHash clock request store) := by
  rw [registration_body]
  cases checkRegistration env request with
  | error code => exact refused_registration_appends store code
  | ok merged => exact respond_appends _ _

end Registration

section Inquiry

-- What an inquiry takes from outside of its request; validate_meas_report gets the report or null.
structure InquiryChecks (K : Type) where
  env : SpectrumEnv K
  tables : SpectrumTables K
  askMeas : Bool
  blacklisted : Cbsd K → Bool
  measError : Json K → Option Nat

structure InquiryResponse where
  responseCode : Nat
  cbsdId : Option String
  availableChannel : Option (List AvailableChannel)
deriving DecidableEq, Repr

variable (checks : InquiryChecks K) (certificateHash : Option String) (request : Json K) (store : Store K)

def inquiryRefusal (code : Nat) (cbsdId : Option String) : Round (Store K) InquiryResponse := respond store ⟨code, cbsdId, none⟩

def inquiredRange (readers : PyReaders K) (range : Json K) : Except Nat (Int × Int) :=
  if (range.field "lowFrequency").isNull || (range.field "highFrequency").isNull then .error missingParam
  else
    match (range.field "lowFrequency").toInt readers, (range.field "highFrequency").toInt readers with
    | some low, some high =>
        if high ≤ low then .error invalidParam
        else if low < cbrsLowHz ∨ cbrsHighHz < high then .error unsupportedSpectrum
        else .ok (low, high)
    | _, _ => .error invalidParam

def validateInquired (readers : PyReaders K) (inquired : Json K) : Except Nat (List (Int × Int)) :=
  match inquired with
  | .array [] => .error missingParam
  | .array ranges => ranges.mapM (inquiredRange readers)
  | _ => .error missingParam

def inquiryMeasuredBody (cbsdId : String) (cbsd : Cbsd K) : Round (Store K) InquiryResponse :=
  match validateInquired checks.env.feeds.readers (request.field "inquiredSpectrum") with
  | .error code => inquiryRefusal store code (some cbsdId)
  | .ok inquired =>
      match buildAvailableChannels checks.env checks.tables cbsd inquired with
      | .error error => raised error
      | .ok available => respond store ⟨success, some cbsdId, some available⟩

def inquiryBody : Round (Store K) InquiryResponse :=
  let cbsdId := textField request "cbsdId"
  if cbsdId = "" then inquiryRefusal store missingParam none
  else
    match store.findCbsd cbsdId with
    | none => inquiryRefusal store invalidParam none
    | some cbsd =>
        if cbsdCertificateMismatch cbsd certificateHash then inquiryRefusal store invalidParam none
        else if checks.blacklisted cbsd then inquiryRefusal store blacklistedCode (some cbsdId)
        else if checks.askMeas && cbsd.registration.measCapability.contains measWithoutGrant then
          match checks.measError (request.field "measReport") with
          | some code => inquiryRefusal store code (some cbsdId)
          | none => inquiryMeasuredBody checks request store cbsdId cbsd
        else inquiryMeasuredBody checks request store cbsdId cbsd

theorem inquiry_measured_appends (cbsdId : String) (cbsd : Cbsd K) : Appends (inquiryMeasuredBody checks request store cbsdId cbsd) := by
  unfold inquiryMeasuredBody
  split
  · exact respond_appends _ _
  · split
    · exact raised_appends _
    · exact respond_appends _ _

theorem inquiry_appends : Appends (inquiryBody checks certificateHash request store) := by
  unfold inquiryBody
  dsimp only
  split
  · exact respond_appends _ _
  · split
    · exact respond_appends _ _
    · split
      · exact respond_appends _ _
      · split
        · exact respond_appends _ _
        · split
          · split
            · exact respond_appends _ _
            · exact inquiry_measured_appends checks request store _ _
          · exact inquiry_measured_appends checks request store _ _

end Inquiry

end SasCore.Routes
