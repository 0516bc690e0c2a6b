import SasCore.Registry.HeartbeatSuccess

set_option autoImplicit false
set_option linter.unusedSectionVars false

namespace SasCore.Registry

variable {K : Type} [Field K] [LinearOrder K]

-- Terminal by what is stored; a row without a state column goes by its flag.
def Grant.StoredTerminal (grant : Grant K) : Prop :=
  grant.terminalColumn = true ∨ (grant.lifecycleState = none ∧ grant.terminated = true)

-- A TERMINATE transition does not meet a row that is over only by its time, or was never granted.
def Grant.TakesTerminate (grant : Grant K) (now : Int) : Prop :=
  grant.StoredTerminal ∨ (grant.lifecycleState ≠ some .requested ∧ grantExpired grant now = false)

-- What is said of a heartbeat on a dead grant.
structure PrecedenceKept (req : HeartbeatRequest) (federalCode : Option Nat) (grant : Grant K) (now : Int)
    (handled : Store K × HeartbeatResponse) : Prop where
  relinquished : grant.lifecycleState = some .relinquished →
    handled.2.responseCode = invalidParam ∧ handled.2.grantId = none
  timeOver : grant.lifecycleState = some .expired ∨ grantExpired grant now = true →
    handled.2.responseCode = invalidParam ∨
      (handled.2.responseCode = terminatedGrant ∧ federalCode = some terminatedGrant)
  terminal : handled.2.responseCode = terminatedGrant →
    ∃ row, handled.1.findGrant req.grantId req.cbsdId = some row ∧ row.StoredTerminal

-- What the order of the checks gives: an earlier termination is reported again, and the other dead
-- grants are judged where neither a peer record nor a DPA answers first.
structure PrecedenceByDesign (checks : HeartbeatChecks K) (clock : Clock) (req : HeartbeatRequest) (cbsd : Cbsd K)
    (grant : Grant K) (handled : Store K × HeartbeatResponse) : Prop where
  terminated : resolveGrantState grant (clock 1) = .terminated →
    handled.2.responseCode = terminatedGrant ∧ handled.2.grantId = some req.grantId ∧
      handled.1.findGrant req.grantId req.cbsdId = some grant
  relinquished : checks.peerHasGrant cbsd = false → grant.lifecycleState = some .relinquished →
    handled.2.responseCode = invalidParam ∧ handled.2.grantId = none
  timeOver : checks.peerHasGrant cbsd = false → checks.overlapsActiveDpa grant = false → grant.ExpiredPast (clock 1) →
    resolveGrantState grant (clock 1) ≠ .terminated →
    grant.lifecycleState = some .expired ∨ grantExpired grant (clock 1) = true →
    handled.2.responseCode = invalidParam ∨
      (handled.2.responseCode = terminatedGrant ∧ checks.federalCode cbsd grant = some terminatedGrant)
  refused : grant.ExpiredPast (clock 1) →
    grant.lifecycleState = some .relinquished ∨ grant.lifecycleState = some .expired ∨
      grantExpired grant (clock 1) = true →
    handled.2.responseCode ≠ success
  terminal : (checks.peerHasGrant cbsd = true → grant.TakesTerminate (clock 0)) →
    (checks.peerHasGrant cbsd = false → checks.overlapsWisp grant = true → grant.TakesTerminate (clock 4)) →
    handled.2.responseCode = terminatedGrant →
    ∃ row, handled.1.findGrant req.grantId req.cbsdId = some row ∧ row.StoredTerminal

theorem terminated_stored (grant : Grant K) : (applyGrantState grant .terminated).StoredTerminal := Or.inl rfl

theorem terminate_leaves_terminal (grant : Grant K) (payload : Payload) (now : Int)
    (fields : missingRequiredFields payload (grantTransitions .terminate).requiredFields = [])
    (takes : grant.TakesTerminate now) : (applyGrantEvent grant .terminate payload now).1.StoredTerminal := by
  rw [event_row grant .terminate payload now (fun same => by cases same) fields]
  split
  · exact terminated_stored grant
  · rename_i foreign
    rcases takes with dead | ⟨known, inTime⟩
    · exact dead
    · unfold resolveGrantState at foreign
      rw [inTime] at foreign
      unfold Grant.StoredTerminal Grant.terminalColumn
      cases column : grant.lifecycleState with
      | none =>
          rw [column] at foreign
          cases flag : grant.terminated with
          | true => exact Or.inr ⟨rfl, rfl⟩
          | false =>
              rw [flag] at foreign
              cases authorized : grant.authorized <;> simp [authorized, grantTransitions] at foreign
      | some state =>
          rw [column] at foreign known
          cases state <;> simp_all [grantTransitions, GrantState.terminal]

theorem terminated_any_time (grant : Grant K) (now later : Int) (dead : resolveGrantState grant now = .terminated) :
    resolveGrantState grant later = .terminated ∧ grant.StoredTerminal := by
  unfold resolveGrantState at dead ⊢
  unfold Grant.StoredTerminal Grant.terminalColumn
  cases column : grant.lifecycleState with
  | none =>
      rw [column] at dead
      cases flag : grant.terminated with
      | true => exact ⟨rfl, Or.inr ⟨rfl, rfl⟩⟩
      | false =>
          rw [flag] at dead
          cases expired : grantExpired grant now <;> cases authorized : grant.authorized <;> simp [expired, authorized] at dead
  | some state =>
      rw [column] at dead
      dsimp only at dead
      split at dead
      · cases dead
      · rw [dead]
        exact ⟨rfl, Or.inl rfl⟩

theorem relinquished_any_time (grant : Grant K) (now : Int) (column : grant.lifecycleState = some .relinquished) :
    resolveGrantState grant now = .relinquished := by
  unfold resolveGrantState
  rw [column]
  rfl

theorem over_resolved (grant : Grant K) (now : Int)
    (late : grant.lifecycleState = some .expired ∨ grantExpired grant now = true) :
    resolveGrantState grant now = .terminated ∨ resolveGrantState grant now = .relinquished ∨
      resolveGrantState grant now = .expired ∨ resolveGrantState grant now = .requested := by
  unfold resolveGrantState
  rcases late with column | expired
  · rw [column]
    exact Or.inr (Or.inr (Or.inl rfl))
  · rw [expired]
    cases grant.lifecycleState with
    | none => cases grant.terminated <;> simp
    | some state => cases state <;> simp

theorem gate_passes (grant : Grant K) (operationState : String) (now : Int)
    (passing : resolveGrantState grant now = .expired ∨ resolveGrantState grant now = .requested) :
    (heartbeatOperationAllowed grant operationState now).ok = true := by
  rcases passing with state | state <;> simp [heartbeatOperationAllowed, state]

theorem gate_terminated (grant : Grant K) (operationState : String) (now : Int)
    (refused : (heartbeatOperationAllowed grant operationState now).responseCode = terminatedGrant) :
    resolveGrantState grant now = .terminated := by
  revert refused
  unfold heartbeatOperationAllowed
  dsimp only
  split
  · exact fun _ => by assumption
  · split
    · intro refused
      cases refused
    · split
      · intro refused
        cases refused
      · split
        · intro refused
          cases refused
        · intro refused
          cases refused

section Item

variable (checks : HeartbeatChecks K) (report : HeartbeatRequest → MeasReport) (capped : Cbsd K → Grant K → Bool)
  (clock : Clock) (req : HeartbeatRequest) (cbsd : Cbsd K) (grant : Grant K)

theorem terminate_fields (complete : req.Complete) :
    missingRequiredFields req.payload (grantTransitions .terminate).requiredFields = [] :=
  (id_payload_missing req.cbsdId req.grantId complete.1).trans (if_neg complete.2.1)

theorem federal_termination_row (now : Int) :
    (persistFederalTermination grant req now).StoredTerminal ∧
      (persistFederalTermination grant req now).grantId = grant.grantId := by
  have named := apply_grant_event_names grant .terminate req.payload now
  unfold persistFederalTermination
  dsimp only
  split
  · rename_i accepted
    refine ⟨?_, named⟩
    rw [event_accepted_row grant .terminate req.payload now accepted]
    exact terminated_stored grant
  · exact ⟨terminated_stored _, named⟩

theorem terminate_row (complete : req.Complete) (now : Int) (takes : grant.TakesTerminate now) :
    (applyGrantEvent grant .terminate req.payload now).1.StoredTerminal ∧
      (applyGrantEvent grant .terminate req.payload now).1.grantId = grant.grantId :=
  ⟨terminate_leaves_terminal grant req.payload now (terminate_fields req complete) takes,
    apply_grant_event_names grant .terminate req.payload now⟩

-- Once the time is over and no DPA covers the grant, only the federal rule comes before the expiry.
theorem protected_over (free : checks.overlapsActiveDpa grant = false) (timeOver : grantExpired grant (clock 3) = true) :
    let handled := heartbeatProtected (servedChecks checks report capped) clock req cbsd grant
    handled.2.responseCode = invalidParam ∨
      (handled.2.responseCode = terminatedGrant ∧ checks.federalCode cbsd grant = some terminatedGrant) := by
  intro handled
  have uncovered : ¬ (servedChecks checks report capped).overlapsActiveDpa grant = true := by
    simpa [servedChecks] using free
  by_cases federal : checks.federalCode cbsd grant = some terminatedGrant
  · right
    have answered : handled = (persistFederalTermination grant req (clock 2), answer clock req terminatedGrant) := by
      simp only [handled, heartbeatProtected, if_neg uncovered]
      exact if_pos federal
    rw [answered]
    exact ⟨rfl, federal⟩
  · left
    have answered : handled = ((applyGrantEvent grant .expire req.payload (clock 4)).1, answer clock req invalidParam) := by
      simp only [handled, heartbeatProtected, if_neg uncovered]
      rw [if_neg (show ¬ (servedChecks checks report capped).federalCode cbsd grant = some terminatedGrant from federal)]
      exact if_pos (of_decide_eq_true timeOver)
    rw [answered]
    rfl

theorem grant_over (ordered : ∀ first later, first ≤ later → clock first ≤ clock later)
    (unlisted : checks.blacklisted cbsd = false) (alone : checks.peerHasGrant cbsd = false)
    (free : checks.overlapsActiveDpa grant = false) (alive : resolveGrantState grant (clock 1) ≠ .terminated)
    (timeOver : grantExpired grant (clock 1) = true) :
    let handled := heartbeatGrant (servedChecks checks report capped) clock req cbsd grant
    handled.2.responseCode = invalidParam ∨
      (handled.2.responseCode = terminatedGrant ∧ checks.federalCode cbsd grant = some terminatedGrant) := by
  intro handled
  have later : grantExpired grant (clock 3) = true := by
    have first := of_decide_eq_true timeOver
    exact decide_eq_true (first.trans (whole_second_le _ _ (ordered 1 3 (by omega))))
  have reached : handled = if (heartbeatOperationAllowed grant req.operationState (clock 1)).ok then
      heartbeatProtected (servedChecks checks report capped) clock req cbsd grant
      else (grant, lifecycleRefusal clock req grant
        (heartbeatOperationAllowed grant req.operationState (clock 1)).responseCode) := by
    simp [handled, heartbeatGrant, servedChecks, unlisted, alone]
  rw [reached]
  rcases over_resolved grant (clock 1) (Or.inr timeOver) with dead | gone | passing
  · exact absurd dead alive
  · rw [heartbeatOperationAllowed, gone]
    exact Or.inl rfl
  · rw [if_pos (gate_passes grant req.operationState (clock 1) passing)]
    exact protected_over checks report capped clock req cbsd grant free later

theorem grant_refused (ordered : ∀ first later, first ≤ later → clock first ≤ clock later)
    (dead : grant.lifecycleState = some .relinquished ∨ grantExpired grant (clock 1) = true) :
    (heartbeatGrant (servedChecks checks report capped) clock req cbsd grant).2.responseCode ≠ success := by
  unfold heartbeatGrant
  dsimp only
  split
  · simp [answer, base, blacklistedCode, success]
  · split
    · simp [answer, base, terminatedGrant, success]
    · split
      · rename_i allowed
        rcases dead with column | timeOver
        · simp [heartbeatOperationAllowed, relinquished_any_time grant (clock 1) column] at allowed
        · have first := of_decide_eq_true timeOver
          exact (heartbeat_protected_expired (servedChecks checks report capped) clock req cbsd grant
            (first.trans (whole_second_le _ _ (ordered 1 3 (by omega))))).1
      · rename_i refused
        exact lifecycle_refusal_code clock req grant _
          (operation_refused_code grant req.operationState (clock 1) (by simpa using refused))

theorem grant_relinquished (unlisted : checks.blacklisted cbsd = false) (alone : checks.peerHasGrant cbsd = false)
    (column : grant.lifecycleState = some .relinquished) :
    (heartbeatGrant (servedChecks checks report capped) clock req cbsd grant).2 =
      base invalidParam (some req.cbsdId) none clock := by
  have state := relinquished_any_time grant (clock 1) column
  simp [heartbeatGrant, servedChecks, unlisted, alone, heartbeatOperationAllowed, state, lifecycleRefusal]

-- An earlier termination is reported and not repeated, whatever the other checks say.
theorem grant_terminated (complete : req.Complete) (unlisted : checks.blacklisted cbsd = false)
    (dead : resolveGrantState grant (clock 1) = .terminated) :
    heartbeatGrant (servedChecks checks report capped) clock req cbsd grant = (grant, answer clock req terminatedGrant) := by
  have peerReading := (terminated_any_time grant (clock 1) (clock 0) dead).1
  have kept : (applyGrantEvent grant .terminate req.payload (clock 0)).1 = grant := by
    rw [event_row grant .terminate req.payload (clock 0) (fun same => by cases same) (terminate_fields req complete),
      peerReading]
    rfl
  cases peer : checks.peerHasGrant cbsd with
  | true => simp [heartbeatGrant, servedChecks, unlisted, peer, kept]
  | false =>
      simp [heartbeatGrant, servedChecks, unlisted, peer, heartbeatOperationAllowed, dead, lifecycleRefusal,
        terminatedGrant, invalidParam, suspendedGrant]

theorem protected_terminal (complete : req.Complete)
    (wisp : checks.overlapsWisp grant = true → grant.TakesTerminate (clock 4)) :
    let handled := heartbeatProtected (servedChecks checks report capped) clock req cbsd grant
    handled.2.responseCode = terminatedGrant → handled.1.StoredTerminal ∧ handled.1.grantId = grant.grantId := by
  dsimp only
  unfold heartbeatProtected
  dsimp only
  split
  · intro answered
    cases answered
  · split
    · exact fun _ => federal_termination_row req grant (clock 2)
    · split
      · intro answered
        cases answered
      · split
        · rename_i overlaps
          exact fun _ => terminate_row req grant complete (clock 4) (wisp overlaps)
        · split
          · intro answered
            cases answered
          · intro answered
            rcases measured_cases checks report capped clock req cbsd grant with served | refused | refused
            · rw [served] at answered
              cases answered
            · rw [refused] at answered
              cases answered
            · rw [refused] at answered
              cases answered

theorem grant_terminal (complete : req.Complete)
    (peer : checks.peerHasGrant cbsd = true → grant.TakesTerminate (clock 0))
    (wisp : checks.peerHasGrant cbsd = false → checks.overlapsWisp grant = true → grant.TakesTerminate (clock 4)) :
    let handled := heartbeatGrant (servedChecks checks report capped) clock req cbsd grant
    handled.2.responseCode = terminatedGrant → handled.1.StoredTerminal ∧ handled.1.grantId = grant.grantId := by
  dsimp only
  unfold heartbeatGrant
  dsimp only
  split
  · intro answered
    cases answered
  · split
    · rename_i reported
      exact fun _ => terminate_row req grant complete (clock 0) (peer reported)
    · rename_i alone
      split
      · exact protected_terminal checks report capped clock req cbsd grant complete
          (wisp (Bool.eq_false_of_not_eq_true alone))
      · intro answered
        have code : (heartbeatOperationAllowed grant req.operationState (clock 1)).responseCode = terminatedGrant := by
          unfold lifecycleRefusal at answered
          split at answered
          · cases answered
          · split at answered
            · cases answered
            · exact answered
        exact ⟨(terminated_any_time grant (clock 1) (clock 1) (gate_terminated grant _ (clock 1) code)).2, rfl⟩

end Item

theorem dead_grant_precedence (checks : HeartbeatChecks K) (report : HeartbeatRequest → MeasReport)
    (capped : Cbsd K → Grant K → Bool) (certificateHash : Option String) (clock : Clock) (req : HeartbeatRequest)
    (store : Store K) (cbsd : Cbsd K) (grant : Grant K)
    (ordered : ∀ first later, first ≤ later → clock first ≤ clock later)
    (complete : req.Complete) (isCbsd : store.findCbsd req.cbsdId = some cbsd)
    (owner : cbsdCertificateMismatch cbsd certificateHash = false)
    (found : store.findGrant req.grantId req.cbsdId = some grant) (unlisted : ∀ other, checks.blacklisted other = false) :
    PrecedenceByDesign checks clock req cbsd grant
      (heartbeatItem (servedChecks checks report capped) certificateHash clock req store) := by
  have handled : heartbeatItem (servedChecks checks report capped) certificateHash clock req store =
      (store.putGrant (heartbeatGrant (servedChecks checks report capped) clock req cbsd grant).1,
        (heartbeatGrant (servedChecks checks report capped) clock req cbsd grant).2) := by
    simp only [heartbeatItem, if_neg ((complete_iff req).mp complete), isCbsd, owner, found, Bool.false_eq_true, if_false]
  have advances :=
    (heartbeat_grant_keeps (servedChecks checks report capped) clock req cbsd grant (clock 3) (clock 3) le_rfl).advances
  have over_past (past : grant.ExpiredPast (clock 1))
      (dead : grant.lifecycleState = some .expired ∨ grantExpired grant (clock 1) = true) :
      grantExpired grant (clock 1) = true := by
    rcases dead with column | timeOver
    · exact decide_eq_true (past column)
    · exact timeOver
  rw [handled]
  refine ⟨?_, ?_, ?_, ?_, ?_⟩
  · intro dead
    rw [grant_terminated checks report capped clock req cbsd grant complete (unlisted cbsd) dead]
    exact ⟨rfl, rfl, find_after_put store req.grantId req.cbsdId grant grant found rfl rfl rfl⟩
  · intro alone column
    dsimp only
    rw [grant_relinquished checks report capped clock req cbsd grant (unlisted cbsd) alone column]
    exact ⟨rfl, rfl⟩
  · intro alone free past alive dead
    exact grant_over checks report capped clock req cbsd grant ordered (unlisted cbsd) alone free alive
      (over_past past dead)
  · intro past dead
    exact grant_refused checks report capped clock req cbsd grant ordered (dead.imp_right (over_past past))
  · intro peer wisp answered
    obtain ⟨terminal, named⟩ := grant_terminal checks report capped clock req cbsd grant complete peer wisp answered
    exact ⟨_, find_after_put store req.grantId req.cbsdId grant _ found advances.id named advances.cbsdId, terminal⟩

-- The grant of the sample, terminated for a grant that a peer reported.
def terminatedStore : Store Rat :=
  performAll (sampleOperations.take 2 ++
    [.heartbeat none [⟨{ openHeartbeatChecks with peerHasGrant := fun _ => true }, firstHeartbeat, readingsAt 2000000⟩]])
    Store.empty

theorem dead_grant_precedence_sample :
    ∃ cbsd grant, terminatedStore.findCbsd "fcc/sn" = some cbsd ∧
      terminatedStore.findGrant "grant/1" "fcc/sn" = some grant ∧
      PrecedenceByDesign openHeartbeatChecks (fun _ => 2000 * second) firstHeartbeat cbsd grant
        (heartbeatItem plainChecks none (fun _ => 2000 * second) firstHeartbeat terminatedStore) := by
  have known : (terminatedStore.findCbsd "fcc/sn").isSome = true := by decide +kernel
  have stored : (terminatedStore.findGrant "grant/1" "fcc/sn").isSome = true := by decide +kernel
  obtain ⟨cbsd, isCbsd⟩ := Option.isSome_iff_exists.mp known
  obtain ⟨grant, found⟩ := Option.isSome_iff_exists.mp stored
  have unbound : (terminatedStore.findCbsd "fcc/sn").map (cbsdCertificateMismatch · none) = some false := by decide +kernel
  rw [isCbsd, Option.map_some] at unbound
  exact ⟨cbsd, grant, isCbsd, found, dead_grant_precedence openHeartbeatChecks (fun _ => .missing) (fun _ _ => false) none
    (fun _ => 2000 * second) firstHeartbeat terminatedStore cbsd grant (fun _ _ _ => le_refl _)
    ⟨by decide, by decide, by decide⟩ isCbsd
    (Option.some.inj unbound) found fun _ => rfl⟩

theorem terminated_grant_past_expiry :
    ∃ cbsd grant, terminatedStore.findCbsd "fcc/sn" = some cbsd ∧
      terminatedStore.findGrant "grant/1" "fcc/sn" = some grant ∧
      cbsdCertificateMismatch cbsd none = false ∧ grantExpired grant (2000 * second) = true ∧
      plainChecks.federalCode cbsd grant = none ∧
      ¬ PrecedenceKept firstHeartbeat (plainChecks.federalCode cbsd grant) grant (2000 * second)
        (heartbeatItem plainChecks none (fun _ => 2000 * second) firstHeartbeat terminatedStore) := by
  have known : (terminatedStore.findCbsd "fcc/sn").map (cbsdCertificateMismatch · none) = some false := by decide +kernel
  have stored : (terminatedStore.findGrant "grant/1" "fcc/sn").map (grantExpired · (2000 * second)) = some true := by
    decide +kernel
  obtain ⟨cbsd, isCbsd, owner⟩ := Option.map_eq_some_iff.mp known
  obtain ⟨grant, found, expired⟩ := Option.map_eq_some_iff.mp stored
  refine ⟨cbsd, grant, isCbsd, found, owner, expired, rfl, ?_⟩
  intro kept
  have code : (heartbeatItem plainChecks none (fun _ => 2000 * second) firstHeartbeat terminatedStore).2.responseCode =
      terminatedGrant := by decide +kernel
  rcases kept.timeOver (Or.inr expired) with invalid | ⟨_, federal⟩
  · rw [code] at invalid
    cases invalid
  · cases federal

end SasCore.Registry
