import SasCore.Registry.Run
import Mathlib.Tactic.Linarith
import Mathlib.Tactic.Positivity

set_option autoImplicit false
set_option linter.unusedSectionVars false

namespace SasCore.Registry

variable {K : Type} [Field K] [LinearOrder K]

-- What a grant allows: its range and its power.
def Grant.terms (grant : Grant K) : Nat × Int × Int × Option K :=
  (grant.id, grant.lowFrequency, grant.highFrequency, grant.maxEirp)

-- Every row left behind allows what a row allowed that was there.
def KeepsTerms (store after : Store K) : Prop := ∀ fresh ∈ after.grants, ∃ old ∈ store.grants, fresh.terms = old.terms

theorem keeps_terms_refl (store : Store K) : KeepsTerms store store := fun fresh member => ⟨fresh, member, rfl⟩

theorem keeps_terms_trans (first second third : Store K) (one : KeepsTerms first second) (two : KeepsTerms second third) :
    KeepsTerms first third := by
  intro fresh member
  obtain ⟨mid, midMember, midSame⟩ := two fresh member
  obtain ⟨old, oldMember, oldSame⟩ := one mid midMember
  exact ⟨old, oldMember, midSame.trans oldSame⟩

section Rows

theorem apply_grant_event_terms (grant : Grant K) (event : GrantEvent) (payload : Payload) (now : Int) :
    (applyGrantEvent grant event payload now).1.terms = grant.terms := by
  rw [apply_grant_event_frame]
  rfl

variable (checks : HeartbeatChecks K) (clock : Clock) (req : HeartbeatRequest) (cbsd : Cbsd K) (grant : Grant K)

theorem federal_termination_terms (now : Int) : (persistFederalTermination grant req now).terms = grant.terms := by
  have applied := apply_grant_event_terms grant .terminate req.payload now
  simp only [persistFederalTermination]
  split
  · exact applied
  · exact applied

theorem heartbeat_authorize_terms : (heartbeatAuthorize checks clock req cbsd grant).1.terms = grant.terms :=
  apply_grant_event_terms
    { grant with transmitExpireTime := some (computeTransmitExpireTime grant.grantExpireTime (clock 6) (checks.txHorizonSec cbsd grant)) }
    .authorize (("operationState", req.operationState) :: req.payload) (clock 7)

theorem apply_renewal_terms (now : Int) : (applyRenewal checks.pals checks.stamp grant now).1.terms = grant.terms := by
  rw [apply_renewal_frame]
  rfl

theorem heartbeat_renew_terms : (heartbeatRenew checks clock req cbsd grant).1.terms = grant.terms := by
  have renewed := apply_renewal_terms checks grant (clock 5)
  simp only [heartbeatRenew]
  split
  · split
    · exact (heartbeat_authorize_terms checks clock req cbsd _).trans renewed
    · exact renewed
  · exact heartbeat_authorize_terms checks clock req cbsd grant

theorem heartbeat_measured_terms : (heartbeatMeasured checks clock req cbsd grant).1.terms = grant.terms := by
  simp only [heartbeatMeasured]
  split
  · rfl
  · exact heartbeat_renew_terms checks clock req cbsd grant

theorem heartbeat_protected_terms : (heartbeatProtected checks clock req cbsd grant).1.terms = grant.terms := by
  simp only [heartbeatProtected]
  split
  · rfl
  · split
    · exact federal_termination_terms req grant (clock 2)
    · split
      · exact apply_grant_event_terms grant .expire req.payload (clock 4)
      · split
        · exact apply_grant_event_terms grant .terminate req.payload (clock 4)
        · split
          · rfl
          · exact heartbeat_measured_terms checks clock req cbsd grant

theorem heartbeat_grant_terms : (heartbeatGrant checks clock req cbsd grant).1.terms = grant.terms := by
  simp only [heartbeatGrant]
  split
  · rfl
  · split
    · exact apply_grant_event_terms grant .terminate req.payload (clock 0)
    · split
      · exact heartbeat_protected_terms checks clock req cbsd grant
      · rfl

end Rows

section Stores

variable (store : Store K)

theorem put_grant_keeps_terms (old fresh : Grant K) (member : old ∈ store.grants) (same : fresh.terms = old.terms) :
    KeepsTerms store (store.putGrant fresh) := by
  intro row rowMember
  obtain ⟨grant, grantMember, isRow⟩ := List.mem_map.mp rowMember
  by_cases here : grant.id = fresh.id
  · rw [if_pos here] at isRow
    exact ⟨old, member, isRow ▸ same⟩
  · rw [if_neg here] at isRow
    exact ⟨grant, grantMember, isRow ▸ rfl⟩

theorem map_grants_keeps_terms (cbsdId : String) (change : Grant K → Grant K) (same : ∀ grant, (change grant).terms = grant.terms) :
    KeepsTerms store (store.mapGrantsOf cbsdId change) := by
  intro row rowMember
  obtain ⟨grant, grantMember, isRow⟩ := List.mem_map.mp rowMember
  refine ⟨grant, grantMember, ?_⟩
  rw [← isRow]
  split
  · exact same grant
  · rfl

theorem delete_cbsd_keeps_terms (pk : Nat) : KeepsTerms store (store.deleteCbsd pk) :=
  fun row member => ⟨row, List.mem_of_mem_filter member, rfl⟩

theorem heartbeat_item_terms (checks : HeartbeatChecks K) (certificateHash : Option String) (clock : Clock) (req : HeartbeatRequest) :
    KeepsTerms store (heartbeatItem checks certificateHash clock req store).1 := by
  have same := keeps_terms_refl store
  simp only [heartbeatItem]
  split
  · exact same
  · split
    · exact same
    · rename_i cbsd _
      split
      · exact same
      · split
        · exact same
        · rename_i grant found
          exact put_grant_keeps_terms store grant _ (List.mem_of_find?_eq_some found) (heartbeat_grant_terms checks clock req cbsd grant)

theorem relinquishment_item_terms (certificateHash : Option String) (clock : Clock) (cbsdId grantId : String) :
    KeepsTerms store (relinquishmentItem certificateHash clock cbsdId grantId store).1 := by
  have same := keeps_terms_refl store
  simp only [relinquishmentItem]
  split
  · exact same
  · split
    · exact same
    · split
      · exact same
      · split
        · exact same
        · rename_i grant found
          split
          · exact same
          · split
            · exact put_grant_keeps_terms store grant _ (List.mem_of_find?_eq_some found) (apply_grant_event_terms grant .relinquish _ _)
            · exact same

theorem deregistration_item_terms (certificateHash : Option String) (clock : Clock) (cbsdId : String) :
    KeepsTerms store (deregistrationItem certificateHash clock cbsdId store).1 := by
  have same := keeps_terms_refl store
  simp only [deregistrationItem]
  split
  · exact same
  · split
    · exact same
    · split
      · exact same
      · split
        · refine keeps_terms_trans _ _ _ (map_grants_keeps_terms store cbsdId _ fun grant => ?_) (delete_cbsd_keeps_terms _ _)
          exact apply_grant_event_terms grant .terminate _ _
        · exact same

theorem registration_item_terms (validated : Except Nat (Registration K)) (certificateHash : Option String) (clock : Clock)
    (req : RegistrationRequest) : KeepsTerms store (registrationItem validated certificateHash clock req store).1 := by
  have same := keeps_terms_refl store
  simp only [registrationItem]
  split
  · exact same
  · split
    · split
      · exact same
      · split
        · refine map_grants_keeps_terms _ _ _ fun grant => ?_
          split
          · rfl
          · exact apply_grant_event_terms grant .terminate _ _
        · exact same
    · split
      · exact same
      · split
        · exact same
        · exact same

end Stores

-- The events that neither create a grant nor decide on one.
def Event.isService : Event K → Bool
  | .create .. => false
  | .cpasApply .. => false
  | _ => true

theorem service_keeps_terms (event : Event K) (store : Store K) (service : event.isService = true) :
    KeepsTerms store (step event store) := by
  cases event with
  | create checks cert req loaded pending proposal grantId readings => cases service
  | heartbeat checks cert req readings => exact heartbeat_item_terms store checks cert readings.read req
  | relinquish cert cbsdId grantId readings => exact relinquishment_item_terms store cert readings.read cbsdId grantId
  | deregister cert cbsdId readings => exact deregistration_item_terms store cert readings.read cbsdId
  | register validated cert req readings => exact registration_item_terms store validated cert readings.read req
  | cpasApply decisions readings => cases service

section Decisions

-- Whether a decision lowers the power of its row.
def lowersPower (decision : CpasDecision K) (grant : Grant K) : Bool :=
  match decision.action, decision.authorizedEirpDbmMhz with
  | .reducePower, some eirp => !grant.maxEirp.any fun held => decide (held ≤ eirp + Iap.eirpEpsilon)
  | _, _ => false

-- The key of the row a decision lowers, found as apply_cpas_decisions finds it.
def loweredBy (decision : CpasDecision K) (store : Store K) : List Nat :=
  match decision.grantPk.bind fun pk => decisionRow decision pk store with
  | some grant =>
      if grant.terminated || decision.grantId.startsWith "peer/" then []
      else if lowersPower decision grant then [grant.id]
      else []
  | none => []

def loweredByAll (clock : Clock) : List (CpasDecision K) → Nat → Store K → List Nat
  | [], _, _ => []
  | decision :: rest, n, store =>
      loweredBy decision store ++ loweredByAll clock rest (n + 1) (applyDecision decision (clock n) store).1

-- Every row left behind allows what an old row allowed, or the same at a lower power, when it is among those named.
def LowersTerms (pks : List Nat) (store after : Store K) : Prop :=
  ∀ fresh ∈ after.grants, ∃ old ∈ store.grants, fresh.id = old.id ∧ fresh.lowFrequency = old.lowFrequency ∧
    fresh.highFrequency = old.highFrequency ∧
    ((fresh.id ∉ pks ∧ fresh.maxEirp = old.maxEirp) ∨
      (fresh.id ∈ pks ∧ ∀ held, old.maxEirp = some held → ∃ left, fresh.maxEirp = some left ∧ left < held))

theorem keeps_lowers_nothing (store after : Store K) (keeps : KeepsTerms store after) : LowersTerms [] store after := by
  intro fresh member
  obtain ⟨old, oldMember, same⟩ := keeps fresh member
  simp only [Grant.terms, Prod.mk.injEq] at same
  obtain ⟨id, low, high, power⟩ := same
  exact ⟨old, oldMember, id, low, high, .inl ⟨List.not_mem_nil, power⟩⟩

theorem lowers_trans (first second : List Nat) (store mid after : Store K) (one : LowersTerms first store mid)
    (two : LowersTerms second mid after) : LowersTerms (first ++ second) store after := by
  intro fresh member
  obtain ⟨middle, midMember, midId, midLow, midHigh, later⟩ := two fresh member
  obtain ⟨old, oldMember, oldId, oldLow, oldHigh, earlier⟩ := one middle midMember
  refine ⟨old, oldMember, midId.trans oldId, midLow.trans oldLow, midHigh.trans oldHigh, ?_⟩
  rw [midId] at later ⊢
  rw [List.mem_append]
  rcases earlier with ⟨notFirst, kept⟩ | ⟨isFirst, lower⟩
  · rcases later with ⟨notSecond, same⟩ | ⟨isSecond, lower⟩
    · exact .inl ⟨fun either => either.elim notFirst notSecond, same.trans kept⟩
    · exact .inr ⟨.inr isSecond, fun held isHeld => lower held (kept.trans isHeld)⟩
  · refine .inr ⟨.inl isFirst, fun held isHeld => ?_⟩
    obtain ⟨left, isLeft, below⟩ := lower held isHeld
    rcases later with ⟨_, same⟩ | ⟨_, again⟩
    · exact ⟨left, same.trans isLeft, below⟩
    · obtain ⟨last, isLast, under⟩ := again left isLeft
      exact ⟨last, isLast, under.trans below⟩

variable [IsStrictOrderedRing K]

theorem decision_row_stored (decision : CpasDecision K) (pk : Nat) (store : Store K) (grant : Grant K)
    (found : decisionRow decision pk store = some grant) : grant ∈ store.grants := by
  rw [decisionRow] at found
  split at found
  · rename_i byId
    split at found
    · rw [← Option.some.inj found]
      exact List.mem_of_find?_eq_some byId
    · exact List.mem_of_find?_eq_some found
  · exact List.mem_of_find?_eq_some found

theorem decide_grant_kept (decision : CpasDecision K) (now : Int) (grant : Grant K) (kept : lowersPower decision grant = false) :
    (decideGrant decision now grant).1.terms = grant.terms := by
  rw [lowersPower] at kept
  cases acts : decision.action with
  | reducePower =>
      cases power : decision.authorizedEirpDbmMhz with
      | none => simp only [decideGrant, acts, power]
      | some eirp =>
          simp only [acts, power, Bool.not_eq_false'] at kept
          simp only [decideGrant, acts, power, if_pos kept]
  | suspend =>
      simp only [decideGrant, acts]
      exact apply_grant_event_terms grant .suspend _ _
  | terminate =>
      simp only [decideGrant, acts]
      exact apply_grant_event_terms grant .terminate _ _
  | unknown => simp only [decideGrant, acts]

theorem decide_grant_lowered (decision : CpasDecision K) (now : Int) (grant : Grant K) (lowers : lowersPower decision grant = true) :
    ∃ eirp, (decideGrant decision now grant).1 = { grant with maxEirp := some eirp } ∧
      ∀ held, grant.maxEirp = some held → eirp < held := by
  rw [lowersPower] at lowers
  split at lowers
  · rename_i eirp acts power
    rw [Bool.not_eq_true'] at lowers
    refine ⟨eirp, ?_, fun held isHeld => ?_⟩
    · simp only [decideGrant, acts, power, lowers, Bool.false_eq_true, if_false]
    · have positive : (0 : K) < Iap.eirpEpsilon := by
        rw [Iap.eirpEpsilon]
        positivity
      rw [isHeld, Option.any_some, decide_eq_false_iff_not, not_le] at lowers
      linarith
  · cases lowers

-- A decision lowers the row it names or keeps the terms of all rows.
theorem apply_decision_lowers (decision : CpasDecision K) (now : Int) (store : Store K) :
    LowersTerms (loweredBy decision store) store (applyDecision decision now store).1 := by
  have same := keeps_lowers_nothing store store (keeps_terms_refl store)
  cases isPk : decision.grantPk with
  | none => simpa only [loweredBy, applyDecision, isPk, Option.bind_none] using same
  | some pk =>
      cases found : decisionRow decision pk store with
      | none => simpa only [loweredBy, applyDecision, isPk, Option.bind_some, found] using same
      | some grant =>
          have member := decision_row_stored decision pk store grant found
          simp only [loweredBy, applyDecision, isPk, Option.bind_some, found]
          split
          · exact same
          · by_cases lowers : lowersPower decision grant = true
            · rw [if_pos lowers]
              obtain ⟨eirp, decided, below⟩ := decide_grant_lowered decision now grant lowers
              rw [decided]
              intro fresh freshMember
              obtain ⟨row, rowMember, isFresh⟩ := List.mem_map.mp freshMember
              by_cases here : row.id = grant.id
              · rw [if_pos here] at isFresh
                refine ⟨grant, member, ?_⟩
                rw [← isFresh]
                exact ⟨rfl, rfl, rfl, .inr ⟨List.mem_singleton_self _, fun held isHeld => ⟨eirp, rfl, below held isHeld⟩⟩⟩
              · rw [if_neg here] at isFresh
                refine ⟨row, rowMember, ?_⟩
                rw [← isFresh]
                exact ⟨rfl, rfl, rfl, .inl ⟨fun named => here (List.mem_singleton.mp named), rfl⟩⟩
            · rw [if_neg lowers]
              have kept := decide_grant_kept decision now grant (Bool.eq_false_of_not_eq_true lowers)
              exact keeps_lowers_nothing store _ (put_grant_keeps_terms store grant _ member kept)

theorem apply_decisions_lower (clock : Clock) (decisions : List (CpasDecision K)) (n : Nat) (store : Store K) :
    LowersTerms (loweredByAll clock decisions n store) store (applyCpasDecisions clock decisions n store).1 := by
  induction decisions generalizing n store with
  | nil => exact keeps_lowers_nothing store store (keeps_terms_refl store)
  | cons decision rest ih =>
      exact lowers_trans _ _ store _ _ (apply_decision_lowers decision (clock n) store) (ih (n + 1) _)

end Decisions

end SasCore.Registry
