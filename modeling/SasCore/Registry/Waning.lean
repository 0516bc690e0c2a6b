import SasCore.Registry.DecisionFrame
import SasCore.Registry.GrantSession

set_option autoImplicit false
set_option linter.unusedSectionVars false

namespace SasCore.Registry

variable {K : Type} [Field K] [LinearOrder K]

-- The grant has ended or its time is over.
def Grant.overAt (now : Int) (grant : Grant K) : Bool := grant.terminalColumn || grantExpired grant now

-- What is left of a row while nothing gives it back power or time it has lost at a moment.
structure Wanes (now : Int) (old fresh : Grant K) : Prop where
  id : fresh.id = old.id
  names : fresh.grantId = old.grantId ∧ fresh.cbsdId = old.cbsdId
  power : ∀ held, old.maxEirp = some held → ∃ left, fresh.maxEirp = some left ∧ left ≤ held
  known : old.lifecycleState ≠ some .requested → fresh.lifecycleState ≠ some .requested
  ended : old.overAt now = true → fresh.overAt now = true

section Rows

variable (now : Int)

theorem wanes_refl (grant : Grant K) : Wanes now grant grant :=
  ⟨rfl, ⟨rfl, rfl⟩, fun held isHeld => ⟨held, isHeld, le_rfl⟩, id, id⟩

theorem wanes_trans (first second third : Grant K) (one : Wanes now first second) (two : Wanes now second third) :
    Wanes now first third := by
  refine ⟨two.id.trans one.id, ⟨two.names.1.trans one.names.1, two.names.2.trans one.names.2⟩, fun held isHeld => ?_,
    fun known => two.known (one.known known), fun ended => two.ended (one.ended ended)⟩
  obtain ⟨middle, isMiddle, lowered⟩ := one.power held isHeld
  obtain ⟨left, isLeft, further⟩ := two.power middle isMiddle
  exact ⟨left, isLeft, further.trans lowered⟩

theorem over_later (grant : Grant K) (later : Int) (le : now ≤ later) (ended : grant.overAt now = true) :
    grant.overAt later = true := by
  rw [Grant.overAt, Bool.or_eq_true] at ended ⊢
  exact ended.imp_right fun expired => decide_eq_true ((of_decide_eq_true expired).trans (whole_second_le now later le))

-- A row that keeps its power and its time, and that no longer runs once it has ended.
theorem wanes_of_same (old fresh : Grant K) (id : fresh.id = old.id) (grantId : fresh.grantId = old.grantId)
    (cbsdId : fresh.cbsdId = old.cbsdId) (power : fresh.maxEirp = old.maxEirp) (time : fresh.grantExpireTime = old.grantExpireTime)
    (known : old.lifecycleState ≠ some .requested → fresh.lifecycleState ≠ some .requested)
    (dead : old.terminalColumn = true → fresh.terminalColumn = true) : Wanes now old fresh := by
  refine ⟨id, ⟨grantId, cbsdId⟩, fun held isHeld => ⟨held, power.trans isHeld, le_rfl⟩, known, fun ended => ?_⟩
  rw [Grant.overAt, Bool.or_eq_true] at ended ⊢
  refine ended.imp dead fun expired => ?_
  rw [grantExpired, time]
  exact expired

theorem event_wanes (grant : Grant K) (event : GrantEvent) (payload : Payload) (reading : Int) :
    Wanes now grant (applyGrantEvent grant event payload reading).1 := by
  have frame := apply_grant_event_frame grant event payload reading
  refine wanes_of_same now grant _ ?_ ?_ ?_ ?_ (apply_grant_event_expiry grant event payload reading) (fun known => ?_)
    (apply_grant_event_terminal grant event payload reading)
  · rw [frame]
  · rw [frame]
  · rw [frame]
  · rw [frame]
  · rcases apply_grant_event_cases grant event payload reading with same | ⟨moved, _, _⟩
    · rw [same]
      exact known
    · rw [moved]
      cases event <;> simp [applyGrantState, grantTransitions]

end Rows

section Heartbeat

variable (checks : HeartbeatChecks K) (clock : Clock) (req : HeartbeatRequest) (cbsd : Cbsd K) (now : Int) (grant : Grant K)

theorem authorize_wanes : Wanes now grant (heartbeatAuthorize checks clock req cbsd grant).1 := by
  have applied := event_wanes now
    { grant with transmitExpireTime := some (computeTransmitExpireTime grant.grantExpireTime (clock 6)
        (checks.txHorizonSec cbsd grant)) }
    .authorize (("operationState", req.operationState) :: req.payload) (clock 7)
  exact ⟨applied.id, applied.names, applied.power, applied.known, applied.ended⟩

-- Only a renewal gives a grant time, and it comes after the comparison with the clock.
theorem renewal_wanes (pals : List PalRow) (stamp : SyncStamp) (reading : Int) (early : grantExpired grant now = false) :
    Wanes now grant (applyRenewal pals stamp grant reading).1 := by
  have frame := apply_renewal_frame pals stamp grant reading
  refine ⟨?_, ⟨?_, ?_⟩, fun held isHeld => ⟨held, ?_, le_rfl⟩, fun known => ?_, fun ended => ?_⟩
  · rw [frame]
  · rw [frame]
  · rw [frame]
  · rw [frame]
    exact isHeld
  · rw [frame]
    exact known
  · rw [Grant.overAt, early, Bool.or_false] at ended
    rw [Grant.overAt, Bool.or_eq_true, frame]
    exact Or.inl ended

theorem renew_wanes (early : grantExpired grant now = false) :
    Wanes now grant (heartbeatRenew checks clock req cbsd grant).1 := by
  have renewed := renewal_wanes now grant checks.pals checks.stamp (clock 5) early
  unfold heartbeatRenew
  split
  · dsimp only
    split
    · exact wanes_trans now grant _ _ renewed (authorize_wanes checks clock req cbsd now _)
    · exact renewed
  · exact authorize_wanes checks clock req cbsd now grant

theorem federal_wanes (reading : Int) : Wanes now grant (persistFederalTermination grant req reading) := by
  have applied := event_wanes now grant .terminate req.payload reading
  unfold persistFederalTermination
  dsimp only
  split
  · exact applied
  · exact wanes_trans now grant _ _ applied
      (wanes_of_same now _ _ rfl rfl rfl rfl rfl (fun _ => by simp [applyGrantState]) fun _ => rfl)

theorem protected_wanes (begins : now ≤ clock 3) : Wanes now grant (heartbeatProtected checks clock req cbsd grant).1 := by
  have same := wanes_refl now grant
  unfold heartbeatProtected
  dsimp only
  split
  · exact same
  · split
    · exact federal_wanes req now grant (clock 2)
    · split
      · exact event_wanes now grant .expire req.payload (clock 4)
      · rename_i early
        split
        · exact event_wanes now grant .terminate req.payload (clock 4)
        · split
          · exact same
          · have notYet : grantExpired grant now = false :=
              decide_eq_false fun past => early (past.trans (whole_second_le now (clock 3) begins))
            unfold heartbeatMeasured
            dsimp only
            split
            · exact same
            · exact renew_wanes checks clock req cbsd now grant notYet

theorem heartbeat_wanes (begins : now ≤ clock 3) : Wanes now grant (heartbeatGrant checks clock req cbsd grant).1 := by
  have same := wanes_refl now grant
  unfold heartbeatGrant
  split
  · exact same
  · split
    · exact event_wanes now grant .terminate req.payload (clock 0)
    · dsimp only
      split
      · exact protected_wanes checks clock req cbsd now grant begins
      · exact same

-- The device of a grant that is over is told so.
theorem over_heartbeat_refused (certificateHash : Option String) (readings : Readings) (store : Store K)
    (found : store.findGrant req.grantId req.cbsdId = some grant) (beyond : grant.overAt now = true) (past : grant.ExpiredPast now)
    (begins : now ≤ readings.read 0) : (heartbeatItem checks certificateHash readings.read req store).2.responseCode ≠ success := by
  unfold heartbeatItem
  split
  · simp [base, missingParam, success]
  · split
    · simp [base, invalidParam, success]
    · rename_i cbsd _
      split
      · simp [base, invalidParam, success]
      · rw [found]
        dsimp only
        rw [Grant.overAt, Bool.or_eq_true] at beyond
        rcases beyond with dead | expired
        · exact (heartbeat_grant_dead checks readings.read req cbsd grant now past begins readings.monotone dead).1
        · have timeOver : wholeSecond grant.grantExpireTime ≤ wholeSecond (readings.read 3) :=
            (of_decide_eq_true expired).trans (whole_second_le now _ (begins.trans (readings.monotone 0 3 (Nat.zero_le 3))))
          unfold heartbeatGrant
          split
          · simp [answer, base, blacklistedCode, success]
          · split
            · simp [answer, base, terminatedGrant, success]
            · dsimp only
              split
              · exact (heartbeat_protected_expired checks readings.read req cbsd grant timeOver).1
              · rename_i refused
                exact lifecycle_refusal_code readings.read req grant _
                  (operation_refused_code grant req.operationState (readings.read 1) (by simpa using refused))

end Heartbeat

section Stores

variable (now : Int)

-- Every row left behind is what has waned of a row that was there.
def Thins (store after : Store K) : Prop := ∀ fresh ∈ after.grants, ∃ old ∈ store.grants, Wanes now old fresh

theorem thins_refl (store : Store K) : Thins now store store := fun row member => ⟨row, member, wanes_refl now row⟩

theorem thins_trans (first second third : Store K) (one : Thins now first second) (two : Thins now second third) :
    Thins now first third := by
  intro fresh member
  obtain ⟨middle, middleMember, waned⟩ := two fresh member
  obtain ⟨old, oldMember, before⟩ := one middle middleMember
  exact ⟨old, oldMember, wanes_trans now old middle fresh before waned⟩

theorem put_grant_thins (store : Store K) (old fresh : Grant K) (member : old ∈ store.grants) (waned : Wanes now old fresh) :
    Thins now store (store.putGrant fresh) := by
  intro row rowMember
  obtain ⟨grant, grantMember, same⟩ := List.mem_map.mp rowMember
  by_cases here : grant.id = fresh.id
  · rw [if_pos here] at same
    exact ⟨old, member, same ▸ waned⟩
  · rw [if_neg here] at same
    exact ⟨grant, grantMember, same ▸ wanes_refl now grant⟩

theorem map_grants_thins (store : Store K) (cbsdId : String) (change : Grant K → Grant K)
    (each : ∀ grant, Wanes now grant (change grant)) : Thins now store (store.mapGrantsOf cbsdId change) := by
  intro row rowMember
  obtain ⟨grant, grantMember, same⟩ := List.mem_map.mp rowMember
  refine ⟨grant, grantMember, ?_⟩
  rw [← same]
  split
  · exact each grant
  · exact wanes_refl now grant

variable [IsStrictOrderedRing K]

theorem decision_wanes (decision : CpasDecision K) (reading : Int) (grant : Grant K) :
    Wanes now grant (decideGrant decision reading grant).1 := by
  rcases decide_grant_cases decision reading grant with same | ⟨eirp, _, _, same, lower⟩ | ⟨alive, moved⟩
  · rw [same]
    exact wanes_refl now grant
  · rw [same]
    refine ⟨rfl, ⟨rfl, rfl⟩, fun held isHeld => ⟨eirp, rfl, ?_⟩, id, id⟩
    exact (le_add_of_nonneg_right epsilon_nonneg).trans (lower held isHeld).le
  · have running : grant.terminalColumn = true → False := by
      intro dead
      rw [(terminal_column_resolved grant reading dead).1] at alive
      cases alive
    rcases moved with ⟨_, same⟩ | ⟨_, same⟩
    · rw [same]
      exact wanes_of_same now grant _ rfl rfl rfl rfl rfl (fun _ => by simp [applyGrantState]) fun dead => (running dead).elim
    · rw [same]
      exact wanes_of_same now grant _ rfl rfl rfl rfl rfl (fun _ => by simp [applyGrantState]) fun _ => rfl

theorem apply_decision_thins (decision : CpasDecision K) (reading : Int) (store : Store K) :
    Thins now store (applyDecision decision reading store).1 := by
  have same := thins_refl now store
  unfold applyDecision
  split
  · exact same
  · rename_i pk _
    split
    · exact same
    · rename_i grant found
      split
      · exact same
      · exact put_grant_thins now store grant _ (decision_row_of_key decision store pk grant found).1
          (decision_wanes now decision reading grant)

theorem apply_decisions_thin (clock : Clock) (decisions : List (CpasDecision K)) (n : Nat) (store : Store K) :
    Thins now store (applyCpasDecisions clock decisions n store).1 := by
  induction decisions generalizing n store with
  | nil => exact thins_refl now store
  | cons decision rest ih =>
      exact thins_trans now store _ _ (apply_decision_thins now decision (clock n) store) (ih (n + 1) _)

theorem deregister_thins (certificateHash : Option String) (clock : Clock) (cbsdId : String) (store : Store K) :
    Thins now store (deregistrationItem certificateHash clock cbsdId store).1 := by
  have same := thins_refl now store
  simp only [deregistrationItem]
  split
  · exact same
  · split
    · exact same
    · rename_i cbsd _
      split
      · exact same
      · split
        · have ended := map_grants_thins now store cbsdId (terminateRow clock cbsdId) fun grant =>
            event_wanes now grant .terminate _ _
          exact fun row member => ended row (List.mem_of_mem_filter member)
        · exact same

theorem register_thins (validated : Except Nat (Registration K)) (certificateHash : Option String) (clock : Clock)
    (req : RegistrationRequest) (store : Store K) : Thins now store (registrationItem validated certificateHash clock req store).1 := by
  have same := thins_refl now store
  simp only [registrationItem]
  split
  · exact same
  · rename_i merged
    split
    · rename_i existing _
      split
      · exact same
      · split
        · refine map_grants_thins now (store.putCbsd (reregisteredRow existing req merged certificateHash)) _ _ fun grant => ?_
          split
          · exact wanes_refl now grant
          · exact event_wanes now grant .terminate _ _
        · exact same
    · split
      · exact same
      · split
        · exact same
        · exact same

-- What an event does to the rows that are there, whichever event it is; a grant it creates has a new key.
theorem step_thins (event : Event K) (store : Store K) (begins : now ≤ event.readings.read 0) :
    ∀ fresh ∈ (step event store).grants, (∃ old ∈ store.grants, Wanes now old fresh) ∨ store.nextGrantPk ≤ fresh.id := by
  have thinned : ∀ after : Store K, Thins now store after →
      ∀ fresh ∈ after.grants, (∃ old ∈ store.grants, Wanes now old fresh) ∨ store.nextGrantPk ≤ fresh.id :=
    fun after thins fresh member => Or.inl (thins fresh member)
  cases event with
  | create checks cert req loaded pending proposal grantId readings =>
      rcases locked_create_cases checks cert req loaded pending proposal grantId readings.read store with
        refused | ⟨cbsd, _, _, added⟩
      · rw [step, refused]
        exact thinned store (thins_refl now store)
      · rw [step, added]
        intro fresh member
        rcases List.mem_append.mp member with before | new
        · exact Or.inl ⟨fresh, before, wanes_refl now fresh⟩
        · rw [List.mem_singleton.mp new]
          exact Or.inr le_rfl
  | heartbeat checks cert req readings =>
      refine thinned _ ?_
      simp only [step, heartbeatItem]
      split
      · exact thins_refl now store
      · split
        · exact thins_refl now store
        · rename_i cbsd _
          split
          · exact thins_refl now store
          · split
            · exact thins_refl now store
            · rename_i grant found
              exact put_grant_thins now store grant _ (List.mem_of_find?_eq_some found)
                (heartbeat_wanes checks readings.read req cbsd now grant (begins.trans (readings.monotone 0 3 (Nat.zero_le 3))))
  | relinquish cert cbsdId grantId readings =>
      refine thinned _ ?_
      simp only [step, relinquishmentItem]
      split
      · exact thins_refl now store
      · split
        · exact thins_refl now store
        · split
          · exact thins_refl now store
          · split
            · exact thins_refl now store
            · rename_i grant found
              split
              · exact thins_refl now store
              · split
                · exact put_grant_thins now store grant _ (List.mem_of_find?_eq_some found)
                    (event_wanes now grant .relinquish _ _)
                · exact thins_refl now store
  | deregister cert cbsdId readings => exact thinned _ (deregister_thins now cert readings.read cbsdId store)
  | register validated cert req readings => exact thinned _ (register_thins now validated cert readings.read req store)
  | cpasApply decisions readings => exact thinned _ (apply_decisions_thin now readings.read decisions 0 store)

theorem well_timed_cons (event : Event K) (rest : List (Event K)) (timed : WellTimed now (event :: rest)) :
    now ≤ event.readings.read 0 ∧ WellTimed now rest := by
  refine ⟨timed.1, ?_⟩
  cases rest with
  | nil => trivial
  | cons next others =>
      exact ⟨(timed.1.trans (event.readings.bounded 0)).trans timed.2.1, timed.2.2⟩

theorem run_thins (events : List (Event K)) (store : Store K) (timed : WellTimed now events) (sound : StoreSound store) :
    ∀ fresh ∈ (run events store).grants, (∃ old ∈ store.grants, Wanes now old fresh) ∨ store.nextGrantPk ≤ fresh.id := by
  induction events generalizing store with
  | nil => exact fun fresh member => Or.inl ⟨fresh, member, wanes_refl now fresh⟩
  | cons event rest ih =>
      obtain ⟨begins, later⟩ := well_timed_cons now event rest timed
      obtain ⟨stepSound, descends⟩ := step_sound event store sound
      intro fresh member
      rcases ih (step event store) later stepSound fresh member with ⟨middle, middleMember, waned⟩ | newer
      · rcases step_thins now event store begins middle middleMember with ⟨old, oldMember, before⟩ | newer
        · exact Or.inl ⟨old, oldMember, wanes_trans now old middle fresh before waned⟩
        · exact Or.inr (newer.trans (le_of_eq waned.id.symm))
      · exact Or.inr (descends.next.trans newer)

-- Over every run no grant gains power, changes its names or comes back once it has ended or its time is over.
theorem grants_only_wane (earlier : List (Event K)) (later : List (Event K)) (timed : WellTimed now later) (old fresh : Grant K)
    (member : old ∈ (run earlier Store.empty).grants) (freshMember : fresh ∈ (run later (run earlier Store.empty)).grants)
    (same : fresh.id = old.id) : Wanes now old fresh := by
  have sound := (run_sound earlier Store.empty empty_sound).1
  rcases run_thins now later _ timed sound fresh freshMember with ⟨origin, originMember, waned⟩ | newer
  · have sameRow : origin = old := List.inj_on_of_nodup_map sound.keys originMember member (waned.id.symm.trans same)
    exact sameRow ▸ waned
  · have older := sound.fresh old member
    omega

end Stores

-- A grant that a CPAS brings down from 10 to 5 dBm/MHz.
def waningCbsd : Cbsd Rat := ⟨0, "fcc/sn", "fcc", "user", "sn", some "A", none, some .registered, ⟨some "A", none, []⟩⟩

def grantingEvents : List (Event Rat) :=
  [.create openGrantChecks none sampleRequest (some waningCbsd) [] sampleProposal "grant/1" (readingsAt 0)]

def loweringEvents : List (Event Rat) :=
  [.cpasApply [⟨some 0, "grant/1", "fcc/sn", .reducePower, some 5, "iap", ""⟩] (readingsAt 1000000)]

theorem grants_only_wane_lowered : ∃ old fresh : Grant Rat, old.maxEirp = some 10 ∧ fresh.maxEirp = some 5 ∧ Wanes 1000000 old fresh := by
  have granted : ((run grantingEvents Store.empty).grants.map fun grant => (grant.id, grant.maxEirp)) = [(0, some 10)] := by
    decide +kernel
  have lowered : ((run loweringEvents (run grantingEvents Store.empty)).grants.map fun grant => (grant.id, grant.maxEirp)) =
      [(0, some 5)] := by
    decide +kernel
  obtain ⟨old, member, isOld⟩ := List.mem_map.mp (granted ▸ List.mem_singleton_self _)
  obtain ⟨fresh, freshMember, isFresh⟩ := List.mem_map.mp (lowered ▸ List.mem_singleton_self _)
  rw [Prod.mk.injEq] at isOld isFresh
  refine ⟨old, fresh, isOld.2, isFresh.2, ?_⟩
  exact grants_only_wane 1000000 grantingEvents loweringEvents ⟨le_rfl, trivial⟩ old fresh member freshMember
    (isFresh.1.trans isOld.1.symm)

end SasCore.Registry
