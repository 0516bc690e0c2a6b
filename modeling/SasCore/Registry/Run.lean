import SasCore.Registry.RowInvariant

set_option autoImplicit false
set_option linter.unusedSectionVars false

namespace SasCore.Registry

variable {K : Type} [Field K] [LinearOrder K]

-- The readings an item takes of a clock that never goes back, up to the moment it ends.
structure Readings where
  read : Clock
  finish : Int
  monotone : ∀ first later, first ≤ later → read first ≤ read later
  bounded : ∀ n, read n ≤ finish

-- The sections between taking a CBSD lock and the commit, and a CPAS apply. `create` is the locked
-- section of process_grant, whatever the session has loaded and decided before it.
inductive Event (K : Type) where
  | create (checks : GrantChecks K) (certificateHash : Option String) (req : GrantRequest K) (loaded : Option (Cbsd K))
      (pending : List FrequencyRange) (proposal : Proposal K) (grantId : String) (readings : Readings)
  | heartbeat (checks : HeartbeatChecks K) (certificateHash : Option String) (req : HeartbeatRequest)
      (readings : Readings)
  | relinquish (certificateHash : Option String) (cbsdId grantId : String) (readings : Readings)
  | deregister (certificateHash : Option String) (cbsdId : String) (readings : Readings)
  | register (validated : Except Nat (Registration K)) (certificateHash : Option String) (req : RegistrationRequest)
      (readings : Readings)
  | cpasApply (decisions : List (CpasDecision K)) (readings : Readings)

def Event.readings : Event K → Readings
  | .create _ _ _ _ _ _ _ readings => readings
  | .heartbeat _ _ _ readings => readings
  | .relinquish _ _ _ readings => readings
  | .deregister _ _ readings => readings
  | .register _ _ _ readings => readings
  | .cpasApply _ readings => readings

def step (event : Event K) (store : Store K) : Store K :=
  match event with
  | .create checks cert req loaded pending proposal grantId readings =>
      (lockedCreate checks cert req loaded pending proposal grantId readings.read store).1
  | .heartbeat checks cert req readings => (heartbeatItem checks cert readings.read req store).1
  | .relinquish cert cbsdId grantId readings => (relinquishmentItem cert readings.read cbsdId grantId store).1
  | .deregister cert cbsdId readings => (deregistrationItem cert readings.read cbsdId store).1
  | .register validated cert req readings => (registrationItem validated cert readings.read req store).1
  | .cpasApply decisions readings => (applyCpasDecisions readings.read decisions 0 store).1

def run (events : List (Event K)) (store : Store K) : Store K := events.foldl (fun current event => step event current) store

-- The clock readings of a run do not decrease.
def WellTimed : Int → List (Event K) → Prop
  | _, [] => True
  | now, event :: rest => now ≤ event.readings.read 0 ∧ WellTimed event.readings.finish rest

def finishTime (now : Int) (events : List (Event K)) : Int := events.foldl (fun _ event => event.readings.finish) now

-- What holds of every reachable store, whatever the clock does.
structure StoreSound (store : Store K) : Prop where
  sync : ∀ grant ∈ store.grants, grant.InSync
  keys : (store.grants.map Grant.id).Nodup
  fresh : ∀ grant ∈ store.grants, grant.id < store.nextGrantPk

def ExpiriesPast (now : Int) (store : Store K) : Prop := ∀ grant ∈ store.grants, grant.ExpiredPast now

-- Every row left behind comes from a row that was there.
structure Inherits (now finish : Int) (store after : Store K) : Prop where
  rows : ∀ fresh ∈ after.grants, ∃ old ∈ store.grants, KeepsRow now finish old fresh
  keys : (after.grants.map Grant.id).Sublist (store.grants.map Grant.id)
  next : after.nextGrantPk = store.nextGrantPk

-- The one other thing an event can do: add a live grant that meets no live grant of its CBSD.
structure Creates (store after : Store K) (row : Grant K) : Prop where
  added : after = store.addGrant row
  granted : row.lifecycleState = some .granted
  live : row.terminated = false
  ordered : row.lowFrequency < row.highFrequency
  separate : ∀ grant ∈ store.grants, grant.cbsdId = row.cbsdId → grant.terminated = false →
    overlapsHz grant.lowFrequency grant.highFrequency row.lowFrequency row.highFrequency = false

section Inheritance

variable (now finish : Int)

theorem inherits_refl (store : Store K) : Inherits now finish store store :=
  ⟨fun grant member => ⟨grant, member, keeps_row_refl now finish grant⟩, List.Sublist.refl _, rfl⟩

theorem inherits_sound (store after : Store K) (sound : StoreSound store) (inherits : Inherits now finish store after) :
    StoreSound after := by
  refine ⟨?_, sound.keys.sublist inherits.keys, ?_⟩
  · intro fresh member
    obtain ⟨old, oldMember, keeps⟩ := inherits.rows fresh member
    exact keeps.sync (sound.sync old oldMember)
  · intro fresh member
    obtain ⟨old, oldMember, keeps⟩ := inherits.rows fresh member
    rw [inherits.next, keeps.advances.id]
    exact sound.fresh old oldMember

theorem inherits_trans (first second third : Store K) (one : Inherits now finish first second)
    (two : Inherits finish finish second third) : Inherits now finish first third := by
  refine ⟨?_, two.keys.trans one.keys, two.next.trans one.next⟩
  intro fresh member
  obtain ⟨mid, midMember, midKeeps⟩ := two.rows fresh member
  obtain ⟨old, oldMember, oldKeeps⟩ := one.rows mid midMember
  exact ⟨old, oldMember, keeps_row_same_time now finish old mid fresh oldKeeps midKeeps⟩

theorem put_grant_inherits (store : Store K) (old fresh : Grant K) (member : old ∈ store.grants)
    (keeps : KeepsRow now finish old fresh) : Inherits now finish store (store.putGrant fresh) := by
  refine ⟨?_, ?_, rfl⟩
  · intro row rowMember
    obtain ⟨grant, grantMember, same⟩ := List.mem_map.mp rowMember
    by_cases here : grant.id = fresh.id
    · rw [if_pos here] at same
      exact ⟨old, member, same ▸ keeps⟩
    · rw [if_neg here] at same
      exact ⟨grant, grantMember, same ▸ keeps_row_refl now finish grant⟩
  · have keys : (store.putGrant fresh).grants.map Grant.id = store.grants.map Grant.id := by
      simp only [Store.putGrant, List.map_map]
      refine List.map_congr_left fun grant _ => ?_
      simp only [Function.comp_apply]
      split
      · rename_i here
        exact here.symm
      · rfl
    rw [keys]

theorem map_grants_inherits (store : Store K) (cbsdId : String) (change : Grant K → Grant K)
    (keeps : ∀ grant, KeepsRow now finish grant (change grant)) :
    Inherits now finish store (store.mapGrantsOf cbsdId change) := by
  refine ⟨?_, ?_, rfl⟩
  · intro row rowMember
    obtain ⟨grant, grantMember, same⟩ := List.mem_map.mp rowMember
    refine ⟨grant, grantMember, ?_⟩
    rw [← same]
    split
    · exact keeps grant
    · exact keeps_row_refl now finish grant
  · have keys : (store.mapGrantsOf cbsdId change).grants.map Grant.id = store.grants.map Grant.id := by
      simp only [Store.mapGrantsOf, List.map_map]
      refine List.map_congr_left fun grant _ => ?_
      simp only [Function.comp_apply]
      split
      · exact (keeps grant).advances.id
      · rfl
    rw [keys]

theorem delete_cbsd_inherits (store : Store K) (pk : Nat) : Inherits now finish store (store.deleteCbsd pk) := by
  refine ⟨?_, List.filter_sublist.map _, rfl⟩
  intro row member
  exact ⟨row, List.mem_of_mem_filter member, keeps_row_refl now finish row⟩

theorem terminate_row_keeps (clock : Clock) (cbsdId : String) (grant : Grant K) :
    KeepsRow now finish grant (terminateRow clock cbsdId grant) :=
  keeps_event grant .terminate _ _ now finish (fun kind => by cases kind)

theorem terminate_grants_inherits (clock : Clock) (cbsdId : String) (store : Store K) :
    Inherits now finish store (terminateGrants clock cbsdId store) := by
  refine map_grants_inherits now finish store cbsdId _ fun grant => ?_
  split
  · exact keeps_row_refl now finish grant
  · exact terminate_row_keeps now finish clock cbsdId grant

theorem apply_decision_inherits (decision : CpasDecision K) (reading : Int) (store : Store K) :
    Inherits now finish store (applyDecision decision reading store).1 := by
  have same := inherits_refl now finish store
  unfold applyDecision
  split
  · exact same
  · rename_i pk _
    split
    · exact same
    · rename_i grant found
      split
      · exact same
      · have member : grant ∈ store.grants := by
          unfold decisionRow at found
          split at found
          · rename_i byId
            split at found
            · rw [← Option.some.inj found]
              exact List.mem_of_find?_eq_some byId
            · exact List.mem_of_find?_eq_some found
          · exact List.mem_of_find?_eq_some found
        exact put_grant_inherits now finish store grant _ member (decide_grant_keeps decision reading now finish grant)

end Inheritance

theorem apply_decisions_inherits (now finish : Int) (clock : Clock) (decisions : List (CpasDecision K)) (n : Nat)
    (store : Store K) : Inherits now finish store (applyCpasDecisions clock decisions n store).1 := by
  induction decisions generalizing now n store with
  | nil => exact inherits_refl now finish store
  | cons decision rest ih =>
      have first := apply_decision_inherits now finish decision (clock n) store
      have later := ih finish (n + 1) (applyDecision decision (clock n) store).1
      exact inherits_trans now finish store _ _ first later

-- What an event can do, for all of them at once.
theorem step_cases (event : Event K) (store : Store K) (now : Int) :
    Inherits now event.readings.finish store (step event store) ∨ ∃ row, Creates store (step event store) row := by
  have same := inherits_refl now event.readings.finish store
  cases event with
  | create checks cert req loaded pending proposal grantId readings =>
      rcases locked_create_cases checks cert req loaded pending proposal grantId readings.read store with
        refused | ⟨cbsd, _, noConflict, added⟩
      · rw [step, refused]
        exact Or.inl same
      · rw [step, added]
        exact Or.inr ⟨_, rfl, rfl, rfl, proposal.range.ordered,
          no_conflict_apart store req.cbsdId proposal.range.low proposal.range.high pending noConflict⟩
  | heartbeat checks cert req readings =>
      simp only [step, heartbeatItem]
      split
      · exact Or.inl same
      · split
        · exact Or.inl same
        · rename_i cbsd _
          split
          · exact Or.inl same
          · split
            · exact Or.inl same
            · rename_i grant found
              exact Or.inl (put_grant_inherits now readings.finish store grant _ (List.mem_of_find?_eq_some found)
                (heartbeat_grant_keeps checks readings.read req cbsd grant now readings.finish (readings.bounded 3)))
  | relinquish cert cbsdId grantId readings =>
      simp only [step, relinquishmentItem]
      split
      · exact Or.inl same
      · split
        · exact Or.inl same
        · split
          · exact Or.inl same
          · split
            · exact Or.inl same
            · rename_i grant found
              split
              · exact Or.inl same
              · split
                · exact Or.inl (put_grant_inherits now readings.finish store grant _ (List.mem_of_find?_eq_some found)
                    (keeps_event grant .relinquish _ _ now readings.finish (fun kind => by cases kind)))
                · exact Or.inl same
  | deregister cert cbsdId readings =>
      simp only [step, deregistrationItem]
      split
      · exact Or.inl same
      · split
        · exact Or.inl same
        · rename_i cbsd _
          split
          · exact Or.inl same
          · split
            · have terminated := map_grants_inherits now readings.finish store cbsdId (terminateRow readings.read cbsdId)
                (terminate_row_keeps now readings.finish readings.read cbsdId)
              exact Or.inl (inherits_trans now readings.finish store _ _ terminated
                (delete_cbsd_inherits readings.finish readings.finish _ cbsd.id))
            · exact Or.inl same
  | register validated cert req readings =>
      simp only [step, registrationItem]
      split
      · exact Or.inl same
      · rename_i merged
        split
        · rename_i existing _
          split
          · exact Or.inl same
          · split
            · have terminated := terminate_grants_inherits now readings.finish readings.read
                (makeCbsdId req.fccId req.cbsdSerialNumber) (store.putCbsd (reregisteredRow existing req merged cert))
              exact Or.inl ⟨terminated.rows, terminated.keys, terminated.next⟩
            · exact Or.inl same
        · split
          · exact Or.inl same
          · split
            · exact Or.inl same
            · exact Or.inl ⟨same.rows, same.keys, rfl⟩
  | cpasApply decisions readings =>
      exact Or.inl (apply_decisions_inherits now readings.finish readings.read decisions 0 store)

-- Later rows come from earlier ones, or were created in between under a new key.
structure Descends (store after : Store K) : Prop where
  next : store.nextGrantPk ≤ after.nextGrantPk
  rows : ∀ fresh ∈ after.grants, (∃ old ∈ store.grants, old.Advances fresh) ∨ store.nextGrantPk ≤ fresh.id

theorem descends_refl (store : Store K) : Descends store store :=
  ⟨le_refl _, fun grant member => Or.inl ⟨grant, member, advances_refl grant⟩⟩

theorem descends_trans (first second third : Store K) (one : Descends first second) (two : Descends second third) :
    Descends first third := by
  refine ⟨one.next.trans two.next, ?_⟩
  intro fresh member
  rcases two.rows fresh member with ⟨mid, midMember, midAdvances⟩ | newer
  · rcases one.rows mid midMember with ⟨old, oldMember, oldAdvances⟩ | newer
    · exact Or.inl ⟨old, oldMember, advances_trans old mid fresh oldAdvances midAdvances⟩
    · exact Or.inr (newer.trans (le_of_eq midAdvances.id.symm))
  · exact Or.inr (one.next.trans newer)

theorem creates_sound (store after : Store K) (row : Grant K) (sound : StoreSound store)
    (creates : Creates store after row) : StoreSound after := by
  obtain ⟨added, granted, live, _, _⟩ := creates
  subst added
  refine ⟨?_, ?_, ?_⟩
  · intro grant member
    rcases List.mem_append.mp member with before | new
    · exact sound.sync grant before
    · rw [List.mem_singleton.mp new]
      simp [Grant.InSync, Grant.terminalColumn, granted, live, GrantState.terminal]
  · simp only [Store.addGrant, List.map_append, List.map_cons, List.map_nil]
    refine sound.keys.append (List.nodup_singleton _) ?_
    intro key inStore isNew
    obtain ⟨grant, member, same⟩ := List.mem_map.mp inStore
    have less := sound.fresh grant member
    rw [same, List.mem_singleton.mp isNew] at less
    exact absurd less (lt_irrefl _)
  · intro grant member
    rcases List.mem_append.mp member with before | new
    · exact (sound.fresh grant before).trans (Nat.lt_succ_self _)
    · rw [List.mem_singleton.mp new]
      exact Nat.lt_succ_self _

theorem step_sound (event : Event K) (store : Store K) (sound : StoreSound store) :
    StoreSound (step event store) ∧ Descends store (step event store) := by
  rcases step_cases event store event.readings.finish with inherits | ⟨row, creates⟩
  · refine ⟨inherits_sound _ _ store _ sound inherits, le_of_eq inherits.next.symm, ?_⟩
    intro fresh member
    obtain ⟨old, oldMember, keeps⟩ := inherits.rows fresh member
    exact Or.inl ⟨old, oldMember, keeps.advances⟩
  · refine ⟨creates_sound store _ row sound creates, ?_⟩
    rw [creates.added]
    refine ⟨Nat.le_succ _, ?_⟩
    intro fresh member
    rcases List.mem_append.mp member with before | new
    · exact Or.inl ⟨fresh, before, advances_refl fresh⟩
    · rw [List.mem_singleton.mp new]
      exact Or.inr (le_refl _)

theorem run_sound (events : List (Event K)) (store : Store K) (sound : StoreSound store) :
    StoreSound (run events store) ∧ Descends store (run events store) := by
  induction events generalizing store with
  | nil => exact ⟨sound, descends_refl store⟩
  | cons event rest ih =>
      obtain ⟨stepSound, stepDescends⟩ := step_sound event store sound
      obtain ⟨runSound, runDescends⟩ := ih (step event store) stepSound
      exact ⟨runSound, descends_trans store _ _ stepDescends runDescends⟩

theorem empty_sound : StoreSound (Store.empty : Store K) :=
  ⟨fun _ member => (by cases member), List.nodup_nil, fun _ member => (by cases member)⟩

theorem step_expiries (event : Event K) (store : Store K) (now : Int) (begins : now ≤ event.readings.read 0)
    (past : ExpiriesPast now store) : ExpiriesPast event.readings.finish (step event store) := by
  have le : now ≤ event.readings.finish := begins.trans (event.readings.bounded 0)
  intro fresh member
  rcases step_cases event store now with inherits | ⟨row, creates⟩
  · obtain ⟨old, oldMember, keeps⟩ := inherits.rows fresh member
    exact keeps.expiry le (past old oldMember)
  · rw [creates.added] at member
    rcases List.mem_append.mp member with before | new
    · exact expired_past_later fresh now _ le (past fresh before)
    · rw [List.mem_singleton.mp new]
      intro expired
      simp [creates.granted] at expired

theorem run_expiries (events : List (Event K)) (store : Store K) (now : Int) (timed : WellTimed now events)
    (past : ExpiriesPast now store) : ExpiriesPast (finishTime now events) (run events store) := by
  induction events generalizing store now with
  | nil => exact past
  | cons event rest ih =>
      exact ih (step event store) event.readings.finish timed.2 (step_expiries event store now timed.1 past)

end SasCore.Registry
