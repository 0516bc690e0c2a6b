import SasCore.Registry.Operations
import Mathlib.Algebra.Order.Ring.Rat

set_option autoImplicit false
set_option linter.unusedSectionVars false

namespace SasCore.Registry

variable {K : Type} [Field K] [LinearOrder K]

def Grant.Dead (grant : Grant K) : Prop :=
  grant.lifecycleState = some .terminated ∨ grant.lifecycleState = some .expired ∨
    grant.lifecycleState = some .relinquished

theorem dead_iff_column (grant : Grant K) : grant.Dead ↔ grant.terminalColumn = true := by
  unfold Grant.Dead Grant.terminalColumn
  cases column : grant.lifecycleState with
  | none => simp
  | some state => cases state <;> simp [GrantState.terminal]

theorem nodup_key_eq (grants : List (Grant K)) (keys : (grants.map Grant.id).Nodup) (a b : Grant K)
    (aMember : a ∈ grants) (bMember : b ∈ grants) (same : a.id = b.id) : a = b :=
  List.inj_on_of_nodup_map keys aMember bMember same

theorem dead_stays_dead (store after : Store K) (sound : StoreSound store) (descends : Descends store after)
    (grant fresh : Grant K) (member : grant ∈ store.grants) (freshMember : fresh ∈ after.grants)
    (same : fresh.id = grant.id) (dead : grant.Dead) : fresh.Dead := by
  rcases descends.rows fresh freshMember with ⟨old, oldMember, advances⟩ | newer
  · have identical := nodup_key_eq store.grants sound.keys grant old member oldMember (same.symm.trans advances.id)
    rw [identical] at dead
    exact (dead_iff_column fresh).mpr (advances.dead ((dead_iff_column old).mp dead))
  · have older := sound.fresh grant member
    omega

theorem heartbeat_item_dead (checks : HeartbeatChecks K) (certificateHash : Option String) (req : HeartbeatRequest)
    (readings : Readings) (store : Store K) (now : Int) (sound : StoreSound store) (past : ExpiriesPast now store)
    (begins : now ≤ readings.read 0) (grant : Grant K)
    (found : store.findGrant req.grantId req.cbsdId = some grant) (dead : grant.Dead) :
    (heartbeatItem checks certificateHash readings.read req store).2.responseCode ≠ success ∧
      ∀ fresh ∈ (heartbeatItem checks certificateHash readings.read req store).1.grants, fresh.id = grant.id →
        fresh.grantExpireTime = grant.grantExpireTime := by
  have member := List.mem_of_find?_eq_some found
  have unchanged : ∀ fresh ∈ store.grants, fresh.id = grant.id → fresh.grantExpireTime = grant.grantExpireTime := by
    intro fresh freshMember same
    rw [nodup_key_eq store.grants sound.keys fresh grant freshMember member same]
  unfold heartbeatItem
  split
  · exact ⟨by simp [base, missingParam, success], unchanged⟩
  · split
    · exact ⟨by simp [base, invalidParam, success], unchanged⟩
    · rename_i cbsd _
      split
      · exact ⟨by simp [base, invalidParam, success], unchanged⟩
      · rw [found]
        have keeps := heartbeat_grant_keeps checks readings.read req cbsd grant now readings.finish (readings.bounded 3)
        obtain ⟨code, expiry⟩ := heartbeat_grant_dead checks readings.read req cbsd grant now (past grant member) begins
          readings.monotone ((dead_iff_column grant).mp dead)
        refine ⟨code, ?_⟩
        intro fresh freshMember same
        obtain ⟨row, rowMember, written⟩ := List.mem_map.mp freshMember
        by_cases here : row.id = (heartbeatGrant checks readings.read req cbsd grant).1.id
        · rw [if_pos here] at written
          rw [← written]
          exact expiry
        · rw [if_neg here] at written
          rw [keeps.advances.id] at here
          rw [← written] at same ⊢
          exact absurd same here

theorem lifecycle_invariant (start : Int) (operations later : List (Operation K))
    (ordered : InOrder start (clockOf (operations ++ later))) :
    (∀ grant ∈ (performAll operations Store.empty).grants, grant.terminated = true ↔ grant.Dead) ∧
    (∀ grant ∈ (performAll operations Store.empty).grants, grant.Dead →
      ∀ fresh ∈ (performAll later (performAll operations Store.empty)).grants, fresh.id = grant.id → fresh.Dead) ∧
    (∀ (checks : HeartbeatChecks K) (certificateHash : Option String) (req : HeartbeatRequest) (readings : Readings)
      (grant : Grant K), endOf start (clockOf operations) ≤ readings.read 0 →
      (performAll operations Store.empty).findGrant req.grantId req.cbsdId = some grant → grant.Dead →
      (heartbeatItem checks certificateHash readings.read req (performAll operations Store.empty)).2.responseCode ≠
          success ∧
        ∀ fresh ∈ (heartbeatItem checks certificateHash readings.read req (performAll operations Store.empty)).1.grants,
          fresh.id = grant.id → fresh.grantExpireTime = grant.grantExpireTime) := by
  rw [clockOf, List.flatMap_append] at ordered
  obtain ⟨first, second⟩ := in_order_append start _ _ ordered
  obtain ⟨events, same, timed, ends⟩ := perform_all_runs operations Store.empty start first
  obtain ⟨laterEvents, laterSame, _, _⟩ := perform_all_runs later (performAll operations Store.empty) _ second
  have sound := (run_sound events Store.empty empty_sound).1
  have past := run_expiries events Store.empty start timed (fun _ member => (by cases member))
  rw [same] at sound past
  refine ⟨?_, ?_, ?_⟩
  · intro grant member
    rw [dead_iff_column, sound.sync grant member]
  · intro grant member dead fresh freshMember sameKey
    have descends := (run_sound laterEvents (performAll operations Store.empty) sound).2
    rw [laterSame] at descends
    exact dead_stays_dead _ _ sound descends grant fresh member freshMember sameKey dead
  · intro checks certificateHash req readings grant begins found dead
    exact heartbeat_item_dead checks certificateHash req readings _ _ sound past (ends.trans begins) grant found dead

def readingsAt (t : Int) : Readings := ⟨fun _ => t, t, fun _ _ _ => le_refl t, fun _ => le_refl t⟩

-- Protection data that never objects.
def openGrantChecks : GrantChecks Rat where
  askMeas := false
  measError := fun _ => none
  blacklisted := fun _ => false
  fccMaxEirp := fun _ => none
  resolveChannel := fun _ _ _ => .ok ⟨.gaa, none, none⟩
  exclusionZone := fun _ _ _ _ => .ok false
  gwpz := fun _ _ _ _ => .ok false
  quietZone := fun _ _ _ _ _ => false
  fssGwbl := fun _ _ _ _ => false
  dpa := fun _ _ _ _ _ => false
  canadianBorder := fun _ _ _ _ => false
  peerHasGrant := fun _ => false
  iap := fun _ _ _ _ _ => false
  txHorizonSec := fun _ _ _ => 240
  stamp := ⟨0, 0, 0, 0⟩

def openHeartbeatChecks : HeartbeatChecks Rat where
  askMeas := false
  blacklisted := fun _ => false
  peerHasGrant := fun _ => false
  overlapsActiveDpa := fun _ => false
  federalCode := fun _ _ => none
  overlapsWisp := fun _ => false
  measError := fun _ => none
  txHorizonSec := fun _ _ => 240
  pals := []
  stamp := ⟨0, 0, 0, 0⟩

def sampleRequest : GrantRequest Rat :=
  ⟨"fcc/sn", some ⟨.given 10, some (.given 3550000000, .given 3560000000)⟩⟩

-- A grant that is heartbeated once within its time and once after it.
def sampleOperations : List (Operation Rat) :=
  [.registration none [⟨.ok ⟨some "A", none, []⟩, ⟨"fcc", "sn", "user"⟩, readingsAt 0⟩],
    .grant none [⟨openGrantChecks, sampleRequest, "grant/1", readingsAt 1000000⟩],
    .heartbeat none [⟨openHeartbeatChecks, ⟨"fcc/sn", "grant/1", "GRANTED", false⟩, readingsAt 2000000⟩],
    .heartbeat none [⟨openHeartbeatChecks, ⟨"fcc/sn", "grant/1", "AUTHORIZED", true⟩, readingsAt 2000000000⟩]]

theorem lifecycle_invariant_sample :
    List.Forall (fun grant : Grant Rat => grant.terminated = true ↔ grant.Dead)
      (performAll sampleOperations Store.empty).grants :=
  List.forall_iff_forall_mem.mpr (lifecycle_invariant 0 sampleOperations [] (by decide +kernel)).1

example : ((performAll sampleOperations Store.empty).grants.map (·.lifecycleState)) = [some .expired] := by decide +kernel

end SasCore.Registry
