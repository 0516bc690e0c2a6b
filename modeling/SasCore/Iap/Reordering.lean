import SasCore.Iap.Safety
import SasCore.Iap.MergeOrder
import Mathlib.Logic.Function.Iterate

set_option autoImplicit false
set_option linter.unusedSectionVars false

namespace SasCore.Iap

variable {K : Type} [Field K] [LinearOrder K] [IsStrictOrderedRing K]

section Effects

variable (coupling : InterferenceCoupling K) (point : ProtectionPoint K) (cfg : IapEngineConfig K)

def lockedOut (slot : NeighborSlot K) : NeighborSlot K := if pendingLock slot then { slot with removed := true } else slot

def lockEffect (slot : NeighborSlot K) (ledger : Ledger K) : Ledger K :=
  if pendingLock slot then ⟨ledger.channels.map (releaseFor coupling point slot), ledger.numUnsatisfied - 1⟩ else ledger

theorem lock_slot_parts (slot : NeighborSlot K) (ledger : Ledger K)
    (present : pendingLock slot = true → ∀ entry ∈ layout ledger, slot.overlaps point entry.1 = true →
      slot.lockedInterf entry.2 = some (slot.interf coupling point entry.1)) :
    lockSlot coupling point slot ledger = (lockedOut slot, lockEffect coupling point slot ledger) := by
  by_cases pending : pendingLock slot = true
  · have entries : ∀ ch ∈ ledger.channels, slot.overlaps point ch.channel = true →
        slot.lockedInterf ch.chIdx = some (slot.interf coupling point ch.channel) :=
      fun ch member => present pending (ch.channel, ch.chIdx) (List.mem_map_of_mem member)
    rw [lockSlot, if_pos pending, lock_channels_present coupling point slot ledger.channels entries, lockedOut, lockEffect,
      if_pos pending, if_pos pending]
  · rw [lockSlot, lockedOut, lockEffect, if_neg pending, if_neg pending, if_neg pending]

theorem lock_effect_layout (slot : NeighborSlot K) (ledger : Ledger K) :
    layout (lockEffect coupling point slot ledger) = layout ledger := by
  rw [lockEffect]
  split
  · simp only [layout, List.map_map]
    refine List.map_congr_left fun ch _ => ?_
    obtain ⟨channelEq, idxEq⟩ := release_for_place coupling point slot ch
    simp only [Function.comp_apply, channelEq, idxEq]
  · rfl

-- Updates of the channels where a grant overlaps commute where the updates themselves do.
theorem overlap_commute (on other : FrequencyChannel → Bool) (first second : ChannelSlot K → ChannelSlot K)
    (firstPlace : ∀ ch, (first ch).channel = ch.channel) (secondPlace : ∀ ch, (second ch).channel = ch.channel)
    (ch : ChannelSlot K) (both : second (first ch) = first (second ch)) :
    (fun c => if other c.channel then second c else c) (if on ch.channel then first ch else ch) =
      (fun c => if on c.channel then first c else c) (if other ch.channel then second ch else ch) := by
  by_cases one : on ch.channel = true
  · by_cases two : other ch.channel = true
    · simp only [one, two, if_true, firstPlace, secondPlace, both]
    · simp only [one, two, if_true, firstPlace, Bool.false_eq_true, if_false]
  · by_cases two : other ch.channel = true
    · simp only [one, two, if_true, secondPlace, Bool.false_eq_true, if_false]
    · simp only [one, two, Bool.false_eq_true, if_false]

theorem release_for_commute (one other : NeighborSlot K) (ch : ChannelSlot K) :
    releaseFor coupling point other (releaseFor coupling point one ch) =
      releaseFor coupling point one (releaseFor coupling point other ch) := by
  refine overlap_commute (one.overlaps point) (other.overlaps point)
    (fun c => c.release (one.interf coupling point c.channel)) (fun c => c.release (other.interf coupling point c.channel))
    (fun _ => rfl) (fun _ => rfl) ch ?_
  have swapped : ch.iapThreshold - one.interf coupling point ch.channel - other.interf coupling point ch.channel =
      ch.iapThreshold - other.interf coupling point ch.channel - one.interf coupling point ch.channel := by ring
  simp only [ChannelSlot.release, ChannelSlot.leave, swapped]

theorem lock_effect_commute (one other : NeighborSlot K) (ledger : Ledger K) :
    lockEffect coupling point other (lockEffect coupling point one ledger) =
      lockEffect coupling point one (lockEffect coupling point other ledger) := by
  simp only [lockEffect]
  split
  · split
    · simp only [List.map_map]
      congr 1
      exact List.map_congr_left fun ch _ => release_for_commute coupling point one other ch
    · rfl
  · rfl

def droppedOut (slot : NeighborSlot K) : NeighborSlot K := (dropSlot point cfg slot ⟨[], 0⟩).1

-- Whether the drop takes the grant below the floor.
def dropsOut (slot : NeighborSlot K) : Bool :=
  !(slot.removed || slot.satisfied) && decide (slot.eirp - cfg.eirpStepDb < cfg.eirpFloorDbmMhz)

def dropEffect (slot : NeighborSlot K) (ledger : Ledger K) : Ledger K :=
  if dropsOut cfg slot then ⟨ledger.channels.map (leaveFor point slot), ledger.numUnsatisfied - 1⟩ else ledger

theorem drop_slot_parts (slot : NeighborSlot K) (ledger : Ledger K) :
    dropSlot point cfg slot ledger = (droppedOut point cfg slot, dropEffect point cfg slot ledger) := by
  rw [droppedOut, dropEffect, dropsOut]
  by_cases still : (slot.removed || slot.satisfied) = true
  · rw [dropSlot, if_pos still, dropSlot, if_pos still, still]
    rfl
  · by_cases below : slot.eirp - cfg.eirpStepDb < cfg.eirpFloorDbmMhz
    · simp only [dropSlot, still, below, if_true, Bool.false_eq_true, if_false, Bool.not_false, Bool.true_and, decide_true]
      rfl
    · simp only [dropSlot, still, below, Bool.false_eq_true, if_false, decide_false, Bool.and_false]

theorem leave_for_commute (one other : NeighborSlot K) (ch : ChannelSlot K) :
    leaveFor point other (leaveFor point one ch) = leaveFor point one (leaveFor point other ch) :=
  overlap_commute (one.overlaps point) (other.overlaps point) ChannelSlot.leave ChannelSlot.leave (fun _ => rfl)
    (fun _ => rfl) ch rfl

theorem drop_effect_commute (one other : NeighborSlot K) (ledger : Ledger K) :
    dropEffect point cfg other (dropEffect point cfg one ledger) =
      dropEffect point cfg one (dropEffect point cfg other ledger) := by
  simp only [dropEffect]
  split
  · split
    · simp only [List.map_map]
      congr 1
      exact List.map_congr_left fun ch _ => leave_for_commute point one other ch
    · rfl
  · rfl

end Effects

section Rounds

variable (coupling : InterferenceCoupling K) (point : ProtectionPoint K) (cfg : IapEngineConfig K)

-- Some grant is below its share on all of its channels in this round.
def locksIn (state : EngineState K) : Bool :=
  (state.slots.map (checkSlot coupling point state.ledger.channels)).any pendingLock

def roundSlot (state : EngineState K) (slot : NeighborSlot K) : NeighborSlot K :=
  if locksIn coupling point state then lockedOut (checkSlot coupling point state.ledger.channels slot)
  else droppedOut point cfg (checkSlot coupling point state.ledger.channels slot)

-- A round rewrites every grant by itself.
theorem iap_round_slots (state : EngineState K) (thresholdMw : K) (between : BetweenRounds coupling point thresholdMw state) :
    (iapRound coupling point cfg state).slots = state.slots.map (roundSlot coupling point cfg state) := by
  have checked := check_phase_sound coupling point state thresholdMw between
  have locked := Sweep.sweep_parts (lockSlot coupling point) lockedOut (lockEffect coupling point)
    (fun ledger => layout ledger = layout state.ledger) _
    (fun slot ledger kept => (lock_effect_layout coupling point slot ledger).trans kept)
    (fun slot among ledger kept => lock_slot_parts coupling point slot ledger fun pending entry member overlap => by
      rw [kept] at member
      obtain ⟨ch, chMember, rfl⟩ := List.mem_map.mp member
      exact checked.locked slot among pending ch chMember overlap) state.ledger rfl
  have isLocks : (state.slots.map (checkSlot coupling point state.ledger.channels)).any pendingLock =
      locksIn coupling point state := rfl
  rw [iapRound, locked, isLocks]
  dsimp only
  cases pending : locksIn coupling point state with
  | true =>
      rw [if_pos rfl, List.map_map]
      exact List.map_congr_left fun slot _ => by rw [roundSlot, pending, if_pos rfl, Function.comp_apply]
  | false =>
      have dropped := Sweep.sweep_parts (dropSlot point cfg) (droppedOut point cfg) (dropEffect point cfg) (fun _ => True)
        ((state.slots.map (checkSlot coupling point state.ledger.channels)).map lockedOut) (fun _ _ _ => trivial)
        (fun slot _ ledger _ => drop_slot_parts point cfg slot ledger)
      rw [if_neg (by simp), dropped _ trivial, List.map_map, List.map_map]
      refine List.map_congr_left fun slot member => ?_
      have idle : pendingLock (checkSlot coupling point state.ledger.channels slot) = false := by
        simpa using List.any_eq_false.mp pending _ (List.mem_map_of_mem member)
      rw [roundSlot, pending, if_neg (by simp), Function.comp_apply, Function.comp_apply, lockedOut, idle, if_neg (by simp)]

theorem round_fixed (state : EngineState K) (gone : ∀ slot ∈ state.slots, slot.removed = true) :
    iapRound coupling point cfg state = state := by
  have checked : state.slots.map (checkSlot coupling point state.ledger.channels) = state.slots := by
    refine (List.map_congr_left fun slot member => ?_).trans (List.map_id _)
    rw [checkSlot, gone slot member, Bool.true_or, if_pos rfl]
    rfl
  have nothing : (state.slots.map (checkSlot coupling point state.ledger.channels)).any pendingLock = false := by
    rw [checked]
    refine List.any_eq_false.mpr fun slot member => ?_
    simp [pendingLock, gone slot member]
  have unlocked := Sweep.sweep_idle (lockSlot coupling point) state.slots state.ledger fun slot member ledger => by
    rw [lockSlot, if_neg (by simp [pendingLock, gone slot member])]
  have undropped := Sweep.sweep_idle (dropSlot point cfg) state.slots state.ledger fun slot member ledger => by
    rw [dropSlot, gone slot member, Bool.true_or, if_pos rfl]
  rw [iapRound, nothing, checked, unlocked]
  dsimp only
  rw [undropped]
  rfl

-- The test of the while loop only spares rounds that change nothing.
theorem loop_iterates (rounds : Nat) (state : EngineState K) (thresholdMw : K)
    (between : BetweenRounds coupling point thresholdMw state) :
    iapLoop coupling point cfg rounds state = (iapRound coupling point cfg)^[rounds] state := by
  induction rounds generalizing state with
  | zero => rfl
  | succ rounds ih =>
      rw [iapLoop]
      split
      · rw [Function.iterate_succ_apply]
        exact ih _ (iap_round_between coupling point cfg state thresholdMw between)
      · rename_i drained
        have count := between.sound.count
        have gone : ∀ slot ∈ state.slots, slot.removed = true := by
          intro slot member
          have none_open : state.slots.countP (fun slot => !slot.removed) = 0 := by omega
          simpa using List.countP_eq_zero.mp none_open slot member
        exact (Function.iterate_fixed (round_fixed coupling point cfg state gone) _).symm

-- The same grants in another order, over the same channels.
structure Reordered (first second : EngineState K) : Prop where
  slots : first.slots.Perm second.slots
  ledger : first.ledger = second.ledger

theorem iap_round_reordered (first second : EngineState K) (thresholdMw : K)
    (between : BetweenRounds coupling point thresholdMw first) (same : Reordered first second) :
    Reordered (iapRound coupling point cfg first) (iapRound coupling point cfg second) := by
  have checked := check_phase_sound coupling point first thresholdMw between
  have perm : (first.slots.map (checkSlot coupling point first.ledger.channels)).Perm
      (second.slots.map (checkSlot coupling point second.ledger.channels)) := by
    rw [← same.ledger]
    exact same.slots.map _
  have locked := Sweep.sweep_perm (lockSlot coupling point) lockedOut (lockEffect coupling point)
    (fun ledger => layout ledger = layout first.ledger) _ _ perm
    (fun slot ledger kept => (lock_effect_layout coupling point slot ledger).trans kept)
    (fun slot among ledger kept => lock_slot_parts coupling point slot ledger fun pending entry member overlap => by
      rw [kept] at member
      obtain ⟨ch, chMember, rfl⟩ := List.mem_map.mp member
      exact checked.locked slot among pending ch chMember overlap)
    (lock_effect_commute coupling point) first.ledger rfl
  have dropped := Sweep.sweep_perm (dropSlot point cfg) (droppedOut point cfg) (dropEffect point cfg) (fun _ => True) _ _
    locked.1 (fun _ _ _ => trivial) (fun slot _ ledger _ => drop_slot_parts point cfg slot ledger)
    (drop_effect_commute point cfg)
    (Sweep.sweep (lockSlot coupling point) (first.slots.map (checkSlot coupling point first.ledger.channels))
      first.ledger).2 trivial
  rw [iapRound, iapRound]
  dsimp only
  rw [perm.any_eq, ← same.ledger]
  rw [← same.ledger] at locked dropped
  split
  · exact ⟨locked.1, locked.2⟩
  · rw [← locked.2]
    exact ⟨dropped.1, dropped.2⟩

theorem iap_loop_reordered (iterations : Nat) (first second : EngineState K) (thresholdMw : K)
    (between : BetweenRounds coupling point thresholdMw first) (same : Reordered first second) :
    Reordered (iapLoop coupling point cfg iterations first) (iapLoop coupling point cfg iterations second) := by
  induction iterations generalizing first second with
  | zero => exact same
  | succ iterations ih =>
      rw [iapLoop, iapLoop, ← same.ledger]
      split
      · exact ih _ _ (iap_round_between coupling point cfg first thresholdMw between)
          (iap_round_reordered coupling point cfg first second thresholdMw between same)
      · exact same

end Rounds

section Point

variable (model : RadioModel K) (cfg : IapEngineConfig K) (coupling : InterferenceCoupling K)
variable (point : ProtectionPoint K) (grants others : List (GrantRfInfo K)) (perm : grants.Perm others)
include perm

theorem initial_reordered : Reordered (initialState model point grants) (initialState model point others) := by
  have neighbors : (grantsInNeighborhood model point grants).Perm (grantsInNeighborhood model point others) :=
    perm.filter _
  refine ⟨neighbors.map initialSlot, ?_⟩
  have counts : ∀ entry : FrequencyChannel × Nat,
      initialChannel point (grantsInNeighborhood model point grants) (pointThresholdMw model point) entry.1 entry.2 =
        initialChannel point (grantsInNeighborhood model point others) (pointThresholdMw model point) entry.1 entry.2 := by
    intro entry
    simp only [initialChannel, neighbors.countP_eq]
  simp only [initialState, counts, neighbors.length_eq]

theorem idle_reordered : idlePoint model point grants = idlePoint model point others := by
  have neighbors : (grantsInNeighborhood model point grants).Perm (grantsInNeighborhood model point others) :=
    perm.filter _
  rw [idlePoint, idlePoint, neighbors.isEmpty_eq]

theorem decisions_reordered : (runIapForPoint model cfg coupling point grants).decisions.Perm
    (runIapForPoint model cfg coupling point others).decisions := by
  rw [runIapForPoint, runIapForPoint, idle_reordered model point grants others perm]
  split
  · exact (perm.filter _).map _
  · have final := iap_loop_reordered coupling point cfg cfg.maxIterations _ _ _
      (initial_between model coupling point grants) (initial_reordered model point grants others perm)
    change (((finalState model cfg coupling point grants).slots.filter _).map _).Perm _
    dsimp only
    rw [finalState, finalState, final.ledger]
    exact (final.slots.filter _).map _

end Point

-- run_iap gives the same verdicts in the same order however the points and the grants are listed.
theorem run_iap_order_free (model : RadioModel K) (cfg : IapEngineConfig K) (coupling : InterferenceCoupling K)
    (points otherPoints : List (ProtectionPoint K)) (pointsPerm : points.Perm otherPoints)
    (grants otherGrants : List (GrantRfInfo K)) (grantsPerm : grants.Perm otherGrants) :
    (runIap model cfg coupling points grants).mergedDecisions.map verdict =
      (runIap model cfg coupling otherPoints otherGrants).mergedDecisions.map verdict := by
  refine merged_verdicts_perm _ _ ?_
  rw [List.flatMap_map, List.flatMap_map]
  exact pointsPerm.flatMap fun point _ => decisions_reordered model cfg coupling point grants otherGrants grantsPerm

def secondPoint : ProtectionPoint Rat := { samplePoint with pointId := "gwpz/1", thresholdDbm := -90 }

theorem run_iap_order_free_swapped :
    (runIap stepModel iapEngineConfig stepCoupling [samplePoint, secondPoint] sampleGrants).mergedDecisions.map verdict =
      (runIap stepModel iapEngineConfig stepCoupling [secondPoint, samplePoint]
        [sampleGrant "b" 10, sampleGrant "a" 20]).mergedDecisions.map verdict :=
  run_iap_order_free stepModel iapEngineConfig stepCoupling _ _ (.swap _ _ []) _ _ (.swap _ _ [])

end SasCore.Iap
