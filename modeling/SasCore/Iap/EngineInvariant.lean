import SasCore.Iap.Engine
import Mathlib.Tactic.Linarith
import Mathlib.Tactic.Ring
import Mathlib.Algebra.Order.Field.Basic

set_option autoImplicit false
set_option linter.unusedSectionVars false

namespace SasCore.Iap

variable {K : Type} [Field K] [LinearOrder K] [IsStrictOrderedRing K]

section Definitions

variable (coupling : InterferenceCoupling K) (point : ProtectionPoint K)

def lockedShare (channel : FrequencyChannel) (slot : NeighborSlot K) : K :=
  if slot.removed && !slot.hitFloor && slot.overlaps point channel then slot.interf coupling point channel else 0

-- The interference of the grants that were locked in on the channel.
def lockedLoad (slots : List (NeighborSlot K)) (channel : FrequencyChannel) : K :=
  (slots.map (lockedShare coupling point channel)).sum

def openOn (channel : FrequencyChannel) (slot : NeighborSlot K) : Bool :=
  !slot.removed && slot.overlaps point channel

-- `room` is what carries the lock-in phase: the share that held when the round began, which no
-- grant waiting to be locked exceeds, still fits into the residual threshold once per open grant.
structure RowSound (thresholdMw : K) (slots : List (NeighborSlot K)) (ch : ChannelSlot K) : Prop where
  unsat : ch.unsatCount = slots.countP (openOn point ch.channel)
  residual : ch.iapThreshold + lockedLoad coupling point slots ch.channel = thresholdMw
  fair : ch.fairshare = fairshareOf ch.iapThreshold ch.unsatCount
  room : ∃ share, 0 ≤ share ∧ share * ch.unsatCount ≤ ch.iapThreshold ∧
    ∀ slot ∈ slots, pendingLock slot = true → slot.overlaps point ch.channel = true →
      slot.interf coupling point ch.channel ≤ share

def layout (ledger : Ledger K) : List (FrequencyChannel × Nat) :=
  ledger.channels.map fun ch => (ch.channel, ch.chIdx)

structure EngineSound (thresholdMw : K) (slots : List (NeighborSlot K)) (ledger : Ledger K) : Prop where
  count : ledger.numUnsatisfied = slots.countP fun slot => !slot.removed
  floored : ∀ slot ∈ slots, slot.hitFloor = true → slot.removed = true
  rows : ∀ ch ∈ ledger.channels, RowSound coupling point thresholdMw slots ch
  locked : ∀ slot ∈ slots, pendingLock slot = true → ∀ ch ∈ ledger.channels,
    slot.overlaps point ch.channel = true →
      slot.lockedInterf ch.chIdx = some (slot.interf coupling point ch.channel)
  distinct : ((layout ledger).map Prod.snd).Nodup

-- Between two passes of the while loop no grant is satisfied without being locked in.
structure BetweenRounds (thresholdMw : K) (state : EngineState K) : Prop where
  sound : EngineSound coupling point thresholdMw state.slots state.ledger
  idle : ∀ slot ∈ state.slots, pendingLock slot = false

end Definitions

section Rows

variable (coupling : InterferenceCoupling K) (point : ProtectionPoint K) (cfg : IapEngineConfig K)

theorem locked_load_split (done rest : List (NeighborSlot K)) (slot : NeighborSlot K) (channel : FrequencyChannel) :
    lockedLoad coupling point (done ++ slot :: rest) channel =
      lockedLoad coupling point (done ++ rest) channel + lockedShare coupling point channel slot := by
  simp only [lockedLoad, List.map_append, List.map_cons, List.sum_append, List.sum_cons]
  ring

theorem open_count_split (done rest : List (NeighborSlot K)) (slot : NeighborSlot K) (channel : FrequencyChannel) :
    (done ++ slot :: rest).countP (openOn point channel) =
      (done ++ rest).countP (openOn point channel) + if openOn point channel slot then 1 else 0 := by
  simp only [List.countP_append, List.countP_cons]
  omega

theorem removed_count_split (done rest : List (NeighborSlot K)) (slot : NeighborSlot K) :
    (done ++ slot :: rest).countP (fun s => !s.removed) =
      (done ++ rest).countP (fun s => !s.removed) + if slot.removed then 0 else 1 := by
  cases removed : slot.removed <;> simp [List.countP_append, removed]
  omega

theorem fairshare_nonneg (threshold : K) (count : Nat) (nonneg : 0 ≤ threshold) :
    0 ≤ fairshareOf threshold count := by
  unfold fairshareOf
  split
  · exact div_nonneg nonneg (Nat.cast_nonneg count)
  · exact le_refl 0

theorem fairshare_fits (threshold : K) (count : Nat) (nonneg : 0 ≤ threshold) :
    fairshareOf threshold count * count ≤ threshold := by
  unfold fairshareOf
  split
  · rename_i positive
    have nonzero : (count : K) ≠ 0 := Nat.cast_ne_zero.mpr (by omega)
    exact le_of_eq (div_mul_cancel₀ threshold nonzero)
  · simpa using nonneg

theorem residual_nonneg (thresholdMw : K) (slots : List (NeighborSlot K)) (ch : ChannelSlot K)
    (row : RowSound coupling point thresholdMw slots ch) : 0 ≤ ch.iapThreshold := by
  obtain ⟨share, nonneg, fits, _⟩ := row.room
  have cost : 0 ≤ share * ch.unsatCount := mul_nonneg nonneg (Nat.cast_nonneg _)
  linarith

end Rows

section Replacement

variable (coupling : InterferenceCoupling K) (point : ProtectionPoint K)

theorem pending_elsewhere (done rest : List (NeighborSlot K)) (slot fresh : NeighborSlot K)
    (idle : pendingLock fresh = false) :
    ∀ s ∈ done ++ fresh :: rest, pendingLock s = true → s ∈ done ++ slot :: rest := by
  intro s member pending
  rcases List.mem_append.mp member with left | right
  · exact List.mem_append_left _ left
  · rcases List.mem_cons.mp right with same | later
    · rw [same, idle] at pending
      cases pending
    · exact List.mem_append_right _ (List.mem_cons_of_mem _ later)

theorem pending_not_removed (slot : NeighborSlot K) (pending : pendingLock slot = true) : slot.removed = false := by
  simp only [pendingLock, Bool.and_eq_true, Bool.not_eq_true'] at pending
  exact pending.1

-- A grant that is rewritten without leaving the open set or the locked load keeps the row.
theorem row_replaced (thresholdMw : K) (done rest : List (NeighborSlot K)) (slot fresh : NeighborSlot K)
    (ch : ChannelSlot K) (idle : pendingLock fresh = false)
    (sameOpen : openOn point ch.channel fresh = openOn point ch.channel slot)
    (sameShare : lockedShare coupling point ch.channel fresh = lockedShare coupling point ch.channel slot)
    (row : RowSound coupling point thresholdMw (done ++ slot :: rest) ch) :
    RowSound coupling point thresholdMw (done ++ fresh :: rest) ch := by
  obtain ⟨unsat, residual, fair, share, nonneg, fits, below⟩ := row
  refine ⟨?_, ?_, fair, share, nonneg, fits, ?_⟩
  · rw [unsat, open_count_split, open_count_split, sameOpen]
  · rw [← residual, locked_load_split, locked_load_split, sameShare]
  · exact fun s member pending overlap =>
      below s (pending_elsewhere done rest slot fresh idle s member pending) pending overlap

end Replacement

section LockPhase

variable (coupling : InterferenceCoupling K) (point : ProtectionPoint K)

theorem lock_same (slot : NeighborSlot K) (chIdx : Nat) (interf : K)
    (present : slot.lockedInterf chIdx = some interf) : slot.lock chIdx interf = slot := by
  have same : (fun idx => if idx = chIdx then some interf else slot.lockedInterf idx) = slot.lockedInterf := by
    funext idx
    split
    · rename_i here
      rw [here, present]
    · rfl
  rw [NeighborSlot.lock, same]

def releaseFor (slot : NeighborSlot K) (ch : ChannelSlot K) : ChannelSlot K :=
  if slot.overlaps point ch.channel then ch.release (slot.interf coupling point ch.channel) else ch

-- A grant that is locked in already holds an entry for each of its channels.
theorem lock_channels_present (slot : NeighborSlot K) (channels : List (ChannelSlot K))
    (present : ∀ ch ∈ channels, slot.overlaps point ch.channel = true →
      slot.lockedInterf ch.chIdx = some (slot.interf coupling point ch.channel)) :
    lockChannels coupling point slot channels = (slot, channels.map (releaseFor coupling point slot)) := by
  induction channels with
  | nil => rfl
  | cons ch rest ih =>
      have others := ih fun c member => present c (List.mem_cons_of_mem _ member)
      by_cases overlap : slot.overlaps point ch.channel = true
      · have entry := present ch List.mem_cons_self overlap
        simp only [lockChannels, overlap, Bool.not_true, Bool.false_eq_true, if_false, entry, Option.getD_some]
        rw [lock_same slot ch.chIdx _ entry, others]
        simp only [List.map_cons, releaseFor, overlap, if_true]
      · simp only [lockChannels, overlap, Bool.not_false, if_true, others, List.map_cons, releaseFor,
          Bool.false_eq_true, if_false]

theorem release_for_row (thresholdMw : K) (done rest : List (NeighborSlot K)) (slot : NeighborSlot K)
    (ch : ChannelSlot K) (pending : pendingLock slot = true) (above : slot.hitFloor = false)
    (row : RowSound coupling point thresholdMw (done ++ slot :: rest) ch) :
    RowSound coupling point thresholdMw (done ++ { slot with removed := true } :: rest)
      (releaseFor coupling point slot ch) := by
  have waiting := pending_not_removed slot pending
  have idle : pendingLock { slot with removed := true } = false := by simp [pendingLock]
  by_cases overlap : slot.overlaps point ch.channel = true
  · obtain ⟨unsat, residual, fair, share, nonneg, fits, below⟩ := row
    have interfLe := below slot (by simp) pending overlap
    have wasOpen : openOn point ch.channel slot = true := by simp [openOn, waiting, overlap]
    have unlocked : lockedShare coupling point ch.channel slot = 0 := by simp [lockedShare, waiting]
    have nowLocked : lockedShare coupling point ch.channel { slot with removed := true } =
        slot.interf coupling point ch.channel := by
      simp only [lockedShare, above, NeighborSlot.overlaps, NeighborSlot.interf] at overlap ⊢
      simp [overlap]
    rw [open_count_split, if_pos wasOpen] at unsat
    rw [locked_load_split, unlocked] at residual
    have released : releaseFor coupling point slot ch = ch.release (slot.interf coupling point ch.channel) := by
      rw [releaseFor, if_pos overlap]
    rw [released]
    refine ⟨?_, ?_, rfl, share, nonneg, ?_, ?_⟩
    · rw [open_count_split]
      simp only [ChannelSlot.release, ChannelSlot.leave, openOn, Bool.not_true, Bool.false_and, Bool.false_eq_true,
        if_false] at unsat ⊢
      omega
    · rw [locked_load_split]
      simp only [ChannelSlot.release, ChannelSlot.leave, nowLocked]
      linarith
    · have count : (ch.unsatCount : K) = ((ch.unsatCount - 1 : Nat) : K) + 1 := by
        have positive : ch.unsatCount = (ch.unsatCount - 1) + 1 := by omega
        exact_mod_cast positive
      rw [count] at fits
      simp only [ChannelSlot.release, ChannelSlot.leave]
      linarith
    · exact fun s member sPending sOverlap =>
        below s (pending_elsewhere done rest slot _ idle s member sPending) sPending sOverlap
  · have untouched : releaseFor coupling point slot ch = ch := by rw [releaseFor, if_neg overlap]
    rw [untouched]
    refine row_replaced coupling point thresholdMw done rest slot _ ch idle ?_ ?_ row
    · simp only [openOn, NeighborSlot.overlaps] at overlap ⊢
      simp [overlap]
    · simp only [lockedShare, NeighborSlot.overlaps] at overlap ⊢
      simp [overlap]

theorem release_for_place (slot : NeighborSlot K) (ch : ChannelSlot K) :
    (releaseFor coupling point slot ch).channel = ch.channel ∧
      (releaseFor coupling point slot ch).chIdx = ch.chIdx := by
  unfold releaseFor
  split <;> exact ⟨rfl, rfl⟩

theorem lock_slot_layout (slot : NeighborSlot K) (ledger : Ledger K) :
    layout (lockSlot coupling point slot ledger).2 = layout ledger := by
  unfold lockSlot
  split
  · have kept : ∀ s : NeighborSlot K, (lockChannels coupling point s ledger.channels).2.map
        (fun ch => (ch.channel, ch.chIdx)) = ledger.channels.map fun ch => (ch.channel, ch.chIdx) := by
      induction ledger.channels with
      | nil => intro s; rfl
      | cons ch rest ih =>
          intro s
          simp only [lockChannels]
          split
          · simp only [List.map_cons, ih]
          · simp only [List.map_cons, ih, ChannelSlot.release, ChannelSlot.leave]
    exact kept slot
  · rfl

theorem lock_slot_sound (thresholdMw : K) (done : List (NeighborSlot K)) (slot : NeighborSlot K)
    (rest : List (NeighborSlot K)) (ledger : Ledger K)
    (sound : EngineSound coupling point thresholdMw (done ++ slot :: rest) ledger) :
    EngineSound coupling point thresholdMw (done ++ (lockSlot coupling point slot ledger).1 :: rest)
      (lockSlot coupling point slot ledger).2 := by
  by_cases pending : pendingLock slot = true
  · have member : slot ∈ done ++ slot :: rest := by simp
    have present := sound.locked slot member pending
    have waiting := pending_not_removed slot pending
    have idle : pendingLock { slot with removed := true } = false := by simp [pendingLock]
    have above : slot.hitFloor = false := by
      cases floor : slot.hitFloor with
      | false => rfl
      | true =>
          have removed := sound.floored slot member floor
          rw [waiting] at removed
          cases removed
    have distinct : ((layout (lockSlot coupling point slot ledger).2).map Prod.snd).Nodup := by
      rw [lock_slot_layout]
      exact sound.distinct
    rw [lockSlot, if_pos pending, lock_channels_present coupling point slot ledger.channels present] at distinct ⊢
    refine ⟨?_, ?_, ?_, ?_, distinct⟩
    · have count := sound.count
      rw [removed_count_split, waiting] at count
      rw [removed_count_split]
      simp only [Bool.false_eq_true, if_false, if_true] at count ⊢
      omega
    · intro s sMember floor
      rcases List.mem_append.mp sMember with left | right
      · exact sound.floored s (List.mem_append_left _ left) floor
      · rcases List.mem_cons.mp right with same | later
        · rw [same]
        · exact sound.floored s (List.mem_append_right _ (List.mem_cons_of_mem _ later)) floor
    · intro ch chMember
      obtain ⟨old, oldMember, same⟩ := List.mem_map.mp chMember
      rw [← same]
      exact release_for_row coupling point thresholdMw done rest slot old pending above (sound.rows old oldMember)
    · intro s sMember sPending ch chMember overlap
      obtain ⟨old, oldMember, same⟩ := List.mem_map.mp chMember
      obtain ⟨channelEq, idxEq⟩ := release_for_place coupling point slot old
      rw [← same, channelEq] at overlap ⊢
      rw [idxEq]
      exact sound.locked s (pending_elsewhere done rest slot _ idle s sMember sPending) sPending old oldMember overlap
  · rw [lockSlot, if_neg pending]
    exact sound

theorem lock_slot_idle (slot : NeighborSlot K) (ledger : Ledger K) :
    pendingLock (lockSlot coupling point slot ledger).1 = false := by
  by_cases pending : pendingLock slot = true
  · rw [lockSlot, if_pos pending]
    simp [pendingLock]
  · rw [lockSlot, if_neg pending]
    simpa using pending

end LockPhase

section DropPhase

variable (coupling : InterferenceCoupling K) (point : ProtectionPoint K) (cfg : IapEngineConfig K)

def leaveFor (slot : NeighborSlot K) (ch : ChannelSlot K) : ChannelSlot K :=
  if slot.overlaps point ch.channel then ch.leave else ch

theorem leave_for_place (slot : NeighborSlot K) (ch : ChannelSlot K) :
    (leaveFor point slot ch).channel = ch.channel ∧ (leaveFor point slot ch).chIdx = ch.chIdx ∧
      (leaveFor point slot ch).iapThreshold = ch.iapThreshold := by
  unfold leaveFor
  split <;> exact ⟨rfl, rfl, rfl⟩

theorem leave_for_row (thresholdMw : K) (done rest : List (NeighborSlot K)) (slot floored : NeighborSlot K)
    (ch : ChannelSlot K) (waiting : slot.removed = false) (gone : floored.removed = true)
    (floor : floored.hitFloor = true) (row : RowSound coupling point thresholdMw (done ++ slot :: rest) ch) :
    RowSound coupling point thresholdMw (done ++ floored :: rest) (leaveFor point slot ch) := by
  have idle : pendingLock floored = false := by simp [pendingLock, gone]
  have unlocked : lockedShare coupling point ch.channel slot = 0 := by simp [lockedShare, waiting]
  have stillUnlocked : lockedShare coupling point ch.channel floored = 0 := by simp [lockedShare, floor]
  have closed : openOn point ch.channel floored = false := by simp [openOn, gone]
  by_cases overlap : slot.overlaps point ch.channel = true
  · obtain ⟨unsat, residual, fair, share, nonneg, fits, below⟩ := row
    have wasOpen : openOn point ch.channel slot = true := by simp [openOn, waiting, overlap]
    rw [open_count_split, if_pos wasOpen] at unsat
    rw [locked_load_split, unlocked] at residual
    rw [leaveFor, if_pos overlap]
    refine ⟨?_, ?_, rfl, share, nonneg, ?_, ?_⟩
    · rw [open_count_split]
      simp only [ChannelSlot.leave, closed, Bool.false_eq_true, if_false]
      omega
    · rw [locked_load_split]
      simp only [ChannelSlot.leave, stillUnlocked]
      exact residual
    · have fewer : ((ch.unsatCount - 1 : Nat) : K) ≤ ch.unsatCount := by exact_mod_cast Nat.sub_le _ _
      exact (mul_le_mul_of_nonneg_left fewer nonneg).trans fits
    · exact fun s member sPending sOverlap =>
        below s (pending_elsewhere done rest slot floored idle s member sPending) sPending sOverlap
  · rw [leaveFor, if_neg overlap]
    refine row_replaced coupling point thresholdMw done rest slot floored ch idle ?_ ?_ row
    · simp [openOn, gone, overlap]
    · rw [unlocked, stillUnlocked]

theorem drop_slot_layout (slot : NeighborSlot K) (ledger : Ledger K) :
    layout (dropSlot point cfg slot ledger).2 = layout ledger := by
  unfold dropSlot
  split
  · rfl
  · dsimp only
    split
    · simp only [layout, List.map_map]
      refine List.map_congr_left fun ch _ => ?_
      obtain ⟨channelEq, idxEq, _⟩ := leave_for_place point slot ch
      simp only [leaveFor] at channelEq idxEq
      simp only [Function.comp_apply, channelEq, idxEq]
    · rfl

theorem drop_slot_sound (thresholdMw : K) (done : List (NeighborSlot K)) (slot : NeighborSlot K)
    (rest : List (NeighborSlot K)) (ledger : Ledger K)
    (sound : EngineSound coupling point thresholdMw (done ++ slot :: rest) ledger) :
    EngineSound coupling point thresholdMw (done ++ (dropSlot point cfg slot ledger).1 :: rest)
      (dropSlot point cfg slot ledger).2 := by
  have distinct : ((layout (dropSlot point cfg slot ledger).2).map Prod.snd).Nodup := by
    rw [drop_slot_layout]
    exact sound.distinct
  by_cases still : (slot.removed || slot.satisfied) = true
  · rw [dropSlot, if_pos still]
    exact sound
  · have waiting : slot.removed = false ∧ slot.satisfied = false := by simpa using still
    have count := sound.count
    rw [removed_count_split, waiting.1] at count
    have elsewhere : ∀ s, s ∈ done ++ rest → s ∈ done ++ slot :: rest := by
      intro s member
      simp only [List.mem_append, List.mem_cons] at member ⊢
      tauto
    rw [dropSlot, if_neg still] at distinct ⊢
    dsimp only at distinct ⊢
    by_cases below : slot.eirp - cfg.eirpStepDb < cfg.eirpFloorDbmMhz
    · rw [if_pos below] at distinct ⊢
      refine ⟨?_, ?_, ?_, ?_, distinct⟩
      · rw [removed_count_split]
        simp only [Bool.false_eq_true, if_false, if_true] at count ⊢
        omega
      · intro s member floor
        simp only [List.mem_append, List.mem_cons] at member
        rcases member with left | same | right
        · exact sound.floored s (elsewhere s (List.mem_append_left _ left)) floor
        · rw [same]
        · exact sound.floored s (elsewhere s (List.mem_append_right _ right)) floor
      · intro ch member
        obtain ⟨old, oldMember, same⟩ := List.mem_map.mp member
        rw [← same]
        exact leave_for_row coupling point thresholdMw done rest slot _ old waiting.1 rfl rfl
          (sound.rows old oldMember)
      · intro s member pending ch chMember overlap
        obtain ⟨old, oldMember, same⟩ := List.mem_map.mp chMember
        obtain ⟨channelEq, idxEq, _⟩ := leave_for_place point slot old
        simp only [leaveFor] at channelEq idxEq
        rw [← same, channelEq] at overlap ⊢
        rw [idxEq]
        have before := pending_elsewhere done rest slot _ (by simp [pendingLock]) s member pending
        exact sound.locked s before pending old oldMember overlap
    · rw [if_neg below] at distinct ⊢
      have idle : pendingLock { slot with eirp := slot.eirp - cfg.eirpStepDb } = false := by
        simp [pendingLock, waiting.2]
      refine ⟨?_, ?_, ?_, ?_, distinct⟩
      · rw [removed_count_split]
        simp only [waiting.1] at count ⊢
        exact count
      · intro s member floor
        simp only [List.mem_append, List.mem_cons] at member
        rcases member with left | same | right
        · exact sound.floored s (elsewhere s (List.mem_append_left _ left)) floor
        · rw [same] at floor ⊢
          exact sound.floored slot (by simp) floor
        · exact sound.floored s (elsewhere s (List.mem_append_right _ right)) floor
      · intro ch member
        refine row_replaced coupling point thresholdMw done rest slot _ ch idle rfl ?_ (sound.rows ch member)
        simp [lockedShare, waiting.1]
      · intro s member pending ch chMember overlap
        have before := pending_elsewhere done rest slot _ idle s member pending
        exact sound.locked s before pending ch chMember overlap

theorem drop_slot_idle (slot : NeighborSlot K) (ledger : Ledger K) (idle : pendingLock slot = false) :
    pendingLock (dropSlot point cfg slot ledger).1 = false := by
  unfold dropSlot
  split
  · exact idle
  · rename_i still
    have waiting : slot.removed = false ∧ slot.satisfied = false := by simpa using still
    dsimp only
    split
    · simp [pendingLock]
    · simp [pendingLock, waiting.2]

end DropPhase

end SasCore.Iap
