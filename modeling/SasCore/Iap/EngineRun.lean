import SasCore.Iap.EngineInvariant

set_option autoImplicit false
set_option linter.unusedSectionVars false

namespace SasCore.Iap

variable {K : Type} [Field K] [LinearOrder K] [IsStrictOrderedRing K]
variable (coupling : InterferenceCoupling K) (point : ProtectionPoint K) (cfg : IapEngineConfig K)

def sameCore (fresh slot : NeighborSlot K) : Prop :=
  fresh.grant = slot.grant ∧ fresh.eirp = slot.eirp ∧ fresh.removed = slot.removed ∧ fresh.hitFloor = slot.hitFloor

theorem check_fairshare_core (slot : NeighborSlot K) (channels : List (ChannelSlot K)) (sawOverlap : Bool) :
    sameCore (checkFairshare coupling point slot channels sawOverlap).1 slot := by
  induction channels generalizing slot sawOverlap with
  | nil => exact ⟨rfl, rfl, rfl, rfl⟩
  | cons ch rest ih =>
      rw [checkFairshare]
      split
      · exact ih slot sawOverlap
      · dsimp only
        split
        · exact ih (slot.lock ch.chIdx _) true
        · exact ⟨rfl, rfl, rfl, rfl⟩

theorem check_slot_core (channels : List (ChannelSlot K)) (slot : NeighborSlot K) :
    sameCore (checkSlot coupling point channels slot) slot := by
  rw [checkSlot]
  split
  · exact ⟨rfl, rfl, rfl, rfl⟩
  · exact check_fairshare_core coupling point slot channels false

theorem check_fairshare_elsewhere (slot : NeighborSlot K) (channels : List (ChannelSlot K)) (sawOverlap : Bool)
    (idx : Nat) (absent : idx ∉ channels.map ChannelSlot.chIdx) :
    (checkFairshare coupling point slot channels sawOverlap).1.lockedInterf idx = slot.lockedInterf idx := by
  induction channels generalizing slot sawOverlap with
  | nil => rfl
  | cons ch rest ih =>
      simp only [List.map_cons, List.mem_cons, not_or] at absent
      rw [checkFairshare]
      split
      · exact ih slot sawOverlap absent.2
      · dsimp only
        split
        · rw [ih (slot.lock ch.chIdx _) true absent.2, NeighborSlot.lock]
          exact if_neg absent.1
        · rfl

-- A grant passes when it is below its share on every channel it overlaps, and then each of these
-- channels carries the interference at the present EIRP, whatever an earlier round left there.
theorem check_fairshare_passed (slot : NeighborSlot K) (channels : List (ChannelSlot K)) (sawOverlap : Bool)
    (distinct : (channels.map ChannelSlot.chIdx).Nodup)
    (passed : (checkFairshare coupling point slot channels sawOverlap).2 = true) :
    ∀ ch ∈ channels, slot.overlaps point ch.channel = true →
      (checkFairshare coupling point slot channels sawOverlap).1.lockedInterf ch.chIdx =
          some (slot.interf coupling point ch.channel) ∧
        slot.interf coupling point ch.channel < ch.fairshare := by
  induction channels generalizing slot sawOverlap with
  | nil => intro ch member; cases member
  | cons head rest ih =>
      simp only [List.map_cons, List.nodup_cons] at distinct
      intro ch member overlap
      by_cases headOverlap : slot.overlaps point head.channel = true
      · by_cases below : slot.interf coupling point head.channel < head.fairshare
        · have stepped : checkFairshare coupling point slot (head :: rest) sawOverlap =
              checkFairshare coupling point (slot.lock head.chIdx (slot.interf coupling point head.channel)) rest true := by
            rw [checkFairshare]
            simp only [headOverlap, Bool.not_true, Bool.false_eq_true, if_false, if_pos below]
          rw [stepped] at passed ⊢
          rcases List.mem_cons.mp member with same | later
          · rw [same]
            refine ⟨?_, below⟩
            rw [check_fairshare_elsewhere coupling point _ rest true head.chIdx distinct.1]
            exact if_pos rfl
          · exact ih _ true distinct.2 passed ch later overlap
        · rw [checkFairshare] at passed
          simp only [headOverlap, Bool.not_true, Bool.false_eq_true, if_false, if_neg below] at passed
      · have skipped : checkFairshare coupling point slot (head :: rest) sawOverlap =
            checkFairshare coupling point slot rest sawOverlap := by
          rw [checkFairshare]
          simp only [headOverlap, Bool.not_false, if_true]
        rw [skipped] at passed ⊢
        rcases List.mem_cons.mp member with same | later
        · rw [same] at overlap
          exact absurd overlap headOverlap
        · exact ih slot sawOverlap distinct.2 passed ch later overlap

theorem core_interf (fresh slot : NeighborSlot K) (same : sameCore fresh slot) (channel : FrequencyChannel) :
    fresh.overlaps point channel = slot.overlaps point channel ∧
      fresh.interf coupling point channel = slot.interf coupling point channel := by
  obtain ⟨grantEq, eirpEq, _, _⟩ := same
  simp only [NeighborSlot.overlaps, NeighborSlot.interf, grantEq, eirpEq, and_self]

theorem channel_indices (ledger : Ledger K) :
    (layout ledger).map Prod.snd = ledger.channels.map ChannelSlot.chIdx := by
  simp only [layout, List.map_map]
  rfl

theorem check_phase_pending (state : EngineState K) (thresholdMw : K)
    (between : BetweenRounds coupling point thresholdMw state) (slot : NeighborSlot K) (member : slot ∈ state.slots)
    (pending : pendingLock (checkSlot coupling point state.ledger.channels slot) = true) :
    ∀ ch ∈ state.ledger.channels, slot.overlaps point ch.channel = true →
      (checkSlot coupling point state.ledger.channels slot).lockedInterf ch.chIdx =
          some (slot.interf coupling point ch.channel) ∧
        slot.interf coupling point ch.channel < ch.fairshare := by
  have idle := between.idle slot member
  have distinct : (state.ledger.channels.map ChannelSlot.chIdx).Nodup := channel_indices state.ledger ▸ between.sound.distinct
  by_cases still : (slot.removed || slot.satisfied) = true
  · rw [checkSlot, if_pos still, idle] at pending
    cases pending
  · rw [checkSlot, if_neg still] at pending ⊢
    simp only [pendingLock, Bool.and_eq_true] at pending
    exact check_fairshare_passed coupling point slot state.ledger.channels false distinct pending.2

theorem check_phase_sound (state : EngineState K) (thresholdMw : K)
    (between : BetweenRounds coupling point thresholdMw state) :
    EngineSound coupling point thresholdMw
      (state.slots.map (checkSlot coupling point state.ledger.channels)) state.ledger := by
  have core := check_slot_core coupling point state.ledger.channels
  refine ⟨?_, ?_, ?_, ?_, between.sound.distinct⟩
  · rw [List.countP_map, between.sound.count]
    exact List.countP_congr fun slot _ => by simp only [Function.comp_apply, (core slot).2.2.1]
  · intro fresh freshMember floor
    obtain ⟨slot, member, same⟩ := List.mem_map.mp freshMember
    rw [← same, (core slot).2.2.1]
    rw [← same, (core slot).2.2.2] at floor
    exact between.sound.floored slot member floor
  · intro ch chMember
    have row := between.sound.rows ch chMember
    have nonneg := residual_nonneg coupling point thresholdMw state.slots ch row
    refine ⟨?_, ?_, row.fair, ch.fairshare, ?_, ?_, ?_⟩
    · rw [List.countP_map, row.unsat]
      exact List.countP_congr fun slot _ => by
        simp only [Function.comp_apply, openOn, (core slot).2.2.1, (core_interf coupling point _ slot (core slot) _).1]
    · rw [← row.residual, lockedLoad, lockedLoad, List.map_map]
      congr 2
      refine List.map_congr_left fun slot _ => ?_
      obtain ⟨overlapEq, interfEq⟩ := core_interf coupling point _ slot (core slot) ch.channel
      simp only [Function.comp_apply, lockedShare, (core slot).2.2.1, (core slot).2.2.2, overlapEq, interfEq]
    · rw [row.fair]
      exact fairshare_nonneg _ _ nonneg
    · rw [row.fair]
      exact fairshare_fits _ _ nonneg
    · intro fresh freshMember pending overlap
      obtain ⟨slot, member, same⟩ := List.mem_map.mp freshMember
      obtain ⟨overlapEq, interfEq⟩ := core_interf coupling point _ slot (core slot) ch.channel
      rw [← same] at pending overlap ⊢
      rw [overlapEq] at overlap
      rw [interfEq]
      exact le_of_lt (check_phase_pending coupling point state thresholdMw between slot member pending ch chMember overlap).2
  · intro fresh freshMember pending ch chMember overlap
    obtain ⟨slot, member, same⟩ := List.mem_map.mp freshMember
    obtain ⟨overlapEq, interfEq⟩ := core_interf coupling point _ slot (core slot) ch.channel
    rw [← same] at pending overlap ⊢
    rw [overlapEq] at overlap
    rw [interfEq]
    exact (check_phase_pending coupling point state thresholdMw between slot member pending ch chMember overlap).1

theorem iap_round_between (state : EngineState K) (thresholdMw : K)
    (between : BetweenRounds coupling point thresholdMw state) :
    BetweenRounds coupling point thresholdMw (iapRound coupling point cfg state) := by
  have checked := check_phase_sound coupling point state thresholdMw between
  have locked := Sweep.sweep_invariant (lockSlot coupling point) (EngineSound coupling point thresholdMw)
    (lock_slot_sound coupling point thresholdMw) _ state.ledger checked
  have lockedIdle := Sweep.sweep_forall (lockSlot coupling point) (fun _ => True) (fun slot => pendingLock slot = false)
    (fun slot ledger _ => lock_slot_idle coupling point slot ledger)
    (state.slots.map (checkSlot coupling point state.ledger.channels)) state.ledger (fun _ _ => trivial)
  rw [iapRound]
  dsimp only
  split
  · exact ⟨locked, lockedIdle⟩
  · refine ⟨?_, ?_⟩
    · exact Sweep.sweep_invariant (dropSlot point cfg) (EngineSound coupling point thresholdMw)
        (drop_slot_sound coupling point cfg thresholdMw) _ _ locked
    · exact Sweep.sweep_forall (dropSlot point cfg) (fun slot => pendingLock slot = false)
        (fun slot => pendingLock slot = false) (drop_slot_idle point cfg) _ _ lockedIdle

theorem iap_loop_between (iterations : Nat) (state : EngineState K) (thresholdMw : K)
    (between : BetweenRounds coupling point thresholdMw state) :
    BetweenRounds coupling point thresholdMw (iapLoop coupling point cfg iterations state) := by
  induction iterations generalizing state with
  | zero => exact between
  | succ iterations ih =>
      rw [iapLoop]
      split
      · exact ih (iapRound coupling point cfg state) (iap_round_between coupling point cfg state thresholdMw between)
      · exact between

end SasCore.Iap
