import SasCore.Iap.Safety
import Mathlib.Algebra.Order.Floor.Ring

set_option autoImplicit false
set_option linter.unusedSectionVars false

namespace SasCore.Iap

variable {K : Type} [Field K] [LinearOrder K] [IsStrictOrderedRing K]

section Phases

variable (coupling : InterferenceCoupling K) (point : ProtectionPoint K) (cfg : IapEngineConfig K)

theorem lock_channels_core (slot : NeighborSlot K) (channels : List (ChannelSlot K)) :
    sameCore (lockChannels coupling point slot channels).1 slot ∧
      (lockChannels coupling point slot channels).1.satisfied = slot.satisfied := by
  induction channels generalizing slot with
  | nil => exact ⟨⟨rfl, rfl, rfl, rfl⟩, rfl⟩
  | cons ch rest ih =>
      rw [lockChannels]
      split
      · exact ih slot
      · exact ih (slot.lock ch.chIdx _)

-- Locking in takes a satisfied grant out and leaves its power as it is.
theorem lock_slot_effect (slot : NeighborSlot K) (ledger : Ledger K) :
    (lockSlot coupling point slot ledger).1.eirp = slot.eirp ∧
      (lockSlot coupling point slot ledger).1.removed = (slot.removed || slot.satisfied) := by
  unfold lockSlot
  split
  · rename_i pending
    simp only [pendingLock, Bool.and_eq_true, Bool.not_eq_true'] at pending
    obtain ⟨⟨_, eirpEq, _, _⟩, _⟩ := lock_channels_core coupling point slot ledger.channels
    exact ⟨eirpEq, by simp [pending]⟩
  · rename_i idle
    refine ⟨rfl, ?_⟩
    cases removed : slot.removed <;> cases satisfied : slot.satisfied <;> simp_all [pendingLock]

theorem drop_slot_effect (slot : NeighborSlot K) (ledger : Ledger K) :
    (dropSlot point cfg slot ledger).1.eirp =
        (if slot.removed || slot.satisfied then slot.eirp else slot.eirp - cfg.eirpStepDb) ∧
      (dropSlot point cfg slot ledger).1.removed = (if slot.removed || slot.satisfied then slot.removed
        else decide (slot.eirp - cfg.eirpStepDb < cfg.eirpFloorDbmMhz)) := by
  unfold dropSlot
  by_cases still : (slot.removed || slot.satisfied) = true
  · simp [still]
  · have waiting : slot.removed = false ∧ slot.satisfied = false := by simpa using still
    by_cases below : slot.eirp - cfg.eirpStepDb < cfg.eirpFloorDbmMhz
    · simp [waiting, below]
    · simp [waiting, below]

def openCount (slots : List (NeighborSlot K)) : Nat := slots.countP fun slot => !slot.removed

theorem check_open_count (channels : List (ChannelSlot K)) (slots : List (NeighborSlot K)) :
    openCount (slots.map (checkSlot coupling point channels)) = openCount slots := by
  rw [openCount, List.countP_map]
  refine List.countP_congr fun slot _ => ?_
  simp only [Function.comp_apply, (check_slot_core coupling point channels slot).2.2.1]

theorem open_split (slots : List (NeighborSlot K)) :
    slots.countP (fun slot => !(slot.removed || slot.satisfied)) + slots.countP pendingLock = openCount slots := by
  induction slots with
  | nil => rfl
  | cons slot rest ih =>
      simp only [openCount, List.countP_cons, pendingLock, Bool.not_or] at ih ⊢
      rcases Bool.eq_false_or_eq_true slot.removed with gone | gone <;>
        rcases Bool.eq_false_or_eq_true slot.satisfied with met | met <;> simp [gone, met] <;> omega

theorem lock_open_count (slots : List (NeighborSlot K)) (ledger : Ledger K) :
    openCount (Sweep.sweep (lockSlot coupling point) slots ledger).1 + slots.countP pendingLock = openCount slots := by
  have removed := Sweep.sweep_view (lockSlot coupling point) (·.removed) (fun slot => slot.removed || slot.satisfied)
    (fun slot ledger => (lock_slot_effect coupling point slot ledger).2) slots ledger
  have viewed : openCount (Sweep.sweep (lockSlot coupling point) slots ledger).1 =
      ((Sweep.sweep (lockSlot coupling point) slots ledger).1.map (·.removed)).countP (!·) := by
    rw [List.countP_map]
    rfl
  rw [← open_split slots, viewed, removed, List.countP_map]
  rfl

theorem drop_open_count (slots : List (NeighborSlot K)) (ledger : Ledger K) :
    openCount (Sweep.sweep (dropSlot point cfg) slots ledger).1 ≤ openCount slots := by
  induction slots generalizing ledger with
  | nil => exact le_refl _
  | cons slot rest ih =>
      have others := ih (dropSlot point cfg slot ledger).2
      have leaves : slot.removed = true → (dropSlot point cfg slot ledger).1.removed = true := by
        intro gone
        rw [(drop_slot_effect point cfg slot ledger).2, gone]
        simp
      simp only [openCount, Sweep.sweep, List.countP_cons] at others ⊢
      cases gone : slot.removed with
      | true => simpa [leaves gone] using others
      | false => split <;> simp <;> omega

-- A round that locks nothing in is one drop of the slots as they are after the check.
theorem iap_round_drops (state : EngineState K)
    (nothing : (state.slots.map (checkSlot coupling point state.ledger.channels)).any pendingLock = false) :
    iapRound coupling point cfg state =
      ⟨(Sweep.sweep (dropSlot point cfg) (state.slots.map (checkSlot coupling point state.ledger.channels))
          state.ledger).1,
        (Sweep.sweep (dropSlot point cfg) (state.slots.map (checkSlot coupling point state.ledger.channels))
          state.ledger).2⟩ := by
  have unlocked : Sweep.sweep (lockSlot coupling point)
      (state.slots.map (checkSlot coupling point state.ledger.channels)) state.ledger =
        (state.slots.map (checkSlot coupling point state.ledger.channels), state.ledger) := by
    refine Sweep.sweep_idle _ _ _ fun slot member ledger => ?_
    rw [lockSlot, if_neg (List.any_eq_false.mp nothing slot member)]
  rw [iapRound, unlocked, nothing]
  rfl

theorem iap_round_locks (state : EngineState K)
    (some_pending : (state.slots.map (checkSlot coupling point state.ledger.channels)).any pendingLock = true) :
    iapRound coupling point cfg state =
      ⟨(Sweep.sweep (lockSlot coupling point) (state.slots.map (checkSlot coupling point state.ledger.channels))
          state.ledger).1,
        (Sweep.sweep (lockSlot coupling point) (state.slots.map (checkSlot coupling point state.ledger.channels))
          state.ledger).2⟩ := by
  rw [iapRound, some_pending]
  rfl

end Phases

section Bound

variable (coupling : InterferenceCoupling K) (point : ProtectionPoint K) (cfg : IapEngineConfig K)
variable (largest : K)

-- A grant still open after so many drops has come down by as many steps and is not below the floor.
def Lowered (drops : Nat) (slot : NeighborSlot K) : Prop :=
  slot.removed = false → slot.eirp ≤ largest - drops * cfg.eirpStepDb ∧ (drops = 0 ∨ cfg.eirpFloorDbmMhz ≤ slot.eirp)

theorem check_lowered (drops : Nat) (channels : List (ChannelSlot K)) (slot : NeighborSlot K)
    (lowered : Lowered cfg largest drops slot) : Lowered cfg largest drops (checkSlot coupling point channels slot) := by
  obtain ⟨_, eirpEq, removedEq, _⟩ := check_slot_core coupling point channels slot
  rw [Lowered, eirpEq, removedEq]
  exact lowered

theorem lock_lowered (drops : Nat) (slot : NeighborSlot K) (ledger : Ledger K) (lowered : Lowered cfg largest drops slot) :
    Lowered cfg largest drops (lockSlot coupling point slot ledger).1 := by
  obtain ⟨eirpEq, removedEq⟩ := lock_slot_effect coupling point slot ledger
  rw [Lowered, eirpEq, removedEq]
  intro still
  exact lowered (Bool.or_eq_false_iff.mp still).1

theorem drop_lowered (drops : Nat) (slot : NeighborSlot K) (ledger : Ledger K) (idle : pendingLock slot = false)
    (lowered : Lowered cfg largest drops slot) : Lowered cfg largest (drops + 1) (dropSlot point cfg slot ledger).1 := by
  obtain ⟨eirpEq, removedEq⟩ := drop_slot_effect point cfg slot ledger
  rw [Lowered, eirpEq, removedEq]
  intro still
  by_cases settled : (slot.removed || slot.satisfied) = true
  · rw [if_pos settled] at still
    rw [pendingLock, still] at idle
    rw [still] at settled
    rw [Bool.not_false, Bool.true_and] at idle
    rw [idle] at settled
    cases settled
  · rw [if_neg settled] at still ⊢
    have waiting : slot.removed = false ∧ slot.satisfied = false := by simpa using settled
    obtain ⟨level, _⟩ := lowered waiting.1
    refine ⟨?_, .inr ?_⟩
    · rw [Nat.cast_succ]
      linarith
    · simpa using still

-- How many drops the largest power takes to fall below the floor.
def dropBound [FloorRing K] : Nat := ⌊(largest - cfg.eirpFloorDbmMhz) / cfg.eirpStepDb⌋.toNat + 1

theorem drops_below [FloorRing K] (downward : 0 < cfg.eirpStepDb) (drops : Nat) (slot : NeighborSlot K)
    (still : slot.removed = false) (lowered : Lowered cfg largest drops slot) : drops < dropBound cfg largest := by
  obtain ⟨level, above⟩ := lowered still
  rw [dropBound, Nat.lt_succ_iff]
  rcases above with first | above
  · rw [first]
    exact Nat.zero_le _
  · have fits : (drops : K) ≤ (largest - cfg.eirpFloorDbmMhz) / cfg.eirpStepDb := by
      rw [le_div_iff₀ downward]
      linarith
    have floored : (drops : Int) ≤ ⌊(largest - cfg.eirpFloorDbmMhz) / cfg.eirpStepDb⌋ := Int.le_floor.mpr (by exact_mod_cast fits)
    omega

-- A round locks a grant in and leaves the powers as they are, or all open grants come down by a step.
theorem round_progress (drops : Nat) (state : EngineState K)
    (lowered : ∀ slot ∈ state.slots, Lowered cfg largest drops slot) :
    (openCount (iapRound coupling point cfg state).slots < openCount state.slots ∧
        ∀ slot ∈ (iapRound coupling point cfg state).slots, Lowered cfg largest drops slot) ∨
      (openCount (iapRound coupling point cfg state).slots ≤ openCount state.slots ∧
        ∀ slot ∈ (iapRound coupling point cfg state).slots, Lowered cfg largest (drops + 1) slot) := by
  have checkedLow : ∀ slot ∈ state.slots.map (checkSlot coupling point state.ledger.channels),
      Lowered cfg largest drops slot := by
    intro fresh member
    obtain ⟨slot, among, rfl⟩ := List.mem_map.mp member
    exact check_lowered coupling point cfg largest drops state.ledger.channels slot (lowered slot among)
  cases pending : (state.slots.map (checkSlot coupling point state.ledger.channels)).any pendingLock with
  | true =>
      left
      have split := lock_open_count coupling point (state.slots.map (checkSlot coupling point state.ledger.channels))
        state.ledger
      have taken : 0 < (state.slots.map (checkSlot coupling point state.ledger.channels)).countP pendingLock := by
        obtain ⟨slot, among, waits⟩ := List.any_eq_true.mp pending
        exact List.countP_pos_iff.mpr ⟨slot, among, waits⟩
      rw [check_open_count] at split
      rw [iap_round_locks coupling point cfg state pending]
      refine ⟨?_, ?_⟩
      · change openCount (Sweep.sweep (lockSlot coupling point) _ state.ledger).1 < _
        omega
      · exact Sweep.sweep_forall (lockSlot coupling point) (Lowered cfg largest drops) (Lowered cfg largest drops)
          (fun slot ledger => lock_lowered coupling point cfg largest drops slot ledger) _ _ checkedLow
  | false =>
      right
      have fewer := drop_open_count point cfg (state.slots.map (checkSlot coupling point state.ledger.channels))
        state.ledger
      rw [check_open_count] at fewer
      rw [iap_round_drops coupling point cfg state pending]
      refine ⟨fewer, ?_⟩
      refine Sweep.sweep_forall (dropSlot point cfg)
        (fun slot => pendingLock slot = false ∧ Lowered cfg largest drops slot) (Lowered cfg largest (drops + 1))
        (fun slot ledger both => drop_lowered point cfg largest drops slot ledger both.1 both.2) _ _ ?_
      intro fresh member
      exact ⟨by simpa using List.any_eq_false.mp pending fresh member, checkedLow fresh member⟩

theorem loop_drains [FloorRing K] (downward : 0 < cfg.eirpStepDb) (thresholdMw : K) (iterations drops : Nat)
    (state : EngineState K) (between : BetweenRounds coupling point thresholdMw state)
    (lowered : ∀ slot ∈ state.slots, Lowered cfg largest drops slot)
    (enough : openCount state.slots + (dropBound cfg largest - drops) ≤ iterations) :
    (iapLoop coupling point cfg iterations state).ledger.numUnsatisfied = 0 := by
  induction iterations generalizing drops state with
  | zero =>
      have count := between.sound.count
      rw [iapLoop, count]
      change openCount state.slots = 0
      omega
  | succ iterations ih =>
      rw [iapLoop]
      split
      · rename_i positive
        have next := iap_round_between coupling point cfg state thresholdMw between
        have count : state.ledger.numUnsatisfied = openCount state.slots := between.sound.count
        rcases round_progress coupling point cfg largest drops state lowered with ⟨fewer, kept⟩ | ⟨fewer, further⟩
        · exact ih drops (iapRound coupling point cfg state) next kept (by omega)
        · obtain ⟨slot, among, still⟩ : ∃ slot ∈ state.slots, slot.removed = false := by
            have one : 0 < openCount state.slots := by omega
            simpa [openCount] using List.countP_pos_iff.mp one
          have room := drops_below cfg largest downward drops slot still (lowered slot among)
          exact ih (drops + 1) (iapRound coupling point cfg state) next further (by omega)
      · omega

end Bound

section Settled

variable (coupling : InterferenceCoupling K) (point : ProtectionPoint K) (cfg : IapEngineConfig K)

-- A removed grant was floored or locked in, and what was locked in stands with the power it was locked in at.
def Settled (channels : List (FrequencyChannel × Nat)) (slot : NeighborSlot K) : Prop :=
  slot.removed = true → slot.hitFloor = true ∨
    ∀ entry ∈ channels, slot.overlaps point entry.1 = true →
      slot.lockedInterf entry.2 = some (slot.interf coupling point entry.1)

theorem lock_slot_settled (slot : NeighborSlot K) (ledger : Ledger K)
    (present : pendingLock slot = true → ∀ ch ∈ ledger.channels, slot.overlaps point ch.channel = true →
      slot.lockedInterf ch.chIdx = some (slot.interf coupling point ch.channel))
    (settled : Settled coupling point (layout ledger) slot) :
    Settled coupling point (layout ledger) (lockSlot coupling point slot ledger).1 := by
  by_cases pending : pendingLock slot = true
  · rw [lockSlot, if_pos pending, lock_channels_present coupling point slot ledger.channels (present pending)]
    refine fun _ => .inr fun entry member overlap => ?_
    obtain ⟨ch, among, rfl⟩ := List.mem_map.mp member
    exact present pending ch among overlap
  · rw [lockSlot, if_neg pending]
    exact settled

theorem drop_slot_settled (channels : List (FrequencyChannel × Nat)) (slot : NeighborSlot K) (ledger : Ledger K)
    (settled : Settled coupling point channels slot) :
    Settled coupling point channels (dropSlot point cfg slot ledger).1 := by
  unfold dropSlot
  split
  · exact settled
  · rename_i waiting
    have still : slot.removed = false := by
      simp only [Bool.or_eq_true, not_or, Bool.not_eq_true] at waiting
      exact waiting.1
    dsimp only
    split
    · exact fun _ => .inl rfl
    · intro gone
      rw [still] at gone
      cases gone

theorem check_slot_settled (channels : List (FrequencyChannel × Nat)) (rows : List (ChannelSlot K)) (slot : NeighborSlot K)
    (settled : Settled coupling point channels slot) : Settled coupling point channels (checkSlot coupling point rows slot) := by
  cases gone : slot.removed with
  | true =>
      rw [checkSlot, gone, Bool.true_or, if_pos rfl]
      exact settled
  | false =>
      intro removed
      rw [(check_slot_core coupling point rows slot).2.2.1, gone] at removed
      cases removed

theorem iap_round_settled (state : EngineState K) (thresholdMw : K) (between : BetweenRounds coupling point thresholdMw state)
    (settled : ∀ slot ∈ state.slots, Settled coupling point (layout state.ledger) slot) :
    ∀ slot ∈ (iapRound coupling point cfg state).slots, Settled coupling point (layout state.ledger) slot := by
  have checked := check_phase_sound coupling point state thresholdMw between
  have settledChecked : ∀ slot ∈ state.slots.map (checkSlot coupling point state.ledger.channels),
      Settled coupling point (layout state.ledger) slot := by
    intro fresh member
    obtain ⟨slot, among, rfl⟩ := List.mem_map.mp member
    exact check_slot_settled coupling point _ state.ledger.channels slot (settled slot among)
  have locked := Sweep.sweep_invariant (lockSlot coupling point)
    (fun slots ledger => EngineSound coupling point thresholdMw slots ledger ∧ layout ledger = layout state.ledger ∧
      ∀ slot ∈ slots, Settled coupling point (layout state.ledger) slot)
    (fun done slot rest ledger holds => by
      obtain ⟨sound, kept, each⟩ := holds
      refine ⟨lock_slot_sound coupling point thresholdMw done slot rest ledger sound,
        (lock_slot_layout coupling point slot ledger).trans kept, fun other member => ?_⟩
      simp only [List.mem_append, List.mem_cons] at member
      rcases member with before | here | after
      · exact each other (List.mem_append_left _ before)
      · rw [here, ← kept]
        refine lock_slot_settled coupling point slot ledger (sound.locked slot (by simp)) ?_
        rw [kept]
        exact each slot (by simp)
      · exact each other (List.mem_append_right _ (List.mem_cons_of_mem slot after)))
    (state.slots.map (checkSlot coupling point state.ledger.channels)) state.ledger ⟨checked, rfl, settledChecked⟩
  rw [iapRound]
  dsimp only
  split
  · exact locked.2.2
  · exact Sweep.sweep_forall (dropSlot point cfg) (Settled coupling point (layout state.ledger))
      (Settled coupling point (layout state.ledger))
      (fun slot ledger holds => drop_slot_settled coupling point cfg _ slot ledger holds) _ _ locked.2.2

theorem iap_loop_settled (iterations : Nat) (state : EngineState K) (thresholdMw : K)
    (between : BetweenRounds coupling point thresholdMw state)
    (settled : ∀ slot ∈ state.slots, Settled coupling point (layout state.ledger) slot) :
    ∀ slot ∈ (iapLoop coupling point cfg iterations state).slots, Settled coupling point (layout state.ledger) slot := by
  induction iterations generalizing state with
  | zero => exact settled
  | succ iterations ih =>
      rw [iapLoop]
      split
      · have kept := (iap_round_frame coupling point cfg state).2
        have later := ih (iapRound coupling point cfg state) (iap_round_between coupling point cfg state thresholdMw between)
        rw [kept] at later
        exact later (iap_round_settled coupling point cfg state thresholdMw between settled)
      · exact settled

end Settled

section Point

variable (model : RadioModel K) (cfg : IapEngineConfig K) (coupling : InterferenceCoupling K)
variable (point : ProtectionPoint K) (grants : List (GrantRfInfo K))

-- The state at the start of a round, or the last state where the loop ends before it.
def roundStart (rounds : Nat) : EngineState K := iapLoop coupling point cfg rounds (initialState model point grants)

def notRemovedOn (channel : FrequencyChannel) (slot : NeighborSlot K) : Bool :=
  !slot.removed && grantOverlapsChannel slot.grant channel point.entityKind

theorem final_settled : ∀ slot ∈ (finalState model cfg coupling point grants).slots,
    Settled coupling point ((iapChannels model point).zipIdx) slot := by
  have later := iap_loop_settled coupling point cfg cfg.maxIterations (initialState model point grants) _
    (initial_between model coupling point grants) (fun slot member gone => by
      obtain ⟨grant, _, rfl⟩ := List.mem_map.mp member
      cases gone)
  rw [initial_layout] at later
  exact later

theorem loop_bound [FloorRing K] (downward : 0 < cfg.eirpStepDb) (largest : K)
    (highest : ∀ grant ∈ grantsInNeighborhood model point grants, grant.maxEirpDbmMhz ≤ largest)
    (enough : (grantsInNeighborhood model point grants).length +
      (max 0 ⌊(largest - cfg.eirpFloorDbmMhz) / cfg.eirpStepDb⌋).toNat + 1 ≤ cfg.maxIterations) :
    (finalState model cfg coupling point grants).ledger.numUnsatisfied = 0 ∧
      (∀ slot ∈ (finalState model cfg coupling point grants).slots, slot.removed = true ∧
        (slot.hitFloor = true ∨ ∀ entry ∈ (iapChannels model point).zipIdx,
          grantOverlapsChannel slot.grant entry.1 point.entityKind = true →
            slot.lockedInterf entry.2 = some (coupling slot.grant point entry.1 slot.eirp))) ∧
      ∀ rounds,
        (roundStart model cfg coupling point grants rounds).ledger.numUnsatisfied =
            (roundStart model cfg coupling point grants rounds).slots.countP (fun slot => !slot.removed) ∧
          ∀ ch ∈ (roundStart model cfg coupling point grants rounds).ledger.channels,
            ch.unsatCount = (roundStart model cfg coupling point grants rounds).slots.countP
              (notRemovedOn point ch.channel) := by
  have between := initial_between model coupling point grants
  have drained : (finalState model cfg coupling point grants).ledger.numUnsatisfied = 0 := by
    refine loop_drains coupling point cfg largest downward _ cfg.maxIterations 0 _ between ?_ ?_
    · intro slot member _
      obtain ⟨grant, among, rfl⟩ := List.mem_map.mp member
      refine ⟨?_, .inl rfl⟩
      rw [Nat.cast_zero, zero_mul, sub_zero]
      exact highest grant among
    · have atMost : openCount (initialState model point grants).slots ≤ (grantsInNeighborhood model point grants).length := by
        have bound := List.countP_le_length (p := fun slot : NeighborSlot K => !slot.removed)
          (l := (initialState model point grants).slots)
        simpa [openCount, initialState] using bound
      rw [dropBound]
      omega
  refine ⟨drained, fun slot member => ?_, fun rounds => ?_⟩
  · have count := (final_between model cfg coupling point grants).sound.count
    rw [drained] at count
    have gone : slot.removed = true := by simpa using List.countP_eq_zero.mp count.symm slot member
    exact ⟨gone, final_settled model cfg coupling point grants slot member gone⟩
  · have sound := (iap_loop_between coupling point cfg rounds _ _ between).sound
    exact ⟨sound.count, fun ch member => (sound.rows ch member).unsat⟩

end Point

-- From 20 dBm/MHz it is 157 steps to the floor, and both grants stand well before the limit.
theorem loop_bound_two_grants :
    (finalState stepModel iapEngineConfig stepCoupling samplePoint sampleGrants).ledger.numUnsatisfied = 0 ∧
      ∀ slot ∈ (finalState stepModel iapEngineConfig stepCoupling samplePoint sampleGrants).slots, slot.removed = true := by
  have bound := loop_bound stepModel iapEngineConfig stepCoupling samplePoint sampleGrants (by decide) 20
    (by
      intro grant member
      have among := List.mem_of_mem_filter member
      simp only [sampleGrants, List.mem_cons, List.not_mem_nil, or_false] at among
      rcases among with rfl | rfl <;> decide)
    (by decide +kernel)
  exact ⟨bound.1, fun slot member => (bound.2.1 slot member).1⟩

end SasCore.Iap
