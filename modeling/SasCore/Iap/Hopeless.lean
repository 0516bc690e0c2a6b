import SasCore.Iap.Safety
import SasCore.Iap.MergeFold

set_option autoImplicit false
set_option linter.unusedSectionVars false

namespace SasCore.Iap

variable {K : Type} [Field K] [LinearOrder K] [IsStrictOrderedRing K]

-- Every transmitter fills the whole threshold of every point, whatever its EIRP is.
def hopelessCoupling (model : RadioModel K) : InterferenceCoupling K := fun _ point _ _ => pointThresholdMw model point

section Rounds

variable (model : RadioModel K) (cfg : IapEngineConfig K) (point : ProtectionPoint K)

-- No share of the channel exceeds the threshold.
def Scarce (thresholdMw : K) (ch : ChannelSlot K) : Prop := ch.iapThreshold = thresholdMw ∧ ch.fairshare ≤ thresholdMw

-- The slot after a number of rounds in which nothing was locked in: it came down one step in each of them,
-- until it fell below the floor.
structure Sunk (rounds : Nat) (slot : NeighborSlot K) : Prop where
  satisfied : slot.satisfied = slot.hitFloor
  removed : slot.removed = slot.hitFloor
  afloat : slot.hitFloor = false → slot.eirp = slot.grant.maxEirpDbmMhz - rounds * cfg.eirpStepDb ∧
    (rounds = 0 ∨ cfg.eirpFloorDbmMhz ≤ slot.eirp)
  floored : slot.hitFloor = true → ∃ fallen ≤ rounds,
    slot.grant.maxEirpDbmMhz - (fallen : Nat) * cfg.eirpStepDb < cfg.eirpFloorDbmMhz

theorem fairshare_scarce (thresholdMw : K) (nonneg : 0 ≤ thresholdMw) (count : Nat) :
    fairshareOf thresholdMw count ≤ thresholdMw := by
  rw [fairshareOf]
  split
  · rename_i positive
    exact div_le_self nonneg (Nat.one_le_cast.mpr positive)
  · exact nonneg

theorem leave_scarce (thresholdMw : K) (nonneg : 0 ≤ thresholdMw) (ch : ChannelSlot K) (scarce : Scarce thresholdMw ch) :
    Scarce thresholdMw ch.leave := by
  refine ⟨scarce.1, ?_⟩
  change fairshareOf ch.iapThreshold (ch.unsatCount - 1) ≤ thresholdMw
  rw [scarce.1]
  exact fairshare_scarce thresholdMw nonneg _

theorem check_fairshare_hopeless (slot : NeighborSlot K) (channels : List (ChannelSlot K))
    (scarce : ∀ ch ∈ channels, Scarce (pointThresholdMw model point) ch) :
    checkFairshare (hopelessCoupling model) point slot channels false = (slot, false) := by
  induction channels with
  | nil => rfl
  | cons ch rest ih =>
      have others := ih fun c member => scarce c (List.mem_cons_of_mem ch member)
      have full : ¬ slot.interf (hopelessCoupling model) point ch.channel < ch.fairshare :=
        not_lt.mpr (scarce ch List.mem_cons_self).2
      rw [checkFairshare]
      split
      · exact others
      · exact if_neg full

theorem check_slot_hopeless (channels : List (ChannelSlot K)) (slot : NeighborSlot K)
    (scarce : ∀ ch ∈ channels, Scarce (pointThresholdMw model point) ch) :
    checkSlot (hopelessCoupling model) point channels slot = slot := by
  rw [checkSlot]
  split
  · rfl
  · rename_i waiting
    have unsatisfied : slot.satisfied = false := by
      cases satisfied : slot.satisfied with
      | false => rfl
      | true => exact absurd (by simp [satisfied]) waiting
    rw [check_fairshare_hopeless model point slot channels scarce]
    change { slot with satisfied := false } = slot
    rw [← unsatisfied]

theorem sunk_not_pending (rounds : Nat) (slot : NeighborSlot K) (sunk : Sunk cfg rounds slot) :
    pendingLock slot = false := by
  rw [pendingLock, sunk.removed, sunk.satisfied]
  cases slot.hitFloor with
  | false => rfl
  | true => rfl

theorem drop_slot_sinks (rounds : Nat) (slot : NeighborSlot K) (ledger : Ledger K) (sunk : Sunk cfg rounds slot) :
    Sunk cfg (rounds + 1) (dropSlot point cfg slot ledger).1 := by
  rw [dropSlot]
  cases floor : slot.hitFloor with
  | true =>
      rw [if_pos (by rw [sunk.removed, floor]; rfl)]
      obtain ⟨fallen, within, below⟩ := sunk.floored floor
      refine ⟨sunk.satisfied, sunk.removed, fun above => ?_, fun _ => ⟨fallen, Nat.le_succ_of_le within, below⟩⟩
      rw [floor] at above
      cases above
  | false =>
      rw [if_neg (by rw [sunk.removed, sunk.satisfied, floor]; decide)]
      obtain ⟨level, _⟩ := sunk.afloat floor
      have lower : slot.eirp - cfg.eirpStepDb = slot.grant.maxEirpDbmMhz - ((rounds + 1 : Nat) : K) * cfg.eirpStepDb := by
        rw [level, Nat.cast_succ]
        ring
      dsimp only
      split
      · rename_i below
        refine ⟨rfl, rfl, fun above => ?_, fun _ => ⟨rounds + 1, le_refl _, ?_⟩⟩
        · cases above
        · rw [← lower]
          exact below
      · rename_i above
        exact ⟨sunk.satisfied.trans floor, sunk.removed.trans floor, fun _ => ⟨lower, Or.inr (not_lt.mp above)⟩,
          fun fell => by cases fell⟩

theorem drop_slot_scarce (thresholdMw : K) (nonneg : 0 ≤ thresholdMw) (slot : NeighborSlot K) (ledger : Ledger K)
    (scarce : ∀ ch ∈ ledger.channels, Scarce thresholdMw ch) :
    ∀ ch ∈ (dropSlot point cfg slot ledger).2.channels, Scarce thresholdMw ch := by
  rw [dropSlot]
  split
  · exact scarce
  · dsimp only
    split
    · intro ch member
      obtain ⟨old, oldMember, same⟩ := List.mem_map.mp member
      rw [← same]
      split
      · exact leave_scarce thresholdMw nonneg old (scarce old oldMember)
      · exact scarce old oldMember
    · exact scarce

structure Sinking (rounds : Nat) (state : EngineState K) : Prop where
  slots : ∀ slot ∈ state.slots, Sunk cfg rounds slot
  channels : ∀ ch ∈ state.ledger.channels, Scarce (pointThresholdMw model point) ch

theorem iap_round_sinks (rounds : Nat) (state : EngineState K) (sinking : Sinking model cfg point rounds state) :
    Sinking model cfg point (rounds + 1) (iapRound (hopelessCoupling model) point cfg state) := by
  have checked : state.slots.map (checkSlot (hopelessCoupling model) point state.ledger.channels) = state.slots :=
    (List.map_congr_left fun slot _ =>
      check_slot_hopeless model point state.ledger.channels slot sinking.channels).trans (List.map_id _)
  have unlocked : Sweep.sweep (lockSlot (hopelessCoupling model) point) state.slots state.ledger =
      (state.slots, state.ledger) := by
    refine Sweep.sweep_idle _ state.slots state.ledger fun slot member ledger => ?_
    rw [lockSlot, if_neg]
    rw [sunk_not_pending cfg rounds slot (sinking.slots slot member)]
    decide
  have nonePending : state.slots.any pendingLock = false :=
    List.any_eq_false.mpr fun slot member => by
      rw [sunk_not_pending cfg rounds slot (sinking.slots slot member)]
      decide
  have thresholdNonneg : 0 ≤ pointThresholdMw model point := le_of_lt (model.dbmToMw_pos _)
  rw [iapRound, checked, unlocked, nonePending]
  refine ⟨?_, ?_⟩
  · exact Sweep.sweep_forall (dropSlot point cfg) (Sunk cfg rounds) (Sunk cfg (rounds + 1))
      (drop_slot_sinks cfg point rounds) state.slots state.ledger sinking.slots
  · exact Sweep.sweep_invariant (dropSlot point cfg)
      (fun _ ledger => ∀ ch ∈ ledger.channels, Scarce (pointThresholdMw model point) ch)
      (fun _ slot _ ledger => drop_slot_scarce cfg point _ thresholdNonneg slot ledger) state.slots state.ledger
      sinking.channels

theorem iap_loop_sinks (iterations rounds : Nat) (state : EngineState K)
    (sinking : Sinking model cfg point rounds state) :
    ∃ last ≤ rounds + iterations,
      Sinking model cfg point last (iapLoop (hopelessCoupling model) point cfg iterations state) ∧
        ((iapLoop (hopelessCoupling model) point cfg iterations state).ledger.numUnsatisfied = 0 ∨
          last = rounds + iterations) := by
  induction iterations generalizing rounds state with
  | zero => exact ⟨rounds, le_refl _, sinking, Or.inr rfl⟩
  | succ iterations ih =>
      rw [iapLoop]
      split
      · obtain ⟨last, within, sunk, ended⟩ := ih (rounds + 1) _ (iap_round_sinks model cfg point rounds state sinking)
        rw [Nat.add_right_comm] at within ended
        exact ⟨last, within, sunk, ended⟩
      · rename_i drained
        exact ⟨rounds, Nat.le_add_right _ _, sinking, Or.inl (by omega)⟩

theorem initial_sinking (grants : List (GrantRfInfo K)) :
    Sinking model cfg point 0 (initialState model point grants) := by
  refine ⟨?_, ?_⟩
  · intro slot member
    obtain ⟨grant, _, same⟩ := List.mem_map.mp member
    rw [← same]
    refine ⟨rfl, rfl, fun _ => ⟨?_, Or.inl rfl⟩, fun floor => by cases floor⟩
    rw [Nat.cast_zero, zero_mul, sub_zero]
    rfl
  · intro ch member
    obtain ⟨entry, _, same⟩ := List.mem_map.mp member
    rw [← same]
    exact ⟨rfl, fairshare_scarce _ (le_of_lt (model.dbmToMw_pos _)) _⟩

end Rounds

section Decisions

variable (model : RadioModel K) (cfg : IapEngineConfig K)

-- What a grant is left with after every round has lowered it.
def sunkEirp (grant : GrantRfInfo K) : K := grant.maxEirpDbmMhz - (cfg.maxIterations : Nat) * cfg.eirpStepDb

def sunkAction (grant : GrantRfInfo K) : IapAction :=
  if sunkEirp cfg grant < cfg.eirpFloorDbmMhz then .terminate else .reducePower

def sunkPower (grant : GrantRfInfo K) : K :=
  if sunkEirp cfg grant < cfg.eirpFloorDbmMhz then cfg.eirpFloorDbmMhz else sunkEirp cfg grant

theorem sunk_acts (grant : GrantRfInfo K) : sunkAction cfg grant ≠ .keep := by
  rw [sunkAction]
  split
  · decide
  · decide

variable (point : ProtectionPoint K) (grants : List (GrantRfInfo K))
variable (downward : 0 ≤ cfg.eirpStepDb) (far : eirpEpsilon < (cfg.maxIterations : Nat) * cfg.eirpStepDb)

def SunkDecision (grant : GrantRfInfo K) (decision : IapGrantDecision K) : Prop :=
  decision.grantId = grant.grantId ∧ decision.grantPk = grant.grantPk ∧ decision.action = sunkAction cfg grant ∧
    decision.authorizedEirpDbmMhz = sunkPower cfg grant

include downward far in
theorem final_slot_sunk (slot : NeighborSlot K)
    (member : slot ∈ (finalState model cfg (hopelessCoupling model) point grants).slots) (channels : List (ChannelSlot K)) :
    SunkDecision cfg slot.grant (slotDecision cfg point channels slot) := by
  obtain ⟨last, within, sinking, ended⟩ :=
    iap_loop_sinks model cfg point cfg.maxIterations 0 _ (initial_sinking model cfg point grants)
  rw [Nat.zero_add] at within ended
  have sunk := sinking.slots slot member
  cases floor : slot.hitFloor with
  | true =>
      obtain ⟨fallen, fallenWithin, below⟩ := sunk.floored floor
      have least : sunkEirp cfg slot.grant < cfg.eirpFloorDbmMhz := by
        have longer : ((fallen : Nat) : K) * cfg.eirpStepDb ≤ (cfg.maxIterations : Nat) * cfg.eirpStepDb :=
          mul_le_mul_of_nonneg_right (Nat.cast_le.mpr (fallenWithin.trans within)) downward
        rw [sunkEirp]
        linarith
      have ends : terminatedBy channels slot = true := by rw [terminatedBy, floor, Bool.true_or]
      simp only [SunkDecision, slotDecision, ends, if_true, sunkAction, sunkPower, if_pos least, and_self]
  | false =>
      have unlocked : slot.removed = false := sunk.removed.trans floor
      have exhausted : last = cfg.maxIterations := by
        rcases ended with drained | same
        · have count := (final_between model cfg (hopelessCoupling model) point grants).sound.count
          rw [finalState, drained] at count
          have notOpen := List.countP_eq_zero.mp count.symm slot member
          exact absurd (by simp [unlocked]) notOpen
        · exact same
      obtain ⟨level, above⟩ := sunk.afloat floor
      have eirp : slot.eirp = sunkEirp cfg slot.grant := by rw [level, exhausted, sunkEirp]
      have notBelow : ¬ sunkEirp cfg slot.grant < cfg.eirpFloorDbmMhz := by
        rcases above with none | above
        · rw [exhausted.symm.trans none, Nat.cast_zero, zero_mul] at far
          have positive : (0 : K) < eirpEpsilon := by
            rw [eirpEpsilon]
            positivity
          exact absurd (positive.trans far) (lt_irrefl 0)
        · rw [← eirp]
          exact not_lt.mpr above
      have lowered : sunkEirp cfg slot.grant + eirpEpsilon < slot.grant.maxEirpDbmMhz := by
        rw [sunkEirp]
        linarith
      have stays : terminatedBy channels slot = false := by
        rw [terminatedBy, floor, unlocked, Bool.and_false, Bool.false_and, Bool.or_false]
      simp only [SunkDecision, slotDecision, stays, Bool.false_eq_true, if_false, if_pos lowered, sunkAction, sunkPower,
        if_neg notBelow, eirp, and_self]

include downward far in
-- Under the hopeless coupling a busy point stops or lowers every grant of its neighbourhood.
theorem hopeless_hits (busy : idlePoint model point grants = false) (grant : GrantRfInfo K)
    (member : grant ∈ grantsInNeighborhood model point grants) (managing : grant.isManagingSas = true) :
    ∃ d ∈ (runIapForPoint model cfg (hopelessCoupling model) point grants).decisions, SunkDecision cfg grant d := by
  rw [← final_grants model cfg (hopelessCoupling model) point grants] at member
  obtain ⟨slot, slotMember, same⟩ := List.mem_map.mp member
  rw [runIapForPoint, busy]
  refine ⟨_, List.mem_map_of_mem (List.mem_filter.mpr ⟨slotMember, by rw [same, managing]⟩), ?_⟩
  rw [← same]
  exact final_slot_sunk model cfg point grants downward far slot slotMember _

include downward far in
theorem hopeless_from (busy : idlePoint model point grants = false) (decision : IapGrantDecision K)
    (member : decision ∈ (runIapForPoint model cfg (hopelessCoupling model) point grants).decisions) :
    ∃ grant ∈ grantsInNeighborhood model point grants, grant.isManagingSas = true ∧ SunkDecision cfg grant decision := by
  rw [runIapForPoint, busy] at member
  obtain ⟨slot, inManaging, same⟩ := List.mem_map.mp member
  obtain ⟨slotMember, managing⟩ := List.mem_filter.mp inManaging
  refine ⟨slot.grant, ?_, managing, ?_⟩
  · rw [← final_grants model cfg (hopelessCoupling model) point grants]
    exact List.mem_map_of_mem slotMember
  · rw [← same]
    exact final_slot_sunk model cfg point grants downward far slot slotMember _

end Decisions

end SasCore.Iap
