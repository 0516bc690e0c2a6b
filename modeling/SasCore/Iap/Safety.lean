import SasCore.Iap.EngineRun
import SasCore.Iap.Merge
import Mathlib.Algebra.Order.BigOperators.Group.List
import Mathlib.Tactic.Positivity
import Mathlib.Data.Rat.Floor
import Mathlib.Algebra.Order.Ring.Rat

set_option autoImplicit false
set_option linter.unusedSectionVars false

namespace SasCore.Iap

variable {K : Type} [Field K] [LinearOrder K] [IsStrictOrderedRing K]

section Frame

variable (coupling : InterferenceCoupling K) (point : ProtectionPoint K) (cfg : IapEngineConfig K)

theorem lock_channels_grant (slot : NeighborSlot K) (channels : List (ChannelSlot K)) :
    (lockChannels coupling point slot channels).1.grant = slot.grant := by
  induction channels generalizing slot with
  | nil => rfl
  | cons ch rest ih =>
      rw [lockChannels]
      split
      · exact ih slot
      · exact ih (slot.lock ch.chIdx _)

theorem lock_slot_grant (slot : NeighborSlot K) (ledger : Ledger K) :
    (lockSlot coupling point slot ledger).1.grant = slot.grant := by
  unfold lockSlot
  split
  · exact lock_channels_grant coupling point slot ledger.channels
  · rfl

theorem drop_slot_grant (slot : NeighborSlot K) (ledger : Ledger K) :
    (dropSlot point cfg slot ledger).1.grant = slot.grant := by
  unfold dropSlot
  split
  · rfl
  · dsimp only
    split <;> rfl

theorem sweep_layout (visit : NeighborSlot K → Ledger K → NeighborSlot K × Ledger K)
    (same : ∀ slot ledger, layout (visit slot ledger).2 = layout ledger) (slots : List (NeighborSlot K))
    (ledger : Ledger K) : layout (Sweep.sweep visit slots ledger).2 = layout ledger :=
  Sweep.sweep_invariant visit (fun _ current => layout current = layout ledger)
    (fun _ slot _ current kept => (same slot current).trans kept) slots ledger rfl

theorem iap_round_frame (state : EngineState K) :
    (iapRound coupling point cfg state).slots.map (·.grant) = state.slots.map (·.grant) ∧
      layout (iapRound coupling point cfg state).ledger = layout state.ledger := by
  have checked : (state.slots.map (checkSlot coupling point state.ledger.channels)).map (·.grant) =
      state.slots.map (·.grant) := by
    rw [List.map_map]
    exact List.map_congr_left fun slot _ => (check_slot_core coupling point state.ledger.channels slot).1
  have locked := fun slots ledger => Sweep.sweep_map (lockSlot coupling point) (·.grant)
    (lock_slot_grant coupling point) slots ledger
  have lockedLayout := fun slots ledger => sweep_layout (lockSlot coupling point)
    (lock_slot_layout coupling point) slots ledger
  rw [iapRound]
  dsimp only
  split
  · exact ⟨(locked _ _).trans checked, lockedLayout _ _⟩
  · refine ⟨?_, ?_⟩
    · have dropped := Sweep.sweep_map (dropSlot point cfg) (·.grant) (drop_slot_grant point cfg)
      exact (dropped _ _).trans ((locked _ _).trans checked)
    · have dropped := sweep_layout (dropSlot point cfg) (drop_slot_layout point cfg)
      exact (dropped _ _).trans (lockedLayout _ _)

theorem iap_loop_frame (iterations : Nat) (state : EngineState K) :
    (iapLoop coupling point cfg iterations state).slots.map (·.grant) = state.slots.map (·.grant) ∧
      layout (iapLoop coupling point cfg iterations state).ledger = layout state.ledger := by
  induction iterations generalizing state with
  | zero => exact ⟨rfl, rfl⟩
  | succ iterations ih =>
      rw [iapLoop]
      split
      · obtain ⟨grants, kept⟩ := ih (iapRound coupling point cfg state)
        obtain ⟨roundGrants, roundKept⟩ := iap_round_frame coupling point cfg state
        exact ⟨grants.trans roundGrants, kept.trans roundKept⟩
      · exact ⟨rfl, rfl⟩

end Frame

section Point

variable (model : RadioModel K) (cfg : IapEngineConfig K) (coupling : InterferenceCoupling K)
variable (point : ProtectionPoint K) (grants : List (GrantRfInfo K))

theorem initial_layout : layout (initialState model point grants).ledger = (iapChannels model point).zipIdx := by
  simp only [layout, initialState, List.map_map]
  exact List.map_id _

theorem initial_between :
    BetweenRounds coupling point (pointThresholdMw model point) (initialState model point grants) := by
  have fresh : ∀ slot ∈ (initialState model point grants).slots, slot.removed = false ∧ slot.satisfied = false ∧
      slot.hitFloor = false := by
    intro slot member
    obtain ⟨grant, _, same⟩ := List.mem_map.mp member
    rw [← same]
    exact ⟨rfl, rfl, rfl⟩
  have idle : ∀ slot ∈ (initialState model point grants).slots, pendingLock slot = false := by
    intro slot member
    simp [pendingLock, (fresh slot member).2.1]
  have thresholdNonneg : 0 ≤ pointThresholdMw model point := le_of_lt (model.dbmToMw_pos _)
  refine ⟨⟨?_, ?_, ?_, ?_, ?_⟩, idle⟩
  · have all : ∀ slot ∈ (initialState model point grants).slots, (!slot.removed) = true := by
      intro slot member
      simp [(fresh slot member).1]
    rw [List.countP_eq_length.mpr all]
    simp [initialState]
  · intro slot member floor
    rw [(fresh slot member).2.2] at floor
    cases floor
  · intro ch member
    obtain ⟨entry, _, same⟩ := List.mem_map.mp member
    have none : lockedLoad coupling point (initialState model point grants).slots ch.channel = 0 := by
      refine List.sum_eq_zero fun value valueMember => ?_
      obtain ⟨slot, slotMember, valueEq⟩ := List.mem_map.mp valueMember
      rw [← valueEq]
      simp [lockedShare, (fresh slot slotMember).1]
    refine ⟨?_, ?_, ?_, 0, le_refl 0, ?_, ?_⟩
    · rw [← same]
      simp only [initialState, initialChannel, List.countP_map]
      exact List.countP_congr fun grant _ => by simp [openOn, initialSlot, NeighborSlot.overlaps]
    · rw [none, add_zero, ← same]
      rfl
    · rw [← same]
      rfl
    · rw [zero_mul, ← same]
      exact thresholdNonneg
    · intro slot slotMember pending
      rw [idle slot slotMember] at pending
      cases pending
  · intro slot member pending
    rw [idle slot member] at pending
    cases pending
  · rw [initial_layout, List.zipIdx_map_snd]
    exact List.nodup_range'

theorem final_between :
    BetweenRounds coupling point (pointThresholdMw model point) (finalState model cfg coupling point grants) :=
  iap_loop_between coupling point cfg cfg.maxIterations _ _ (initial_between model coupling point grants)

theorem final_grants :
    (finalState model cfg coupling point grants).slots.map (·.grant) = grantsInNeighborhood model point grants := by
  rw [finalState, (iap_loop_frame coupling point cfg cfg.maxIterations _).1]
  simp only [initialState, List.map_map]
  exact List.map_id _

-- When the loop ends by itself, what was locked in on a channel fits under the point's threshold.
theorem final_locked_load (channel : FrequencyChannel) (member : channel ∈ iapChannels model point) :
    lockedLoad coupling point (finalState model cfg coupling point grants).slots channel ≤
      pointThresholdMw model point := by
  have between := final_between model cfg coupling point grants
  have kept : layout (finalState model cfg coupling point grants).ledger = (iapChannels model point).zipIdx := by
    rw [finalState, (iap_loop_frame coupling point cfg cfg.maxIterations _).2, initial_layout]
  have present : channel ∈ (layout (finalState model cfg coupling point grants).ledger).map Prod.fst := by
    rw [kept, List.zipIdx_map_fst]
    exact member
  simp only [layout, List.map_map, List.mem_map, Function.comp_apply] at present
  obtain ⟨ch, chMember, same⟩ := present
  have row := between.sound.rows ch chMember
  have nonneg := residual_nonneg coupling point _ _ ch row
  have residual := row.residual
  rw [same] at residual
  linarith

theorem final_all_removed (finished : ¬ hitsMaxIterations model cfg coupling point grants)
    (busy : idlePoint model point grants = false) :
    ∀ slot ∈ (finalState model cfg coupling point grants).slots, slot.removed = true := by
  have drained : (finalState model cfg coupling point grants).ledger.numUnsatisfied = 0 := by
    have notPositive : ¬ 0 < (finalState model cfg coupling point grants).ledger.numUnsatisfied :=
      fun positive => finished ⟨busy, positive⟩
    omega
  have count := (final_between model cfg coupling point grants).sound.count
  rw [drained] at count
  intro slot member
  have notOpen := List.countP_eq_zero.mp count.symm slot member
  simpa using notOpen

theorem point_decisions_coherent (initial : String → K)
    (initialEq : ∀ grant ∈ grants, initial grant.grantId = grant.maxEirpDbmMhz) :
    ∀ d ∈ (runIapForPoint model cfg coupling point grants).decisions, Coherent initial d := by
  intro d member
  have positive : (0 : K) < eirpEpsilon := by
    unfold eirpEpsilon
    positivity
  rw [runIapForPoint] at member
  split at member
  · obtain ⟨grant, grantMember, same⟩ := List.mem_map.mp member
    rw [← same]
    have eirp := initialEq grant (List.mem_of_mem_filter grantMember)
    simp only [Coherent, earlyDecision]
    linarith
  · obtain ⟨slot, slotMember, same⟩ := List.mem_map.mp member
    have inFinal := List.mem_map_of_mem (f := (·.grant)) (List.mem_of_mem_filter slotMember)
    rw [final_grants] at inFinal
    have eirp := initialEq slot.grant (List.mem_of_mem_filter inFinal)
    rw [← same]
    unfold slotDecision
    dsimp only
    split
    · trivial
    · split
      · rename_i lower
        simp only [Coherent, eirp]
        exact lower
      · rename_i _ notLower
        simp only [Coherent, eirp]
        exact not_lt.mp notLower

end Point

theorem initial_eirp_exists (grants : List (GrantRfInfo K)) (distinct : (grants.map (·.grantId)).Nodup) :
    ∃ initial : String → K, ∀ grant ∈ grants, initial grant.grantId = grant.maxEirpDbmMhz := by
  induction grants with
  | nil => exact ⟨fun _ => 0, fun grant member => by cases member⟩
  | cons first rest ih =>
      simp only [List.map_cons, List.nodup_cons] at distinct
      obtain ⟨initial, known⟩ := ih distinct.2
      refine ⟨fun id => if id = first.grantId then first.maxEirpDbmMhz else initial id, ?_⟩
      intro grant member
      rcases List.mem_cons.mp member with same | later
      · rw [same]
        exact if_pos rfl
      · have different : grant.grantId ≠ first.grantId := fun same =>
          distinct.1 (same ▸ List.mem_map_of_mem later)
        exact (if_neg different).trans (known grant later)

-- Interference of a grant at the power its merged decision authorises; a terminated grant is off.
def authorizedInterf (coupling : InterferenceCoupling K) (merged : List (IapGrantDecision K))
    (point : ProtectionPoint K) (channel : FrequencyChannel) (grant : GrantRfInfo K) : K :=
  match decisionFor merged grant.grantId with
  | none => coupling grant point channel grant.maxEirpDbmMhz
  | some decision =>
      if decision.action = .terminate then 0 else coupling grant point channel decision.authorizedEirpDbmMhz

def managedOn (point : ProtectionPoint K) (channel : FrequencyChannel) (grant : GrantRfInfo K) : Bool :=
  grant.isManagingSas && grantOverlapsChannel grant channel point.entityKind

def authorizedLoad (model : RadioModel K) (coupling : InterferenceCoupling K) (grants : List (GrantRfInfo K))
    (merged : List (IapGrantDecision K)) (point : ProtectionPoint K) (channel : FrequencyChannel) : K :=
  (((grantsInNeighborhood model point grants).filter (managedOn point channel)).map
    (authorizedInterf coupling merged point channel)).sum

theorem sum_filter_map_le {α : Type} (entries : List α) (keep : α → Bool) (value bound : α → K)
    (below : ∀ entry ∈ entries, keep entry = true → value entry ≤ bound entry)
    (nonneg : ∀ entry ∈ entries, 0 ≤ bound entry) :
    ((entries.filter keep).map value).sum ≤ (entries.map bound).sum := by
  induction entries with
  | nil => exact le_refl _
  | cons entry rest ih =>
      have others := ih (fun e member => below e (List.mem_cons_of_mem _ member))
        (fun e member => nonneg e (List.mem_cons_of_mem _ member))
      have here := nonneg entry List.mem_cons_self
      by_cases kept : keep entry = true
      · have entryBelow := below entry List.mem_cons_self kept
        rw [List.filter_cons_of_pos kept, List.map_cons, List.map_cons, List.sum_cons, List.sum_cons]
        linarith
      · rw [List.filter_cons_of_neg kept, List.map_cons, List.sum_cons]
        linarith

section Run

variable (model : RadioModel K) (cfg : IapEngineConfig K) (coupling : InterferenceCoupling K)
variable (points : List (ProtectionPoint K)) (grants : List (GrantRfInfo K))

theorem slot_authorized (distinct : (grants.map (·.grantId)).Nodup)
    (nonneg : ∀ grant point channel eirp, 0 ≤ coupling grant point channel eirp)
    (monotone : ∀ grant point channel, Monotone (coupling grant point channel))
    (point : ProtectionPoint K) (pointMember : point ∈ points) (busy : idlePoint model point grants = false)
    (finished : ¬ hitsMaxIterations model cfg coupling point grants) (channel : FrequencyChannel)
    (slot : NeighborSlot K) (slotMember : slot ∈ (finalState model cfg coupling point grants).slots)
    (managed : managedOn point channel slot.grant = true) :
    authorizedInterf coupling (runIap model cfg coupling points grants).mergedDecisions point channel slot.grant ≤
      lockedShare coupling point channel slot := by
  obtain ⟨initial, initialEq⟩ := initial_eirp_exists grants distinct
  simp only [managedOn, Bool.and_eq_true] at managed
  have decided : slotDecision cfg point (finalState model cfg coupling point grants).ledger.channels slot ∈
      (runIapForPoint model cfg coupling point grants).decisions := by
    rw [runIapForPoint, busy]
    exact List.mem_map_of_mem (List.mem_filter.mpr ⟨slotMember, managed.1⟩)
  have coherent : ∀ result ∈ (runIap model cfg coupling points grants).points, ∀ d ∈ result.decisions,
      Coherent initial d := by
    intro result member d dMember
    obtain ⟨p, _, same⟩ := List.mem_map.mp member
    rw [← same] at dMember
    exact point_decisions_coherent model cfg coupling p grants initial initialEq d dMember
  obtain ⟨merged, found, dominates⟩ := merged_decision_dominates initial _ coherent _
    (List.mem_map_of_mem pointMember) _ decided
  have idEq : (slotDecision cfg point (finalState model cfg coupling point grants).ledger.channels slot).grantId =
      slot.grant.grantId := rfl
  rw [idEq] at found
  have foundMerged : decisionFor (runIap model cfg coupling points grants).mergedDecisions slot.grant.grantId =
      some merged := found
  have shareNonneg : 0 ≤ lockedShare coupling point channel slot := by
    unfold lockedShare
    split
    · exact nonneg _ _ _ _
    · exact le_refl 0
  simp only [authorizedInterf, foundMerged]
  split
  · exact shareNonneg
  · rename_i running
    rcases dominates with terminated | ⟨stillRunning, lower⟩
    · exact absurd terminated running
    · have alive : terminatedBy (finalState model cfg coupling point grants).ledger.channels slot = false := by
        cases stopped : terminatedBy (finalState model cfg coupling point grants).ledger.channels slot with
        | false => rfl
        | true => simp [slotDecision, stopped] at stillRunning
      have above : slot.hitFloor = false := by
        simp only [terminatedBy, Bool.or_eq_false_iff] at alive
        exact alive.1
      have authorized : (slotDecision cfg point (finalState model cfg coupling point grants).ledger.channels
          slot).authorizedEirpDbmMhz = slot.eirp := by
        simp only [slotDecision, alive, Bool.false_eq_true, if_false]
        split <;> rfl
      have removed := final_all_removed model cfg coupling point grants finished busy slot slotMember
      have locked : lockedShare coupling point channel slot = coupling slot.grant point channel slot.eirp := by
        simp [lockedShare, removed, above, NeighborSlot.overlaps, NeighborSlot.interf, managed.2]
      rw [locked]
      rw [authorized] at lower
      exact monotone _ _ _ lower

theorem iap_safe (distinct : (grants.map (·.grantId)).Nodup)
    (nonneg : ∀ grant point channel eirp, 0 ≤ coupling grant point channel eirp)
    (monotone : ∀ grant point channel, Monotone (coupling grant point channel))
    (finished : ∀ point ∈ points, ¬ hitsMaxIterations model cfg coupling point grants) :
    ∀ point ∈ points, ∀ channel ∈ iapChannels model point,
      authorizedLoad model coupling grants (runIap model cfg coupling points grants).mergedDecisions point channel ≤
        pointThresholdMw model point := by
  intro point pointMember channel channelMember
  by_cases busy : idlePoint model point grants = true
  · have none : grantsInNeighborhood model point grants = [] := by
      simp only [idlePoint, Bool.or_eq_true, List.isEmpty_iff] at busy
      rcases busy with noChannel | noNeighbor
      · rw [noChannel] at channelMember
        cases channelMember
      · exact noNeighbor
    rw [authorizedLoad, none]
    exact le_of_lt (model.dbmToMw_pos _)
  · have active : idlePoint model point grants = false := by simpa using busy
    refine le_trans ?_ (final_locked_load model cfg coupling point grants channel channelMember)
    rw [authorizedLoad, ← final_grants model cfg coupling point grants, List.filter_map, List.map_map]
    refine sum_filter_map_le _ _ _ _ ?_ ?_
    · exact fun slot member managed => slot_authorized model cfg coupling points grants distinct nonneg monotone point
        pointMember active (finished point pointMember) channel slot member managed
    · intro slot _
      unfold lockedShare
      split
      · exact nonneg _ _ _ _
      · exact le_refl 0

end Run

-- A step function on the rationals stands in for the power of ten.
def stepModel : RadioModel Rat where
  dbmToMw := fun dbm => (10 : Rat) ^ ⌊dbm / 10⌋
  dbmToMw_pos := fun _ => zpow_pos (by decide) _
  haversineKm := fun lat1 lon1 lat2 lon2 => |lat1 - lat2| + |lon1 - lon2|
  bandOriginHz := 3550000000
  bandOriginHz_nonneg := by decide

def stepCoupling : InterferenceCoupling Rat := fun _ _ _ eirp => (10 : Rat) ^ ⌊(eirp - 100) / 10⌋

def samplePoint : ProtectionPoint Rat :=
  { pointId := "gwpz/0", latitude := 0, longitude := 0, lowHz := 3550000000, highHz := 3555000000, thresholdDbm := -80,
    entityKind := .gwpz, preIapMarginDb := 1 }

def sampleGrant (id : String) (eirp : Rat) : GrantRfInfo Rat :=
  { grantId := id, cbsdId := id, latitude := 0, longitude := 0, heightM := 0, lowHz := 3550000000,
    highHz := 3560000000, maxEirpDbmMhz := eirp }

def sampleGrants : List (GrantRfInfo Rat) := [sampleGrant "a" 20, sampleGrant "b" 10]

theorem sample_channels : iapChannels stepModel samplePoint = [.mk 3550000000 3555000000] := by
  apply iap_channels_eq
  simp [overlappingBounds, boundsFrom, FrequencyChannel.bounds, stepModel, samplePoint, iapbwHz]

theorem step_coupling_monotone (grant : GrantRfInfo Rat) (point : ProtectionPoint Rat) (channel : FrequencyChannel) :
    Monotone (stepCoupling grant point channel) := by
  intro low high le
  exact zpow_le_zpow_right₀ (by decide) (Int.floor_le_floor (by linarith))

-- Both grants have to come down to 9 dBm/MHz here before the channel has room for them.
theorem iap_safe_two_grants :
    authorizedLoad stepModel stepCoupling sampleGrants
        (runIap stepModel iapEngineConfig stepCoupling [samplePoint] sampleGrants).mergedDecisions samplePoint
        (.mk 3550000000 3555000000) ≤ pointThresholdMw stepModel samplePoint := by
  have finished : ∀ point ∈ [samplePoint], ¬ hitsMaxIterations stepModel iapEngineConfig stepCoupling point sampleGrants := by
    intro point member
    rw [List.mem_singleton.mp member]
    unfold hitsMaxIterations finalState initialState idlePoint
    rw [sample_channels]
    decide +kernel
  exact iap_safe stepModel iapEngineConfig stepCoupling [samplePoint] sampleGrants (by decide)
    (fun _ _ _ _ => le_of_lt (zpow_pos (by decide) _)) step_coupling_monotone finished samplePoint
    (List.mem_singleton_self _) _ (by rw [sample_channels]; exact List.mem_singleton_self _)

end SasCore.Iap
