import SasCore.Iap.LoopBound
import SasCore.Iap.Reordering
import Mathlib.Algebra.BigOperators.Group.List.Basic

set_option autoImplicit false
set_option linter.unusedSectionVars false

namespace SasCore.Iap

variable {K : Type} [Field K] [LinearOrder K] [IsStrictOrderedRing K]

section Run

variable (coupling : InterferenceCoupling K) (point : ProtectionPoint K) (cfg : IapEngineConfig K)

-- No grant that this round takes below the floor has a positive entry left on a channel of its own.
def FloorsClean (state : EngineState K) : Prop :=
  locksIn coupling point state = true ∨
    ∀ slot ∈ state.slots, dropsOut cfg (checkSlot coupling point state.ledger.channels slot) = true →
      ∀ entry ∈ layout state.ledger, slot.overlaps point entry.1 = true →
        ((checkSlot coupling point state.ledger.channels slot).lockedInterf entry.2).getD 0 = 0

def CleanRun : Nat → EngineState K → Prop
  | 0, _ => True
  | rounds + 1, state => FloorsClean coupling point cfg state ∧ CleanRun rounds (iapRound coupling point cfg state)

def Unstained (places : List (FrequencyChannel × Nat)) (slot : NeighborSlot K) : Prop :=
  slot.hitFloor = true → ∀ entry ∈ places, slot.overlaps point entry.1 = true → (slot.lockedInterf entry.2).getD 0 = 0

theorem locked_out_fields (slot : NeighborSlot K) : (lockedOut slot).grant = slot.grant ∧
    (lockedOut slot).hitFloor = slot.hitFloor ∧ (lockedOut slot).lockedInterf = slot.lockedInterf := by
  rw [lockedOut]
  split <;> exact ⟨rfl, rfl, rfl⟩

theorem dropped_out_fields (slot : NeighborSlot K) : (droppedOut point cfg slot).grant = slot.grant ∧
    (droppedOut point cfg slot).hitFloor = (slot.hitFloor || dropsOut cfg slot) ∧
    (droppedOut point cfg slot).lockedInterf = slot.lockedInterf := by
  rw [droppedOut, dropSlot, dropsOut]
  by_cases still : (slot.removed || slot.satisfied) = true
  · simp [still]
  · by_cases below : slot.eirp - cfg.eirpStepDb < cfg.eirpFloorDbmMhz
    · simp [still, below]
    · simp [still, below]

theorem removed_unchanged (channels : List (ChannelSlot K)) (slot : NeighborSlot K) (gone : slot.removed = true) :
    checkSlot coupling point channels slot = slot := by
  rw [checkSlot, gone, Bool.true_or, if_pos rfl]

theorem round_slot_unstained (state : EngineState K) (slot : NeighborSlot K)
    (floored : slot.hitFloor = true → slot.removed = true) (places : List (FrequencyChannel × Nat)) :
    Unstained point places (roundSlot coupling point cfg state slot) ↔ Unstained point places slot ∧
      (locksIn coupling point state = true ∨
        (dropsOut cfg (checkSlot coupling point state.ledger.channels slot) = true →
          ∀ entry ∈ places, slot.overlaps point entry.1 = true →
            ((checkSlot coupling point state.ledger.channels slot).lockedInterf entry.2).getD 0 = 0)) := by
  obtain ⟨sameGrant, _, sameRemoved, sameFloor⟩ := check_slot_core coupling point state.ledger.channels slot
  cases locks : locksIn coupling point state with
  | true =>
      obtain ⟨grantEq, floorEq, entriesEq⟩ := locked_out_fields (checkSlot coupling point state.ledger.channels slot)
      have overlapEq : ∀ channel, (lockedOut (checkSlot coupling point state.ledger.channels slot)).overlaps point channel =
          slot.overlaps point channel := fun channel => by rw [NeighborSlot.overlaps, grantEq, sameGrant, NeighborSlot.overlaps]
      rw [roundSlot, locks, if_pos rfl, Unstained, floorEq, entriesEq, sameFloor]
      simp only [overlapEq]
      refine ⟨fun clean => ⟨fun floor => ?_, .inl trivial⟩, fun both floor => ?_⟩
      · have unchanged := removed_unchanged coupling point state.ledger.channels slot (floored floor)
        have here := clean floor
        rw [unchanged] at here
        exact here
      · rw [removed_unchanged coupling point state.ledger.channels slot (floored floor)]
        exact both.1 floor
  | false =>
      obtain ⟨grantEq, floorEq, entriesEq⟩ :=
        dropped_out_fields point cfg (checkSlot coupling point state.ledger.channels slot)
      have overlapEq : ∀ channel, (droppedOut point cfg (checkSlot coupling point state.ledger.channels slot)).overlaps point
          channel = slot.overlaps point channel :=
        fun channel => by rw [NeighborSlot.overlaps, grantEq, sameGrant, NeighborSlot.overlaps]
      rw [roundSlot, locks, if_neg (by simp), Unstained, floorEq, entriesEq, sameFloor, Bool.or_eq_true]
      simp only [overlapEq]
      refine ⟨fun clean => ⟨fun floor => ?_, .inr fun drops => clean (.inr drops)⟩, fun both floor => ?_⟩
      · have unchanged := removed_unchanged coupling point state.ledger.channels slot (floored floor)
        have here := clean (.inl floor)
        rw [unchanged] at here
        exact here
      · rcases floor with before | drops
        · rw [removed_unchanged coupling point state.ledger.channels slot (floored before)]
          exact both.1 before
        · exact (both.2.resolve_left (by simp)) drops

theorem iap_round_unstained (state : EngineState K) (thresholdMw : K) (between : BetweenRounds coupling point thresholdMw state) :
    (∀ slot ∈ (iapRound coupling point cfg state).slots, Unstained point (layout state.ledger) slot) ↔
      (∀ slot ∈ state.slots, Unstained point (layout state.ledger) slot) ∧ FloorsClean coupling point cfg state := by
  have each := fun slot member => round_slot_unstained coupling point cfg state slot
    (between.sound.floored slot member) (layout state.ledger)
  rw [iap_round_slots coupling point cfg state thresholdMw between, FloorsClean]
  refine ⟨fun clean => ⟨fun slot member => ?_, ?_⟩, fun both fresh member => ?_⟩
  · exact ((each slot member).mp (clean _ (List.mem_map_of_mem member))).1
  · cases locks : locksIn coupling point state with
    | true => exact .inl rfl
    | false =>
        refine .inr fun slot member => ?_
        exact ((each slot member).mp (clean _ (List.mem_map_of_mem member))).2.resolve_left (by simp [locks])
  · obtain ⟨slot, among, rfl⟩ := List.mem_map.mp member
    exact (each slot among).mpr ⟨both.1 slot among, both.2.imp_right fun clean => clean slot among⟩

theorem iap_loop_unstained (rounds : Nat) (state : EngineState K) (thresholdMw : K)
    (between : BetweenRounds coupling point thresholdMw state) :
    (∀ slot ∈ (iapLoop coupling point cfg rounds state).slots, Unstained point (layout state.ledger) slot) ↔
      (∀ slot ∈ state.slots, Unstained point (layout state.ledger) slot) ∧ CleanRun coupling point cfg rounds state := by
  rw [loop_iterates coupling point cfg rounds state thresholdMw between]
  induction rounds generalizing state with
  | zero => exact ⟨fun clean => ⟨clean, trivial⟩, fun both => both.1⟩
  | succ rounds ih =>
      have next := ih (iapRound coupling point cfg state) (iap_round_between coupling point cfg state thresholdMw between)
      rw [(iap_round_frame coupling point cfg state).2] at next
      rw [Function.iterate_succ_apply, next, iap_round_unstained coupling point cfg state thresholdMw between, CleanRun,
        and_assoc]

end Run

section Entries

variable (coupling : InterferenceCoupling K) (point : ProtectionPoint K) (cfg : IapEngineConfig K)
variable (nonneg : ∀ grant point channel eirp, 0 ≤ coupling grant point channel eirp)

def EntriesNonneg (slot : NeighborSlot K) : Prop := ∀ idx mw, slot.lockedInterf idx = some mw → 0 ≤ mw

include nonneg

theorem lock_nonneg (slot : NeighborSlot K) (chIdx : Nat) (channel : FrequencyChannel) (entries : EntriesNonneg slot) :
    EntriesNonneg (slot.lock chIdx (slot.interf coupling point channel)) := by
  intro idx mw found
  simp only [NeighborSlot.lock] at found
  split at found
  · rw [← Option.some.inj found]
    exact nonneg _ _ _ _
  · exact entries idx mw found

theorem check_slot_nonneg (channels : List (ChannelSlot K)) (slot : NeighborSlot K) (entries : EntriesNonneg slot) :
    EntriesNonneg (checkSlot coupling point channels slot) := by
  have checked : ∀ (rows : List (ChannelSlot K)) (fresh : NeighborSlot K) (saw : Bool), EntriesNonneg fresh →
      EntriesNonneg (checkFairshare coupling point fresh rows saw).1 := by
    intro rows
    induction rows with
    | nil => exact fun fresh saw kept => kept
    | cons ch rest ih =>
        intro fresh saw kept
        rw [checkFairshare]
        split
        · exact ih fresh saw kept
        · dsimp only
          split
          · exact ih _ true (lock_nonneg coupling point nonneg fresh ch.chIdx ch.channel kept)
          · exact kept
  rw [checkSlot]
  split
  · exact entries
  · exact checked channels slot false entries

theorem round_slot_nonneg (state : EngineState K) (slot : NeighborSlot K) (entries : EntriesNonneg slot) :
    EntriesNonneg (roundSlot coupling point cfg state slot) := by
  have checked := check_slot_nonneg coupling point nonneg state.ledger.channels slot entries
  rw [roundSlot]
  split
  · rw [EntriesNonneg, (locked_out_fields _).2.2]
    exact checked
  · rw [EntriesNonneg, (dropped_out_fields point cfg _).2.2]
    exact checked

theorem iap_loop_nonneg (rounds : Nat) (state : EngineState K) (thresholdMw : K)
    (between : BetweenRounds coupling point thresholdMw state) (entries : ∀ slot ∈ state.slots, EntriesNonneg slot) :
    ∀ slot ∈ (iapLoop coupling point cfg rounds state).slots, EntriesNonneg slot := by
  induction rounds generalizing state with
  | zero => exact entries
  | succ rounds ih =>
      rw [iapLoop]
      split
      · refine ih _ (iap_round_between coupling point cfg state thresholdMw between) ?_
        rw [iap_round_slots coupling point cfg state thresholdMw between]
        intro fresh member
        obtain ⟨slot, among, rfl⟩ := List.mem_map.mp member
        exact round_slot_nonneg coupling point cfg nonneg state slot (entries slot among)
      · exact entries

end Entries

section Sums

-- A sum over selected entries counts the others as zero.
theorem sum_selected {α : Type} (keep : α → Bool) (value : α → K) (entries : List α) :
    ((entries.filter keep).map value).sum = (entries.map fun entry => if keep entry then value entry else 0).sum := by
  induction entries with
  | nil => rfl
  | cons entry rest ih =>
      rw [List.map_cons, List.sum_cons, ← ih]
      cases kept : keep entry with
      | true => rw [List.filter_cons_of_pos kept, List.map_cons, List.sum_cons, if_pos rfl]
      | false => rw [List.filter_cons_of_neg (by simp [kept]), if_neg (by simp), zero_add]

theorem sum_zero_iff {α : Type} (value : α → K) (entries : List α) (nonneg : ∀ entry ∈ entries, 0 ≤ value entry) :
    (entries.map value).sum = 0 ↔ ∀ entry ∈ entries, value entry = 0 := by
  refine ⟨fun zero entry member => ?_, fun each => ?_⟩
  · refine List.all_zero_of_le_zero_le_of_sum_eq_zero ?_ zero (List.mem_map_of_mem member)
    intro number among
    obtain ⟨other, otherMember, rfl⟩ := List.mem_map.mp among
    exact nonneg other otherMember
  · refine List.sum_eq_zero fun number among => ?_
    obtain ⟨other, otherMember, rfl⟩ := List.mem_map.mp among
    exact each other otherMember

end Sums

section Report

variable (model : RadioModel K) (cfg : IapEngineConfig K) (coupling : InterferenceCoupling K)
variable (point : ProtectionPoint K) (grants : List (GrantRfInfo K))

-- The neighbours that run on the channel after the point, at their final EIRP.
def runningOn (channel : FrequencyChannel) (slot : NeighborSlot K) : Bool :=
  slot.overlaps point channel && !terminatedBy (finalState model cfg coupling point grants).ledger.channels slot

def runningMw (channel : FrequencyChannel) : K :=
  (((finalState model cfg coupling point grants).slots.filter (runningOn model cfg coupling point grants channel)).map
    (fun slot => slot.interf coupling point channel)).sum

def managingMw (channel : FrequencyChannel) : K :=
  (((finalState model cfg coupling point grants).slots.filter fun slot =>
    runningOn model cfg coupling point grants channel slot && slot.grant.isManagingSas).map
      (fun slot => slot.interf coupling point channel)).sum

def ReportTrue : Prop :=
  ∀ report ∈ (runIapForPoint model cfg coupling point grants).aggregates,
    report.aggregateMw = runningMw model cfg coupling point grants report.channel ∧
      report.managingSasMw = managingMw model cfg coupling point grants report.channel ∧ report.withinThreshold = true

-- What a grant that was floored still shows on the channel.
def staleMw (ch : ChannelSlot K) (slot : NeighborSlot K) : K :=
  if slot.overlaps point ch.channel && slot.hitFloor then (slot.lockedInterf ch.chIdx).getD 0 else 0

def shownMw (ch : ChannelSlot K) (slot : NeighborSlot K) : K :=
  if contributes point ch slot then (contribution coupling point ch slot).interferenceMw else 0

theorem final_layout : layout (finalState model cfg coupling point grants).ledger = (iapChannels model point).zipIdx := by
  rw [finalState, (iap_loop_frame coupling point cfg cfg.maxIterations _).2, initial_layout]

variable (finished : ¬ hitsMaxIterations model cfg coupling point grants) (busy : idlePoint model point grants = false)
variable (ch : ChannelSlot K) (placed : ch ∈ (finalState model cfg coupling point grants).ledger.channels)

section Slot

variable (slot : NeighborSlot K) (member : slot ∈ (finalState model cfg coupling point grants).slots)
include finished busy placed member

theorem final_entry (overlap : slot.overlaps point ch.channel = true) (above : slot.hitFloor = false) :
    slot.lockedInterf ch.chIdx = some (slot.interf coupling point ch.channel) := by
  have gone := final_all_removed model cfg coupling point grants finished busy slot member
  have settled := (final_settled model cfg coupling point grants slot member gone).resolve_left (by simp [above])
  refine settled (ch.channel, ch.chIdx) ?_ overlap
  rw [← final_layout model cfg coupling point grants]
  exact List.mem_map_of_mem placed

theorem running_on_iff : runningOn model cfg coupling point grants ch.channel slot =
    (slot.overlaps point ch.channel && !slot.hitFloor) := by
  rw [runningOn, terminatedBy]
  by_cases overlap : slot.overlaps point ch.channel = true
  · cases above : slot.hitFloor with
    | true => simp
    | false =>
        have entry := final_entry model cfg coupling point grants finished busy ch placed slot member overlap above
        have locked : hasLockedEntry (finalState model cfg coupling point grants).ledger.channels slot = true :=
          List.any_eq_true.mpr ⟨ch, placed, by rw [entry]; rfl⟩
        rw [locked]
        simp
  · simp [overlap]

-- A shown contribution is that of a running grant or a stale one.
theorem shown_split : shownMw coupling point ch slot =
    (if runningOn model cfg coupling point grants ch.channel slot then slot.interf coupling point ch.channel else 0) +
      staleMw point ch slot := by
  have gone := final_all_removed model cfg coupling point grants finished busy slot member
  rw [running_on_iff model cfg coupling point grants finished busy ch placed slot member, shownMw, contributes, gone,
    staleMw, contribution]
  by_cases overlap : slot.overlaps point ch.channel = true
  · cases above : slot.hitFloor with
    | true => cases entry : slot.lockedInterf ch.chIdx <;> simp [overlap]
    | false =>
        have entry := final_entry model cfg coupling point grants finished busy ch placed slot member overlap above
        simp [overlap, entry]
  · simp [overlap]

theorem locked_share_running : lockedShare coupling point ch.channel slot =
    if runningOn model cfg coupling point grants ch.channel slot then slot.interf coupling point ch.channel else 0 := by
  have gone := final_all_removed model cfg coupling point grants finished busy slot member
  rw [running_on_iff model cfg coupling point grants finished busy ch placed slot member, lockedShare, gone]
  cases slot.hitFloor <;> cases slot.overlaps point ch.channel <;> rfl

end Slot

variable (nonneg : ∀ grant point channel eirp, 0 ≤ coupling grant point channel eirp)

include nonneg in
theorem stale_nonneg (slot : NeighborSlot K) (member : slot ∈ (finalState model cfg coupling point grants).slots) :
    0 ≤ staleMw point ch slot := by
  have entries := iap_loop_nonneg coupling point cfg nonneg cfg.maxIterations (initialState model point grants) _
    (initial_between model coupling point grants) (fun fresh among idx mw found => by
      obtain ⟨grant, _, rfl⟩ := List.mem_map.mp among
      cases found) slot member
  rw [staleMw]
  split
  · cases entry : slot.lockedInterf ch.chIdx with
    | none => exact le_refl 0
    | some mw => exact entries ch.chIdx mw entry
  · exact le_refl 0

def reportOf : ChannelAggregateResult K :=
  channelAggregate coupling point (pointThresholdMw model point) (finalState model cfg coupling point grants).slots ch

include finished busy placed

theorem running_load : runningMw model cfg coupling point grants ch.channel ≤ pointThresholdMw model point := by
  have channel : ch.channel ∈ iapChannels model point := by
    have among := List.mem_map_of_mem (f := Prod.fst) (List.mem_map_of_mem (f := fun c => (c.channel, c.chIdx)) placed)
    have laid : (finalState model cfg coupling point grants).ledger.channels.map (fun c => (c.channel, c.chIdx)) =
        (iapChannels model point).zipIdx := final_layout model cfg coupling point grants
    rw [laid, List.zipIdx_map_fst] at among
    exact among
  have load := final_locked_load model cfg coupling point grants ch.channel channel
  rw [runningMw, sum_selected]
  refine le_of_eq_of_le (congrArg List.sum (List.map_congr_left fun slot member => ?_)) load
  exact (locked_share_running model cfg coupling point grants finished busy ch placed slot member).symm

include nonneg

theorem shown_total : (reportOf model cfg coupling point grants ch).aggregateMw =
    runningMw model cfg coupling point grants ch.channel +
      ((finalState model cfg coupling point grants).slots.map (staleMw point ch)).sum := by
  have shown : ((((finalState model cfg coupling point grants).slots.filter (contributes point ch)).map
      (contribution coupling point ch)).map (·.interferenceMw)).sum =
        ((finalState model cfg coupling point grants).slots.map (shownMw coupling point ch)).sum := by
    rw [List.map_map]
    exact sum_selected (contributes point ch) _ _
  have positive : ∀ mw ∈ (((finalState model cfg coupling point grants).slots.filter (contributes point ch)).map
      (contribution coupling point ch)).map (·.interferenceMw), 0 ≤ mw := by
    intro mw among
    obtain ⟨entry, entryAmong, rfl⟩ := List.mem_map.mp among
    obtain ⟨slot, counted, rfl⟩ := List.mem_map.mp entryAmong
    obtain ⟨member, counts⟩ := List.mem_filter.mp counted
    have split := shown_split model cfg coupling point grants finished busy ch placed slot member
    rw [shownMw, if_pos counts] at split
    rw [split]
    refine add_nonneg ?_ (stale_nonneg model cfg coupling point grants ch nonneg slot member)
    split
    · exact nonneg _ _ _ _
    · exact le_refl 0
  rw [reportOf, channelAggregate]
  dsimp only
  rw [sum_interference_of_nonneg _ positive, shown, runningMw, sum_selected, ← List.sum_map_add]
  refine congrArg List.sum (List.map_congr_left fun slot member => ?_)
  exact shown_split model cfg coupling point grants finished busy ch placed slot member

theorem managing_total : (reportOf model cfg coupling point grants ch).managingSasMw =
    managingMw model cfg coupling point grants ch.channel +
      ((finalState model cfg coupling point grants).slots.map fun slot =>
        if slot.grant.isManagingSas then staleMw point ch slot else 0).sum := by
  have shown : (((((finalState model cfg coupling point grants).slots.filter (contributes point ch)).filter
      fun slot => slot.grant.isManagingSas).map (contribution coupling point ch)).map (·.interferenceMw)).sum =
        ((finalState model cfg coupling point grants).slots.map fun slot =>
          if slot.grant.isManagingSas then shownMw coupling point ch slot else 0).sum := by
    rw [List.map_map, List.filter_filter, sum_selected]
    refine congrArg List.sum (List.map_congr_left fun slot _ => ?_)
    rw [shownMw]
    cases slot.grant.isManagingSas <;> simp
  rw [reportOf, channelAggregate]
  dsimp only
  rw [shown, managingMw, sum_selected, ← List.sum_map_add]
  refine congrArg List.sum (List.map_congr_left fun slot member => ?_)
  cases managing : slot.grant.isManagingSas with
  | true => simpa using shown_split model cfg coupling point grants finished busy ch placed slot member
  | false => simp

-- On one channel the report is true when nothing stale is shown.
theorem report_true_iff : ((reportOf model cfg coupling point grants ch).aggregateMw =
      runningMw model cfg coupling point grants ch.channel ∧
    (reportOf model cfg coupling point grants ch).managingSasMw = managingMw model cfg coupling point grants ch.channel ∧
      (reportOf model cfg coupling point grants ch).withinThreshold = true) ↔
    ∀ slot ∈ (finalState model cfg coupling point grants).slots, staleMw point ch slot = 0 := by
  have total := shown_total model cfg coupling point grants finished busy ch placed nonneg
  have managing := managing_total model cfg coupling point grants finished busy ch placed nonneg
  have zero := sum_zero_iff (staleMw point ch) (finalState model cfg coupling point grants).slots
    (stale_nonneg model cfg coupling point grants ch nonneg)
  refine ⟨fun report => ?_, fun clean => ?_⟩
  · rw [report.1] at total
    exact zero.mp (by linarith)
  · have noneStale : ((finalState model cfg coupling point grants).slots.map fun slot =>
        if slot.grant.isManagingSas then staleMw point ch slot else 0).sum = 0 := by
      refine List.sum_eq_zero fun number among => ?_
      obtain ⟨slot, member, rfl⟩ := List.mem_map.mp among
      rw [clean slot member, ite_self]
    rw [zero.mpr clean, add_zero] at total
    rw [noneStale, add_zero] at managing
    refine ⟨total, managing, ?_⟩
    have load := running_load model cfg coupling point grants finished busy ch placed
    have slack : (0 : K) ≤ epsMw := by
      rw [epsMw]
      positivity
    have within : (reportOf model cfg coupling point grants ch).aggregateMw ≤ pointThresholdMw model point + epsMw := by
      linarith
    exact decide_eq_true within

end Report

section Claim

variable (model : RadioModel K) (cfg : IapEngineConfig K) (coupling : InterferenceCoupling K)
variable (point : ProtectionPoint K) (grants : List (GrantRfInfo K))

theorem unstained_iff (slot : NeighborSlot K) :
    Unstained point (layout (finalState model cfg coupling point grants).ledger) slot ↔
      ∀ ch ∈ (finalState model cfg coupling point grants).ledger.channels, staleMw point ch slot = 0 := by
  refine ⟨fun clean ch placed => ?_, fun each floor entry member overlap => ?_⟩
  · rw [staleMw]
    split
    · rename_i both
      rw [Bool.and_eq_true] at both
      exact clean both.2 (ch.channel, ch.chIdx) (List.mem_map_of_mem placed) both.1
    · rfl
  · obtain ⟨ch, placed, rfl⟩ := List.mem_map.mp member
    have none_stale := each ch placed
    dsimp only at overlap
    rw [staleMw, overlap, floor] at none_stale
    exact none_stale

theorem clean_run_iff : CleanRun coupling point cfg cfg.maxIterations (initialState model point grants) ↔
    ∀ slot ∈ (finalState model cfg coupling point grants).slots, ∀ ch ∈
      (finalState model cfg coupling point grants).ledger.channels, staleMw point ch slot = 0 := by
  have run := iap_loop_unstained coupling point cfg cfg.maxIterations (initialState model point grants) _
    (initial_between model coupling point grants)
  have kept := (iap_loop_frame coupling point cfg cfg.maxIterations (initialState model point grants)).2
  rw [← kept] at run
  have fresh : ∀ slot ∈ (initialState model point grants).slots,
      Unstained point (layout (iapLoop coupling point cfg cfg.maxIterations (initialState model point grants)).ledger)
        slot := by
    intro slot member floor
    obtain ⟨grant, _, rfl⟩ := List.mem_map.mp member
    cases floor
  refine (⟨fun clean => run.mpr ⟨fresh, clean⟩, fun clean => (run.mp clean).2⟩ : _ ↔ _).trans ?_
  exact forall₂_congr fun slot _ => unstained_iff model cfg coupling point grants slot

-- The reported aggregates are those of the running grants exactly when no grant goes below the floor with an entry of
-- an earlier, higher power left on one of its channels.
theorem reported_aggregates_iff (nonneg : ∀ grant point channel eirp, 0 ≤ coupling grant point channel eirp)
    (finished : ¬ hitsMaxIterations model cfg coupling point grants) :
    ReportTrue model cfg coupling point grants ↔
      CleanRun coupling point cfg cfg.maxIterations (initialState model point grants) := by
  rw [clean_run_iff]
  cases busy : idlePoint model point grants with
  | true =>
      refine ⟨fun _ slot member ch placed => ?_, fun _ report member => ?_⟩
      · rw [idlePoint, Bool.or_eq_true, List.isEmpty_iff, List.isEmpty_iff] at busy
        rcases busy with noChannel | noNeighbor
        · have laid := final_layout model cfg coupling point grants
          rw [noChannel, List.zipIdx_nil, layout, List.map_eq_nil_iff] at laid
          rw [laid] at placed
          cases placed
        · have none_left := final_grants model cfg coupling point grants
          rw [noNeighbor, List.map_eq_nil_iff] at none_left
          rw [none_left] at member
          cases member
      · rw [runIapForPoint, busy, if_pos rfl] at member
        cases member
  | false =>
      have aggregates : (runIapForPoint model cfg coupling point grants).aggregates =
          (finalState model cfg coupling point grants).ledger.channels.map (reportOf model cfg coupling point grants) := by
        rw [runIapForPoint, busy, if_neg (by simp)]
        rfl
      rw [ReportTrue, aggregates]
      refine ⟨fun reports slot member ch placed => ?_, fun clean report member => ?_⟩
      · have each := reports _ (List.mem_map_of_mem placed)
        exact (report_true_iff model cfg coupling point grants finished busy ch placed nonneg).mp each slot member
      · obtain ⟨ch, placed, rfl⟩ := List.mem_map.mp member
        exact (report_true_iff model cfg coupling point grants finished busy ch placed nonneg).mpr
          fun slot among => clean slot among ch placed

end Claim

theorem reported_aggregates_two_grants : ReportTrue stepModel iapEngineConfig stepCoupling samplePoint sampleGrants ↔
    CleanRun stepCoupling samplePoint iapEngineConfig 10000 (initialState stepModel samplePoint sampleGrants) :=
  reported_aggregates_iff stepModel iapEngineConfig stepCoupling samplePoint sampleGrants
    (fun _ _ _ _ => le_of_lt (zpow_pos (by decide) _))
    (by
      unfold hitsMaxIterations finalState initialState idlePoint
      rw [sample_channels]
      decide +kernel)

def widePoint : ProtectionPoint Rat := { samplePoint with highHz := 3560000000 }

-- The second channel takes the grant at next to no loss.
def unevenCoupling : InterferenceCoupling Rat :=
  fun _ _ channel eirp => (10 : Rat) ^ ⌊(eirp - if channel.lowHz = 3550000000 then 100 else -1000) / 10⌋

theorem wide_channels : iapChannels stepModel widePoint = [.mk 3550000000 3555000000, .mk 3555000000 3560000000] := by
  apply iap_channels_eq
  simp [overlappingBounds, boundsFrom, FrequencyChannel.bounds, stepModel, widePoint, samplePoint, iapbwHz]

-- The grant passes on the first channel and is floored for the second one; the first goes on reporting it.
theorem floored_grant_reported :
    (∀ grant point channel eirp, 0 ≤ unevenCoupling grant point channel eirp) ∧
      ¬ hitsMaxIterations stepModel iapEngineConfig unevenCoupling widePoint [sampleGrant "a" 20] ∧
      (runIapForPoint stepModel iapEngineConfig unevenCoupling widePoint [sampleGrant "a" 20]).decisions.map (·.action) =
        [.terminate] ∧
      ¬ ReportTrue stepModel iapEngineConfig unevenCoupling widePoint [sampleGrant "a" 20] := by
  refine ⟨fun _ _ _ _ => le_of_lt (zpow_pos (by decide) _), ?_, ?_, ?_⟩
  · unfold hitsMaxIterations finalState initialState idlePoint
    rw [wide_channels]
    decide +kernel
  · unfold runIapForPoint finalState initialState idlePoint
    rw [wide_channels]
    decide +kernel
  · unfold ReportTrue managingMw runningMw runningOn runIapForPoint finalState initialState idlePoint
    simp only [wide_channels]
    decide +kernel

end SasCore.Iap
