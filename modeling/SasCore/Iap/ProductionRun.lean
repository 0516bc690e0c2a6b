import SasCore.Lib.Yields
import SasCore.Lib.Collect
import SasCore.Iap.Coupling
import SasCore.Iap.Safety

set_option autoImplicit false
set_option linter.unusedSectionVars false

namespace SasCore.Iap

open Decibel Yields

variable {K : Type} [Field K] [LinearOrder K]

section Raising

variable (coupling : RaisingCoupling K) (point : ProtectionPoint K) (cfg : IapEngineConfig K)

-- The engine with a coupling that may raise: each function asks for an interference where the source calls the coupling.
def raisingCheckFairshare : NeighborSlot K → List (ChannelSlot K) → Bool → Except RfFault (NeighborSlot K × Bool)
  | slot, [], sawOverlap => .ok (slot, sawOverlap)
  | slot, ch :: rest, sawOverlap =>
      if !slot.overlaps point ch.channel then raisingCheckFairshare slot rest sawOverlap
      else do
        let interf ← coupling slot.grant point ch.channel slot.eirp
        if interf < ch.fairshare then raisingCheckFairshare (slot.lock ch.chIdx interf) rest true
        else return (slot, false)

def raisingCheckSlot (channels : List (ChannelSlot K)) (slot : NeighborSlot K) : Except RfFault (NeighborSlot K) :=
  if slot.removed || slot.satisfied then .ok slot
  else (raisingCheckFairshare coupling point slot channels false).map fun checked => { checked.1 with satisfied := checked.2 }

def raisingLocked (slot : NeighborSlot K) (ch : ChannelSlot K) : Except RfFault K :=
  match slot.lockedInterf ch.chIdx with
  | some locked => .ok locked
  | none => coupling slot.grant point ch.channel slot.eirp

def raisingLockChannels : NeighborSlot K → List (ChannelSlot K) → Except RfFault (NeighborSlot K × List (ChannelSlot K))
  | slot, [] => .ok (slot, [])
  | slot, ch :: rest =>
      if !slot.overlaps point ch.channel then
        (raisingLockChannels slot rest).map fun others => (others.1, ch :: others.2)
      else do
        let locked ← raisingLocked coupling point slot ch
        let others ← raisingLockChannels (slot.lock ch.chIdx locked) rest
        return (others.1, ch.release locked :: others.2)

def raisingLockSlot (slot : NeighborSlot K) (ledger : Ledger K) : Except RfFault (NeighborSlot K × Ledger K) :=
  if pendingLock slot then
    (raisingLockChannels coupling point slot ledger.channels).map fun settled =>
      ({ settled.1 with removed := true }, ⟨settled.2, ledger.numUnsatisfied - 1⟩)
  else .ok (slot, ledger)

def raisingRound (state : EngineState K) : Except RfFault (EngineState K) := do
  let checked ← state.slots.mapM (raisingCheckSlot coupling point state.ledger.channels)
  let locked ← sweepM (raisingLockSlot coupling point) checked state.ledger
  if checked.any pendingLock then return ⟨locked.1, locked.2⟩
  else
    let dropped := Sweep.sweep (dropSlot point cfg) locked.1 locked.2
    return ⟨dropped.1, dropped.2⟩

def raisingLoop : Nat → EngineState K → Except RfFault (EngineState K)
  | 0, state => .ok state
  | iterations + 1, state =>
      if 0 < state.ledger.numUnsatisfied then do
        let next ← raisingRound coupling point cfg state
        raisingLoop iterations next
      else .ok state

def raisingContribution (ch : ChannelSlot K) (slot : NeighborSlot K) : Except RfFault (GrantChannelContribution K) :=
  (raisingLocked coupling point slot ch).map fun mw => ⟨slot.grant.grantId, ch.channel, mw, slot.eirp⟩

def channelAggregateOf (thresholdMw : K) (ch : ChannelSlot K) (entries : List (NeighborSlot K × GrantChannelContribution K)) :
    ChannelAggregateResult K :=
  let managing := entries.filter fun entry => entry.1.grant.isManagingSas
  let aggregateMw := sumInterferenceMw (entries.map fun entry => entry.2.interferenceMw)
  { channel := ch.channel
    aggregateMw := aggregateMw
    managingSasMw := (managing.map fun entry => entry.2.interferenceMw).sum
    thresholdMw := thresholdMw
    fairshareMw := thresholdMw / (max 1 entries.length : Nat)
    withinThreshold := aggregateMw ≤ thresholdMw + epsMw }

def raisingChannelAggregate (thresholdMw : K) (slots : List (NeighborSlot K)) (ch : ChannelSlot K) :
    Except RfFault (ChannelAggregateResult K) :=
  ((slots.filter (contributes point ch)).mapM fun slot =>
    (raisingContribution coupling point ch slot).map fun contribution => (slot, contribution)).map
      (channelAggregateOf thresholdMw ch)

end Raising

section RaisingRun

variable (model : RadioModel K) (cfg : IapEngineConfig K) (coupling : RaisingCoupling K)

def raisingRunIapForPoint (grants : List (GrantRfInfo K)) (point : ProtectionPoint K) : Except RfFault (IapPointResult K) :=
  if idlePoint model point grants then
    .ok
      { point := point
        channels := iapChannels model point
        aggregates := []
        decisions := (grants.filter (·.isManagingSas)).map (earlyDecision point) }
  else do
    let final ← raisingLoop coupling point cfg cfg.maxIterations (initialState model point grants)
    let aggregates ← final.ledger.channels.mapM
      (raisingChannelAggregate coupling point (pointThresholdMw model point) final.slots)
    .ok
      { point := point
        channels := iapChannels model point
        aggregates := aggregates
        decisions := (final.slots.filter fun slot => slot.grant.isManagingSas).map
          (slotDecision cfg point final.ledger.channels) }

def raisingRunIap (points : List (ProtectionPoint K)) (grants : List (GrantRfInfo K)) : Except RfFault (IapRunResult K) :=
  (points.mapM (raisingRunIapForPoint model cfg coupling grants)).map fun results => ⟨results, mergeIapDecisions results⟩

end RaisingRun

section Agreement

variable (coupling : RaisingCoupling K) (total : InterferenceCoupling K)
variable (fills : ∀ grant point channel eirp, Returns (coupling grant point channel eirp) (total grant point channel eirp))
variable (point : ProtectionPoint K) (cfg : IapEngineConfig K)

include fills

theorem check_fairshare_returns (channels : List (ChannelSlot K)) (slot : NeighborSlot K) (sawOverlap : Bool) :
    Returns (raisingCheckFairshare coupling point slot channels sawOverlap)
      (checkFairshare total point slot channels sawOverlap) := by
  induction channels generalizing slot sawOverlap with
  | nil => exact yields_ok _
  | cons ch rest ih =>
      rw [raisingCheckFairshare, checkFairshare]
      by_cases apart : (!slot.overlaps point ch.channel) = true
      · rw [if_pos apart, if_pos apart]
        exact ih slot sawOverlap
      · rw [if_neg apart, if_neg apart]
        refine yields_bind _ (slot.interf total point ch.channel) _ _ (fills slot.grant point ch.channel slot.eirp) ?_
        by_cases fits : slot.interf total point ch.channel < ch.fairshare
        · rw [if_pos fits, if_pos fits]
          exact ih _ true
        · rw [if_neg fits, if_neg fits]
          exact yields_ok _

theorem check_slot_returns (channels : List (ChannelSlot K)) (slot : NeighborSlot K) :
    Returns (raisingCheckSlot coupling point channels slot) (checkSlot total point channels slot) := by
  rw [raisingCheckSlot, checkSlot]
  split
  · exact yields_ok slot
  · exact yields_map _ _ _ (check_fairshare_returns coupling total fills point channels slot false)

theorem locked_returns (slot : NeighborSlot K) (ch : ChannelSlot K) :
    Returns (raisingLocked coupling point slot ch)
      ((slot.lockedInterf ch.chIdx).getD (slot.interf total point ch.channel)) := by
  rw [raisingLocked]
  cases slot.lockedInterf ch.chIdx with
  | none => exact fills slot.grant point ch.channel slot.eirp
  | some locked => exact yields_ok locked

theorem lock_channels_returns (channels : List (ChannelSlot K)) (slot : NeighborSlot K) :
    Returns (raisingLockChannels coupling point slot channels) (lockChannels total point slot channels) := by
  induction channels generalizing slot with
  | nil => exact yields_ok _
  | cons ch rest ih =>
      rw [raisingLockChannels, lockChannels]
      by_cases apart : (!slot.overlaps point ch.channel) = true
      · rw [if_pos apart, if_pos apart]
        exact yields_map _ _ _ (ih slot)
      · rw [if_neg apart, if_neg apart]
        refine yields_bind _ _ _ _ (locked_returns coupling total fills point slot ch) ?_
        exact yields_bind _ _ _ _ (ih _) (yields_ok _)

theorem lock_slot_returns (slot : NeighborSlot K) (ledger : Ledger K) :
    Returns (raisingLockSlot coupling point slot ledger) (lockSlot total point slot ledger) := by
  rw [raisingLockSlot, lockSlot]
  split
  · exact yields_map _ _ _ (lock_channels_returns coupling total fills point ledger.channels slot)
  · exact yields_ok _

theorem round_returns (state : EngineState K) :
    Returns (raisingRound coupling point cfg state) (iapRound total point cfg state) := by
  rw [raisingRound, iapRound]
  refine yields_bind _ _ _ _ (yields_mapM _ (checkSlot total point state.ledger.channels) _ fun slot _ =>
    check_slot_returns coupling total fills point state.ledger.channels slot) ?_
  refine yields_bind _ _ _ _ (yields_sweep _ (lockSlot total point) (lock_slot_returns coupling total fills point) _ _) ?_
  dsimp only
  split
  · exact yields_ok _
  · exact yields_ok _

theorem loop_returns (iterations : Nat) (state : EngineState K) :
    Returns (raisingLoop coupling point cfg iterations state) (iapLoop total point cfg iterations state) := by
  induction iterations generalizing state with
  | zero => exact yields_ok state
  | succ iterations ih =>
      rw [raisingLoop, iapLoop]
      split
      · exact yields_bind _ _ _ _ (round_returns coupling total fills point cfg state) (ih _)
      · exact yields_ok state

theorem channel_aggregate_returns (thresholdMw : K) (slots : List (NeighborSlot K)) (ch : ChannelSlot K) :
    Returns (raisingChannelAggregate coupling point thresholdMw slots ch)
      (channelAggregate total point thresholdMw slots ch) := by
  have entries : Returns ((slots.filter (contributes point ch)).mapM fun slot =>
      (raisingContribution coupling point ch slot).map fun contribution => (slot, contribution))
      ((slots.filter (contributes point ch)).map fun slot => (slot, contribution total point ch slot)) := by
    refine yields_mapM _ _ _ fun slot _ => yields_map _ _ _ ?_
    exact yields_map _ _ _ (locked_returns coupling total fills point slot ch)
  have same : channelAggregateOf thresholdMw ch ((slots.filter (contributes point ch)).map fun slot =>
      (slot, contribution total point ch slot)) = channelAggregate total point thresholdMw slots ch := by
    simp only [channelAggregateOf, channelAggregate, List.filter_map, List.map_map, List.length_map, Function.comp_def]
  rw [← same]
  exact yields_map _ _ _ entries

theorem run_point_returns (model : RadioModel K) (grants : List (GrantRfInfo K)) :
    Returns (raisingRunIapForPoint model cfg coupling grants point) (runIapForPoint model cfg total point grants) := by
  rw [raisingRunIapForPoint, runIapForPoint]
  split
  · exact yields_ok _
  · refine yields_bind _ _ _ _ (loop_returns coupling total fills point cfg _ _) ?_
    refine yields_bind _ _ _ _ (yields_mapM _ (channelAggregate total point (pointThresholdMw model point) _) _ ?_) (yields_ok _)
    exact fun ch _ => channel_aggregate_returns coupling total fills point _ _ ch

theorem run_iap_returns (model : RadioModel K) (points : List (ProtectionPoint K)) (grants : List (GrantRfInfo K)) :
    Returns (raisingRunIap model cfg coupling points grants) (runIap model cfg total points grants) :=
  yields_map _ _ _ (yields_mapM _ _ _ fun point _ => run_point_returns coupling total fills point cfg model grants)

end Agreement

section Filled

-- The coupling with one level in place of everything it raises.
def assumed (level : K) (coupling : RaisingCoupling K) : InterferenceCoupling K :=
  fun grant point channel eirp =>
    match coupling grant point channel eirp with
    | .ok mw => mw
    | .error _ => level

variable (level : K) (coupling : RaisingCoupling K)

theorem assumed_fills (grant : GrantRfInfo K) (point : ProtectionPoint K) (channel : FrequencyChannel) (eirp : K) :
    Returns (coupling grant point channel eirp) (assumed level coupling grant point channel eirp) := by
  intro mw returned
  rw [assumed, returned]

variable [IsStrictOrderedRing K] (scale : Scale K) (law : LinkLaw scale coupling)

include law

theorem assumed_link (grant : GrantRfInfo K) (point : ProtectionPoint K) (channel : FrequencyChannel) :
    (∃ loss, (∀ eirp, coupling grant point channel eirp = .ok (toLinear scale (eirp - loss))) ∧
      ∀ eirp, assumed level coupling grant point channel eirp = toLinear scale (eirp - loss)) ∨
    ∀ eirp, assumed level coupling grant point channel eirp = level := by
  obtain ⟨lossDb, link⟩ := law grant point channel
  cases lossDb with
  | error fault =>
      right
      intro eirp
      rw [assumed, link]
      rfl
  | ok loss =>
      left
      refine ⟨loss, link, fun eirp => ?_⟩
      rw [assumed, link]
      rfl

theorem assumed_nonneg (positive : 0 ≤ level) (grant : GrantRfInfo K) (point : ProtectionPoint K)
    (channel : FrequencyChannel) (eirp : K) : 0 ≤ assumed level coupling grant point channel eirp := by
  rcases assumed_link level coupling scale law grant point channel with ⟨loss, _, link⟩ | flat
  · rw [link]
    exact (to_linear_pos scale _).le
  · rw [flat]
    exact positive

theorem assumed_monotone (grant : GrantRfInfo K) (point : ProtectionPoint K) (channel : FrequencyChannel) :
    Monotone (assumed level coupling grant point channel) := by
  intro low high less
  rcases assumed_link level coupling scale law grant point channel with ⟨loss, _, link⟩ | flat
  · rw [link, link]
    exact (to_linear_strict scale).monotone (sub_le_sub_right less loss)
  · rw [flat, flat]

end Filled

section Safe

variable [IsStrictOrderedRing K] (model : RadioModel K) (cfg : IapEngineConfig K)
variable (points : List (ProtectionPoint K)) (grants : List (GrantRfInfo K))

-- One point is protected by what its own loop did, whatever the loops of the other points did.
theorem authorized_load_fits (coupling : InterferenceCoupling K) (distinct : (grants.map (·.grantId)).Nodup)
    (nonneg : ∀ grant point channel eirp, 0 ≤ coupling grant point channel eirp)
    (monotone : ∀ grant point channel, Monotone (coupling grant point channel)) (point : ProtectionPoint K)
    (member : point ∈ points) (finished : ¬ hitsMaxIterations model cfg coupling point grants)
    (channel : FrequencyChannel) (channelMember : channel ∈ iapChannels model point) :
    authorizedLoad model coupling grants (runIap model cfg coupling points grants).mergedDecisions point channel ≤
      pointThresholdMw model point := by
  cases busy : idlePoint model point grants with
  | true =>
      have alone : grantsInNeighborhood model point grants = [] := by
        simp only [idlePoint, Bool.or_eq_true, List.isEmpty_iff] at busy
        exact busy.resolve_left (List.ne_nil_of_mem channelMember)
      rw [authorizedLoad, alone]
      exact (model.dbmToMw_pos _).le
  | false =>
      have locked := final_locked_load model cfg coupling point grants channel channelMember
      rw [authorizedLoad, ← final_grants model cfg coupling point grants, List.filter_map, List.map_map]
      refine (sum_filter_map_le _ _ _ _ (fun slot slotMember managed => ?_) fun slot _ => ?_).trans locked
      · exact slot_authorized model cfg coupling points grants distinct nonneg monotone point member busy finished
          channel slot slotMember managed
      · rw [lockedShare]
        split
        · exact nonneg _ _ _ _
        · exact le_rfl

theorem final_state_shared (coupling : RaisingCoupling K) (first second : InterferenceCoupling K)
    (firstFills : ∀ grant point channel eirp, Returns (coupling grant point channel eirp) (first grant point channel eirp))
    (secondFills : ∀ grant point channel eirp, Returns (coupling grant point channel eirp) (second grant point channel eirp))
    (point : ProtectionPoint K) (busy : idlePoint model point grants = false) (result : IapPointResult K)
    (ran : raisingRunIapForPoint model cfg coupling grants point = .ok result) :
    finalState model cfg first point grants = finalState model cfg second point grants := by
  rw [raisingRunIapForPoint, busy, if_neg Bool.false_ne_true] at ran
  cases looped : raisingLoop coupling point cfg cfg.maxIterations (initialState model point grants) with
  | error fault =>
      rw [looped] at ran
      cases ran
  | ok final =>
      exact (loop_returns coupling first firstFills point cfg _ _ final looped).symm.trans
        (loop_returns coupling second secondFills point cfg _ _ final looped)

-- The grant is left on air by the merged decisions.
def StaysOn (merged : List (IapGrantDecision K)) (grantId : String) : Prop :=
  ∀ decision, decisionFor merged grantId = some decision → decision.action ≠ .terminate

theorem authorized_running (coupling : InterferenceCoupling K) (merged : List (IapGrantDecision K))
    (point : ProtectionPoint K) (channel : FrequencyChannel) (grant : GrantRfInfo K) (stays : StaysOn merged grant.grantId) :
    ∃ eirp, authorizedInterf coupling merged point channel grant = coupling grant point channel eirp := by
  rw [authorizedInterf]
  cases found : decisionFor merged grant.grantId with
  | none => exact ⟨_, rfl⟩
  | some decision => exact ⟨_, if_neg (stays decision found)⟩

end Safe

section Production

variable [IsStrictOrderedRing K] (backend : CouplingBackend K) (bandOriginHz : Int) (originNonneg : 0 ≤ bandOriginHz)
variable (cfg : IapEngineConfig K) (points : List (ProtectionPoint K)) (grants : List (GrantRfInfo K))

-- A run that raises nothing has the link of every grant it leaves on air, and holds each point by these links.
theorem production_run_protects (pathLossModel : IapPathLossModel) (rxHeightM : K) (coupling : RaisingCoupling K)
    (made : makeProductionIapCoupling backend pathLossModel rxHeightM = .ok coupling)
    (distinct : (grants.map (·.grantId)).Nodup) (result : IapRunResult K)
    (ran : raisingRunIap (productionRadioModel backend bandOriginHz originNonneg) cfg coupling points grants = .ok result)
    (point : ProtectionPoint K) (member : point ∈ points)
    (finished : ¬ hitsMaxIterations (productionRadioModel backend bandOriginHz originNonneg) cfg (assumed 0 coupling) point grants)
    (channel : FrequencyChannel) (channelMember : channel ∈ iapChannels (productionRadioModel backend bandOriginHz originNonneg) point) :
    (∀ grant ∈ grantsInNeighborhood (productionRadioModel backend bandOriginHz originNonneg) point grants,
      managedOn point channel grant = true → StaysOn result.mergedDecisions grant.grantId →
        ∃ loss, ∀ eirp, coupling grant point channel eirp = .ok (toLinear backend.scale (eirp - loss))) ∧
      authorizedLoad (productionRadioModel backend bandOriginHz originNonneg) (assumed 0 coupling) grants
          result.mergedDecisions point channel ≤
        pointThresholdMw (productionRadioModel backend bandOriginHz originNonneg) point := by
  have law := production_coupling_law backend pathLossModel rxHeightM coupling made
  generalize productionRadioModel backend bandOriginHz originNonneg = model at ran finished channelMember ⊢
  have fits : ∀ level, 0 ≤ level →
      authorizedLoad model (assumed level coupling) grants result.mergedDecisions point channel ≤ pointThresholdMw model point := by
    intro level positive
    have done : ¬ hitsMaxIterations model cfg (assumed level coupling) point grants := by
      rintro ⟨busy, left⟩
      refine finished ⟨busy, ?_⟩
      obtain ⟨results, mapped, _⟩ := Collect.map_ok _ _ _ ran
      obtain ⟨pointResult, _, pointRan⟩ := Collect.ok_result _ _ _ mapped point member
      rwa [final_state_shared model cfg grants coupling _ _ (assumed_fills level coupling) (assumed_fills 0 coupling) point busy
        pointResult pointRan] at left
    have agreed := run_iap_returns coupling (assumed level coupling) (assumed_fills level coupling) cfg model points grants
      result ran
    rw [agreed]
    exact authorized_load_fits model cfg points grants (assumed level coupling) distinct
      (assumed_nonneg level coupling backend.scale law positive) (assumed_monotone level coupling backend.scale law)
      point member done channel channelMember
  refine ⟨fun grant near managed stays => ?_, fits 0 le_rfl⟩
  -- A level above the threshold in place of what was raised would not fit.
  have threshold : 0 < pointThresholdMw model point := model.dbmToMw_pos _
  have levelNonneg : 0 ≤ pointThresholdMw model point + 1 := by linarith
  rcases assumed_link (pointThresholdMw model point + 1) coupling backend.scale law grant point channel with
    ⟨loss, link, _⟩ | flat
  · exact ⟨loss, link⟩
  · obtain ⟨eirp, counted⟩ := authorized_running (assumed (pointThresholdMw model point + 1) coupling)
      result.mergedDecisions point channel grant stays
    have listed := List.mem_map_of_mem (f := authorizedInterf (assumed (pointThresholdMw model point + 1) coupling)
      result.mergedDecisions point channel) (List.mem_filter.mpr ⟨near, managed⟩)
    rw [counted, flat] at listed
    have bounded := fits _ levelNonneg
    have single := List.single_le_sum ?_ _ listed
    · rw [authorizedLoad] at bounded
      linarith
    · intro share among
      obtain ⟨other, _, rfl⟩ := List.mem_map.mp among
      rw [authorizedInterf]
      split
      · exact assumed_nonneg _ coupling backend.scale law levelNonneg _ _ _ _
      · split
        · exact le_rfl
        · exact assumed_nonneg _ coupling backend.scale law levelNonneg _ _ _ _

end Production

section Sample

noncomputable def flatCoupling : RaisingCoupling ℝ :=
  dispatch (makeIapCoupling realScale fun grant point _ => itmPathLossDb flatBackend 1 grant point)
    (makeEscIapCoupling flatBackend)

noncomputable def flatPoint : ProtectionPoint ℝ :=
  { pointId := "gwpz/0", latitude := 0, longitude := 0, lowHz := 3550000000, highHz := 3555000000, thresholdDbm := -70,
    preIapMarginDb := 0 }

noncomputable def flatGrant (grantId : String) (maxEirp : ℝ) : GrantRfInfo ℝ :=
  { grantId := grantId, cbsdId := grantId, latitude := 0, longitude := 0, heightM := 0, lowHz := 3550000000,
    highHz := 3560000000, maxEirpDbmMhz := maxEirp }

noncomputable def flatGrants : List (GrantRfInfo ℝ) := [flatGrant "a" 20, flatGrant "b" 17]

noncomputable def flatConfig : IapEngineConfig ℝ := ⟨-((137 : Nat) : ℝ), 1, 1⟩

theorem flat_channels : iapChannels flatModel flatPoint = [.mk 3550000000 3555000000] := by
  apply iap_channels_eq
  simp [overlappingBounds, boundsFrom, FrequencyChannel.bounds, flatModel, productionRadioModel, flatPoint, iapbwHz]

theorem flat_link (grantId : String) (maxEirp : ℝ) (channel : FrequencyChannel) (eirp : ℝ) :
    flatCoupling (flatGrant grantId maxEirp) flatPoint channel eirp = .ok (toLinear realScale (eirp - 100)) := rfl

theorem flat_neighbors : grantsInNeighborhood flatModel flatPoint [flatGrant "a" 20, flatGrant "b" 17] =
    [flatGrant "a" 20, flatGrant "b" 17] := by
  simp [grantsInNeighborhood, inNeighborhood, neighborhoodRadiusKm, flatPoint, flatGrant]

-- A level of -80 dBm is a tenth of the threshold, and so less than the share of two grants.
theorem flat_fits (level : ℝ) (low : level ≤ -80) : toLinear realScale level < pointThresholdMw flatModel flatPoint / 2 := by
  have tenfold : toLinear realScale 10 = 10 := by
    change ((10 : Nat) : ℝ) ^ ((10 : ℝ) / (10 : Nat)) = 10
    norm_num
  have threshold : pointThresholdMw flatModel flatPoint = 10 * toLinear realScale (-80) := by
    rw [← tenfold, ← to_linear_add]
    refine congrArg (toLinear realScale) ?_
    norm_num [applyPreIapMarginDb, flatPoint]
  have positive := to_linear_pos realScale (-80)
  have below := (to_linear_strict realScale).monotone low
  rw [threshold]
  linarith

theorem flat_overlaps (grantId : String) (maxEirp : ℝ) :
    grantOverlapsChannel (flatGrant grantId maxEirp) (.mk 3550000000 3555000000) flatPoint.entityKind = true := by
  simp [grantOverlapsChannel, flatGrant, flatPoint]

theorem flat_run : ∃ result, raisingRunIap flatModel flatConfig flatCoupling [flatPoint] flatGrants = .ok result := by
  have power : ∀ grantId maxEirp, (flatGrant grantId maxEirp).maxEirpDbmMhz = maxEirp := fun _ _ => rfl
  have first := flat_fits (20 - 100) (by norm_num)
  have second := flat_fits (17 - 100) (by norm_num)
  simp [raisingRunIap, raisingRunIapForPoint, idlePoint, flat_channels, flat_neighbors, initialState, flatConfig, raisingLoop,
    raisingRound, initialSlot, initialChannel, flat_overlaps, raisingCheckSlot, raisingCheckFairshare, NeighborSlot.overlaps, flat_link,
    fairshareOf, sweepM, power, bind, Except.bind, pure, Except.pure, Except.map, first, second, pendingLock, NeighborSlot.lock,
    raisingLockSlot, raisingLockChannels, raisingLocked, ChannelSlot.release, ChannelSlot.leave, raisingChannelAggregate, contributes,
    raisingContribution, flatGrants]

theorem flat_finished : ¬ hitsMaxIterations flatModel flatConfig (assumed 0 flatCoupling) flatPoint flatGrants := by
  have power : ∀ grantId maxEirp, (flatGrant grantId maxEirp).maxEirpDbmMhz = maxEirp := fun _ _ => rfl
  have link : ∀ grantId maxEirp channel eirp,
      assumed 0 flatCoupling (flatGrant grantId maxEirp) flatPoint channel eirp = toLinear realScale (eirp - 100) :=
    fun _ _ _ _ => rfl
  have first := flat_fits (20 - 100) (by norm_num)
  have second := flat_fits (17 - 100) (by norm_num)
  simp [hitsMaxIterations, finalState, initialState, flat_channels, flat_neighbors, flatConfig, iapLoop, iapRound, initialSlot,
    initialChannel, flat_overlaps, checkSlot, checkFairshare, NeighborSlot.overlaps, NeighborSlot.interf, link, fairshareOf,
    Sweep.sweep, power, first, second, pendingLock, NeighborSlot.lock, lockSlot, lockChannels, flatGrants]

-- Two grants at 20 and 17 dBm/MHz over links of 100 dB, against a threshold of -70 dBm.
theorem production_run_protects_flat :
    ∃ result, raisingRunIap flatModel flatConfig flatCoupling [flatPoint] flatGrants = .ok result ∧
      authorizedLoad flatModel (assumed 0 flatCoupling) flatGrants result.mergedDecisions flatPoint (.mk 3550000000 3555000000) ≤
        pointThresholdMw flatModel flatPoint := by
  obtain ⟨result, ran⟩ := flat_run
  refine ⟨result, ran, ?_⟩
  have member : .mk 3550000000 3555000000 ∈ iapChannels flatModel flatPoint := by simp [flat_channels]
  have distinct : (flatGrants.map fun grant => grant.grantId).Nodup := by simp [flatGrants, flatGrant]
  exact (production_run_protects flatBackend 3550000000 (by decide) flatConfig [flatPoint] flatGrants .itm 1 flatCoupling rfl
    distinct result ran flatPoint (List.mem_singleton_self _) flat_finished _ member).2

end Sample

end SasCore.Iap
