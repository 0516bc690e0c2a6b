import SasCore.Lib.Sweep
import SasCore.Iap.ChannelGrid
import Mathlib.Data.List.Sort
import Mathlib.Data.String.Basic

set_option autoImplicit false

namespace SasCore.Iap

variable {K : Type} [Field K] [LinearOrder K]

structure IapEngineConfig (K : Type) where
  eirpFloorDbmMhz : K
  eirpStepDb : K
  maxIterations : Nat
deriving DecidableEq, Repr

def iapEngineConfig : IapEngineConfig K := ⟨-137, 1, 10000⟩

def escNeighborhoodKmA : K := 40
def escNeighborhoodKmB : K := 80

def escNeighborhoodKmForCategory (category : Option String) : K :=
  match category with
  | none => escNeighborhoodKmB
  | some text => if PyText.stripUpper text == ['A'] then escNeighborhoodKmA else escNeighborhoodKmB

def neighborhoodRadiusKm (point : ProtectionPoint K) (grant : GrantRfInfo K) : Option K :=
  if point.entityKind = .esc then some (escNeighborhoodKmForCategory grant.cbsdCategory) else point.neighborhoodKm

def inNeighborhood (model : RadioModel K) (point : ProtectionPoint K) (grant : GrantRfInfo K) : Bool :=
  (grant.lowHz < point.highHz && grant.highHz > point.lowHz) &&
    match neighborhoodRadiusKm point grant with
    | none => true
    | some radius =>
        !decide (radius < model.haversineKm grant.latitude grant.longitude point.latitude point.longitude)

def grantsInNeighborhood (model : RadioModel K) (point : ProtectionPoint K) (grants : List (GrantRfInfo K)) :
    List (GrantRfInfo K) :=
  grants.filter (inNeighborhood model point)

-- The channels of a point: from a band origin at or above 0 the enumeration always returns.
def iapChannels (model : RadioModel K) (point : ProtectionPoint K) : List FrequencyChannel :=
  (overlappingIapChannels model.bandOriginHz point.lowHz point.highHz iapbwHz).toOption.getD []

theorem iap_channels_returned (model : RadioModel K) (point : ProtectionPoint K) :
    overlappingIapChannels model.bandOriginHz point.lowHz point.highHz iapbwHz = .ok (iapChannels model point) := by
  obtain ⟨channels, returned⟩ :=
    overlapping_nonneg model.bandOriginHz point.lowHz point.highHz iapbwHz (by decide) model.bandOriginHz_nonneg
  rw [iapChannels, returned]
  rfl

theorem iap_channels_bounds (model : RadioModel K) (point : ProtectionPoint K) :
    (iapChannels model point).map FrequencyChannel.bounds =
      overlappingBounds model.bandOriginHz point.lowHz point.highHz iapbwHz :=
  (overlapping_ok_iff _ _ _ _ _).mp (iap_channels_returned model point)

theorem iap_channels_eq (model : RadioModel K) (point : ProtectionPoint K) (channels : List FrequencyChannel)
    (bounds : overlappingBounds model.bandOriginHz point.lowHz point.highHz iapbwHz = channels.map FrequencyChannel.bounds) :
    iapChannels model point = channels :=
  List.map_injective_iff.mpr bounds_injective ((iap_channels_bounds model point).trans bounds)

-- The per-grant arrays eirp, satisfied, removed and hit_floor, and the row of locked_interf of one grant.
structure NeighborSlot (K : Type) where
  grant : GrantRfInfo K
  eirp : K
  satisfied : Bool
  removed : Bool
  hitFloor : Bool
  lockedInterf : Nat → Option K

def NeighborSlot.overlaps (point : ProtectionPoint K) (slot : NeighborSlot K) (channel : FrequencyChannel) : Bool :=
  grantOverlapsChannel slot.grant channel point.entityKind

def NeighborSlot.interf (coupling : InterferenceCoupling K) (point : ProtectionPoint K) (slot : NeighborSlot K)
    (channel : FrequencyChannel) : K :=
  coupling slot.grant point channel slot.eirp

def NeighborSlot.lock (slot : NeighborSlot K) (chIdx : Nat) (interf : K) : NeighborSlot K :=
  { slot with lockedInterf := fun idx => if idx = chIdx then some interf else slot.lockedInterf idx }

-- The per-channel arrays iap_threshold_ch, unsat_count_ch and fairshare_ch.
structure ChannelSlot (K : Type) where
  chIdx : Nat
  channel : FrequencyChannel
  iapThreshold : K
  unsatCount : Nat
  fairshare : K

structure Ledger (K : Type) where
  channels : List (ChannelSlot K)
  numUnsatisfied : Nat

structure EngineState (K : Type) where
  slots : List (NeighborSlot K)
  ledger : Ledger K

def fairshareOf (threshold : K) (count : Nat) : K := if 0 < count then threshold / count else 0

-- A grant leaves the channel's unsatisfied set.
def ChannelSlot.leave (ch : ChannelSlot K) : ChannelSlot K :=
  { ch with
    unsatCount := ch.unsatCount - 1
    fairshare := fairshareOf ch.iapThreshold (ch.unsatCount - 1) }

def ChannelSlot.release (ch : ChannelSlot K) (locked : K) : ChannelSlot K :=
  ChannelSlot.leave { ch with iapThreshold := ch.iapThreshold - locked }

section Round

variable (coupling : InterferenceCoupling K) (point : ProtectionPoint K) (cfg : IapEngineConfig K)

-- The channel loop of the fair-share phase. It stops at the first channel at or above its share and
-- keeps the entries it locked up to there.
def checkFairshare : NeighborSlot K → List (ChannelSlot K) → Bool → NeighborSlot K × Bool
  | slot, [], sawOverlap => (slot, sawOverlap)
  | slot, ch :: rest, sawOverlap =>
      if !slot.overlaps point ch.channel then checkFairshare slot rest sawOverlap
      else
        let interf := slot.interf coupling point ch.channel
        if interf < ch.fairshare then checkFairshare (slot.lock ch.chIdx interf) rest true
        else (slot, false)

def checkSlot (channels : List (ChannelSlot K)) (slot : NeighborSlot K) : NeighborSlot K :=
  if slot.removed || slot.satisfied then slot
  else
    let checked := checkFairshare coupling point slot channels false
    { checked.1 with satisfied := checked.2 }

def lockChannels : NeighborSlot K → List (ChannelSlot K) → NeighborSlot K × List (ChannelSlot K)
  | slot, [] => (slot, [])
  | slot, ch :: rest =>
      if !slot.overlaps point ch.channel then
        let others := lockChannels slot rest
        (others.1, ch :: others.2)
      else
        let locked := (slot.lockedInterf ch.chIdx).getD (slot.interf coupling point ch.channel)
        let others := lockChannels (slot.lock ch.chIdx locked) rest
        (others.1, ch.release locked :: others.2)

def pendingLock (slot : NeighborSlot K) : Bool := !slot.removed && slot.satisfied

def lockSlot (slot : NeighborSlot K) (ledger : Ledger K) : NeighborSlot K × Ledger K :=
  if pendingLock slot then
    let settled := lockChannels coupling point slot ledger.channels
    ({ settled.1 with removed := true }, ⟨settled.2, ledger.numUnsatisfied - 1⟩)
  else (slot, ledger)

def dropSlot (slot : NeighborSlot K) (ledger : Ledger K) : NeighborSlot K × Ledger K :=
  if slot.removed || slot.satisfied then (slot, ledger)
  else
    let eirp := slot.eirp - cfg.eirpStepDb
    if eirp < cfg.eirpFloorDbmMhz then
      ({ slot with eirp := eirp, hitFloor := true, removed := true, satisfied := true },
        ⟨ledger.channels.map fun ch => if slot.overlaps point ch.channel then ch.leave else ch,
          ledger.numUnsatisfied - 1⟩)
    else ({ slot with eirp := eirp }, ledger)

-- One pass of the while loop: fair-share check, lock-in, and the EIRP drop when nothing was locked.
def iapRound (state : EngineState K) : EngineState K :=
  let checked := state.slots.map (checkSlot coupling point state.ledger.channels)
  let locked := Sweep.sweep (lockSlot coupling point) checked state.ledger
  if checked.any pendingLock then ⟨locked.1, locked.2⟩
  else
    let dropped := Sweep.sweep (dropSlot point cfg) locked.1 locked.2
    ⟨dropped.1, dropped.2⟩

def iapLoop : Nat → EngineState K → EngineState K
  | 0, state => state
  | iterations + 1, state =>
      if 0 < state.ledger.numUnsatisfied then iapLoop iterations (iapRound coupling point cfg state) else state

end Round

def initialSlot (grant : GrantRfInfo K) : NeighborSlot K :=
  ⟨grant, grant.maxEirpDbmMhz, false, false, false, fun _ => none⟩

def initialChannel (point : ProtectionPoint K) (neighbors : List (GrantRfInfo K)) (thresholdMw : K)
    (channel : FrequencyChannel) (chIdx : Nat) : ChannelSlot K :=
  let count := neighbors.countP fun g => grantOverlapsChannel g channel point.entityKind
  ⟨chIdx, channel, thresholdMw, count, fairshareOf thresholdMw count⟩

def initialState (model : RadioModel K) (point : ProtectionPoint K) (grants : List (GrantRfInfo K)) : EngineState K :=
  let neighbors := grantsInNeighborhood model point grants
  let channels := (iapChannels model point).zipIdx
  ⟨neighbors.map initialSlot,
    ⟨channels.map fun entry => initialChannel point neighbors (pointThresholdMw model point) entry.1 entry.2,
      neighbors.length⟩⟩

def finalState (model : RadioModel K) (cfg : IapEngineConfig K) (coupling : InterferenceCoupling K)
    (point : ProtectionPoint K) (grants : List (GrantRfInfo K)) : EngineState K :=
  iapLoop coupling point cfg cfg.maxIterations (initialState model point grants)

def contributes (point : ProtectionPoint K) (ch : ChannelSlot K) (slot : NeighborSlot K) : Bool :=
  slot.overlaps point ch.channel && !(slot.removed && (slot.lockedInterf ch.chIdx).isNone)

def contribution (coupling : InterferenceCoupling K) (point : ProtectionPoint K) (ch : ChannelSlot K)
    (slot : NeighborSlot K) : GrantChannelContribution K :=
  ⟨slot.grant.grantId, ch.channel, (slot.lockedInterf ch.chIdx).getD (slot.interf coupling point ch.channel), slot.eirp⟩

def channelAggregate (coupling : InterferenceCoupling K) (point : ProtectionPoint K) (thresholdMw : K)
    (slots : List (NeighborSlot K)) (ch : ChannelSlot K) : ChannelAggregateResult K :=
  let counted := slots.filter (contributes point ch)
  let contribs := counted.map (contribution coupling point ch)
  let managing := (counted.filter fun slot => slot.grant.isManagingSas).map (contribution coupling point ch)
  let aggregateMw := sumInterferenceMw (contribs.map (·.interferenceMw))
  { channel := ch.channel
    aggregateMw := aggregateMw
    managingSasMw := (managing.map (·.interferenceMw)).sum
    thresholdMw := thresholdMw
    fairshareMw := thresholdMw / (max 1 contribs.length : Nat)
    withinThreshold := aggregateMw ≤ thresholdMw + epsMw }

def eirpEpsilon : K := 1 / 1000000000

def hasLockedEntry (channels : List (ChannelSlot K)) (slot : NeighborSlot K) : Bool :=
  channels.any fun ch => (slot.lockedInterf ch.chIdx).isSome

def terminatedBy (channels : List (ChannelSlot K)) (slot : NeighborSlot K) : Bool :=
  slot.hitFloor ||
    (!hasLockedEntry channels slot && slot.removed && slot.eirp + eirpEpsilon < slot.grant.maxEirpDbmMhz)

def slotDecision (cfg : IapEngineConfig K) (point : ProtectionPoint K) (channels : List (ChannelSlot K))
    (slot : NeighborSlot K) : IapGrantDecision K :=
  let initial := slot.grant.maxEirpDbmMhz
  let outcome : IapAction × K × Explanation K :=
    if terminatedBy channels slot then
      (.terminate, cfg.eirpFloorDbmMhz, .belowFloor point.pointId point.entityKind cfg.eirpFloorDbmMhz)
    else if slot.eirp + eirpEpsilon < initial then
      (.reducePower, slot.eirp, .reduced point.pointId point.entityKind initial slot.eirp)
    else (.keep, slot.eirp, .withinFairshare point.pointId point.entityKind slot.eirp)
  { grantId := slot.grant.grantId
    cbsdId := slot.grant.cbsdId
    grantPk := slot.grant.grantPk
    action := outcome.1
    authorizedEirpDbmMhz := outcome.2.1
    initialEirpDbmMhz := initial
    explanation := outcome.2.2 }

def earlyDecision (point : ProtectionPoint K) (grant : GrantRfInfo K) : IapGrantDecision K :=
  { grantId := grant.grantId
    cbsdId := grant.cbsdId
    grantPk := grant.grantPk
    action := .keep
    authorizedEirpDbmMhz := grant.maxEirpDbmMhz
    initialEirpDbmMhz := grant.maxEirpDbmMhz
    explanation := .noOverlappingChannels point.pointId }

-- The point has nothing to allocate: no IAP channel or no grant in its neighbourhood.
def idlePoint (model : RadioModel K) (point : ProtectionPoint K) (grants : List (GrantRfInfo K)) : Bool :=
  (iapChannels model point).isEmpty || (grantsInNeighborhood model point grants).isEmpty

def runIapForPoint (model : RadioModel K) (cfg : IapEngineConfig K) (coupling : InterferenceCoupling K)
    (point : ProtectionPoint K) (grants : List (GrantRfInfo K)) : IapPointResult K :=
  if idlePoint model point grants then
    { point := point
      channels := iapChannels model point
      aggregates := []
      decisions := (grants.filter (·.isManagingSas)).map (earlyDecision point) }
  else
    let final := finalState model cfg coupling point grants
    { point := point
      channels := iapChannels model point
      aggregates := final.ledger.channels.map
        (channelAggregate coupling point (pointThresholdMw model point) final.slots)
      decisions := (final.slots.filter fun slot => slot.grant.isManagingSas).map
        (slotDecision cfg point final.ledger.channels) }

-- The loop was left with grants still unsatisfied.
def hitsMaxIterations (model : RadioModel K) (cfg : IapEngineConfig K) (coupling : InterferenceCoupling K)
    (point : ProtectionPoint K) (grants : List (GrantRfInfo K)) : Prop :=
  idlePoint model point grants = false ∧ 0 < (finalState model cfg coupling point grants).ledger.numUnsatisfied

end SasCore.Iap
