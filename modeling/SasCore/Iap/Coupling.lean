import SasCore.Lib.Decibel
import SasCore.Iap.ChannelGrid
import SasCore.Iap.Engine
import Mathlib.Tactic.FieldSimp

set_option autoImplicit false
set_option linter.unusedSectionVars false

namespace SasCore.Iap

open Decibel

variable {K : Type} [Field K] [LinearOrder K]

inductive IapPathLossModel where
  | itm | freeSpace
deriving DecidableEq, Repr

-- PropagationUnavailableError, its subclass IapCouplingUnavailable, and what a backend raises by itself.
inductive RfFault where
  | unavailable (message : String)
  | coupling (message : String)
  | other (message : String)
deriving DecidableEq, Repr

def RfFault.isUnavailable : RfFault → Bool
  | .other _ => false
  | _ => true

def RfFault.message : RfFault → String
  | .unavailable message => message
  | .coupling message => message
  | .other message => message

structure ItmResult (K : Type) where
  dbLoss : K
  horCbsd : K
  horRx : K

-- What one call of calc_itm is given.
structure ItmLink (K : Type) where
  txLatitude : K
  txLongitude : K
  txHeight : K
  rxLatitude : K
  rxLongitude : K
  rxHeight : K
  cbsdIndoor : Bool
  reliability : K
  freqMhz : K
  isHeightCbsdAmsl : Bool

structure PropagationEngines (K : Type) where
  calcItm : ItmLink K → Except RfFault (ItmResult K)
  antennaStandardGains : K → K → K → K → Except RfFault K
  antennaPatternGains : Option (K → K → List K → Except RfFault K)

-- The logarithm and the power of ten, the functions of the math module and the reference engines.
structure CouplingBackend (K : Type) [Field K] [LinearOrder K] where
  scale : Scale K
  sqrt : K → K
  haversineKm : K → K → K → K → K
  loadReferenceEngines : Except RfFault (PropagationEngines K)

-- A coupling that may raise.
abbrev RaisingCoupling (K : Type) := GrantRfInfo K → ProtectionPoint K → FrequencyChannel → K → Except RfFault K

def freqMhzDefault : K := (3625 : Nat)
def escMaskEdgeHz : Int := 3650000000
def escInBandInsertionLossDb : K := 1 / (2 : Nat)
def escRbwHz : K := (5000000 : Nat)
def mhzHz : Int := 1000000

section Mask

variable (scale : Scale K)

-- The middles of the 1 MHz bins from the lower edge on, as losses.
def maskAttens (freqHz highHz : Int) : List K :=
  if _inside : freqHz < highHz then
    ((freqHz : K) / (mhzHz : K) - (3650 : Nat) + escInBandInsertionLossDb) :: maskAttens (freqHz + mhzHz) highHz
  else []
termination_by (highHz - freqHz).toNat
decreasing_by
  rw [mhzHz]
  omega

def escMaskLossDb (channel : FrequencyChannel) : Except RfFault K :=
  if channel.highHz ≤ escMaskEdgeHz then .ok escInBandInsertionLossDb
  else if channel.lowHz < escMaskEdgeHz then
    .error (.coupling "ESC mask loss: inconsistent protection channel crossing 3650 MHz")
  else
    let attens : List K := maskAttens (channel.lowHz + mhzHz / 2) channel.highHz
    if attens.isEmpty then .error (.coupling "ESC mask loss: empty frequency sampling")
    else .ok (meanLossDb scale attens)

end Mask

section Production

variable (backend : CouplingBackend K)

def freeSpacePathLossDb (rxHeightM : K) (grant : GrantRfInfo K) (point : ProtectionPoint K) : K :=
  let distKm := backend.haversineKm grant.latitude grant.longitude point.latitude point.longitude
  let dhKm := |grant.heightM - rxHeightM| / (1000 : Nat)
  let slantKm := max (backend.sqrt (distKm ^ 2 + dhKm ^ 2)) (1 / (1000000 : Nat))
  (20 : Nat) * backend.scale.log10 slantKm + (20 : Nat) * backend.scale.log10 freqMhzDefault + (3244 : Nat) / (100 : Nat)

def itmLink (grant : GrantRfInfo K) (point : ProtectionPoint K) (rxHeight reliability freqMhz : K) : ItmLink K :=
  ⟨grant.latitude, grant.longitude, grant.heightM, point.latitude, point.longitude, rxHeight, grant.indoor,
    reliability, freqMhz, !grant.heightIsAgl⟩

-- What is no PropagationUnavailableError is turned into one.
def asUnavailable (label : String) (fault : RfFault) : RfFault :=
  if fault.isUnavailable then fault else .unavailable (label ++ fault.message)

def itmPathLossDb (rxHeightM : K) (grant : GrantRfInfo K) (point : ProtectionPoint K) : Except RfFault K := do
  let engines ← backend.loadReferenceEngines
  match engines.calcItm (itmLink grant point rxHeightM (1 / (2 : Nat)) freqMhzDefault) with
  | .ok result => .ok result.dbLoss
  | .error fault => .error (asUnavailable "IAP ITM path loss failed: " fault)

def makeIapCoupling (scale : Scale K) (pathLossDb : GrantRfInfo K → ProtectionPoint K → FrequencyChannel → Except RfFault K) :
    RaisingCoupling K :=
  fun grant point channel eirpDbmMhz => (pathLossDb grant point channel).map fun lossDb => toLinear scale (eirpDbmMhz - lossDb)

def requireEscPointRf (point : ProtectionPoint K) : Except RfFault (K × K × List K) :=
  match point.receiverHeightM, point.receiverAntennaAzimuthDeg, point.receiverAntennaGainPatternDbi with
  | none, _, _ => .error (.coupling "ESC coupling requires receiver_height_m")
  | some _, none, _ => .error (.coupling "ESC coupling requires receiver_antenna_azimuth_deg")
  | some height, some azimuth, some (gain :: gains) => .ok (height, azimuth, gain :: gains)
  | some _, some _, _ => .error (.coupling "ESC coupling requires receiver_antenna_gain_pattern_dbi")

def requireGrantAntenna (grant : GrantRfInfo K) : Except RfFault (K × K × K) :=
  match grant.antennaAzimuthDeg, grant.antennaBeamwidthDeg, grant.antennaGainDbi with
  | some azimuth, some beamwidth, some gain => .ok (azimuth, beamwidth, gain)
  | _, _, _ => .error (.coupling "ESC coupling requires CBSD antenna azimuth/beamwidth/gain")

def defaultItmEscResult (grant : GrantRfInfo K) (point : ProtectionPoint K) (rxHeightM : K) : Except RfFault (ItmResult K) := do
  let engines ← backend.loadReferenceEngines
  match engines.calcItm (itmLink grant point rxHeightM (-1) freqMhzDefault) with
  | .ok result => .ok result
  | .error fault => .error (asUnavailable "ESC ITM path loss failed: " fault)

def defaultCbsdAntennaGain (horCbsd azimuth beamwidth gain : K) : Except RfFault K := do
  let engines ← backend.loadReferenceEngines
  engines.antennaStandardGains horCbsd azimuth beamwidth gain

def defaultEscAntennaGain (horRx azimuth : K) (pattern : List K) : Except RfFault K := do
  let engines ← backend.loadReferenceEngines
  match engines.antennaPatternGains with
  | none => .error (.coupling "ESC antenna pattern gain backend unavailable")
  | some gains => gains horRx azimuth pattern

def effectiveSystemEirpDbm (maxEirpDbmMhz cbsdMaxAntGainDbi effectiveAntGainDbi : K) : K :=
  (maxEirpDbmMhz - cbsdMaxAntGainDbi) + effectiveAntGainDbi + toDb backend.scale (escRbwHz / (mhzHz : K))

-- What a link to an ESC sensor is read from, before the power of the grant and the channel come in.
structure EscReadings (K : Type) where
  cbsdPeak : K
  gainDbi : K
  dbLoss : K

def escReadings (grant : GrantRfInfo K) (point : ProtectionPoint K) : Except RfFault (EscReadings K) := do
  if point.entityKind ≠ .esc then throw (.coupling "make_esc_iap_coupling requires ESC point")
  let (rxHeight, escAzimuth, pattern) ← requireEscPointRf point
  let (cbsdAzimuth, cbsdBeamwidth, cbsdPeak) ← requireGrantAntenna grant
  let result ← defaultItmEscResult backend grant point rxHeight
  let gainCbsd ← defaultCbsdAntennaGain backend result.horCbsd cbsdAzimuth cbsdBeamwidth cbsdPeak
  let gainEsc ← defaultEscAntennaGain backend result.horRx escAzimuth pattern
  return ⟨cbsdPeak, gainCbsd + gainEsc, result.dbLoss⟩

def makeEscIapCoupling : RaisingCoupling K := fun grant point channel eirpDbmMhz => do
  let readings ← escReadings backend grant point
  let eirpEff := effectiveSystemEirpDbm backend eirpDbmMhz readings.cbsdPeak readings.gainDbi
  let mask ← escMaskLossDb backend.scale channel
  return toLinear backend.scale (eirpEff - readings.dbLoss - mask)

def dispatch (generic esc : RaisingCoupling K) : RaisingCoupling K := fun grant point channel eirpDbmMhz =>
  if point.entityKind = .esc then esc grant point channel eirpDbmMhz else generic grant point channel eirpDbmMhz

-- Without engines the ITM profile has no coupling at all.
def makeProductionIapCoupling (pathLossModel : IapPathLossModel) (rxHeightM : K) : Except RfFault (RaisingCoupling K) :=
  match pathLossModel with
  | .freeSpace =>
      .ok (dispatch
        (makeIapCoupling backend.scale fun grant point _ => .ok (freeSpacePathLossDb backend rxHeightM grant point))
        (makeEscIapCoupling backend))
  | .itm =>
      backend.loadReferenceEngines.map fun _ => dispatch
        (makeIapCoupling backend.scale fun grant point _ => itmPathLossDb backend rxHeightM grant point)
        (makeEscIapCoupling backend)

def productionRadioModel (bandOriginHz : Int) (nonneg : 0 ≤ bandOriginHz) [IsStrictOrderedRing K] : RadioModel K where
  dbmToMw := toLinear backend.scale
  dbmToMw_pos := to_linear_pos backend.scale
  haversineKm := backend.haversineKm
  bandOriginHz := bandOriginHz
  bandOriginHz_nonneg := nonneg

end Production

section Law

variable (backend : CouplingBackend K)

-- The power of the grant enters a link as its level less a loss; whether the link can be computed is told without it.
def LinkLaw (scale : Scale K) (coupling : RaisingCoupling K) : Prop :=
  ∀ grant point channel, ∃ lossDb : Except RfFault K, ∀ eirpDbmMhz,
    coupling grant point channel eirpDbmMhz = lossDb.map fun loss => toLinear scale (eirpDbmMhz - loss)

theorem iap_coupling_law (scale : Scale K)
    (pathLossDb : GrantRfInfo K → ProtectionPoint K → FrequencyChannel → Except RfFault K) :
    LinkLaw scale (makeIapCoupling scale pathLossDb) :=
  fun grant point channel => ⟨pathLossDb grant point channel, fun _ => rfl⟩

def escLinkLossDb (readings : EscReadings K) (mask : K) : K :=
  readings.cbsdPeak - readings.gainDbi - toDb backend.scale (escRbwHz / (mhzHz : K)) + readings.dbLoss + mask

theorem esc_coupling_law : LinkLaw backend.scale (makeEscIapCoupling backend) := by
  intro grant point channel
  cases read : escReadings backend grant point with
  | error fault =>
      refine ⟨.error fault, fun eirp => ?_⟩
      rw [makeEscIapCoupling, read]
      rfl
  | ok readings =>
      cases masked : escMaskLossDb backend.scale channel with
      | error fault =>
          refine ⟨.error fault, fun eirp => ?_⟩
          rw [makeEscIapCoupling, read, masked]
          rfl
      | ok mask =>
          refine ⟨.ok (escLinkLossDb backend readings mask), fun eirp => ?_⟩
          rw [makeEscIapCoupling, read, masked]
          have sameLevel : effectiveSystemEirpDbm backend eirp readings.cbsdPeak readings.gainDbi - readings.dbLoss - mask =
              eirp - escLinkLossDb backend readings mask := by
            rw [effectiveSystemEirpDbm, escLinkLossDb]
            ring
          exact congrArg (fun level => Except.ok (toLinear backend.scale level)) sameLevel

theorem dispatch_law (scale : Scale K) (generic esc : RaisingCoupling K) (genericLaw : LinkLaw scale generic)
    (escLaw : LinkLaw scale esc) : LinkLaw scale (dispatch generic esc) := by
  intro grant point channel
  by_cases kind : point.entityKind = .esc
  · obtain ⟨lossDb, law⟩ := escLaw grant point channel
    exact ⟨lossDb, fun eirp => by rw [dispatch, if_pos kind, law]⟩
  · obtain ⟨lossDb, law⟩ := genericLaw grant point channel
    exact ⟨lossDb, fun eirp => by rw [dispatch, if_neg kind, law]⟩

theorem production_coupling_law (pathLossModel : IapPathLossModel) (rxHeightM : K) (coupling : RaisingCoupling K)
    (made : makeProductionIapCoupling backend pathLossModel rxHeightM = .ok coupling) : LinkLaw backend.scale coupling := by
  have law := fun pathLossDb => dispatch_law backend.scale _ _ (iap_coupling_law backend.scale pathLossDb) (esc_coupling_law backend)
  cases pathLossModel with
  | freeSpace =>
      cases made
      exact law _
  | itm =>
      rw [makeProductionIapCoupling] at made
      cases loaded : backend.loadReferenceEngines with
      | error fault =>
          rw [loaded] at made
          cases made
      | ok engines =>
          rw [loaded] at made
          cases made
          exact law _

end Law

section MaskFacts

variable [IsStrictOrderedRing K] (scale : Scale K)

theorem mask_attens_step (freqHz highHz : Int) (inside : freqHz < highHz) :
    maskAttens (K := K) freqHz highHz =
      ((freqHz : K) / (mhzHz : K) - (3650 : Nat) + escInBandInsertionLossDb) :: maskAttens (freqHz + mhzHz) highHz := by
  rw [maskAttens, dif_pos inside]

theorem mask_attens_end (freqHz highHz : Int) (ended : highHz ≤ freqHz) : maskAttens (K := K) freqHz highHz = [] := by
  rw [maskAttens, dif_neg (not_lt.mpr ended)]

-- A channel moved up by some frequency loses as much more as the frequency has MHz.
theorem mask_attens_shift (freqHz highHz deltaHz : Int) :
    maskAttens (freqHz + deltaHz) (highHz + deltaHz) =
      (maskAttens (K := K) freqHz highHz).map (· + (deltaHz : K) / (mhzHz : K)) := by
  induction rounds : (highHz - freqHz).toNat using Nat.strong_induction_on generalizing freqHz with
  | _ rounds ih =>
      by_cases inside : freqHz < highHz
      · have later := ih (highHz - (freqHz + mhzHz)).toNat (by rw [mhzHz]; omega) (freqHz + mhzHz) rfl
        rw [mask_attens_step freqHz highHz inside, mask_attens_step _ _ (by omega), List.map_cons, ← later,
          add_right_comm freqHz mhzHz deltaHz, Int.cast_add, add_div]
        congr 1
        ring
      · rw [mask_attens_end freqHz highHz (by omega), mask_attens_end _ _ (by omega)]
        rfl

-- The losses of the first IAP channel above the edge.
def firstBandLosses : List K := [1, (2 : Nat), (3 : Nat), (4 : Nat), (5 : Nat)]

theorem first_band_ne_nil : firstBandLosses (K := K) ≠ [] := List.cons_ne_nil _ _

theorem first_band_attens : maskAttens (escMaskEdgeHz + mhzHz / 2) (escMaskEdgeHz + iapbwHz) = firstBandLosses (K := K) := by
  have bin : ∀ place : Nat, (((3650500000 + (place : Int) * 1000000 : Int) : K)) / ((1000000 : Int) : K) - ((3650 : Nat) : K) +
      1 / ((2 : Nat) : K) = (place + 1 : Nat) := by
    intro place
    push_cast
    field_simp
    ring
  simp only [escMaskEdgeHz, mhzHz, iapbwHz, firstBandLosses]
  rw [mask_attens_step _ _ (by decide), mask_attens_step _ _ (by decide), mask_attens_step _ _ (by decide),
    mask_attens_step _ _ (by decide), mask_attens_step _ _ (by decide), mask_attens_end _ _ (by decide)]
  simp only [mhzHz, escInBandInsertionLossDb]
  exact congr (congrArg List.cons ((bin 0).trans (by simp))) (congr (congrArg List.cons (bin 1))
    (congr (congrArg List.cons (bin 2)) (congr (congrArg List.cons (bin 3)) (congr (congrArg List.cons (bin 4)) rfl))))

theorem esc_mask_fails_iff (channel : FrequencyChannel) :
    (∃ fault, escMaskLossDb scale channel = .error fault) ↔
      escMaskEdgeHz < channel.highHz ∧ (channel.lowHz < escMaskEdgeHz ∨ channel.highHz ≤ channel.lowHz + mhzHz / 2) := by
  rw [escMaskLossDb]
  by_cases below : channel.highHz ≤ escMaskEdgeHz
  · rw [if_pos below]
    constructor
    · rintro ⟨fault, same⟩
      cases same
    · rintro ⟨higher, _⟩
      exact absurd below (not_le.mpr higher)
  · rw [if_neg below]
    by_cases crossing : channel.lowHz < escMaskEdgeHz
    · rw [if_pos crossing]
      exact ⟨fun _ => ⟨not_le.mp below, .inl crossing⟩, fun _ => ⟨_, rfl⟩⟩
    · rw [if_neg crossing]
      dsimp only
      by_cases narrow : channel.highHz ≤ channel.lowHz + mhzHz / 2
      · rw [mask_attens_end _ _ narrow]
        exact ⟨fun _ => ⟨not_le.mp below, .inr narrow⟩, fun _ => ⟨_, rfl⟩⟩
      · rw [mask_attens_step _ _ (not_le.mp narrow)]
        constructor
        · rintro ⟨fault, same⟩
          cases same
        · rintro ⟨_, either⟩
          exact absurd either (not_or.mpr ⟨crossing, narrow⟩)

theorem esc_mask_above (channel : FrequencyChannel) (above : escMaskEdgeHz ≤ channel.lowHz)
    (wide : channel.highHz = channel.lowHz + iapbwHz) :
    escMaskLossDb scale channel =
      .ok (meanLossDb scale firstBandLosses + ((channel.lowHz - escMaskEdgeHz : Int) : K) / (mhzHz : K)) := by
  have beyond : ¬ channel.highHz ≤ escMaskEdgeHz := by
    rw [wide, iapbwHz]
    omega
  have low : channel.lowHz + mhzHz / 2 = escMaskEdgeHz + mhzHz / 2 + (channel.lowHz - escMaskEdgeHz) := by omega
  have high : channel.highHz = escMaskEdgeHz + iapbwHz + (channel.lowHz - escMaskEdgeHz) := by omega
  rw [escMaskLossDb, if_neg beyond, if_neg (not_lt.mpr above)]
  dsimp only
  rw [low, high, mask_attens_shift, first_band_attens, mean_loss_shift scale _ first_band_ne_nil]
  rfl

theorem first_band_between : (1 : K) ≤ meanLossDb scale firstBandLosses ∧ meanLossDb scale firstBandLosses ≤ ((5 : Nat) : K) := by
  have each : ∀ loss ∈ firstBandLosses (K := K), 1 ≤ loss ∧ loss ≤ ((5 : Nat) : K) := by
    intro loss member
    simp only [firstBandLosses, List.mem_cons, List.not_mem_nil, or_false] at member
    rcases member with rfl | rfl | rfl | rfl | rfl <;> norm_num
  exact ⟨mean_loss_ge scale _ first_band_ne_nil 1 fun loss member => (each loss member).1,
    mean_loss_le scale _ first_band_ne_nil _ fun loss member => (each loss member).2⟩

theorem insertion_loss_le_one : (escInBandInsertionLossDb : K) ≤ 1 := by
  rw [escInBandInsertionLossDb]
  norm_num

theorem mhz_shift_le (fewerHz moreHz : Int) (less : fewerHz ≤ moreHz) :
    (fewerHz : K) / (mhzHz : K) ≤ (moreHz : K) / (mhzHz : K) := by
  refine div_le_div_of_nonneg_right (Int.cast_le.mpr less) ?_
  rw [mhzHz]
  norm_num

theorem mhz_shift_nonneg (deltaHz : Int) (nonneg : 0 ≤ deltaHz) : (0 : K) ≤ (deltaHz : K) / (mhzHz : K) := by
  simpa using mhz_shift_le (K := K) 0 deltaHz nonneg

-- On a grid that has the edge as one of its lines no channel crosses it.
theorem grid_channel_sides (model : RadioModel K) (aligned : iapbwHz ∣ escMaskEdgeHz - model.bandOriginHz)
    (point : ProtectionPoint K) (channel : FrequencyChannel) (member : channel ∈ iapChannels model point) :
    channel.highHz = channel.lowHz + iapbwHz ∧ (channel.highHz ≤ escMaskEdgeHz ∨ escMaskEdgeHz ≤ channel.lowHz) := by
  have listed := List.mem_map_of_mem (f := FrequencyChannel.bounds) member
  rw [iap_channels_bounds] at listed
  obtain ⟨place, isPlace, _⟩ := (overlapping_meets _ _ _ _ (by decide) _).mp listed
  obtain ⟨lowPlace, highPlace⟩ := Prod.mk.inj isPlace
  obtain ⟨lines, isLine⟩ := aligned
  rw [iapbwHz] at isLine lowPlace highPlace ⊢
  omega

end MaskFacts

section MaskLaw

variable [IsStrictOrderedRing K] (scale : Scale K) (model : RadioModel K)

-- The mask of a channel of the grid: the insertion loss up to the edge, and one more decibel for each MHz beyond it.
def gridMaskDb (channel : FrequencyChannel) : K :=
  if channel.highHz ≤ escMaskEdgeHz then escInBandInsertionLossDb
  else meanLossDb scale firstBandLosses + ((channel.lowHz - escMaskEdgeHz : Int) : K) / (mhzHz : K)

theorem grid_mask (aligned : iapbwHz ∣ escMaskEdgeHz - model.bandOriginHz) (point : ProtectionPoint K)
    (channel : FrequencyChannel) (member : channel ∈ iapChannels model point) :
    escMaskLossDb scale channel = .ok (gridMaskDb scale channel) := by
  obtain ⟨wide, sides⟩ := grid_channel_sides model aligned point channel member
  by_cases below : channel.highHz ≤ escMaskEdgeHz
  · rw [escMaskLossDb, gridMaskDb, if_pos below, if_pos below]
  · have above := sides.resolve_left below
    rw [gridMaskDb, if_neg below]
    exact esc_mask_above scale channel above wide

theorem grid_mask_mono (aligned : iapbwHz ∣ escMaskEdgeHz - model.bandOriginHz) (point other : ProtectionPoint K)
    (channel higher : FrequencyChannel) (member : channel ∈ iapChannels model point)
    (higherMember : higher ∈ iapChannels model other) (ordered : channel.lowHz ≤ higher.lowHz) :
    gridMaskDb scale channel ≤ gridMaskDb scale higher := by
  obtain ⟨wide, sides⟩ := grid_channel_sides model aligned point channel member
  obtain ⟨higherWide, higherSides⟩ := grid_channel_sides model aligned other higher higherMember
  have bounds := first_band_between scale
  have half := insertion_loss_le_one (K := K)
  rw [gridMaskDb, gridMaskDb]
  by_cases higherBelow : higher.highHz ≤ escMaskEdgeHz
  · rw [if_pos higherBelow, if_pos (by omega)]
  · rw [if_neg higherBelow]
    by_cases below : channel.highHz ≤ escMaskEdgeHz
    · have beyond := mhz_shift_nonneg (K := K) (higher.lowHz - escMaskEdgeHz) (by omega)
      rw [if_pos below]
      linarith
    · have beyond := mhz_shift_le (K := K) (channel.lowHz - escMaskEdgeHz) (higher.lowHz - escMaskEdgeHz) (by omega)
      rw [if_neg below]
      linarith

theorem grid_mask_least (aligned : iapbwHz ∣ escMaskEdgeHz - model.bandOriginHz) (point : ProtectionPoint K)
    (channel : FrequencyChannel) (member : channel ∈ iapChannels model point) :
    escInBandInsertionLossDb ≤ gridMaskDb scale channel := by
  obtain ⟨_, sides⟩ := grid_channel_sides model aligned point channel member
  have bounds := first_band_between scale
  have half := insertion_loss_le_one (K := K)
  rw [gridMaskDb]
  split
  · exact le_refl _
  · rename_i notBelow
    have beyond := mhz_shift_nonneg (K := K) (channel.lowHz - escMaskEdgeHz) (sub_nonneg.mpr (sides.resolve_left notBelow))
    linarith

theorem esc_mask_on_grid (aligned : iapbwHz ∣ escMaskEdgeHz - model.bandOriginHz) :
    (∀ point, ∀ channel ∈ iapChannels model point,
      escMaskLossDb scale channel = .ok (gridMaskDb scale channel) ∧ escInBandInsertionLossDb ≤ gridMaskDb scale channel ∧
        ∀ other, ∀ higher ∈ iapChannels model other, channel.lowHz ≤ higher.lowHz →
          gridMaskDb scale channel ≤ gridMaskDb scale higher) ∧
      ((1 : K) ≤ meanLossDb scale firstBandLosses ∧ meanLossDb scale firstBandLosses ≤ ((5 : Nat) : K)) ∧
      ∀ channel, (∃ fault, escMaskLossDb scale channel = .error fault) ↔
        escMaskEdgeHz < channel.highHz ∧ (channel.lowHz < escMaskEdgeHz ∨ channel.highHz ≤ channel.lowHz + mhzHz / 2) := by
  refine ⟨fun point channel member => ⟨?_, ?_, ?_⟩, first_band_between scale, esc_mask_fails_iff scale⟩
  · exact grid_mask scale model aligned point channel member
  · exact grid_mask_least scale model aligned point channel member
  · exact fun other higher higherMember ordered =>
      grid_mask_mono scale model aligned point other channel higher member higherMember ordered

end MaskLaw

section Sample

noncomputable def flatEngines : PropagationEngines ℝ := ⟨fun _ => .ok ⟨((100 : Nat) : ℝ), 0, 0⟩, fun _ _ _ _ => .ok 0, none⟩

noncomputable def flatBackend : CouplingBackend ℝ := ⟨realScale, Real.sqrt, fun _ _ _ _ => 0, .ok flatEngines⟩

theorem flat_origin : (0 : Int) ≤ 3550000000 := by decide

noncomputable def flatModel : RadioModel ℝ := productionRadioModel flatBackend 3550000000 flat_origin

noncomputable def escSamplePoint : ProtectionPoint ℝ :=
  { pointId := "esc/0", latitude := 0, longitude := 0, lowHz := 3650000000, highHz := 3660000000, thresholdDbm := -109,
    entityKind := .esc, preIapMarginDb := 0 }

-- The second channel above the edge loses 5 dB more than the first.
theorem esc_mask_on_grid_second :
    escMaskLossDb realScale (.mk 3655000000 3660000000) = .ok (gridMaskDb realScale (.mk 3655000000 3660000000)) := by
  have aligned : iapbwHz ∣ escMaskEdgeHz - flatModel.bandOriginHz := ⟨20, rfl⟩
  have channels : iapChannels flatModel escSamplePoint = [.mk 3650000000 3655000000, .mk 3655000000 3660000000] := by
    apply iap_channels_eq
    simp [overlappingBounds, boundsFrom, FrequencyChannel.bounds, flatModel, productionRadioModel, escSamplePoint, iapbwHz]
  have member : .mk 3655000000 3660000000 ∈ iapChannels flatModel escSamplePoint := by simp [channels]
  exact ((esc_mask_on_grid realScale flatModel aligned).1 escSamplePoint _ member).1

end Sample

end SasCore.Iap
