import Mathlib.Algebra.Order.Field.Basic

set_option autoImplicit false

namespace SasCore.Iap

inductive ProtectedEntityKind where
  | esc | fssCochannel | fssBlocking | ppa | gwpz | generic
deriving DecidableEq, Repr

inductive IapAction where
  | keep | reducePower | suspend | terminate
deriving DecidableEq, Repr

-- The fields that a pydantic model refuses, with the constraint they break.
structure ValidationError where
  model : String
  fields : List String
  message : String
deriving DecidableEq, Repr

structure FrequencyChannel where
  lowHz : Int
  highHz : Int
  lowHz_nonneg : 0 ≤ lowHz := by decide
  highHz_nonneg : 0 ≤ highHz := by decide
deriving DecidableEq, Repr

def FrequencyChannel.checked (lowHz highHz : Int) : Except ValidationError FrequencyChannel :=
  if valid : 0 ≤ lowHz ∧ 0 ≤ highHz then .ok ⟨lowHz, highHz, valid.1, valid.2⟩
  else
    .error ⟨"FrequencyChannel", (if lowHz < 0 then ["low_hz"] else []) ++ if highHz < 0 then ["high_hz"] else [],
      "Input should be greater than or equal to 0"⟩

-- Decibel and position values live in an ordered field: arithmetic is exact.
structure ProtectionPoint (K : Type) where
  pointId : String
  latitude : K
  longitude : K
  lowHz : Int
  highHz : Int
  thresholdDbm : K
  entityKind : ProtectedEntityKind := .generic
  preIapMarginDb : K
  neighborhoodKm : Option K := none
  sourceEntityId : Option String := none
  receiverHeightM : Option K := none
  receiverAntennaAzimuthDeg : Option K := none
  receiverAntennaGainPatternDbi : Option (List K) := none
deriving DecidableEq, Repr

structure GrantRfInfo (K : Type) where
  grantId : String
  cbsdId : String
  latitude : K
  longitude : K
  heightM : K
  heightIsAgl : Bool := true
  indoor : Bool := false
  lowHz : Int
  highHz : Int
  maxEirpDbmMhz : K
  isManagingSas : Bool := true
  grantPk : Option Int := none
  sourceSasId : Option String := none
  cbsdCategory : Option String := none
  antennaAzimuthDeg : Option K := none
  antennaBeamwidthDeg : Option K := none
  antennaGainDbi : Option K := none
deriving DecidableEq, Repr

structure GrantChannelContribution (K : Type) where
  grantId : String
  channel : FrequencyChannel
  interferenceMw : K
  eirpDbmMhz : K
deriving DecidableEq, Repr

structure ChannelAggregateResult (K : Type) where
  channel : FrequencyChannel
  aggregateMw : K
  managingSasMw : K
  thresholdMw : K
  fairshareMw : K
  withinThreshold : Bool
deriving DecidableEq, Repr

-- The explanation texts with the values the source interpolates into them.
inductive Explanation (K : Type) where
  | noOverlappingChannels (pointId : String)
  | belowFloor (pointId : String) (kind : ProtectedEntityKind) (floor : K)
  | reduced (pointId : String) (kind : ProtectedEntityKind) (initial final : K)
  | withinFairshare (pointId : String) (kind : ProtectedEntityKind) (final : K)
  | joined (first second : Explanation K)
deriving DecidableEq, Repr

structure IapGrantDecision (K : Type) where
  grantId : String
  cbsdId : String
  grantPk : Option Int
  action : IapAction
  authorizedEirpDbmMhz : K
  initialEirpDbmMhz : K
  explanation : Explanation K
deriving DecidableEq, Repr

structure IapPointResult (K : Type) where
  point : ProtectionPoint K
  channels : List FrequencyChannel
  aggregates : List (ChannelAggregateResult K)
  decisions : List (IapGrantDecision K)
deriving DecidableEq, Repr

structure IapRunResult (K : Type) where
  points : List (IapPointResult K)
  mergedDecisions : List (IapGrantDecision K)
deriving DecidableEq, Repr

-- (grant, protection_point, channel, eirp_dbm_mhz) -> interference mW
abbrev InterferenceCoupling (K : Type) := GrantRfInfo K → ProtectionPoint K → FrequencyChannel → K → K

-- What the engine takes from outside: 10 ** (dbm / 10), the great-circle distance and the
-- lower band edge of the active spectrum profile (a validated band plan starts at 0 or above).
structure RadioModel (K : Type) [Zero K] [LT K] where
  dbmToMw : K → K
  dbmToMw_pos : ∀ dbm, 0 < dbmToMw dbm
  haversineKm : K → K → K → K → K
  bandOriginHz : Int
  bandOriginHz_nonneg : 0 ≤ bandOriginHz

end SasCore.Iap
