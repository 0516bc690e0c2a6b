import SasCore.Lib.PyText
import SasCore.Iap.Models
import Mathlib.Algebra.Order.BigOperators.Group.List
import Mathlib.Tactic.Linarith

set_option autoImplicit false

namespace SasCore.Iap

variable {K : Type} [Field K] [LinearOrder K]

def iapbwHz : Int := 5000000
def escCatAHighFreqHz : Int := 3660000000
def epsMw : K := 1 / 1000000000000000

def applyPreIapMarginDb (thresholdDbm marginDb : K) : K := thresholdDbm - marginDb

-- The threshold in mW that a point's channels are held to.
def pointThresholdMw (model : RadioModel K) (point : ProtectionPoint K) : K :=
  model.dbmToMw (applyPreIapMarginDb point.thresholdDbm point.preIapMarginDb)

-- The while loop of overlapping_iap_channels from the cursor on; a channel with a negative bound is refused.
def channelsFrom (lowHz highHz channelHz : Int) (cursor : Int) : Except ValidationError (List FrequencyChannel) :=
  if _inside : cursor < highHz ∧ 0 < channelHz then do
    let chHigh := cursor + channelHz
    let here ← (if lowHz < chHigh then (FrequencyChannel.checked cursor chHigh).map fun channel => [channel] else pure [])
    let rest ← (if highHz + channelHz < chHigh then pure [] else channelsFrom lowHz highHz channelHz chHigh)
    return here ++ rest
  else pure []
termination_by (highHz - cursor).toNat
decreasing_by omega

def overlappingIapChannels (originHz lowHz highHz channelHz : Int) : Except ValidationError (List FrequencyChannel) :=
  if highHz ≤ lowHz ∨ channelHz ≤ 0 then pure []
  else
    let start := originHz + (max lowHz originHz - originHz) / channelHz * channelHz
    channelsFrom lowHz highHz channelHz start

def catA (category : Option String) : Bool := PyText.stripUpper (category.getD "") == ['A']

def grantOverlapsChannel (grant : GrantRfInfo K) (channel : FrequencyChannel) (kind : ProtectedEntityKind) : Bool :=
  if ¬ (grant.lowHz < channel.highHz ∧ grant.highHz > channel.lowHz) then false
  else if kind = .esc then
    !(catA grant.cbsdCategory && (escCatAHighFreqHz ≤ grant.lowHz || escCatAHighFreqHz ≤ channel.lowHz))
  else true

def sumInterferenceMw (values : List K) : K := (values.map (max 0)).sum

theorem sum_interference_of_nonneg (values : List K) (nonneg : ∀ v ∈ values, 0 ≤ v) :
    sumInterferenceMw values = values.sum := by
  have unchanged : values.map (max 0) = values.map id :=
    List.map_congr_left fun v member => max_eq_right (nonneg v member)
  rw [sumInterferenceMw, unchanged, List.map_id]

end SasCore.Iap
