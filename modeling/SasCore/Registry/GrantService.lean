import SasCore.Registry.CbsdService
import Mathlib.Algebra.Order.Field.Basic

set_option autoImplicit false
set_option linter.unusedSectionVars false

namespace SasCore.Registry

variable {K : Type} [Field K] [LinearOrder K]

def unsupportedSpectrum : Nat := 300
def interference : Nat := 400
def grantConflict : Nat := 401
def cbrsLowHz : Int := 3550000000
def cbrsHighHz : Int := 3700000000
def catAMaxEirp10mhz : K := 30
def catBMaxEirp10mhz : K := 47
def measWithoutGrant : String := "RECEIVED_POWER_WITHOUT_GRANT"

def overlapsHz (aLow aHigh bLow bHigh : Int) : Bool := aLow < bHigh && bLow < aHigh

-- A JSON value that should be a number: missing or null, not convertible, or the number.
inductive RawNumber (α : Type) where
  | absent
  | malformed
  | given (value : α)
deriving DecidableEq, Repr

structure OperationParam (K : Type) where
  maxEirp : RawNumber K
  operationFrequencyRange : Option (RawNumber Int × RawNumber Int)
deriving DecidableEq, Repr

structure GrantRequest (K : Type) where
  cbsdId : String
  operationParam : Option (OperationParam K)
deriving DecidableEq, Repr

structure FrequencyRange where
  low : Int
  high : Int
  ordered : low < high
deriving DecidableEq, Repr

-- The pair lowFrequency, highFrequency of an operationParam, or the response code that rejects it.
def parseFreq (op : OperationParam K) : Except Nat FrequencyRange :=
  match op.operationFrequencyRange with
  | none => .error missingParam
  | some (.absent, _) => .error missingParam
  | some (_, .absent) => .error missingParam
  | some (.malformed, _) => .error invalidParam
  | some (_, .malformed) => .error invalidParam
  | some (.given low, .given high) =>
      if ordered : low < high then
        if low < cbrsLowHz ∨ cbrsHighHz < high then .error unsupportedSpectrum else .ok ⟨low, high, ordered⟩
      else .error invalidParam

def hasFreqConflict (existing : List (Grant K)) (low high : Int) (alsoPending : List FrequencyRange) : Bool :=
  (existing.any fun g => overlapsHz g.lowFrequency g.highFrequency low high) ||
    alsoPending.any fun p => overlapsHz p.low p.high low high

structure ChannelGrant where
  channelType : ChannelType
  palExp : Option Int
  palId : Option String
deriving DecidableEq, Repr

-- What process_grant asks of the protection records, the peers and the catalogues. A failing
-- exclusion-zone or GWPZ lookup raises, which the service takes as a hit.
structure GrantChecks (K : Type) where
  askMeas : Bool
  measError : GrantRequest K → Option Nat
  blacklisted : Cbsd K → Bool
  fccMaxEirp : String → Option K
  resolveChannel : Cbsd K → Int → Int → Except Nat ChannelGrant
  exclusionZone : K → K → Int → Int → Except String Bool
  gwpz : K → K → Int → Int → Except String Bool
  quietZone : K → K → Option String → Int → Int → Bool
  fssGwbl : K → K → Int → Int → Bool
  dpa : Store K → Cbsd K → Int → Int → K → Bool
  canadianBorder : InstallationParam K → K → Int → Int → Bool
  peerHasGrant : Cbsd K → Bool
  iap : Store K → Cbsd K → Int → Int → K → Bool
  txHorizonSec : Cbsd K → Int → Int → Int
  stamp : SyncStamp

-- A request that passed the checks before the location.
structure Proposal (K : Type) where
  range : FrequencyRange
  maxEirp : K
  channel : ChannelGrant
deriving DecidableEq, Repr

structure GrantResponse where
  responseCode : Nat
  cbsdId : Option String
  grantId : Option String
  grantExpireTime : Option Int
  transmitExpireTime : Option Int
  heartbeatInterval : Option Nat
  channelType : Option ChannelType
deriving DecidableEq, Repr

def grantRefused (code : Nat) (cbsdId : Option String) : GrantResponse := ⟨code, cbsdId, none, none, none, none, none⟩

def cbsdLocation (cbsd : Cbsd K) : Option (K × K) :=
  match cbsd.registration.installationParam with
  | some inst =>
      match inst.latitude, inst.longitude with
      | some lat, some lon => some (lat, lon)
      | _, _ => none
  | none => none

def textOr (first : Option String) (second : Option String) : Option String :=
  if first.getD "" = "" then second else first

def maxAllowedEirpMhz (cbsd : Cbsd K) (fccMaxEirp : K) : K :=
  let category := upperOf ((textOr (textOr cbsd.registration.cbsdCategory cbsd.cbsdCategory) (some "A")).getD "")
  let default : K := if category == ['A'] then catAMaxEirp10mhz else catBMaxEirp10mhz
  let caps := min default fccMaxEirp
  match cbsd.registration.installationParam.bind (·.eirpCapability) with
  | some eirpCap => min caps eirpCap - 10
  | none => caps - 10

def raisedOrHit (outcome : Except String Bool) : Bool :=
  match outcome with
  | .ok hit => hit
  | .error _ => true

section Item

variable (checks : GrantChecks K) (certificateHash : Option String)

-- The checks in front of the location, on the copy of the CBSD the session has loaded.
def screenRequest (req : GrantRequest K) (cbsd : Cbsd K) : Except GrantResponse (Proposal K) :=
  if cbsdCertificateMismatch cbsd certificateHash then .error (grantRefused invalidParam none)
  else if checks.blacklisted cbsd then .error (grantRefused blacklistedCode (some req.cbsdId))
  else
    let measured := checks.askMeas && cbsd.registration.measCapability.contains measWithoutGrant
    match if measured then checks.measError req else none with
    | some code => .error (grantRefused code (some req.cbsdId))
    | none =>
        match req.operationParam with
        | none => .error (grantRefused missingParam (some req.cbsdId))
        | some op =>
            if op.maxEirp matches .absent then .error (grantRefused missingParam (some req.cbsdId))
            else
              match parseFreq op with
              | .error code => .error (grantRefused code (some req.cbsdId))
              | .ok range =>
                  match op.maxEirp with
                  | .given maxEirp =>
                      let fccMax := (checks.fccMaxEirp cbsd.fccId).getD catBMaxEirp10mhz
                      if maxAllowedEirpMhz cbsd fccMax < maxEirp then
                        .error (grantRefused invalidParam (some req.cbsdId))
                      else
                        match checks.resolveChannel cbsd range.low range.high with
                        | .error code => .error (grantRefused code (some req.cbsdId))
                        | .ok channel => .ok ⟨range, maxEirp, channel⟩
                  | _ => .error (grantRefused invalidParam (some req.cbsdId))

inductive LocationCheck where
  | exclusionZone | gwpz | quietZone | fssGwbl | dpa | canadianBorder
deriving DecidableEq, Repr

-- Their order in process_grant.
def locationChecks : List LocationCheck := [.exclusionZone, .gwpz, .quietZone, .fssGwbl, .dpa, .canadianBorder]

-- Whether one location-dependent check turns the proposal down. Without a location all but the
-- border check are skipped.
def locationBlocks (store : Store K) (cbsd : Cbsd K) (proposal : Proposal K) : LocationCheck → Bool
  | .exclusionZone =>
      (cbsdLocation cbsd).any fun place => raisedOrHit (checks.exclusionZone place.1 place.2 proposal.range.low proposal.range.high)
  | .gwpz =>
      (cbsdLocation cbsd).any fun place => raisedOrHit (checks.gwpz place.1 place.2 proposal.range.low proposal.range.high)
  | .quietZone =>
      (cbsdLocation cbsd).any fun place => checks.quietZone place.1 place.2
        (textOr cbsd.cbsdCategory cbsd.registration.cbsdCategory) proposal.range.low proposal.range.high
  | .fssGwbl => (cbsdLocation cbsd).any fun place => checks.fssGwbl place.1 place.2 proposal.range.low proposal.range.high
  | .dpa =>
      (cbsdLocation cbsd).any fun _ => checks.dpa store cbsd proposal.range.low proposal.range.high proposal.maxEirp
  | .canadianBorder =>
      cbsd.registration.installationParam.any fun inst =>
        checks.canadianBorder inst proposal.maxEirp proposal.range.low proposal.range.high

def locationAllows (store : Store K) (cbsd : Cbsd K) (proposal : Proposal K) : Bool :=
  locationChecks.all fun check => !locationBlocks checks store cbsd proposal check

def grantExpireTime (palExp : Option Int) (now : Int) : Int :=
  let default := now + defaultGrantDurationSec * second
  match palExp with
  | none => default
  | some exp => min default exp

def newGrant (req : GrantRequest K) (cbsd : Cbsd K) (proposal : Proposal K) (grantId : String) (clock : Clock) : Grant K :=
  let expire := grantExpireTime proposal.channel.palExp (clock 0)
  { id := 0
    grantId := grantId
    cbsdPk := cbsd.id
    cbsdId := req.cbsdId
    channelType := proposal.channel.channelType
    lowFrequency := proposal.range.low
    highFrequency := proposal.range.high
    maxEirp := some proposal.maxEirp
    grantExpireTime := expire
    heartbeatInterval := heartbeatIntervalSec
    transmitExpireTime := some (computeTransmitExpireTime expire (clock 1)
      (checks.txHorizonSec cbsd proposal.range.low proposal.range.high))
    authorized := false
    measReportRequested := false
    terminated := false
    lifecycleState := some .granted
    grantJson := ⟨checks.stamp,
      some ⟨proposal.channel.channelType, proposal.channel.palId, proposal.channel.palExp.map wholeSecond⟩⟩ }

def grantedResponse (grant : Grant K) : GrantResponse :=
  ⟨success, some grant.cbsdId, some grant.grantId, some (wholeSecond grant.grantExpireTime), grant.transmitExpireTime,
    some grant.heartbeatInterval, some grant.channelType⟩

-- The section under the IAP and CBSD locks, up to its commit. `loaded` is what lock_cbsd_row
-- returns to the session, `pending` the ranges granted earlier in the same batch.
def lockedCreate (req : GrantRequest K) (loaded : Option (Cbsd K)) (pending : List FrequencyRange) (proposal : Proposal K)
    (grantId : String) (clock : Clock) (store : Store K) : Store K × GrantResponse :=
  match loaded with
  | none => (store, grantRefused invalidParam none)
  | some cbsd =>
      if cbsdCertificateMismatch cbsd certificateHash then (store, grantRefused invalidParam none)
      else if hasFreqConflict (store.activeGrants req.cbsdId) proposal.range.low proposal.range.high pending then
        (store, grantRefused grantConflict (some req.cbsdId))
      else if checks.peerHasGrant cbsd then (store, grantRefused grantConflict (some req.cbsdId))
      else if checks.iap store cbsd proposal.range.low proposal.range.high proposal.maxEirp then
        (store, grantRefused interference (some req.cbsdId))
      else
        let grant := newGrant checks req cbsd proposal grantId clock
        (store.addGrant grant, grantedResponse grant)

theorem locked_create_cases (req : GrantRequest K) (loaded : Option (Cbsd K)) (pending : List FrequencyRange)
    (proposal : Proposal K) (grantId : String) (clock : Clock) (store : Store K) :
    (lockedCreate checks certificateHash req loaded pending proposal grantId clock store).1 = store ∨
      ∃ cbsd, loaded = some cbsd ∧
        hasFreqConflict (store.activeGrants req.cbsdId) proposal.range.low proposal.range.high pending = false ∧
        (lockedCreate checks certificateHash req loaded pending proposal grantId clock store).1 =
          store.addGrant (newGrant checks req cbsd proposal grantId clock) := by
  cases loaded with
  | none => exact Or.inl rfl
  | some cbsd =>
      simp only [lockedCreate]
      split
      · exact Or.inl rfl
      · split
        · exact Or.inl rfl
        · rename_i noConflict
          split
          · exact Or.inl rfl
          · split
            · exact Or.inl rfl
            · exact Or.inr ⟨cbsd, rfl, Bool.eq_false_of_not_eq_true noConflict, rfl⟩

-- What the conflict check leaves: no live grant of the CBSD meets the range.
theorem no_conflict_apart (store : Store K) (cbsdId : String) (low high : Int) (pending : List FrequencyRange)
    (noConflict : hasFreqConflict (store.activeGrants cbsdId) low high pending = false) (grant : Grant K)
    (member : grant ∈ store.grants) (sameCbsd : grant.cbsdId = cbsdId) (live : grant.terminated = false) :
    overlapsHz grant.lowFrequency grant.highFrequency low high = false := by
  have active : grant ∈ store.activeGrants cbsdId := by
    refine List.mem_filter.mpr ⟨member, ?_⟩
    simp only [live, Bool.not_false, Bool.and_true, decide_eq_true_eq]
    exact sameCbsd
  rw [hasFreqConflict, Bool.or_eq_false_iff] at noConflict
  exact Bool.eq_false_of_not_eq_true (List.any_eq_false.mp noConflict.1 grant active)

-- One item of process_grant when no other session interferes.
def grantItem (req : GrantRequest K) (pending : List FrequencyRange) (grantId : String) (clock : Clock)
    (store : Store K) : Store K × GrantResponse :=
  if req.cbsdId = "" then (store, grantRefused missingParam none)
  else
    match store.findCbsd req.cbsdId with
    | none => (store, grantRefused invalidParam none)
    | some cbsd =>
        match screenRequest checks certificateHash req cbsd with
        | .error response => (store, response)
        | .ok proposal =>
            if locationAllows checks store cbsd proposal then
              lockedCreate checks certificateHash req (store.findCbsd req.cbsdId) pending proposal grantId clock store
            else (store, grantRefused interference (some req.cbsdId))

end Item

end SasCore.Registry
