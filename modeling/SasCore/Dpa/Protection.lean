import SasCore.Iap.Aggregate
import SasCore.Registry.GrantService

set_option autoImplicit false

namespace SasCore.Dpa

open Registry

variable {K : Type} [Field K] [LinearOrder K]

-- GeoJSON positions are [longitude, latitude, ...].
inductive Geometry (K : Type) where
  | point (position : List K)
  | polygon (rings : List (List (List K)))
  | multiPolygon (polygons : List (List (List (List K))))
  | other
deriving Repr

inductive ProtectionReason where
  | active | escDisconnected | escAbsent | alwaysOn
deriving DecidableEq, Repr

structure ProtectedDpaChannel (K : Type) where
  dpaId : String
  lowHz : Int
  highHz : Int
  reason : ProtectionReason
  geometry : Option (Geometry K)
  neighborhoodKm : List (String × K)
  thresholdDbmPer10mhz : K
  refHeightM : K
deriving Repr

inductive Category where
  | a | b
deriving DecidableEq, Repr

structure DpaGrantRf (K : Type) where
  grantId : String
  cbsdId : String
  latitude : K
  longitude : K
  heightM : K
  heightIsAgl : Bool
  indoor : Bool
  lowHz : Int
  highHz : Int
  maxEirpDbmMhz : K
  isManagingSas : Bool := true
  cbsdCategory : Category := .a
deriving DecidableEq, Repr

structure PointInterference (K : Type) where
  grantId : String
  interferenceDbm : K
  interferenceMw : K
  pathLossDb : K
deriving DecidableEq, Repr

-- What the evaluation takes from outside: math.log10, 10 ** x, the distance test of the geometry
-- helpers, the terrain and the path loss toward a point. The last two give `none` where they raise.
structure DpaBackends (K : Type) where
  log10 : K → K
  pow10 : K → K
  withinBuffer : K → K → Geometry K → K → Bool
  elevation : K → K → Option K
  pathLoss : DpaGrantRf K → K → K → K → Option K

inductive AggregateDbm (K : Type) where
  | negInf
  | dbm (value : K)
  | posInf
deriving DecidableEq, Repr

def defaultDpaMarginDb : K := 0
def decibelsPerBel : K := (10 : Nat)
def comparisonSlackDb : K := 1 / 1000000000000

def ringCentre (ring : List (List K)) : Option (K × K) :=
  if ring.length < 3 then none
  else
    let openRing := if ring.head? = ring.getLast? then ring.dropLast else ring
    let places := openRing.filterMap fun position =>
      match position with
      | lon :: lat :: _ => some (lat, lon)
      | _ => none
    if places.isEmpty then none
    else some ((places.map (·.1)).sum / places.length, (places.map (·.2)).sum / places.length)

def polygonRepresentativePoint : Geometry K → Option (K × K)
  | .point (lon :: lat :: _) => some (lat, lon)
  | .polygon (ring :: _) => ringCentre ring
  | .multiPolygon ((ring :: _) :: _) => ringCentre ring
  | _ => none

def overlapsChannel (lowHz highHz : Int) (channel : ProtectedDpaChannel K) : Bool :=
  lowHz < channel.highHz && highHz > channel.lowHz

section Evaluation

variable (backends : DpaBackends K)

def dbmToMw (dbm : K) : K := backends.pow10 (dbm / decibelsPerBel)

def mwToDbm (mw : K) : AggregateDbm K := if mw ≤ 0 then .negInf else .dbm (decibelsPerBel * backends.log10 mw)

-- `none` is minus infinity.
def cochannelEirpDbm (grant : DpaGrantRf K) (lowHz highHz : Int) : Option K :=
  let overlapHz := max 0 (min grant.highHz highHz - max grant.lowHz lowHz)
  if overlapHz ≤ 0 then none else some (grant.maxEirpDbmMhz + decibelsPerBel * backends.log10 (overlapHz / 1000000))

def interferenceDbmAtPoint (grant : DpaGrantRf K) (latRx lonRx heightRxM : K) (lowHz highHz : Int) :
    Option (Option (PointInterference K)) :=
  if grant.lowHz ≥ highHz ∨ grant.highHz ≤ lowHz then some none
  else
    match backends.pathLoss grant latRx lonRx heightRxM with
    | none => none
    | some pathLossDb =>
        match cochannelEirpDbm backends grant lowHz highHz with
        | none => some none
        | some eirp =>
            let interDbm := eirp - pathLossDb
            some (some ⟨grant.grantId, interDbm, dbmToMw backends interDbm, pathLossDb⟩)

def AggregateDbm.within (level : AggregateDbm K) (limit : K) : Bool :=
  match level with
  | .negInf => true
  | .dbm value => value ≤ limit
  | .posInf => false

def aggregateWithinThreshold (contributions : List (PointInterference K)) (thresholdDbm marginDb : K) :
    AggregateDbm K × Bool :=
  let totalMw := Iap.sumInterferenceMw (contributions.map (·.interferenceMw))
  let aggDbm := if 0 < totalMw then mwToDbm backends totalMw else .negInf
  (aggDbm, aggDbm.within (thresholdDbm + marginDb + comparisonSlackDb))

def moveUntilWithin (thresholdDbm marginDb : K) : List (PointInterference K) → List String
  | [] => []
  | victim :: rest =>
      if (aggregateWithinThreshold backends (victim :: rest) thresholdDbm marginDb).2 then []
      else victim.grantId :: moveUntilWithin thresholdDbm marginDb rest

def buildMovelist (contributions : List (PointInterference K)) (thresholdDbm marginDb : K) : List String :=
  moveUntilWithin backends thresholdDbm marginDb
    (contributions.mergeSort fun a b => decide (b.interferenceMw ≤ a.interferenceMw))

structure ChannelEvaluation (K : Type) where
  contributions : List (PointInterference K)
  movelist : List String
  aggDbm : AggregateDbm K
  ok : Bool
deriving DecidableEq, Repr

def overThreshold (overlapping : List (DpaGrantRf K)) : ChannelEvaluation K :=
  ⟨[], overlapping.map (·.grantId), .posInf, false⟩

def evaluateProtectedChannel (channel : ProtectedDpaChannel K) (grants : List (DpaGrantRf K)) (marginDb : K) :
    ChannelEvaluation K :=
  let overlapping := grants.filter fun g => overlapsChannel g.lowHz g.highHz channel
  match channel.geometry.bind polygonRepresentativePoint with
  | none => overThreshold overlapping
  | some (latRx, lonRx) =>
      match overlapping.mapM fun g =>
          interferenceDbmAtPoint backends g latRx lonRx channel.refHeightM channel.lowHz channel.highHz with
      | none => overThreshold overlapping
      | some hits =>
          let contribs := hits.filterMap id
          let aggregate := aggregateWithinThreshold backends contribs channel.thresholdDbmPer10mhz marginDb
          ⟨contribs, buildMovelist backends contribs channel.thresholdDbmPer10mhz marginDb, aggregate.1, aggregate.2⟩

end Evaluation

def normalizedCategory (text : Option String) : Category :=
  if upperOf (text.getD "A") = ['B'] then .b else .a

def heightTypeOf (inst : InstallationParam K) : String := (textOr inst.heightType (some "AGL")).getD ""

def neighborhoodRadiusKm (table : List (String × K)) (category : Category) (indoor : Bool) (heightAglM : K) : Option K :=
  let keys :=
    match category, indoor with
    | .b, _ => ("catB_6m_NeighborhoodDistanceKm", "catBNeighborhoodDistanceKm")
    | .a, true => ("catA_Indoor_6m_NeighborhoodDistanceKm", "catA_Indoor_NeighborhoodDistanceKm")
    | .a, false => ("catA_Outdoor_6m_NeighborhoodDistanceKm", "catA_Outdoor_NeighborhoodDistanceKm")
  let preferred := if heightAglM ≤ 6 then [keys.1, keys.2] else [keys.2, keys.1]
  preferred.findSome? (table.lookup ·)

def bufferM (radiusKm : Option K) : K :=
  match radiusKm with
  | none => 0
  | some km => km * 1000

def resolveHeightAglM (elevation : K → K → Option K) (lat lon heightM : K) (heightType : String) : Option K :=
  if PyText.stripUpper heightType = ['A', 'G', 'L'] then some heightM
  else if PyText.stripUpper heightType = ['A', 'M', 'S', 'L'] then (elevation lat lon).map (heightM - ·)
  else none

-- latitude, longitude and height of the installation, where they are numbers.
def installedAt (cbsd : Cbsd K) : Option (InstallationParam K × K × K × K) :=
  match cbsd.registration.installationParam with
  | some inst =>
      match inst.latitude, inst.longitude with
      | some lat, some lon => some (inst, lat, lon, inst.height.getD 0)
      | _, _ => none
  | none => none

section Neighborhood

variable (backends : DpaBackends K)

-- `none` when height or geometry is indeterminate.
def cbsdInsideProtectedNeighborhood (cbsd : Cbsd K) (channel : ProtectedDpaChannel K) : Option Bool :=
  match channel.geometry, installedAt cbsd with
  | some geometry, some (inst, lat, lon, height) =>
      (resolveHeightAglM backends.elevation lat lon height (heightTypeOf inst)).map fun heightAgl =>
        let category := normalizedCategory
          (textOr (textOr cbsd.registration.cbsdCategory cbsd.cbsdCategory) (textOr inst.cbsdCategory (some "A")))
        backends.withinBuffer lat lon geometry
          (bufferM (neighborhoodRadiusKm channel.neighborhoodKm category (inst.indoorDeployment.getD false) heightAgl))
  | _, _ => none

def rfInsideProtectedNeighborhood (grant : DpaGrantRf K) (channel : ProtectedDpaChannel K) : Option Bool :=
  channel.geometry.map fun geometry =>
    backends.withinBuffer grant.latitude grant.longitude geometry
      (bufferM (neighborhoodRadiusKm channel.neighborhoodKm grant.cbsdCategory grant.indoor grant.heightM))

def filterGrantsInNeighborhood (channel : ProtectedDpaChannel K) (grants : List (DpaGrantRf K)) : List (DpaGrantRf K) :=
  grants.filter fun grant => rfInsideProtectedNeighborhood backends grant channel != some false

end Neighborhood

def dpaGrantRfFromCbsdGrant (cbsd : Cbsd K) (grant : Grant K) : Option (DpaGrantRf K) :=
  (installedAt cbsd).map fun (inst, lat, lon, height) =>
    { grantId := grant.grantId
      cbsdId := cbsd.cbsdId
      latitude := lat
      longitude := lon
      heightM := height
      heightIsAgl := upperOf (heightTypeOf inst) != ['A', 'M', 'S', 'L']
      indoor := inst.indoorDeployment.getD false
      lowHz := grant.lowFrequency
      highHz := grant.highFrequency
      maxEirpDbmMhz := grant.maxEirp.getD 0
      cbsdCategory := normalizedCategory (textOr cbsd.registration.cbsdCategory cbsd.cbsdCategory) }

-- The live scan: no frozen primary keys, nothing excluded.
def countsForDpa (grant : Grant K) : Bool :=
  !grant.terminated && grant.lifecycleState != some .relinquished && grant.lifecycleState != some .expired

def rowRf (store : Store K) (grant : Grant K) : Option (DpaGrantRf K) :=
  if countsForDpa grant then (store.findCbsd grant.cbsdId).bind (dpaGrantRfFromCbsdGrant · grant) else none

def collectActiveDpaGrants (store : Store K) : List (DpaGrantRf K) := store.grants.filterMap (rowRf store)

def proposedRf (cbsd : Cbsd K) (lowHz highHz : Int) (maxEirp : K) : Option (DpaGrantRf K) :=
  (installedAt cbsd).map fun (inst, lat, lon, height) =>
    { grantId := "__proposed__"
      cbsdId := cbsd.cbsdId
      latitude := lat
      longitude := lon
      heightM := height
      heightIsAgl := upperOf (heightTypeOf inst) != ['A', 'M', 'S', 'L']
      indoor := inst.indoorDeployment.getD false
      lowHz := lowHz
      highHz := highHz
      maxEirpDbmMhz := maxEirp }

section Proposal

variable (backends : DpaBackends K) (channels : List (ProtectedDpaChannel K))

def channelViolated (existing : List (DpaGrantRf K)) (cbsd : Cbsd K) (proposed : DpaGrantRf K)
    (channel : ProtectedDpaChannel K) : Bool :=
  match cbsdInsideProtectedNeighborhood backends cbsd channel with
  | some false => false
  | none => true
  | some true =>
      let neighborhood := (filterGrantsInNeighborhood backends channel existing).filter fun g =>
        !(g.cbsdId == proposed.cbsdId && (g.lowHz < proposed.highHz && g.highHz > proposed.lowHz))
      !(evaluateProtectedChannel backends channel (neighborhood ++ [proposed]) defaultDpaMarginDb).ok

def proposedGrantViolatesDpa (store : Store K) (cbsd : Cbsd K) (lowHz highHz : Int) (maxEirp : K) : Bool :=
  let overlapped := channels.filter (overlapsChannel lowHz highHz)
  if overlapped.isEmpty then false
  else
    match proposedRf cbsd lowHz highHz maxEirp with
    | none => true
    | some proposed => overlapped.any (channelViolated backends (collectActiveDpaGrants store) cbsd proposed)

-- Whether the active grants around a channel keep to its threshold plus the margin.
def channelWithin (store : Store K) (channel : ProtectedDpaChannel K) : Bool :=
  (evaluateProtectedChannel backends channel
    (filterGrantsInNeighborhood backends channel (collectActiveDpaGrants store)) defaultDpaMarginDb).ok

def AllWithin (store : Store K) : Prop := ∀ channel ∈ channels, channelWithin backends store channel = true

instance (store : Store K) : Decidable (AllWithin backends channels store) := List.decidableBAll _ _

end Proposal

end SasCore.Dpa
