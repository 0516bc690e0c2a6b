import SasCore.Federal.FssGwbl
import SasCore.Lib.Query
import SasCore.Registry.GrantService

set_option autoImplicit false

namespace SasCore.Federal

open Injection Registry

variable {K : Type} [Field K] [LinearOrder K]

def fssProtectionM : K := (150000 : Nat)
def exzBufferM : K := (50 : Nat)
def fssGwblLowHz : Int := 3650000000
def fssGwblHighHz : Int := 3700000000
def scheduledLowHz : Int := 3500000000
def scheduledHighHz : Int := 3700000000

-- Why an exclusion-zone check raises: the two errors that its callers catch, or another one.
inductive ZoneFault where
  | exclusionZone | other
deriving DecidableEq, Repr

-- The distance of two points in metres, whether a point is in a zone or within a distance of it, and the NTIA zones
-- that count beside the federal ones.
structure GeometryEnv (K : Type) where
  haversineM : K → K → K → K → K
  withinGeojsonBufferM : K → K → Json K → K → Bool
  ntiaZones : Except ZoneFault (List (Json K))

-- What the checks read, one query at a time.
inductive Reading where
  | syncMeta | exclusionZones | fss | gwbl
deriving DecidableEq, Repr

abbrev View (K : Type) : Reading → Type
  | .syncMeta => SyncStamp
  | _ => List (Json K)

-- Rows whose text is no JSON are skipped.
def loadKind (kind : Kind) (tables : Tables K) : List (Json K) := (tables.records kind).all.filterMap id

def look (tables : Tables K) : (reading : Reading) → View K reading
  | .syncMeta => getSyncMeta tables
  | .exclusionZones => loadKind .exclusionZone tables
  | .fss => loadKind .fss tables
  | .gwbl => loadKind .gwbl tables

abbrev Check (K α : Type) := Query (View K) α

section ExclusionZones

variable (env : FeedEnv K) (geometry : GeometryEnv K)

-- `none` where the ranges are nothing to loop through.
def freqRanges (record : Json K) : Option (List (Int × Int)) :=
  (record.field "frequencyRanges").iterated.map fun ranges => ranges.filterMap fun range =>
    match (range.field "lowFrequency").toInt env.readers, (range.field "highFrequency").toInt env.readers with
    | some low, some high => some (low, high)
    | _, _ => none

def pointHitsExclusionRecords (lat lon : K) (low high : Int) : List (Json K) → Except ZoneFault Bool
  | [] => .ok false
  | record :: rest =>
      if !record.isObject then pointHitsExclusionRecords lat lon low high rest
      else if !(record.field "zone").isObject || !env.geometryUsable (record.field "zone") then .error .exclusionZone
      else if !geometry.withinGeojsonBufferM lat lon (record.field "zone") exzBufferM then
        pointHitsExclusionRecords lat lon low high rest
      else
        match freqRanges env record with
        | none => .error .other
        | some ranges =>
            if ranges.isEmpty || ranges.any fun range => overlapsHz low high range.1 range.2 then .ok true
            else pointHitsExclusionRecords lat lon low high rest

-- An error of the zones themselves counts as a hit.
def zonesHit (lat lon : K) (low high : Int) (zones : List (Json K)) : Except String Bool :=
  match geometry.ntiaZones with
  | .error .exclusionZone => .ok true
  | .error .other => .error "ntia"
  | .ok ntia =>
      match pointHitsExclusionRecords env geometry lat lon low high (zones ++ ntia) with
      | .ok hits => .ok hits
      | .error .exclusionZone => .ok true
      | .error .other => .error "TypeError"

end ExclusionZones

section Stations

variable (env : FeedEnv K) (geometry : GeometryEnv K)

def stationNear (lat lon : K) (station : StationSite K) : Bool :=
  geometry.haversineM lat lon station.latitude station.longitude ≤ fssProtectionM

-- The near sites, with what is read of each of them.
def fssSitesNear (lat lon : K) : List (Json K) → Except String (List (StationSite K))
  | [] => .ok []
  | fss :: rest =>
      match fssLocationAndFreq env fss with
      | none => .error "fss"
      | some none => fssSitesNear lat lon rest
      | some (some station) =>
          (fssSitesNear lat lon rest).map fun near => if stationNear geometry lat lon station then station :: near else near

def fssHasNeighboringGwbl (station : StationSite K) (points : List (Json K)) : Bool :=
  points.any fun point =>
    match (point.field "latitude").toFloat env.readers, (point.field "longitude").toFloat env.readers with
    | some latitude, some longitude =>
        geometry.haversineM station.latitude station.longitude latitude longitude ≤ fssProtectionM
    | _, _ => false

-- The loop over the near sites, with a query of its own for each.
def anyNeighboringGwbl (counts : Bool) : List (StationSite K) → Check K Bool
  | [] => .done false
  | station :: rest =>
      .ask .gwbl fun points =>
        if fssHasNeighboringGwbl env geometry station points && counts then .done true else anyNeighboringGwbl counts rest

def grantBlockedByFssGwbl (lat lon : K) (low high : Int) : Check K (Except String Bool) :=
  if !overlapsHz low high fssGwblLowHz fssGwblHighHz then .done (.ok false)
  else
    .ask .gwbl fun points =>
      if points.isEmpty then .done (.ok false)
      else
        .ask .fss fun sites =>
          match fssSitesNear env geometry lat lon sites with
          | .error error => .done (.error error)
          | .ok near => (anyNeighboringGwbl env geometry true near).map .ok

-- The federal checks of process_grant, and whether they refuse the request.
def grantFederalChecks (cbsd : Cbsd K) (low high : Int) : Check K (Except String Bool) :=
  match cbsdLocation cbsd with
  | none => .done (.ok false)
  | some (lat, lon) =>
      .ask .exclusionZones fun zones =>
        match zonesHit env geometry lat lon low high zones with
        | .error error => .done (.error error)
        | .ok true => .done (.ok true)
        | .ok false => grantBlockedByFssGwbl env geometry lat lon low high

end Stations

section Heartbeat

variable (env : FeedEnv K) (geometry : GeometryEnv K)

def codeOf (older : Bool) : Nat := if older then 500 else 501

def exclusionZoneCode (lat lon : K) (grant : Grant K) (current : SyncStamp) : Check K (Except String (Option Nat)) :=
  if current.exz = 0 then .done (.ok none)
  else
    .ask .exclusionZones fun zones =>
      .done ((zonesHit env geometry lat lon grant.lowFrequency grant.highFrequency zones).map fun hits =>
        if hits then some (codeOf (grant.grantJson.stamp.exz < current.exz)) else none)

def protects (grant : Grant K) (near : List (StationSite K)) : Bool :=
  near.any fun station => overlapsHz grant.lowFrequency grant.highFrequency fssGwblLowHz fssGwblHighHz ||
    overlapsHz grant.lowFrequency grant.highFrequency station.lowFrequency station.highFrequency

def stationCode (grant : Grant K) (current : SyncStamp) (near : List (StationSite K)) : Check K (Option Nat) :=
  let stamp := grant.grantJson.stamp
  let combined : Check K Bool :=
    if 0 < current.gwbl then anyNeighboringGwbl env geometry (max stamp.fss stamp.gwbl < max current.fss current.gwbl) near
    else .done false
  combined.map fun terminated => some (if terminated then 500 else codeOf (stamp.fss < current.fss))

def nearbyCode (lat lon : K) (grant : Grant K) (current : SyncStamp) (sites : List (Json K)) : Check K (Except String (Option Nat)) :=
  match fssSitesNear env geometry lat lon sites with
  | .error error => .done (.error error)
  | .ok near => if protects grant near then (stationCode env geometry grant current near).map .ok else .done (.ok none)

-- The scheduled DPAs, and then the FSS sites.
def pastZonesCode (lat lon : K) (grant : Grant K) (current : SyncStamp) : Check K (Except String (Option Nat)) :=
  if 0 < current.dpa ∧ overlapsHz grant.lowFrequency grant.highFrequency scheduledLowHz scheduledHighHz then
    .done (.ok (some (codeOf (grant.grantJson.stamp.dpa < current.dpa))))
  else .ask .fss (nearbyCode env geometry lat lon grant current)

def heartbeatFederalCode (cbsd : Option (Cbsd K)) (grant : Grant K) : Check K (Except String (Option Nat)) :=
  match cbsd.bind cbsdLocation with
  | none => .done (.ok none)
  | some (lat, lon) =>
      .ask .syncMeta fun current =>
        (exclusionZoneCode env geometry lat lon grant current).andThen fun
          | some code => .done (.ok (some code))
          | none => pastZonesCode env geometry lat lon grant current

end Heartbeat

end SasCore.Federal
