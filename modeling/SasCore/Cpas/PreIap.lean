import SasCore.Iap.ProtectionPoints
import SasCore.Cpas.PeerPopulation

set_option autoImplicit false

namespace SasCore.Cpas

variable {K : Type} [Field K] [LinearOrder K]

-- An exception out of a stage: of the class that the evaluation turns into its own error, or of another.
inductive StageFault where
  | entity (message : String)
  | raised (name : String)
deriving DecidableEq, Repr

-- Distances and GeoJSON predicates, the FCC field offices or why their data set cannot be used, and repr of a value.
structure Geography (K : Type) where
  haversineM : K → K → K → K → K
  haversineKm : K → K → K → K → K
  withinGeojsonBufferM : K → K → Json K → K → Bool
  geojsonGeometryUsable : Json K → Bool
  pointInGeojson : K → K → Json K → Bool
  fccOffices : Except String (List (K × K))
  repr : Json K → String

-- The quiet-zone rows: the first configuration row, and the protected areas.
structure QuietZoneTables where
  config : Option String
  areas : List String
deriving DecidableEq, Repr

def freqOverlap (aLow aHigh bLow bHigh : Int) : Bool := aLow < bHigh && aHigh > bLow

section QuietZone

variable (readers : PyReaders K) (geo : Geography K)

def ratio (num den : Nat) : K := (num : K) / (den : K)

-- Degrees, minutes and tenths of a second.
def degrees (whole minutes tenths : Nat) : K := (whole : K) + ratio minutes 60 + ratio tenths 36000

def nrqzNorth : K := degrees 39 15 4
def nrqzSouth : K := degrees 37 30 4
def nrqzEast : K := -degrees 78 29 590
def nrqzWest : K := -degrees 80 29 592

def inNraoNrroQuietZone (lat lon : K) : Bool :=
  decide (nrqzSouth ≤ lat) && decide (lat ≤ nrqzNorth) && (decide (nrqzWest ≤ lon) && decide (lon ≤ nrqzEast))

structure QprConfig where
  tableMountainEnabled : Bool
  fccOfficesEnabled : Bool
  configurableAreasEnabled : Bool
deriving DecidableEq, Repr

def defaultQprConfig : QprConfig := ⟨true, true, true⟩

def enabledIn (data : Json K) (key : String) : Bool := if data.has key then (data.field key).truthy else true

def qprConfig (quiet : QuietZoneTables) : QprConfig :=
  match quiet.config.bind (loadRecord readers) with
  | none => defaultQprConfig
  | some data =>
      ⟨enabledIn data "tableMountainEnabled", enabledIn data "fccOfficesEnabled", enabledIn data "configurableAreasEnabled"⟩

def configurableAreas (quiet : QuietZoneTables) : List (Json K) := quiet.areas.filterMap (loadRecord readers)

def fccOfficeRadiusKm : Dpa.Category → K
  | .a => ratio 24 10
  | .b => ratio 48 10

def nearFccFieldOffice (offices : List (K × K)) (lat lon : K) (category : Dpa.Category) : Bool :=
  offices.any fun office => geo.haversineKm lat lon office.1 office.2 ≤ fccOfficeRadiusKm category

def tableMountainLat : K := ratio 40130660 1000000
def tableMountainLon : K := -ratio 105244596 1000000

-- Without a bandwidth the distance is that of the widest class.
def tableMountainCoordinationKm (category : Dpa.Category) (bandwidthMhz : Option K) : K :=
  match category, bandwidthMhz with
  | .a, _ => ratio 38 10
  | .b, none => (80 : Nat)
  | .b, some bw =>
      if bw ≤ (10 : Nat) then (38 : Nat) else if bw ≤ (20 : Nat) then (54 : Nat)
      else if bw ≤ (30 : Nat) then (64 : Nat) else (80 : Nat)

def nearTableMountain (lat lon : K) (category : Dpa.Category) (bandwidthMhz : Option K) : Bool :=
  geo.haversineKm lat lon tableMountainLat tableMountainLon ≤ tableMountainCoordinationKm category bandwidthMhz

-- The point and radius form of an area; a falsy radius under the first name gives way to the second.
def nearAreaCentre (lat lon : K) (area : Json K) : Bool :=
  let radius :=
    if (area.field "radiusKm").truthy then (area.field "radiusKm").toFloat readers
    else if (area.field "radius_km").truthy then (area.field "radius_km").toFloat readers
    else some 0
  match (area.field "latitude").toFloat readers, (area.field "longitude").toFloat readers, radius with
  | some areaLat, some areaLon, some rad => decide (0 < rad) && decide (geo.haversineKm lat lon areaLat areaLon ≤ rad)
  | _, _, _ => false

def areaZone (area : Json K) : Json K :=
  if (area.field "zone").truthy then area.field "zone"
  else if (area.field "geometry").truthy then area.field "geometry"
  else area

def inConfigurableArea (lat lon : K) (areas : List (Json K)) : Bool :=
  areas.any fun area =>
    ((areaZone area).isObject && geo.pointInGeojson lat lon (areaZone area)) || nearAreaCentre readers geo lat lon area

def quietZoneBlocksLocation (quiet : QuietZoneTables) (lat lon : K) (category : Dpa.Category) (bandwidthMhz : Option K) :
    Except StageFault (Option String) :=
  let config := qprConfig readers quiet
  let later :=
    if config.tableMountainEnabled && nearTableMountain geo lat lon category bandwidthMhz then some "table_mountain"
    else if config.configurableAreasEnabled && inConfigurableArea readers geo lat lon (configurableAreas readers quiet) then
      some "configurable_protected_area"
    else none
  if inNraoNrroQuietZone lat lon then .ok (some "nrqz")
  else if config.fccOfficesEnabled then
    match geo.fccOffices with
    | .error reason => .error (.entity ("quiet-zone evaluation failed: " ++ reason))
    | .ok offices => .ok (if nearFccFieldOffice geo offices lat lon category then some "fcc_field_office" else later)
  else .ok later

end QuietZone

section Rules

variable (readers : PyReaders K) (geo : Geography K)

def payloadsOf (rows : List String) : List (Json K) := rows.filterMap (loadRecord readers)

def exzBufferM : K := (50 : Nat)

def exclusionFreqRanges (record : Json K) : Option (List (Int × Int)) :=
  ((record.field "frequencyRanges").iterated).map fun ranges =>
    ranges.filterMap fun range =>
      match (range.field "lowFrequency").toInt readers, (range.field "highFrequency").toInt readers with
      | some low, some high => if range.isObject then some (low, high) else none
      | _, _ => none

-- One record of the loop: whether the point hits it.
def hitsExclusionRecord (lat lon : K) (lowHz highHz : Int) (record : Json K) : Except StageFault Bool :=
  let zone := record.field "zone"
  if !zone.isObject then .error (.entity "EXZ evaluation failed: EXZ missing zone geometry")
  else if !geo.geojsonGeometryUsable zone then .error (.entity "EXZ evaluation failed: EXZ geometry empty or invalid")
  else if !geo.withinGeojsonBufferM lat lon zone exzBufferM then .ok false
  else
    match exclusionFreqRanges readers record with
    | none => .error (.raised "TypeError")
    | some ranges => .ok (ranges.isEmpty || ranges.any fun range => freqOverlap lowHz highHz range.1 range.2)

def pointHitsExclusionRecords (lat lon : K) (lowHz highHz : Int) : List (Json K) → Except StageFault Bool
  | [] => .ok false
  | record :: rest =>
      match hitsExclusionRecord readers geo lat lon lowHz highHz record with
      | .error fault => .error fault
      | .ok true => .ok true
      | .ok false => pointHitsExclusionRecords lat lon lowHz highHz rest

def firstDeployment (record : Json K) : Option (Json K) := (record.field "deploymentParam").items.head?.filter (·.isObject)

-- (deps[0].get("operationParam") or {}).get("operationFrequencyRange"), `none` where the first get fails.
def deploymentRange (deployment : Json K) : Option (Json K) :=
  ((deployment.field "operationParam").orEmpty).map (·.field "operationFrequencyRange")

def parseGwpzZoneAndFreq (payload : Json K) : Option (Option (Json K × Int × Int)) :=
  match payload.dictField "zone", (payload.dictField "record").bind firstDeployment with
  | some zone, some deployment =>
      (deploymentRange deployment).map fun range =>
        ((range.field "lowFrequency").toInt readers).bind fun low =>
          ((range.field "highFrequency").toInt readers).bind fun high => if high ≤ low then none else some (zone, low, high)
  | _, _ => some none

-- Whether the record is evaluable and blocks.
def gwpzBlocks (lat lon : K) (lowHz highHz : Int) (payload : Json K) : Except StageFault Bool :=
  match parseGwpzZoneAndFreq readers payload with
  | none => .error (.raised "AttributeError")
  | some none => .ok false
  | some (some (zone, low, high)) =>
      .ok (geo.geojsonGeometryUsable zone && (freqOverlap lowHz highHz low high && geo.withinGeojsonBufferM lat lon zone 0))

def anyGwpzBlocks (lat lon : K) (lowHz highHz : Int) : List (Json K) → Except StageFault Bool
  | [] => .ok false
  | wisp :: rest =>
      match gwpzBlocks readers geo lat lon lowHz highHz wisp with
      | .error fault => .error fault
      | .ok true => .ok true
      | .ok false => anyGwpzBlocks lat lon lowHz highHz rest

def fssLatLonFreq (payload : Json K) : Option (Option (K × K × Int × Int)) :=
  match firstDeployment (Iap.zoneRecord payload) with
  | none => some none
  | some deployment =>
      (deploymentRange deployment).map fun range =>
        let inst := deployment.field "installationParam"
        ((inst.field "latitude").toFloat readers).bind fun lat =>
          ((inst.field "longitude").toFloat readers).bind fun lon =>
            ((range.field "lowFrequency").toInt readers).bind fun low =>
              ((range.field "highFrequency").toInt readers).map fun high => (lat, lon, low, high)

def gwblPoints (payloads : List (Json K)) : List (K × K) :=
  payloads.filterMap fun record =>
    ((record.field "latitude").toFloat readers).bind fun lat =>
      ((record.field "longitude").toFloat readers).map fun lon => (lat, lon)

def fssGwblLowHz : Int := 3650000000
def fssGwblHighHz : Int := 3700000000
def fssGwblM : K := (150000 : Nat)
def fssTtcPurgeM : K := (40000 : Nat)
def fssTtcLowHz : Int := 3700000000

def anyFssGwbl (lat lon : K) (gwbles : List (K × K)) : List (Json K) → Except StageFault Bool
  | [] => .ok false
  | fss :: rest =>
      match fssLatLonFreq readers fss with
      | none => .error (.raised "AttributeError")
      | some none => anyFssGwbl lat lon gwbles rest
      | some (some (fssLat, fssLon, _, _)) =>
          if fssGwblM < geo.haversineM lat lon fssLat fssLon then anyFssGwbl lat lon gwbles rest
          else if gwbles.any fun place => geo.haversineM fssLat fssLon place.1 place.2 ≤ fssGwblM then .ok true
          else anyFssGwbl lat lon gwbles rest

-- The ttc field: absent, a flag, or a fault for anything that is no flag.
def parseFssTtc (payload : Json K) : Except StageFault (Option Bool) :=
  if !payload.has "ttc" then .ok none
  else
    let raw := payload.field "ttc"
    let invalid := .error (.entity ("invalid FSS ttc value: " ++ geo.repr raw))
    match raw with
    | .bool value => .ok (some value)
    | .int value => .ok (some (value != 0))
    | .float value => .ok (some (value != 0))
    | .text value =>
        let text := PyText.stripUpper value
        if text ∈ ["TRUE", "1", "YES", "ON"].map String.toList then .ok (some true)
        else if text ∈ ["FALSE", "0", "NO", "OFF"].map String.toList then .ok (some false)
        else invalid
    | _ => invalid

def anyFssTtcPurge (lat lon : K) : List (Json K) → Except StageFault Bool
  | [] => .ok false
  | fss :: rest =>
      match parseFssTtc geo fss with
      | .error fault => .error fault
      | .ok ttc =>
          match fssLatLonFreq readers fss with
          | none => .error (.raised "AttributeError")
          | some none => anyFssTtcPurge lat lon rest
          | some (some (fssLat, fssLon, _, fssHigh)) =>
              if ttc = some true && decide (fssTtcLowHz < fssHigh) && decide (geo.haversineM lat lon fssLat fssLon ≤ fssTtcPurgeM) then
                .ok true
              else anyFssTtcPurge lat lon rest

end Rules

section Exclusions

variable (readers : PyReaders K) (geo : Geography K) (tables : ProtectionTables) (quiet : QuietZoneTables)

def reasonWhen (reason : String) (hit : Except StageFault Bool) : Except StageFault (Option String) :=
  hit.map fun applies => if applies then some reason else none

-- The next rule is evaluated when the ones before it found nothing.
def firstReason : List (Unit → Except StageFault (Option String)) → Except StageFault (Option String)
  | [] => .ok none
  | rule :: rest =>
      match rule () with
      | .error fault => .error fault
      | .ok (some reason) => .ok (some reason)
      | .ok none => firstReason rest

def bandwidthMhz (lowHz highHz : Int) : Option K := if lowHz < highHz then some (((highHz - lowHz : Int) : K) / ((1000000 : Nat) : K)) else none

def exclusionReason (frozen : FrozenLocalGrantRf K) (lat lon : K) : Except StageFault (Option String) :=
  let low := frozen.lowHz
  let high := frozen.highHz
  let fsses := payloadsOf readers (tables.fss.map (·.dataJson))
  let gwbles := gwblPoints readers (payloadsOf readers (tables.gwbl.map (·.dataJson)))
  firstReason
    [fun _ => reasonWhen "exz_exclusion"
        (pointHitsExclusionRecords readers geo lat lon low high (payloadsOf readers tables.exclusionZones)),
      fun _ => (quietZoneBlocksLocation readers geo quiet lat lon (frozen.cbsdCategory.getD .a) (bandwidthMhz low high)).map
        fun found => found.map ("quiet_zone_" ++ ·),
      fun _ => reasonWhen "gwpz_exclusion"
        (anyGwpzBlocks readers geo lat lon low high (payloadsOf readers (tables.wisp.map (·.dataJson)))),
      fun _ => if !gwbles.isEmpty && freqOverlap low high fssGwblLowHz fssGwblHighHz then
          reasonWhen "fss_gwbl_exclusion" (anyFssGwbl readers geo lat lon gwbles fsses)
        else .ok none,
      fun _ => reasonWhen "fss_ttc_purge" (anyFssTtcPurge readers geo lat lon fsses)]

def exclusionOf (frozen : FrozenLocalGrantRf K) : Except StageFault (Option (FrozenLocalGrantRf K × String)) :=
  if frozen.terminated then .ok none
  else
    match frozen.latitude, frozen.longitude with
    | some lat, some lon => (exclusionReason readers geo tables quiet frozen lat lon).map fun found => found.map fun reason => (frozen, reason)
    | _, _ => .ok none

-- A row keeps the first reason found for it.
def evaluatePreIapExclusions (localGrants : List (FrozenLocalGrantRf K)) :
    Except StageFault (List (FrozenLocalGrantRf K × String)) :=
  (localGrants.mapM (exclusionOf readers geo tables quiet)).map fun hits => (hits.filterMap id).foldl (firstUndecided []) []

end Exclusions

end SasCore.Cpas
