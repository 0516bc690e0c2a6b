import SasCore.Lib.Collect
import SasCore.Lib.Json
import SasCore.Iap.Engine

set_option autoImplicit false

namespace SasCore.Iap

variable {K : Type} [Field K] [LinearOrder K]

-- What building points takes from outside: the readers, the band edges of the active spectrum profile
-- and the SHA-1 digest in hexadecimal digits.
structure PointSource (K : Type) where
  readers : PyReaders K
  bandLowHz : Int
  bandHighHz : Int
  sha1Hex : String → String

def neighborhoodPpaKm : K := (40 : Nat)
def ppaThresholdDbm : K := -(80 : Nat)
def preIapMarginDb : K := 1

section Reading

variable (source : PointSource K)

def clipFrequencyToCbrs (lowHz highHz : Int) : Option (Int × Int) :=
  let low := max lowHz source.bandLowHz
  let high := min highHz source.bandHighHz
  if high ≤ low then none else some (low, high)

def freqPair (range : Json K) : Option (Int × Int) :=
  ((range.field "lowFrequency").toInt source.readers).bind fun low =>
    ((range.field "highFrequency").toInt source.readers).bind fun high => if high ≤ low then none else some (low, high)

-- A tuple is truthy, so `or` takes the first range that is there.
def palFreqFromRecord (pal : Json K) : Option (Int × Int) :=
  let channel := pal.field "channelAssignment"
  let primary := channel.field "primaryAssignment"
  freqPair source (primary.field "operationFrequencyRange") <|> freqPair source primary <|>
    freqPair source (channel.field "operationFrequencyRange") <|> freqPair source (pal.field "palBlock") <|>
    freqPair source (pal.field "operationFrequencyRange")

-- In the readers below `none` stands for an exception; the inner option is the value of the source.
-- A list or an object has no hash, so looking its type up in the set of names raises.
def geometryFromZoneBlob (zone : Json K) : Option (Option (Json K)) :=
  if !zone.isObject then some none
  else
    match zone.field "type" with
    | .array _ => none
    | .object _ => none
    | kind =>
        some (if kind.isText "Polygon" || kind.isText "MultiPolygon" then some zone
          else if kind.isText "Feature" then zone.dictField "geometry"
          else if kind.isText "FeatureCollection" then (zone.field "features").items.head?.bind (·.dictField "geometry")
          else none)

-- A position whose latitude does not read still counts with its longitude.
def ringCentreOf (ring : List (Json K)) : Option (Option (K × K)) :=
  if ring.length < 3 then some none
  else
    let closed := match ring.head?, ring.getLast? with
      | some first, some last => first.equal last
      | _, _ => false
    let positions := (if closed then ring.dropLast else ring).filterMap fun position =>
      match position.items with
      | lon :: lat :: _ => (lon.toFloat source.readers).map fun x => (x, lat.toFloat source.readers)
      | _ => none
    let lons := positions.map (·.1)
    let lats := positions.filterMap (·.2)
    if lons.isEmpty then some none
    else if lats.isEmpty then none
    else some (some (lats.sum / lats.length, lons.sum / lons.length))

def representativePoint (geometry : Option (Json K)) : Option (Option (K × K)) :=
  match geometry with
  | none => some none
  | some shape =>
      let kind := shape.field "type"
      let coords := (shape.field "coordinates").items
      if kind.isText "Point" then
        match coords with
        | lon :: lat :: _ =>
            some ((lat.toFloat source.readers).bind fun y => (lon.toFloat source.readers).map fun x => (y, x))
        | _ => some none
      else if kind.isText "Polygon" then ringCentreOf source ((coords.head?.map (·.items)).getD [])
      else if kind.isText "MultiPolygon" then
        ringCentreOf source (((coords.head?.bind (·.items.head?)).map (·.items)).getD [])
      else some none

def zoneRecord (payload : Json K) : Json K := (payload.dictField "record").getD payload

def palRanges (palById : List (String × Json K)) (palIds : List (Json K)) : List (Int × Int) :=
  palIds.filterMap fun palId =>
    ((PyDict.lookup palById (palId.toText source.readers)).filter (·.isObject)).bind (palFreqFromRecord source)

-- str(value or default).strip() or default
def idText (value : Json K) (default : String) : String :=
  let text := value.strippedText source.readers
  if text = [] then default else String.ofList text

def ppaPointId (record : Json K) : String := "ppa:" ++ idText source (record.field "id") "ppa"

def protectionPointFromZonePayload (palById : List (String × Json K)) (payload : Json K) :
    Option (Option (ProtectionPoint K)) :=
  let record := zoneRecord payload
  if (record.field "terminated").isTrue then some none
  else if !(record.field "usage").isText "PPA" && !record.has "ppaInfo" then some none
  else
    (geometryFromZoneBlob (record.field "zone")).bind fun geometry =>
      (representativePoint source geometry).bind fun place =>
        match place with
        | none => some none
        | some (latitude, longitude) =>
            ((record.field "ppaInfo").orEmpty).map fun ppaInfo =>
              let ranges := palRanges source palById (ppaInfo.field "palId").items
              match (ranges.map (·.1)).min?, (ranges.map (·.2)).max? with
              | some low, some high =>
                  (clipFrequencyToCbrs source low high).map fun clipped =>
                    { pointId := ppaPointId source record
                      latitude := latitude
                      longitude := longitude
                      lowHz := clipped.1
                      highHz := clipped.2
                      thresholdDbm := ppaThresholdDbm
                      entityKind := .ppa
                      preIapMarginDb := preIapMarginDb
                      neighborhoodKm := some neighborhoodPpaKm }
              | _, _ => none

-- The ids by which a cluster list may name a CBSD.
def cbsdRefs (cbsdId fccId serialNumber : String) : List String :=
  [cbsdId, "cbsd/" ++ fccId ++ "/" ++ source.sha1Hex serialNumber]

def clusterOf (payload : Json K) : Option (List String) :=
  (((zoneRecord payload).field "ppaInfo").orEmpty).bind fun ppaInfo =>
    ((ppaInfo.field "cbsdReferenceId").iterated).map fun listed => listed.map (·.toText source.readers)

def inCluster (refs cluster : List String) : Bool := refs.any cluster.contains

def clusterPointId (refs : List String) (payload : Json K) : Option (Option String) :=
  (clusterOf source payload).map fun cluster =>
    let rid := ((zoneRecord payload).field "id").strippedText source.readers
    if !inCluster refs cluster || rid = [] then none else some ("ppa:" ++ String.ofList rid)

def filterPointsForProposedCbsd (zones : List (Json K)) (refs : List String) (points : List (ProtectionPoint K)) :
    Option (List (ProtectionPoint K)) :=
  if !points.any fun p => p.entityKind = .ppa then some points
  else
    (zones.mapM (clusterPointId source refs)).map fun ids =>
      let clusterPointIds := ids.filterMap id
      points.filter fun p => !(p.entityKind = .ppa && clusterPointIds.contains p.pointId)

end Reading

section Clusters

variable (source : PointSource K)

theorem built_point (palById : List (String × Json K)) (payload : Json K) (point : ProtectionPoint K)
    (built : protectionPointFromZonePayload source palById payload = some (some point)) :
    point.entityKind = .ppa ∧ point.pointId = ppaPointId source (zoneRecord payload) := by
  rw [protectionPointFromZonePayload] at built
  dsimp only at built
  split at built
  · cases built
  · split at built
    · cases built
    · obtain ⟨geometry, _, placed⟩ := Option.bind_eq_some_iff.mp built
      obtain ⟨place, _, shaped⟩ := Option.bind_eq_some_iff.mp placed
      cases place with
      | none => cases shaped
      | some position =>
          obtain ⟨ppaInfo, _, isPoint⟩ := Option.map_eq_some_iff.mp shaped
          split at isPoint
          · obtain ⟨clipped, _, same⟩ := Option.map_eq_some_iff.mp isPoint
            rw [← same]
            exact ⟨rfl, rfl⟩
          · cases isPoint

-- A point whose zone lists the CBSD and has an id is not among those the proposal is checked against.
theorem cluster_point_dropped (zones : List (Json K)) (refs cluster : List String)
    (points kept : List (ProtectionPoint K)) (palById : List (String × Json K)) (payload : Json K) (point : ProtectionPoint K)
    (member : payload ∈ zones) (built : protectionPointFromZonePayload source palById payload = some (some point))
    (clustered : clusterOf source payload = some cluster) (listed : inCluster refs cluster = true)
    (named : ((zoneRecord payload).field "id").strippedText source.readers ≠ [])
    (filtered : filterPointsForProposedCbsd source zones refs points = some kept) : point ∉ kept := by
  obtain ⟨isPpa, pointNamed⟩ := built_point source palById payload point built
  intro inKept
  rw [filterPointsForProposedCbsd] at filtered
  split at filtered
  · rename_i noPpa
    cases filtered
    have any : (points.any fun p => p.entityKind = .ppa) = true :=
      List.any_eq_true.mpr ⟨point, inKept, by simpa using isPpa⟩
    rw [any] at noPpa
    cases noPpa
  · obtain ⟨ids, all, same⟩ := Option.map_eq_some_iff.mp filtered
    rw [← same] at inKept
    obtain ⟨_, stays⟩ := List.mem_filter.mp inKept
    have ownId : clusterPointId source refs payload = some (some point.pointId) := by
      rw [clusterPointId, clustered, Option.map_some, listed, pointNamed, ppaPointId, idText]
      simp only [Bool.not_true, Bool.false_or, decide_eq_true_eq, if_neg named]
    have inIds : some point.pointId ∈ ids := by
      obtain ⟨id, idMember, found⟩ := Collect.mem_result _ zones ids all payload member
      exact Option.some.inj (ownId.symm.trans found) ▸ idMember
    have listedId : (ids.filterMap id).contains point.pointId = true :=
      List.contains_iff_mem.mpr (List.mem_filterMap.mpr ⟨_, inIds, rfl⟩)
    rw [isPpa, listedId] at stays
    cases stays

end Clusters

end SasCore.Iap
