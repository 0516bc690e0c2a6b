import SasCore.Ppa.Rings

set_option autoImplicit false
set_option linter.unusedSectionVars false

namespace SasCore.Ppa

open Injection Federal Registry Spectrum

variable {K : Type} [Field K] [LinearOrder K]

-- The geometry library, the county and census files and the RF engines; what raises is an error with its text.
structure PpaEnv (K : Type) where
  feeds : FeedEnv K
  tests : RingTests K
  loadCountyGeometry : String → Option (Json K)
  census : Option (Json K)
  unionGeojson : List (Json K) → Except String (Option (Json K))
  intersectGeojson : Json K → Json K → Except String (Option (Json K))
  reshape : Json K → Except String (Option (Json K))
  pointCoveredByArea : K → K → Json K → Except String Bool
  polygonWithinServiceArea : Json K → Json K → Except String Bool
  polygonCoveredBy : Json K → Json K → Except String Bool
  maximumRfPpaContour : List (Cbsd K) → Except String (Json K)
  dictOf : Json K → Except String (Json K)

-- What creation reads besides the zones: the PALs, the CBSDs, the configuration and the cluster lists, the last two
-- as far as they are JSON.
structure PpaTables (K : Type) where
  pals : SpectrumTables K
  store : Store K
  config : Option (Json K)
  clusterLists : List (Json K)

structure PcrConfig where
  requireCensusClip : Bool
  requireServiceArea : Bool
deriving DecidableEq, Repr

def pcrConfig (tables : PpaTables K) : PcrConfig :=
  match tables.config with
  | none => ⟨false, false⟩
  | some data =>
      if data.isObject then ⟨(data.field "requireCensusClip").truthy, (data.field "requireServiceArea").truthy⟩ else ⟨false, false⟩

section Request

variable (env : PpaEnv K)

-- The stripped texts of a list, each with something left.
def strippedTexts (items : List (Json K)) : Option (List String) :=
  items.mapM fun item =>
    match item with
    | .text value => if PyText.strip value.toList = [] then none else some (String.ofList (PyText.strip value.toList))
    | _ => none

-- The ids of a list of the request; the name of the key is that of its errors.
def requestedIds (key : String) (given : Json K) : Except String (List String) :=
  if given.items.isEmpty then .error ("missing_" ++ key)
  else
    match strippedTexts given.items with
    | none => .error ("invalid_" ++ key)
    | some ids => if ids.Nodup then .ok ids else .error ("duplicate_" ++ key)

def clusterEntry (userId palIds data : Json K) : Option (List (Json K)) :=
  let ids := (data.field "cbsdIds").items
  let listed := if ids.isEmpty then none else some (ids.map fun id => .text (id.toText env.feeds.readers))
  if userId.truthy && (data.field "userId").equal userId && listed.isSome then listed
  else if palIds.items.any (·.equal (data.field "palId")) then listed
  else none

def clusterIdsFromInjection (tables : PpaTables K) (body : Json K) : Option (List (Json K)) :=
  if !(body.field "cbsdIds").items.isEmpty then none
  else ((tables.clusterLists.filter (·.isObject)).filterMap (clusterEntry env (body.field "userId") (body.field "palIds"))).head?

-- The CBSDs of the request, or those injected for its user or PALs.
def requestedCbsds (tables : PpaTables K) (body : Json K) : Except String (List String) :=
  match clusterIdsFromInjection env tables body with
  | some injected => requestedIds "cbsdIds" (.array injected)
  | none => requestedIds "cbsdIds" (body.field "cbsdIds")

def selectPal (pals : List (Json K)) (palId : String) : Except String (Json K) :=
  match palById pals (.text palId) with
  | none => .error "unknown_palId"
  | some pal =>
      if env.feeds.injection.upper ((orValue (pal.field "licenseStatus") (.text "")).toText env.feeds.readers) = "VALID" then .ok pal
      else .error "inactive_pal"

def holderOf (selected : List (Json K)) : Except String String :=
  match (selected.map fun pal => (orValue (pal.field "userId") (.text "")).toText env.feeds.readers).dedup with
  | [holder] => if holder = "" then .error "pal_holder_mismatch" else .ok holder
  | _ => .error "pal_holder_mismatch"

def selectCbsd (store : Store K) (holder cbsdId : String) : Except String (Cbsd K) :=
  match store.findCbsd cbsdId with
  | none => .error "unknown_cbsdId"
  | some cbsd => if cbsd.userId = holder then .ok cbsd else .error "cbsd_not_pal_holder"

def locationOf (cbsd : Cbsd K) : Except String (K × K) :=
  match cbsdLocation cbsd with
  | none => .error "cbsd_missing_location"
  | some place => .ok place

end Request

section Contour

variable (env : PpaEnv K)

def licenseOf (pal : Json K) : Json K := if (pal.field "license").isObject then pal.field "license" else .object []

def palLicenseAreaIdentifier (pal : Json K) : Option String :=
  let ident := orValue ((licenseOf pal).field "licenseAreaIdentifier") (pal.field "licenseAreaIdentifier")
  let text := PyText.strip (ident.toText env.feeds.readers).toList
  if ident.isNull || text = [] then none else some (String.ofList text)

def inlineAreaKeys : List String := ["licenseArea", "serviceArea", "licenseAreaGeometry"]

def inlineArea (pal : Json K) : List String → Except String (Option (Json K))
  | [] => .ok none
  | key :: rest =>
      let geo := orValue (pal.field key) ((licenseOf pal).field key)
      if !geo.isObject then inlineArea pal rest
      else
        match iterGeojsonRings geo with
        | .error error => .error error
        | .ok rings => if rings.isEmpty then inlineArea pal rest else .ok (some geo)

def palServiceArea (pal : Json K) : Except String (Option (Json K)) :=
  match palLicenseAreaIdentifier env pal with
  | some ident =>
      match env.loadCountyGeometry ident with
      | none => .error "service_area_unavailable"
      | some area => .ok (some area)
  | none => inlineArea pal inlineAreaKeys

def unionServiceAreas (pals : List (Json K)) : Except String (Option (Json K)) := do
  let parts ← pals.mapM (palServiceArea env)
  if (parts.filterMap id).isEmpty then .ok none else env.unionGeojson (parts.filterMap id)

def pointsWithin (zone : Json K) (locations : List (K × K)) : Except String Bool := do
  let outside ← locations.anyM fun place => (env.pointCoveredByArea place.1 place.2 zone).map (!·)
  .ok !outside

def requireInside (zone : Json K) (locations : List (K × K)) (reason : String) : Except String Unit := do
  let within ← pointsWithin env zone locations
  if within then .ok () else .error reason

-- ppa_geometry.as_feature_collection
def shapedCollection (geometry : Json K) : Except String (Option (Json K)) :=
  if (geometry.field "type").isText "FeatureCollection" || (geometry.field "type").isText "Feature" || polygonal geometry then
    .ok (some (asFeatureCollection geometry))
  else (env.reshape geometry).map fun shaped => shaped.map fun out => collection [feature (.object []) out]

def clipContourToMax (contour maxArea : Json K) : Except String (Json K) := do
  match ← env.intersectGeojson contour maxArea with
  | none => .error "contour_empty_after_clip"
  | some clipped =>
      match ← shapedCollection env clipped with
      | none => .error "contour_empty_after_clip"
      | some found => .ok found

-- One clip of the contour, with all CBSDs inside before and after it.
def clipInside (limit : Option (Json K)) (locations : List (K × K)) (reason : String) (contour : Json K) : Except String (Json K) :=
  match limit with
  | none => .ok contour
  | some maxArea => do
      let clipped ← clipContourToMax env contour maxArea
      requireInside env clipped locations reason
      .ok clipped

-- A dataset that the configuration requires is there, and the CBSDs are in it.
def checkDataset (required : Bool) (dataset : Option (Json K)) (locations : List (K × K)) (missing outside : String) :
    Except String Unit :=
  match dataset with
  | none => if required then .error missing else .ok ()
  | some zone => requireInside env zone locations outside

def isValidFeatureCollection (contour : Json K) : Except String Bool :=
  if !(contour.field "type").isText "FeatureCollection" || (contour.field "features").items.isEmpty then .ok false
  else (iterGeojsonRings contour).map fun rings => !rings.isEmpty

def claimedContour (serviceArea : Option (Json K)) (contour provided : Json K) : Except String (Json K) := do
  let whole ← isValidFeatureCollection provided
  let usable ← if whole then .ok true else geojsonGeometryUsable env.tests provided
  if !usable then .error "invalid_providedContour"
  else do
    let claimed := asFeatureCollection provided
    let inArea ← match serviceArea with
      | none => .ok true
      | some area => env.polygonWithinServiceArea claimed area
    if !inArea then .error "claimedBoundary_outside_service_area"
    else do
      let covered ← env.polygonCoveredBy claimed contour
      if covered then .ok claimed else .error "claimedBoundary_exceeds_rf_maximum"

-- The RF contour of the cluster, clipped, or the boundary that the request claims within it.
def ppaContour (tables : PpaTables K) (body : Json K) (selected : List (Json K)) (cbsds : List (Cbsd K))
    (locations : List (K × K)) : Except String (Json K) := do
  let config := pcrConfig tables
  let serviceArea ← unionServiceAreas env selected
  checkDataset env config.requireServiceArea serviceArea locations "service_area_required" "cbsd_outside_service_area"
  checkDataset env config.requireCensusClip env.census locations "census_dataset_missing" "cbsd_outside_census"
  let widest ← env.maximumRfPpaContour cbsds
  let inCensus ← clipInside env env.census locations "contour_outside_census" widest
  let contour ← clipInside env serviceArea locations "cbsd_outside_max_contour" inCensus
  let provided := orValue (body.field "providedContour") (body.field "claimedBoundary")
  if provided.isNull then .ok contour else claimedContour env serviceArea contour provided

end Contour

section Overlap

variable (env : PpaEnv K) (pals : List (Json K))

-- The record of a zone payload when it is that of a PPA.
def existingPpaRecord (payload : Json K) : Except String (Option (Json K)) :=
  if !payload.isObject then .error "AttributeError"
  else
    let record := orValue (payload.field "record") payload
    .ok (if record.isObject && ((record.field "usage").isText "PPA" || record.has "ppaInfo") then some record else none)

def freqsOverlap (first second : Int × Int) : Bool := first.1 < second.2 && first.2 > second.1

def knownPal (palId : Json K) : Except String (Option (Json K)) :=
  if palId.hashable then .ok (palById pals palId) else .error "TypeError"

-- The ranges of the PALs of these ids, as far as they are known and have one.
def palRanges (palIds : List (Json K)) : Except String (List (Int × Int)) := do
  let found ← palIds.mapM (knownPal pals)
  let ranges ← (found.filterMap id).mapM (ppaPalFreq env.feeds)
  .ok (ranges.filterMap id)

def recordPalIds (record : Json K) : Except String (List (Json K)) :=
  match (record.field "ppaInfo").orEmpty with
  | none => .error "AttributeError"
  | some info => loopItems (info.field "palId")

-- Whether a PPA on these PALs is refused because of an existing one.
def conflictsWith (palIds : List String) (ranges : List (Int × Int)) (contour existing : Json K) : Except String Bool := do
  let existingPalIds ← recordPalIds existing
  let existingRanges ← palRanges env pals existingPalIds
  let clash := ranges.any fun range => existingRanges.any (freqsOverlap range)
  if !clash && !(existingPalIds.any fun held => palIds.any fun palId => held.isText palId) then .ok false
  else geojsonAreasOverlap env.tests contour (existing.field "zone")

def overlapsExisting (palIds : List String) (selected : List (Json K)) (contour : Json K) (zones : List (Json K)) :
    Except String Bool := do
  let ranges ← selected.mapM (ppaPalFreq env.feeds)
  let existing ← zones.mapM existingPpaRecord
  (existing.filterMap id).anyM (conflictsWith env pals palIds (ranges.filterMap id) contour)

end Overlap

section Record

variable (env : PpaEnv K)

def ppaExpiration (selected : List (Json K)) (begin : String) : Json K :=
  ((selected.map fun pal => orValue ((licenseOf pal).field "licenseExpiration") (pal.field "licenseExpiration")).find?
    (·.truthy)).getD (.text begin)

def ppaRecord (ppaId : String) (palIds cbsdIds : List String) (zone expiration : Json K) (begin : String) : Json K :=
  .object [("id", .text ppaId), ("name", .text ("PPA-" ++ palIds.headD "")),
    ("creator", .text ((Fad.splitSlash ppaId).getD 2 "sas")), ("usage", .text "PPA"), ("terminated", .bool false), ("zone", zone),
    ("ppaInfo", .object [("palId", .array (palIds.map .text)), ("cbsdReferenceId", .array (cbsdIds.map .text)),
      ("ppaBeginDate", .text begin), ("ppaExpirationDate", expiration)])]

def singleFeature (contour : Json K) : Except String (Json K) :=
  match (asFeatureCollection contour).field "features" with
  | .array [feat] => .ok feat
  | _ => .error "ppa_zone_must_be_single_feature"

-- The zone of the record: the only feature of the contour, with its geometry.
def ppaZone (contour : Json K) : Except String (Json K) := do
  let feat ← singleFeature contour
  if !(feat.field "geometry").isObject || !polygonal (feat.field "geometry") then .error "ppa_zone_invalid_geometry"
  else do
    let rings ← iterGeojsonRings (collection [feat])
    if rings.isEmpty then .error "ppa_zone_empty_geometry"
    else do
      let properties ← env.dictOf (orValue (feat.field "properties") (.object []))
      .ok (collection [feature properties (feat.field "geometry")])

-- uuid4().hex and the date of today are the caller's.
def buildPpa (palIds cbsdIds : List String) (selected : List (Json K)) (contour : Json K) (token today : String) :
    Except String (String × Json K) := do
  let suffix := palIds.headD "" ++ "/" ++ token
  let ppaId ← Fad.rewriteZoneId env.feeds.injection.settings (.text ("zone/ppa/pending/" ++ suffix) : Json K) suffix
  let zone ← ppaZone env contour
  .ok (ppaId, ppaRecord ppaId palIds cbsdIds zone (ppaExpiration selected today) today)

def validateAndBuild (tables : PpaTables K) (zones : List (Json K)) (body : Json K) (token today : String) :
    Except String (String × Json K) := do
  let palIds ← requestedIds "palIds" (body.field "palIds")
  let cbsdIds ← requestedCbsds env tables body
  let pals ← loadPals tables.pals
  let selected ← palIds.mapM (selectPal env pals)
  let holder ← holderOf env selected
  let cbsds ← cbsdIds.mapM (selectCbsd tables.store holder)
  let locations ← cbsds.mapM locationOf
  let contour ← ppaContour env tables body selected cbsds locations
  let clash ← overlapsExisting env pals palIds selected contour zones
  if clash then .error "overlaps_existing_ppa" else buildPpa env palIds cbsdIds selected contour token today

end Record

end SasCore.Ppa
