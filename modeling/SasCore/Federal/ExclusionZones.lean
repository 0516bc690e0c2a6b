import SasCore.Federal.Feeds

set_option autoImplicit false

namespace SasCore.Federal

open Injection

variable {K : Type} [Field K] [LinearOrder K] (env : FeedEnv K)

def ringPoint (token : List Char) : Option (K × K) :=
  match token.splitOn ',' with
  | first :: second :: _ =>
      match env.readFloat first, env.readFloat second with
      | some lon, some lat => some (lon, lat)
      | _, _ => none
  | _ => none

def closedRing (ring : List (K × K)) : List (K × K) :=
  if 3 ≤ ring.length ∧ ring.head? ≠ ring.getLast? then ring ++ ring.head?.toList else ring

def parseKmlRing (text : Option String) : List (K × K) :=
  closedRing ((PyText.words (text.getD "").toList).filterMap (ringPoint env))

-- The longest \d+(?:\.\d+)? at the front, with what follows it.
def scanDecimal (text : List Char) : Option (List Char × List Char) :=
  let whole := text.takeWhile env.isDecimal
  if whole = [] then none
  else
    match text.dropWhile env.isDecimal with
    | '.' :: rest =>
        let fraction := rest.takeWhile env.isDecimal
        if fraction = [] then some (whole, '.' :: rest) else some (whole ++ '.' :: fraction, rest.dropWhile env.isDecimal)
    | rest => some (whole, rest)

-- One range such as 3600-3650, in Hz.
def mhzRange (part : List Char) : Option (Int × Int) :=
  match scanDecimal env part with
  | none => none
  | some (low, rest) =>
      match rest.dropWhile PyText.isSpace with
      | '-' :: others =>
          match scanDecimal env (others.dropWhile PyText.isSpace) with
          | some (high, []) =>
              match env.readFloat low, env.readFloat high with
              | some lo, some hi =>
                  some (env.readers.truncate (lo * (1000000 : Nat)), env.readers.truncate (hi * (1000000 : Nat)))
              | _, _ => none
          | _ => none
      | _ => none

def parseFreqRangeMhz (text : Option String) : List (Int × Int) :=
  ((text.getD "").toList.splitOnP fun c => c = ';' || c = ',').filterMap fun part => mhzRange env (PyText.strip part)

def outerRingText (placemark : Xml) : Option String :=
  (((placemark.descendants (kml "outerBoundaryIs")).flatMap (·.inside (kml "LinearRing"))).flatMap
    (·.inside (kml "coordinates"))).head?.bind (·.text)

-- The last of the data elements of that name that has a value.
def freqText (placemark : Xml) : Option String :=
  (((placemark.descendants (kml "Data")).filter fun data => data.get "name" = some "freqRangeMhz").filterMap fun data =>
    data.find (kml "value")).getLast?.bind (·.text)

def rangeJson (range : Int × Int) : Json K := .object [("lowFrequency", .int range.1), ("highFrequency", .int range.2)]

def exclusionZonePayload (ring : List (K × K)) (ranges : List (Int × Int)) : Json K :=
  let positions := ring.map fun point => Json.array [.float point.1, .float point.2]
  .object [("zone", .object [("type", .text "FeatureCollection"), ("features", .array [.object [("type", .text "Feature"),
      ("geometry", .object [("type", .text "Polygon"), ("coordinates", .array [.array positions])]),
      ("properties", .object [])]])]),
    ("frequencyRanges", .array (ranges.map rangeJson))]

def placemarkZone (placemark : Xml) : Option (Json K) :=
  let ring := parseKmlRing env (outerRingText placemark)
  let ranges := parseFreqRangeMhz env (freqText placemark)
  if ring.length < 4 then none
  else some (exclusionZonePayload ring (if ranges = [] then [(3550000000, 3650000000)] else ranges))

def zoneRecords (root : Xml) : List (Json K) := (root.iter (kml "Placemark")).filterMap (placemarkZone env)

def applyExclusionZoneKml (body : ByteArray) (tables : Tables K) : Except String (Tables K) :=
  match env.parseXml (env.decodeReplacing body) with
  | none => .error "ParseError"
  | some root =>
      .ok (bumpSyncMeta .exz ((zoneRecords env root).foldl (fun held record => held.setRecords .exclusionZone (·.add (some record)))
        (tables.setRecords .exclusionZone (·.clear))))

def validateExclusionZoneRecord (record : Json K) : Except String Unit :=
  let zone := record.field "zone"
  if zone.isNull then .error "EXZ missing zone geometry"
  else if !zone.isObject then .error "EXZ zone must be a GeoJSON object"
  else if !env.geometryUsable zone then .error "EXZ geometry empty or invalid"
  else .ok ()

-- With its commit.
def persistExclusionZone (payload : Json K) (committed : Tables K) : Except String (Tables K) :=
  let body := if payload.isObject then payload else .object []
  (if body.truthy then validateExclusionZoneRecord env body else .ok ()).map fun _ =>
    (committed.setRecords .exclusionZone (·.add (some body))).flush

end SasCore.Federal
