import SasCore.Federal.Feeds

set_option autoImplicit false

namespace SasCore.Federal

open Injection

variable {K : Type} [Field K] [LinearOrder K] (env : FeedEnv K)

def parseMhzToken (data : Json K) : Except String (Option Int) :=
  if data.isNull then .ok none
  else
    let cleaned := PyText.strip ((data.toText env.readers).toList.filter fun c => c != ',')
    if cleaned = [] then .ok none else env.hzOfMhz (String.ofList cleaned)

def siteId (site : Json K) : Json K := orValue (orValue (site.field "FSS_number") (site.field "call_sign")) (.text "fss")

-- What a converted site says of its station: where it is and what it receives.
structure StationSite (K : Type) where
  latitude : K
  longitude : K
  lowFrequency : Int
  highFrequency : Int
deriving DecidableEq, Repr

def stationSite (site : Json K) : Except String (Option (StationSite K)) :=
  match (site.field "earth_station_latitude_decimal").toFloat env.readers,
      (site.field "earth_station_longitude_decimal").toFloat env.readers with
  | some latitude, some longitude =>
      match parseMhzToken env (site.field "lower_frequency") with
      | .error error => .error error
      | .ok low =>
          match parseMhzToken env (site.field "upper_frequency") with
          | .error error => .error error
          | .ok high =>
              match low, high with
              | some low, some high => .ok (some ⟨latitude, longitude, low, high⟩)
              | _, _ => .ok none
  | _, _ => .ok none

def ttcOf (site : Json K) : Bool :=
  ["true".toList, "1".toList, "yes".toList].contains
    (PyText.lower ((site.field "tracking_telemetry_control").strippedText env.readers))

def deploymentOf (station : StationSite K) : Json K :=
  .object [("installationParam", .object [("latitude", .float station.latitude), ("longitude", .float station.longitude)]),
    ("operationParam", .object [("operationFrequencyRange",
      .object [("lowFrequency", .int station.lowFrequency), ("highFrequency", .int station.highFrequency)])])]

def siteRecord (site : Json K) (station : StationSite K) : Json K :=
  .object [("record", .object [("id", siteId site), ("type", .text "FSS"), ("deploymentParam", .array [deploymentOf station])]),
    ("ttc", .bool (ttcOf env site))]

def federalFssSiteToRecord (site : Json K) : Except String (Option (Json K)) :=
  (stationSite env site).map fun station => station.map (siteRecord env site)

-- The sites of a feed: another shape of payload has none.
def fssSites (payload : Json K) : List (Json K) :=
  match payload, payload.field "result" with
  | .object _, .array sites => sites.filter (·.isObject)
  | .array sites, _ => sites.filter (·.isObject)
  | _, _ => []

def upsertSite (record : Json K) (held : Tables K × List (String × FssSource)) : Tables K × List (String × FssSource) :=
  match upsertFssPayload env.readers record held.1 with
  | (tables, some id) => (tables, PyDict.set id .federalDbSync held.2)
  | (tables, none) => (tables, held.2)

def upsertSites : List (Json K) → Tables K × List (String × FssSource) → Except String (Tables K × List (String × FssSource))
  | [], held => .ok held
  | site :: rest, held =>
      match federalFssSiteToRecord env site with
      | .error error => .error error
      | .ok none => upsertSites rest held
      | .ok (some record) => upsertSites rest (upsertSite env record held)

def replaceFssFromFederalPayload (payload : Json K) (tables : Tables K) : Except String (Tables K) :=
  let cleared := deleteFederalSyncFssRows env.readers tables
  (upsertSites env (fssSites payload) (cleared, loadFssProvenanceMap cleared)).map fun held =>
    bumpSyncMeta .fss (persistFssProvenanceMap held.2 held.1)

-- Where a stored record puts its station: `some none` when a field is missing, `none` where reading it raises.
def fssLocationAndFreq (payload : Json K) : Option (Option (StationSite K)) :=
  let record := if (payload.field "record").truthy then payload.field "record" else payload
  if !record.isObject then none
  else if !(record.field "deploymentParam").truthy then some none
  else
    match record.field "deploymentParam" with
    | .array (first :: _) =>
        if !first.isObject then none
        else
          match (first.field "installationParam").orEmpty, (first.field "operationParam").orEmpty with
          | some inst, some op =>
              match (op.field "operationFrequencyRange").orEmpty with
              | none => none
              | some range =>
                  let fields := [inst.field "latitude", inst.field "longitude", range.field "lowFrequency", range.field "highFrequency"]
                  if fields.any (·.isNull) then some none
                  else
                    match (inst.field "latitude").toFloat env.readers, (inst.field "longitude").toFloat env.readers,
                        (range.field "lowFrequency").toInt env.readers, (range.field "highFrequency").toInt env.readers with
                    | some latitude, some longitude, some low, some high => some (some ⟨latitude, longitude, low, high⟩)
                    | _, _, _, _ => none
          | _, _ => none
    | _ => none

def dmsToDecimal (deg minutes seconds hem : List Char) : Option K :=
  match env.readFloat deg, env.readFloat minutes, env.readFloat seconds with
  | some d, some m, some s =>
      let value := d + m / (60 : Nat) + s / (3600 : Nat)
      some (if PyText.upper hem = ['S'] ∨ PyText.upper hem = ['W'] then -value else value)
  | _, _, _ => none

def endsWithLoDat (name : String) : Bool := "LO.DAT".toList.isSuffixOf (PyText.upper name.toList)

def gwblLine (line : List Char) : Option (Json K) :=
  let parts := line.splitOn '|'
  let part := fun (n : Nat) => parts.getD n []
  if parts.head? ≠ some "LO".toList ∨ parts.length < 27 then none
  else
    match dmsToDecimal env (part 19) (part 20) (part 21) (part 22), dmsToDecimal env (part 23) (part 24) (part 25) (part 26) with
    | some latitude, some longitude =>
        some (.object [("id", .text (String.ofList (part 1))), ("callsign", .text (String.ofList (part 4))),
          ("latitude", .float latitude), ("longitude", .float longitude)])
    | _, _ => none

-- The text of the location file of an archive, `none` when it has no such file.
def loDatText (body : ByteArray) : Except ZipFault (Option String) :=
  match env.zipNames body with
  | .error fault => .error fault
  | .ok names =>
      match names.find? endsWithLoDat with
      | none => .ok none
      | some name => (env.zipRead body name).map fun content => some (env.decodeReplacing content)

-- A file that is no archive reads like one without locations; another fault of the reader is raised.
def parseGwblZip (body : ByteArray) : Except String (List (Json K)) :=
  match loDatText env body with
  | .error .badZipFile => .ok []
  | .error .other => .error "zip"
  | .ok none => .ok []
  | .ok (some text) => .ok ((PyText.lines text.toList).filterMap (gwblLine env))

def replaceGwblFromZip (body : ByteArray) (tables : Tables K) : Except String (Tables K) :=
  (parseGwblZip env body).map fun records =>
    bumpSyncMeta .gwbl (records.foldl (fun held record => held.setRecords .gwbl (·.add (some record)))
      (tables.setRecords .gwbl (·.clear)))

end SasCore.Federal
