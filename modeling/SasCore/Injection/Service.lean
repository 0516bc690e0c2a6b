import SasCore.Fad.Records
import SasCore.Injection.Provenance
import Mathlib.Algebra.Order.Field.Basic

set_option autoImplicit false

namespace SasCore.Injection

open Fad

variable {K : Type} [Field K] [LinearOrder K]

-- What the writers take from outside: the settings with the readers of the standard library, str.upper,
-- json.dumps with sorted keys, and the scheme and the host of a URL, `none` where urlparse raises.
structure InjectionEnv (K : Type) where
  settings : FadSettings K
  upper : String → String
  sortedDumps : Json K → String
  urlparse : String → Option (String × String)

-- first or second
def orValue (first second : Json K) : Json K := if first.truthy then first else second

def orElseEmpty (data : Json K) : Json K := orValue data (.object [])

section Validation

variable (env : InjectionEnv K)

def isValidHttpUrl (url : String) : Bool :=
  match env.urlparse (String.ofList (PyText.strip url.toList)) with
  | none => false
  | some (scheme, netloc) => (scheme = "http" || scheme = "https") && netloc != ""

def asNumber (data : Json K) : Option K :=
  match data with
  | .int value => some value
  | .float value => some value
  | .text value =>
      let stripped := PyText.strip value.toList
      if stripped = [] then none else env.settings.readers.floatOfText (String.ofList stripped)
  | _ => none

def freqRangeOk (range : Json K) : Bool :=
  match asNumber env (range.field "lowFrequency"), asNumber env (range.field "highFrequency") with
  | some low, some high => low < high && 0 < low
  | _, _ => false

def latLonOk (lat lon : Json K) : Bool :=
  match asNumber env lat, asNumber env lon with
  | some la, some lo => -((90 : Nat) : K) ≤ la && la ≤ (90 : Nat) && -((180 : Nat) : K) ≤ lo && lo ≤ (180 : Nat)
  | _, _ => false

-- The first deployment of a record, when there is one with fields.
def firstDeployment (record : Json K) : Option (Json K) :=
  match record.field "deploymentParam" with
  | .array (first :: _) => if first.isObject && first.truthy then some first else none
  | _ => none

-- The range of a deployment is an object and in order, `none` where reading it raises.
def deploymentRangeOk (first : Json K) : Option Bool :=
  (first.field "operationParam").orEmpty.map fun op =>
    let range := orElseEmpty (op.field "operationFrequencyRange")
    range.isObject && freqRangeOk env range

def upperText (data : Json K) : String := env.upper (data.toText env.settings.readers)

def fssHasRequiredFields (payload : Json K) : Option Bool :=
  let record := payload.field "record"
  if !record.isObject then some false
  else if !(record.field "type").isNull && upperText env (record.field "type") != "FSS" then some false
  else
    match firstDeployment record with
    | none => some false
    | some first =>
        let inst := orElseEmpty (first.field "installationParam")
        if !inst.isObject then some false
        else (deploymentRangeOk env first).map fun ok => ok && latLonOk env (inst.field "latitude") (inst.field "longitude")

def zoneTypes : List String := ["FeatureCollection", "Feature", "Polygon", "MultiPolygon"]

def wispHasRequiredFields (payload : Json K) : Option Bool :=
  let record := payload.field "record"
  let zone := payload.field "zone"
  if !record.isObject || !zone.isObject then some false
  else if !(record.field "id").truthy || !(record.field "type").truthy then some false
  else
    match firstDeployment record with
    | none => some false
    | some first => (deploymentRangeOk env first).map fun ok => ok && zoneTypes.any (zone.field "type").isText

-- The GWBL point of an InjectWisp body without a zone.
def gwblPointFromWispBody (payload : Json K) : Option (Option (Json K)) :=
  let record := payload.field "record"
  let id := record.field "id"
  if !(payload.field "zone").isNull || !record.isObject then some none
  else if id.isNull || id.isText "" then some none
  else if !(record.field "type").isNull && upperText env (record.field "type") = "FSS" then some none
  else
    match firstDeployment record with
    | none => some none
    | some first =>
        let inst := orElseEmpty (first.field "installationParam")
        if !inst.isObject || !latLonOk env (inst.field "latitude") (inst.field "longitude") then some none
        else
          (deploymentRangeOk env first).map fun ok =>
            match ok, (inst.field "latitude").toFloat env.settings.readers, (inst.field "longitude").toFloat env.settings.readers with
            | true, some lat, some lon =>
                some (.object [("id", .text (id.toText env.settings.readers)), ("latitude", .float lat), ("longitude", .float lon)])
            | _, _, _ => none

def zoneRecordAcceptable (record : Json K) : Bool := record.has "zone" || record.has "usage" || record.has "ppaInfo"

end Validation

section Keys

variable (env : InjectionEnv K)

def recordNaturalKey (payload : Json K) : Option String :=
  let record := payload.field "record"
  if record.isObject && record.truthy && !(record.field "id").isNull then
    some ((record.field "id").toText env.settings.readers)
  else if !(payload.field "id").isNull then some ((payload.field "id").toText env.settings.readers)
  else none

def naturalKey (kind : Kind) (payload : Json K) : Option String :=
  match kind with
  | .databaseUrl =>
      let dbType := upperText env (orValue (payload.field "type") (.text ""))
      let url := String.ofList ((payload.field "url").strippedText env.settings.readers)
      if dbType = "" || url = "" then none else some (dbType ++ "|" ++ url)
  | .clusterList =>
      match ["userId", "ppaId", "palId"].find? fun key => (payload.field key).truthy with
      | some key => some (key ++ ":" ++ (payload.field key).toText env.settings.readers)
      | none => some (env.sortedDumps payload)
  | _ => recordNaturalKey env payload

-- A row whose text is no JSON object has no key.
def storedKey (kind : Kind) (row : Option (Json K)) : Option String :=
  row.bind fun payload => if payload.isObject then naturalKey env kind payload else none

def upsert (kind : Kind) (payload : Json K) (key : Option String) (tables : Tables K) : Tables K :=
  match key with
  | none => tables.setRecords kind (·.add (some payload))
  | some key =>
      tables.setRecords kind (·.put (fun row => storedKey env kind row = some key) (fun _ => some payload) (some payload))

end Keys

section Writers

variable (env : InjectionEnv K)

-- The id that is returned, with the tables.
def persistZoneData (body : Json K) (tables : Tables K) : Except String (Tables K × String) :=
  match body, body.field "record" with
  | .object fields, .object held =>
      match rewriteZoneId env.settings ((Json.object held).field "id") "0" with
      | .error error => .error error
      | .ok zoneId =>
          let record := Json.object (PyDict.set "id" (.text zoneId) held)
          let payload := Json.object (PyDict.set "record" record fields)
          if zoneRecordAcceptable record then
            .ok (bumpInjectionGeneration .zone (upsert env .zone payload (some zoneId) tables), zoneId)
          else .ok (tables, zoneId)
  | _, _ => (rewriteZoneId env.settings (.null : Json K) "0").map fun zoneId => (tables, zoneId)

def upsertFssRecord (body : Json K) (tables : Tables K) : Except String (Tables K × Bool) :=
  if !body.isObject then .ok (tables, false)
  else
    match fssHasRequiredFields env body with
    | none => .error "AttributeError"
    | some false => .ok (tables, false)
    | some true =>
        let key := naturalKey env .fss body
        let stored := upsert env .fss body key tables
        let tagged := if key.getD "" = "" then stored else setFssProvenance (key.getD "") .adminInjected stored
        .ok (bumpInjectionGeneration .fss (bumpSyncMeta .fss tagged), true)

def upsertWispRecord (body : Json K) (tables : Tables K) : Except String (Tables K × Bool) :=
  if !body.isObject then .ok (tables, false)
  else
    match wispHasRequiredFields env body with
    | none => .error "AttributeError"
    | some true => .ok (bumpInjectionGeneration .wisp (upsert env .wisp body (naturalKey env .wisp body) tables), true)
    | some false =>
        match gwblPointFromWispBody env body with
        | none => .error "AttributeError"
        | some none => .ok (tables, false)
        | some (some point) =>
            .ok (bumpInjectionGeneration .gwbl (bumpSyncMeta .gwbl (upsert env .gwbl point (naturalKey env .gwbl point) tables)),
              true)

def allowedDatabaseTypes : List String := ["PAL", "CPI", "FSS", "GWBL", "EXCLUSION_ZONE", "SCHEDULED_DPA"]

def databaseUrlPayload (dbType url : String) (body : Json K) : Json K :=
  let checksum := orValue (body.field "checksum") (body.field "checksumSha1")
  .object ([("type", .text dbType), ("url", .text url), ("schemaVersion", .int 1)] ++
    (if checksum.isNull then [] else [("checksum", .text (checksum.toText env.settings.readers))]) ++
    (if (body.field "auth").isObject then [("auth", body.field "auth")] else []))

def persistDatabaseUrl (body : Json K) (tables : Tables K) : Except String (Tables K × Bool) :=
  if !body.isObject then .ok (tables, false)
  else
    let dbType := env.upper (String.ofList ((body.field "type").strippedText env.settings.readers))
    let url := String.ofList ((body.field "url").strippedText env.settings.readers)
    if dbType ∉ allowedDatabaseTypes || !isValidHttpUrl env url then .ok (tables, false)
    else
      let payload := databaseUrlPayload env dbType url body
      .ok (bumpInjectionGeneration .databaseUrl (upsert env .databaseUrl payload (naturalKey env .databaseUrl payload) tables),
        true)

def persistEscZone (body : Json K) (tables : Tables K) : Except String (Tables K × Bool) :=
  let named := (body.field "id").truthy || ((body.field "record").isObject && ((body.field "record").field "id").truthy) ||
    (body.field "zoneId").truthy || (body.field "escZoneId").truthy
  if !body.isObject || !body.truthy || !named then .ok (tables, false)
  else .ok (bumpInjectionGeneration .escZone (upsert env .escZone body (naturalKey env .escZone body) tables), true)

def persistClusterList (body : Json K) (tables : Tables K) : Except String (Tables K × Bool) :=
  let named := ["userId", "ppaId", "palId", "cbsdIds", "cbsdReferenceId"].any fun key => (body.field key).truthy
  if !body.isObject || !body.truthy || !named then .ok (tables, false)
  else .ok (bumpInjectionGeneration .clusterList (upsert env .clusterList body (naturalKey env .clusterList body) tables), true)

def persistSasAdmin (body : Json K) (tables : Tables K) : Except String (Tables K × Bool) :=
  let record := body.field "record"
  if !body.isObject || !record.isObject || !(record.field "id").truthy then .ok (tables, false)
  else
    let payload := Json.object [("record", record), ("schemaVersion", .int 1)]
    .ok (bumpInjectionGeneration .sasAdmin (upsert env .sasAdmin payload (naturalKey env .sasAdmin payload) tables), true)

end Writers

section Batch

variable (env : InjectionEnv K)

inductive Writer where
  | zone | fss | wisp | databaseUrl | escZone | clusterList | sasAdmin
deriving DecidableEq, Repr

-- A writer with commit=False, and whether its result counts.
def write (writer : Writer) (body : Json K) (tables : Tables K) : Except String (Tables K × Bool) :=
  match writer with
  | .zone => (persistZoneData env body tables).map fun result => (result.1, result.2 != "")
  | .fss => upsertFssRecord env body tables
  | .wisp => upsertWispRecord env body tables
  | .databaseUrl => persistDatabaseUrl env body tables
  | .escZone => persistEscZone env body tables
  | .clusterList => persistClusterList env body tables
  | .sasAdmin => persistSasAdmin env body tables

def writeItems (writer : Writer) : List (Json K) → Tables K × Nat → Except String (Tables K × Nat)
  | [], written => .ok written
  | item :: rest, written =>
      match write env writer item written.1 with
      | .error error => .error error
      | .ok (tables, counts) => writeItems writer rest (tables, if counts then written.2 + 1 else written.2)

-- The committed tables after a batch, and what it returns or raises.
def upsertBatch (writer : Writer) (validator : Json K → Bool) (items : List (Json K)) (committed : Tables K) :
    Tables K × Except String Nat :=
  if items.isEmpty then (committed, .ok 0)
  else if !items.all validator then (committed, .error "InjectionValidationError")
  else
    match writeItems env writer items (committed, 0) with
    | .error error => (committed, .error error)
    | .ok (tables, count) => (tables.flush, .ok count)

-- One writer with commit=True. A body that is not stored leaves nothing to commit.
def single (writer : Writer) (body : Json K) (committed : Tables K) : Tables K :=
  match write env writer body committed with
  | .error _ => committed
  | .ok (tables, _) => tables.flush

end Batch

end SasCore.Injection
