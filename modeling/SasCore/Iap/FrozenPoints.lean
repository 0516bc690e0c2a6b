import SasCore.Federal.ExclusionZones
import SasCore.Iap.EntityPoints
import SasCore.Lib.KeyOrder
import SasCore.Spectrum.Pals

set_option autoImplicit false

namespace SasCore.Iap

open Federal Injection JsonText Spectrum

variable {K : Type} [Field K] [LinearOrder K]

-- The rows that points are built from or a freeze captures, each kind in the order of its ids, as the texts of
-- their JSON columns. A PAL row has its record read.
structure EntityTables (K : Type) where
  fss : List String
  wisp : List String
  zones : List String
  gwbl : List String
  pals : List (Injection.PalRow K)
  plainPals : ∀ row ∈ pals, Plain row.record
  legacyPals : List String
  escSensors : List (String × String)
  exclusionZones : List String
  ntiaEnabled : Bool
  ntiaZones : List String
  escAbsent : List String
  escDisconnected : List String
  scheduledDpas : List String
  activeDpas : List String

structure ProtectionRecord where
  kind : String
  recordId : String
  dataJson : String
deriving DecidableEq, Repr

inductive EscConnectivityState where
  | connected | disconnected | absent | unknown | invalid
deriving DecidableEq, Repr

def EscConnectivityState.value : EscConnectivityState → String
  | .connected => "connected"
  | .disconnected => "disconnected"
  | .absent => "absent"
  | .unknown => "unknown"
  | .invalid => "invalid"

section Loading

variable (floats : FloatText K)

-- data_json or "{}"
def orBraces (text : String) : String := if text = "" then "{}" else text

def loadDict (text : String) : Option (Json K) := (loads floats (orBraces text)).filter (·.isObject)

def loadInjected (texts : List String) : List (Json K) := texts.filterMap (loadDict floats)

-- json.dumps with sort_keys, up to its blanks and escapes.
def sortedDumps (value : Json K) : String := dumps floats (sortKeys value)

def loadSensors (sensors : List (String × String)) : List (String × Json K) :=
  sensors.filterMap fun row => (loadDict floats row.2).map fun data => (row.1, data)

def loadPals (tables : EntityTables K) : Built K (List (Json K)) :=
  match loadPalRecords tables.pals (tables.legacyPals.map fun text => loads floats (orBraces text)) with
  | .error _ => .error .other
  | .ok pals => .ok pals

-- A flag that is set, `none` where its row is corrupt.
def escFlag (name : String) (rows : List String) : Option Bool :=
  match rows.head? with
  | none => some false
  | some text => (loads floats (orBraces text)).bind fun data => if data.has name then some (data.field name).truthy else none

def resolveEscConnectivity (tables : EntityTables K) : EscConnectivityState :=
  match escFlag floats "absent" tables.escAbsent with
  | none => .invalid
  | some true => .absent
  | some false =>
      match escFlag floats "disconnected" tables.escDisconnected with
      | none => .invalid
      | some true => .disconnected
      | some false => .connected

end Loading

section Capture

variable (env : FeedEnv K) (readers : PyReaders K)

def jsonFloats (env : FeedEnv K) : FloatText K := env.injection.settings.floats

def exclusionRecords (kind label : String) (texts : List String) : Built K (List ProtectionRecord) :=
  (texts.filterMap (loads (jsonFloats env))).zipIdx.mapM fun entry =>
    match validateExclusionZoneRecord env entry.1 with
    | .error _ => .error .other
    | .ok _ => .ok ⟨kind, label ++ ":" ++ toString entry.2, sortedDumps (jsonFloats env) entry.1⟩

def captureExclusionZoneRecordsForFreeze (tables : EntityTables K) : Built K (List ProtectionRecord) :=
  (exclusionRecords env "exclusion_zone" "exz" tables.exclusionZones).bind fun injected =>
    if !tables.ntiaEnabled then .ok injected
    else if (tables.ntiaZones.filterMap (loads (jsonFloats env))).isEmpty then .error .other
    else (exclusionRecords env "ntia_exclusion_zones" "ntia" tables.ntiaZones).map (injected ++ ·)

def captureEscConnectivityForFreeze (tables : EntityTables K) : ProtectionRecord :=
  let state := resolveEscConnectivity (jsonFloats env) tables
  ⟨"esc_state", "connectivity", sortedDumps (jsonFloats env) (.object [("state", .text state.value),
    ("disconnected", .bool (state = .disconnected)), ("absent", .bool (state = .absent))])⟩

-- The id of the record, or the place of the row.
def capturedId (kind : String) (index : Nat) (payload : Json K) : String :=
  let record := zoneRecord payload
  let named := orValue (record.field "id") (orValue (record.field "palId") (orValue (payload.field "palId") (.text "")))
  if named.toText readers = "" then kind ++ ":" ++ toString index else named.toText readers

def captureKind (kind : String) (payloads : List (Json K)) : List ProtectionRecord :=
  payloads.zipIdx.map fun entry => ⟨kind, capturedId readers kind entry.2 entry.1, sortedDumps (jsonFloats env) entry.1⟩

def capturedPalId (index : Nat) (pal : Json K) : String :=
  (orValue (pal.field "palId") (.text ("pal:" ++ toString index))).toText readers

def capturePals (pals : List (Json K)) : List ProtectionRecord :=
  pals.zipIdx.map fun entry => ⟨"pal", capturedPalId readers entry.2 entry.1, sortedDumps (jsonFloats env) entry.1⟩

def captureScheduled (payloads : List (Json K)) : List ProtectionRecord :=
  payloads.zipIdx.map fun entry =>
    ⟨"scheduled_dpa", "scheduled_dpa:" ++ toString entry.2, sortedDumps (jsonFloats env) entry.1⟩

def capturedDpaId (index : Nat) (payload : Json K) : String :=
  let named := (orValue (payload.field "dpaId") (.text "")).toText readers
  if named = "" then "dpa_activation:" ++ toString index else named

def captureActivations (payloads : List (Json K)) : List ProtectionRecord :=
  payloads.zipIdx.map fun entry =>
    ⟨"dpa_activation", capturedDpaId readers entry.2 entry.1, sortedDumps (jsonFloats env) entry.1⟩

def captureSensors (sensors : List (String × String)) : List ProtectionRecord :=
  sensors.map fun row => ⟨"esc_sensor", row.1, orBraces row.2⟩

def recordBefore (first second : ProtectionRecord) : Bool :=
  decide (toLex (first.kind, first.recordId) ≤ toLex (second.kind, second.recordId))

def captureProtectionRecordsForFreeze (tables : EntityTables K) : Built K (List ProtectionRecord) :=
  let load := loadInjected (jsonFloats env)
  (loadPals (jsonFloats env) tables).bind fun pals =>
    (captureExclusionZoneRecordsForFreeze env tables).map fun exclusions =>
      (captureKind env readers "fss" (load tables.fss) ++ captureKind env readers "wisp" (load tables.wisp) ++
        captureKind env readers "zone" (load tables.zones) ++ captureKind env readers "gwbl" (load tables.gwbl) ++
        capturePals env readers pals ++ exclusions ++ [captureEscConnectivityForFreeze env tables] ++
        captureScheduled env (load tables.scheduledDpas) ++ captureActivations env readers (load tables.activeDpas) ++
        captureSensors tables.escSensors).mergeSort recordBefore

end Capture

section Building

variable (floats : FloatText K) (source : PointSource K)

def parseFrozenEscConnectivity (payload : Json K) : Except (EntityError K) EscConnectivityState :=
  if !payload.isObject then .error .escStateObject
  else
    let raw := payload.field "state"
    if raw.isNull then .error .escStateMissing
    else
      match [EscConnectivityState.connected, .disconnected, .absent, .unknown, .invalid].find? fun state =>
        state.value = raw.toText source.readers with
      | none => .error (.escStateInvalid raw)
      | some state => .ok state

def assertFrozenEscConnectivity (records : List ProtectionRecord) : Built K Unit :=
  match records.find? fun record => record.kind = "esc_state" with
  | none => .ok ()
  | some record =>
      match loads floats (orBraces record.dataJson) with
      | none => .error (.entity .escStateJson)
      | some data =>
          match parseFrozenEscConnectivity source data with
          | .error error => .error (.entity error)
          | .ok state => if state = .invalid ∨ state = .unknown then .error (.entity (.escStateRefused state.value)) else .ok ()

-- What the rows of a kind hold, in the order of the snapshot.
def frozenPayloads (kind : String) (records : List ProtectionRecord) : List (String × Json K) :=
  (records.filter fun record => record.kind = kind).filterMap fun record =>
    (loadDict floats record.dataJson).map fun data => (record.recordId, data)

def frozenEntities (records : List ProtectionRecord) : EntityPayloads K where
  fss := (frozenPayloads floats "fss" records).map (·.2)
  wisp := (frozenPayloads floats "wisp" records).map (·.2)
  zones := (frozenPayloads floats "zone" records).map (·.2)
  escRecords := frozenPayloads floats "esc_sensor" records
  pals := (frozenPayloads floats "pal" records).map (·.2)

-- Without records of peer sensors.
def buildProtectionPointsFromFrozen (records : List ProtectionRecord) : Built K (List (ProtectionPoint K)) :=
  (assertFrozenEscConnectivity floats source records).bind fun _ =>
    buildProtectionPointsFromPayloads source (frozenEntities floats records)

def liveEntities (tables : EntityTables K) (pals : List (Json K)) : EntityPayloads K where
  fss := loadInjected floats tables.fss
  wisp := loadInjected floats tables.wisp
  zones := loadInjected floats tables.zones
  escRecords := loadSensors floats tables.escSensors
  pals := pals

def buildProtectionPointsFromDb (tables : EntityTables K) : Built K (List (ProtectionPoint K)) :=
  (loadPals floats tables).bind fun pals => buildProtectionPointsFromPayloads source (liveEntities floats tables pals)

end Building

end SasCore.Iap
