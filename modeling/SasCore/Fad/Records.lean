import SasCore.Lib.JsonText
import SasCore.Registry.Store
import Mathlib.Data.List.Infix

set_option autoImplicit false

namespace SasCore.Fad

open Registry JsonText

variable {K : Type}

def recordTypes : List String := ["cbsd", "zone", "esc_sensor", "coordination"]

-- The settings of an export, with what it takes from the standard library: the digest, the conversions of
-- texts and numbers, str of a value that is no text, and the text of a whole second.
structure FadSettings (K : Type) where
  sasAdminId : String
  fadPublicBase : String
  sasSasVersion : String
  floats : FloatText K
  sha1Hex : ByteArray → String
  intOfText : String → Option Int
  truncate : K → Int
  str : Json K → String
  utcText : Int → String

def FadSettings.readers (settings : FadSettings K) : PyReaders K :=
  ⟨loads settings.floats, fun text => settings.floats.read text.toList, settings.intOfText, settings.truncate, settings.str⟩

def splitSlash (text : String) : List String := (text.toList.splitOn '/').map String.ofList

def rewriteEscSensorId (adminId : String) (recordId : Option String) : String :=
  let whole := "esc_sensor/" ++ adminId ++ "/"
  match recordId with
  | none => whole ++ "0"
  | some text =>
      if text = "" then whole ++ "0"
      else
        match splitSlash text with
        | first :: _ :: third :: rest =>
            if first = "esc_sensor" then whole ++ String.intercalate "/" (third :: rest) else whole ++ text
        | [first, second] => if first = "esc_sensor" then whole ++ second else whole ++ text
        | _ => whole ++ text

-- The rows of esc_sensors: their ids are written by the rewriting only.
structure EscSensor where
  recordId : String
  dataJson : String
  rewritten : ∃ adminId given, recordId = rewriteEscSensorId adminId given

-- The tables an export reads, each in the order of its ids, with the texts of their JSON columns.
structure FadTables (K : Type) where
  cbsds : List (Cbsd K × String)
  grants : List (Grant K × String)
  zones : List (Nat × String)
  escSensors : List EscSensor

section Ids

variable (settings : FadSettings K)

def cbsdReferenceId (fccId serialNumber : String) : String := fccId ++ "/" ++ settings.sha1Hex serialNumber.toUTF8

def fadCbsdId (fccId serialNumber : String) : String := "cbsd/" ++ cbsdReferenceId settings fccId serialNumber

-- rewrite_zone_id on the id of a record, an error where a value that is no text has no split.
def rewriteZoneId [Field K] [DecidableEq K] (zoneId : Json K) (fallbackSuffix : String) : Except String String :=
  let whole := "zone/ppa/" ++ settings.sasAdminId ++ "/"
  if !zoneId.truthy then .ok (whole ++ fallbackSuffix)
  else
    match zoneId with
    | .text text =>
        match splitSlash text with
        | first :: second :: _ :: fourth :: rest =>
            if first = "zone" ∧ second = "ppa" then .ok (whole ++ String.intercalate "/" (fourth :: rest))
            else .ok (whole ++ fallbackSuffix)
        | _ => .ok (whole ++ fallbackSuffix)
    | _ => .error "AttributeError"

def operationalToReferenceId (ref : String) (cbsds : List (Cbsd K × String)) : String :=
  match cbsds.find? fun row => row.1.cbsdId = ref with
  | some row => cbsdReferenceId settings row.1.fccId row.1.cbsdSerialNumber
  | none =>
      match splitSlash ref with
      | [fccId, serial] =>
          if serial.length = 40 then ref
          else if "cbsd/".toList.isPrefixOf ref.toList then String.ofList (ref.toList.drop 5)
          else cbsdReferenceId settings fccId serial
      | _ => if "cbsd/".toList.isPrefixOf ref.toList then String.ofList (ref.toList.drop 5) else ref

end Ids

section Cbsds

variable (settings : FadSettings K)

def registrationFields : List String :=
  ["fccId", "cbsdCategory", "callSign", "airInterface", "measCapability", "installationParam", "groupingParam"]

-- name in data, `none` where it raises.
def contained (data : Json K) (name : String) : Option Bool :=
  match data with
  | .object _ => some (data.has name)
  | .array items => some (items.any (·.isText name))
  | .text text => some (decide (name.toList <:+: text.toList))
  | _ => none

-- The fields of a registration that are there and not null. A list or a text that contains a name of one
-- raises where the field is read.
def pickedFields (reg : Json K) : Except String (List (String × Json K)) :=
  if reg.isObject then
    .ok (registrationFields.filterMap fun key => if (reg.field key).isNull then none else some (key, reg.field key))
  else
    match registrationFields.mapM (contained reg) with
    | none => .error "TypeError"
    | some found => if found.any id then .error "TypeError" else .ok []

-- Without an azimuth the antenna is omnidirectional.
def withBeamwidth (inst : Json K) : Json K :=
  match inst with
  | .object fields =>
      if (inst.field "antennaAzimuth").isNull then .object (PyDict.set "antennaBeamwidth" (.int 360) fields) else inst
  | other => other

def buildRegistration (reg : Json K) : Except String (Json K) :=
  (pickedFields reg).map fun picked =>
    .object (picked.map fun entry => if entry.1 = "installationParam" then (entry.1, withBeamwidth entry.2) else entry)

def loadedOr (text : String) : Json K := (loads settings.floats text).getD (.object [])

def operationParamFromGrant (grant : Grant K) (grantJson : String) : Except String (Json K) :=
  let req := loadedOr settings grantJson
  if !req.isObject then .error "AttributeError"
  else
    let op := req.field "operationParam"
    if op.isObject && op.has "operationFrequencyRange" then .ok op
    else
      .ok (.object [("maxEirp", (grant.maxEirp.map Json.float).getD .null),
        ("operationFrequencyRange",
          .object [("lowFrequency", .int grant.lowFrequency), ("highFrequency", .int grant.highFrequency)])])

def channelTypeText : ChannelType → String
  | .gaa => "GAA"
  | .pal => "PAL"

def buildGrantRecord (row : Grant K × String) : Except String (Json K) :=
  (operationParamFromGrant settings row.1 row.2).map fun op =>
    .object [("id", .text row.1.grantId), ("channelType", .text (channelTypeText row.1.channelType)),
      ("grantExpireTime", .text (settings.utcText (wholeSecond row.1.grantExpireTime))), ("operationParam", op),
      ("requestedOperationParam", op), ("terminated", .bool row.1.terminated)]

def exportedGrants (tables : FadTables K) (cbsd : Cbsd K) : List (Grant K × String) :=
  tables.grants.filter fun row => row.1.cbsdPk = cbsd.id && !row.1.terminated

def buildCbsdRecord (tables : FadTables K) (row : Cbsd K × String) : Except String (Json K) :=
  match buildRegistration (loadedOr settings row.2) with
  | .error error => .error error
  | .ok registration =>
      ((exportedGrants tables row.1).mapM (buildGrantRecord settings)).map fun grants =>
        .object [("id", .text (fadCbsdId settings row.1.fccId row.1.cbsdSerialNumber)), ("registration", registration),
          ("grants", .array grants)]

-- Only currently registered CBSDs belong in the dump.
def buildCbsdRecords (tables : FadTables K) : Except String (List (Json K)) :=
  (tables.cbsds.filter fun row => row.1.lifecycleState = some .registered).mapM (buildCbsdRecord settings tables)

end Cbsds

section Zones

variable [Field K] [DecidableEq K] (settings : FadSettings K)

-- The references of a zone, an error where they are nothing to run through.
def referenceIds (tables : FadTables K) (refs : Json K) : Except String (List (Json K)) :=
  match refs.iterated with
  | none => .error "TypeError"
  | some items =>
      .ok (items.map fun item =>
        .text (operationalToReferenceId settings (item.toText settings.readers) tables.cbsds))

def withReferenceIds (tables : FadTables K) (record : List (String × Json K)) : Except String (List (String × Json K)) :=
  match (PyDict.lookup record "ppaInfo").getD .null with
  | .object info =>
      (referenceIds settings tables ((PyDict.lookup info "cbsdReferenceId").getD .null)).map fun refs =>
        PyDict.set "ppaInfo" (.object (PyDict.set "cbsdReferenceId" (.array refs) info)) record
  | _ => .ok record

-- `none` for a row that is passed over.
def buildZoneRecord (tables : FadTables K) (row : Nat × String) : Except String (Option (Json K)) :=
  match loads settings.floats (if row.2 = "" then "{}" else row.2) with
  | none => .ok none
  | some payload =>
      if !payload.isObject then .error "AttributeError"
      else
        let inner := payload.field "record"
        match if inner.truthy then inner else payload with
        | .object record =>
            let held := Json.object record
            let usage := held.field "usage"
            if (!usage.isNull && !usage.isText "PPA" && !held.has "ppaInfo") || (held.field "terminated").isTrue then .ok none
            else
              match rewriteZoneId settings (held.field "id") (toString row.1) with
              | .error error => .error error
              | .ok zoneId =>
                  (withReferenceIds settings tables (PyDict.set "id" (.text zoneId) record)).map fun fields =>
                    some (.object fields)
        | _ => .ok none

def buildZoneRecords (tables : FadTables K) : Except String (List (Json K)) :=
  (tables.zones.mapM (buildZoneRecord settings tables)).map fun records => records.filterMap id

def buildEscRecord (row : EscSensor) : Option (Json K) :=
  match loads settings.floats (if row.dataJson = "" then "{}" else row.dataJson) with
  | some (.object record) => some (.object (PyDict.set "id" (.text row.recordId) record))
  | _ => none

def buildEscRecords (tables : FadTables K) : List (Json K) := tables.escSensors.filterMap (buildEscRecord settings)

def buildCoordinationRecords (_ : FadTables K) : List (Json K) := []

def buildRecords (tables : FadTables K) (recordType : String) : Except String (List (Json K)) :=
  if recordType = "cbsd" then buildCbsdRecords settings tables
  else if recordType = "zone" then buildZoneRecords settings tables
  else if recordType = "esc_sensor" then .ok (buildEscRecords settings tables)
  else .ok (buildCoordinationRecords tables)

end Zones

end SasCore.Fad
