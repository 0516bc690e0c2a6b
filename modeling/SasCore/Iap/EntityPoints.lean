import SasCore.Iap.ProtectionPoints
import Mathlib.Data.Prod.Lex
import Mathlib.Data.String.Basic

set_option autoImplicit false

namespace SasCore.Iap

variable {K : Type} [Field K] [LinearOrder K]

-- The reasons for a ProtectionEntityError, with the values that its texts show.
inductive EntityError (K : Type) where
  | fssTtc (raw : Json K)
  | fssRange | fssTtcRequired
  | escRecord | escPatternMissing | escPatternEntry | escPatternValue | escPatternAngle | escPatternIncomplete
  | escHeight (recordId : String)
  | escAzimuth (recordId : String)
  | escRange (recordId : String)
  | escStateJson | escStateObject | escStateMissing
  | escStateInvalid (raw : Json K)
  | escStateRefused (state : String)

def EntityError.text (repr : Json K → String) : EntityError K → String
  | .fssTtc raw => "invalid FSS ttc value: " ++ repr raw
  | .fssRange => "FSS operationFrequencyRange invalid"
  | .fssTtcRequired => "FSS in 3700–4200 MHz requires explicit ttc for blocking applicability"
  | .escRecord => "ESC sensor record must be an object"
  | .escPatternMissing => "ESC azimuthRadiationPattern missing or empty"
  | .escPatternEntry => "ESC azimuthRadiationPattern entry invalid"
  | .escPatternValue => "ESC azimuthRadiationPattern angle/gain invalid"
  | .escPatternAngle => "ESC azimuthRadiationPattern angle out of range"
  | .escPatternIncomplete => "ESC azimuthRadiationPattern incomplete (need 0..359)"
  | .escHeight recordId => "ESC " ++ recordId ++ " installation height missing"
  | .escAzimuth recordId => "ESC " ++ recordId ++ " antennaAzimuth missing"
  | .escRange recordId => "ESC " ++ recordId ++ " frequency range invalid"
  | .escStateJson => "esc_state JSON invalid"
  | .escStateObject => "esc_state payload must be an object"
  | .escStateMissing => "esc_state missing state"
  | .escStateInvalid raw => "esc_state invalid: " ++ repr raw
  | .escStateRefused state => "ESC connectivity state " ++ state ++ " cannot authorize RF"

-- What building points raises: a ProtectionEntityError, or any other exception.
inductive BuildError (K : Type) where
  | entity (error : EntityError K)
  | other

abbrev Built (K α : Type) := Except (BuildError K) α

def escPassbandLowHz : Int := 3550000000
def escPassbandHighHz : Int := 3680000000
def fssTtcLowHz : Int := 3700000000
def fssTtcHighHz : Int := 4200000000

def neighborhoodGwpzKm : K := (40 : Nat)
def neighborhoodFssCochannelKm : K := (150 : Nat)
def neighborhoodFssBlockingKm : K := (40 : Nat)
def neighborhoodEscKm : K := (80 : Nat)

def escThresholdDbm : K := -(109 : Nat)
def fssCochannelThresholdDbm : K := -(129 : Nat)
def fssBlockingThresholdDbm : K := -(60 : Nat)
def gwpzThresholdDbm : K := -(80 : Nat)

section Reading

variable (source : PointSource K)

def pointFromInstallation (inst : Json K) : Option (K × K) :=
  match (inst.field "latitude").toFloat source.readers, (inst.field "longitude").toFloat source.readers with
  | some lat, some lon =>
      if -((90 : Nat) : K) ≤ lat && lat ≤ (90 : Nat) && -((180 : Nat) : K) ≤ lon && lon ≤ (180 : Nat) then some (lat, lon) else none
  | _, _ => none

-- The first deployment, when it is an object.
def deployment (record : Json K) : Option (Json K) := (record.field "deploymentParam").items.head?.filter (·.isObject)

-- (first.get("operationParam") or {}).get("operationFrequencyRange")
def deploymentRange (first : Json K) : Built K (Json K) :=
  match (first.field "operationParam").orEmpty with
  | none => .error .other
  | some op => .ok (op.field "operationFrequencyRange")

def hasRange (range : Json K) : Bool := range.has "lowFrequency" || range.has "highFrequency"

end Reading

section Fss

variable (source : PointSource K)

def ttcTrue : List String := ["true", "1", "yes", "on"]

def ttcFalse : List String := ["false", "0", "no", "off"]

def parseFssTtc (payload : Json K) : Built K (Option Bool) :=
  if !payload.has "ttc" then .ok none
  else
    match payload.field "ttc" with
    | .bool value => .ok (some value)
    | .int value => .ok (some (value != 0))
    | .float value => .ok (some (value != 0))
    | .text value =>
        let text := String.ofList (PyText.lower (PyText.strip value.toList))
        if text ∈ ttcTrue then .ok (some true)
        else if text ∈ ttcFalse then .ok (some false)
        else .error (.entity (.fssTtc (.text value)))
    | raw => .error (.entity (.fssTtc raw))

def fssLocAndFreq (payload : Json K) : Built K (Option ((K × K) × (Int × Int))) :=
  match deployment (zoneRecord payload) with
  | none => .ok none
  | some first =>
      let loc := pointFromInstallation source (first.field "installationParam")
      (deploymentRange first).bind fun range =>
        if hasRange range then
          match freqPair source range with
          | none => .error (.entity .fssRange)
          | some fr => .ok (loc.map fun place => (place, fr))
        else .ok none

def fssCochannelPoint (pointId : String) (loc : K × K) (fr : Int × Int) : Option (ProtectionPoint K) :=
  if source.bandHighHz ≤ fr.2 && fr.1 < source.bandHighHz then
    (clipFrequencyToCbrs source (max fr.1 source.bandLowHz) source.bandHighHz).map fun clipped =>
      { pointId := "fss-cc:" ++ pointId
        latitude := loc.1
        longitude := loc.2
        lowHz := clipped.1
        highHz := clipped.2
        thresholdDbm := fssCochannelThresholdDbm
        entityKind := .fssCochannel
        preIapMarginDb := preIapMarginDb
        neighborhoodKm := some neighborhoodFssCochannelKm
        sourceEntityId := some pointId }
  else none

def fssBlockingPoint (pointId : String) (loc : K × K) (fr : Int × Int) : Option (ProtectionPoint K) :=
  let blockHigh := min fr.1 source.bandHighHz
  if source.bandLowHz < fr.1 && source.bandLowHz < blockHigh then
    some
      { pointId := "fss-bl:" ++ pointId
        latitude := loc.1
        longitude := loc.2
        lowHz := source.bandLowHz
        highHz := blockHigh
        thresholdDbm := fssBlockingThresholdDbm
        entityKind := .fssBlocking
        preIapMarginDb := preIapMarginDb
        neighborhoodKm := some neighborhoodFssBlockingKm
        sourceEntityId := some pointId }
  else none

def entirelyTtcBand (fr : Int × Int) : Bool := fssTtcLowHz ≤ fr.1 && fr.2 ≤ fssTtcHighHz

-- The points of an FSS at a place, by the text of its id.
def fssPoints (pointId : String) (loc : K × K) (fr : Int × Int) (ttc : Option Bool) : Built K (List (ProtectionPoint K)) :=
  let cochannel := (fssCochannelPoint source pointId loc fr).toList
  if entirelyTtcBand fr && ttc == some false then .ok cochannel
  else if entirelyTtcBand fr && ttc.isNone then .error (.entity .fssTtcRequired)
  else .ok (cochannel ++ (fssBlockingPoint source pointId loc fr).toList)

def protectionPointsFromFssPayload (payload : Json K) : Built K (List (ProtectionPoint K)) :=
  (fssLocAndFreq source payload).bind fun parsed =>
    match parsed with
    | none => .ok []
    | some (loc, fr) =>
        if fr.1 ≤ 0 || fr.2 ≤ fr.1 then .error (.entity .fssRange)
        else
          (parseFssTtc payload).bind fun ttc =>
            fssPoints source (idText source ((zoneRecord payload).field "id") "fss") loc fr ttc

end Fss

section Wisp

variable (source : PointSource K)

-- Without a range of its own the upper part of the band.
def gwpzRange (record : Json K) : Built K (Int × Int) :=
  let upper := (max source.bandLowHz 3650000000, source.bandHighHz)
  match deployment record with
  | none => .ok upper
  | some first => (deploymentRange first).map fun range => (freqPair source range).getD upper

def gwpzPoint (pointId : String) (loc : K × K) (fr : Int × Int) : Option (ProtectionPoint K) :=
  (clipFrequencyToCbrs source fr.1 fr.2).map fun clipped =>
    { pointId := "gwpz:" ++ pointId
      latitude := loc.1
      longitude := loc.2
      lowHz := clipped.1
      highHz := clipped.2
      thresholdDbm := gwpzThresholdDbm
      entityKind := .gwpz
      preIapMarginDb := preIapMarginDb
      neighborhoodKm := some neighborhoodGwpzKm }

-- Where the zone lies, an exception where its geometry cannot be read.
def zonePlace (zone : Json K) : Built K (Option (K × K)) :=
  match (geometryFromZoneBlob zone).bind (representativePoint source) with
  | none => .error .other
  | some place => .ok place

def protectionPointFromWispPayload (payload : Json K) : Built K (Option (ProtectionPoint K)) :=
  let record := payload.field "record"
  if !record.isObject then .ok none
  else
    (zonePlace source (payload.field "zone")).bind fun place =>
      match place with
      | none => .ok none
      | some loc => (gwpzRange source record).map fun fr => gwpzPoint source (idText source (record.field "id") "gwpz") loc fr

end Wisp

section Esc

variable (source : PointSource K)

def escInstallation (record : Json K) : Option (Json K) :=
  match record.dictField "installationParam" with
  | some install => some install
  | none => (deployment record).bind fun first => first.dictField "installationParam"

-- One entry of the pattern, put at its angle.
def escGainEntry (gains : List (Option K)) (entry : Json K) : Built K (List (Option K)) :=
  if !entry.isObject then .error (.entity .escPatternEntry)
  else
    match (entry.field "angle").toInt source.readers, (entry.field "gain").toFloat source.readers with
    | some angle, some gain =>
        if angle < 0 || 359 < angle then .error (.entity .escPatternAngle) else .ok (gains.set angle.toNat (some gain))
    | _, _ => .error (.entity .escPatternValue)

def escGainPatternFromInstall (install : Json K) : Built K (List K) :=
  let entries := (install.field "azimuthRadiationPattern").items
  if entries.isEmpty then .error (.entity .escPatternMissing)
  else
    (entries.foldlM (escGainEntry source) (List.replicate 360 none)).bind fun gains =>
      match gains.mapM id with
      | none => .error (.entity .escPatternIncomplete)
      | some pattern => .ok pattern

-- The first of the two ranges that has a bound; without one the passband.
def escRange (recordId : String) (record : Json K) : Built K (Int × Int) :=
  match ["protectionFrequencyRange", "operationFrequencyRange"].find? fun key => hasRange (record.field key) with
  | none => .ok (escPassbandLowHz, escPassbandHighHz)
  | some key =>
      match freqPair source (record.field key) with
      | none => .error (.entity (.escRange recordId))
      | some fr => .ok fr

def escPoint (recordId : String) (record : Json K) (loc : K × K) (height azimuth : K) (pattern : List K) (fr : Int × Int) :
    Option (ProtectionPoint K) :=
  (clipFrequencyToCbrs source fr.1 fr.2).map fun clipped =>
    { pointId := "esc:" ++ idText source (if recordId = "" then record.field "id" else .text recordId) "esc"
      latitude := loc.1
      longitude := loc.2
      lowHz := clipped.1
      highHz := clipped.2
      thresholdDbm := escThresholdDbm
      entityKind := .esc
      preIapMarginDb := preIapMarginDb
      neighborhoodKm := some neighborhoodEscKm
      receiverHeightM := some height
      receiverAntennaAzimuthDeg := some azimuth
      receiverAntennaGainPatternDbi := some pattern }

def protectionPointFromEscSensorRecord (recordId : String) (record : Json K) : Built K (Option (ProtectionPoint K)) :=
  if !record.isObject then .error (.entity .escRecord)
  else
    match (escInstallation record).bind fun install => (pointFromInstallation source install).map fun loc => (install, loc) with
    | none => .ok none
    | some (install, loc) =>
        match (install.field "height").toFloat source.readers, (install.field "antennaAzimuth").toFloat source.readers with
        | none, _ => .error (.entity (.escHeight recordId))
        | some _, none => .error (.entity (.escAzimuth recordId))
        | some height, some azimuth =>
            (escGainPatternFromInstall source install).bind fun pattern =>
              (escRange source recordId record).map fun fr => escPoint source recordId record loc height azimuth pattern fr

end Esc

section Payloads

variable (source : PointSource K)

def zonePoint (palById : List (String × Json K)) (payload : Json K) : Built K (Option (ProtectionPoint K)) :=
  match protectionPointFromZonePayload source palById payload with
  | none => .error .other
  | some point => .ok point

-- pal.get("palId") or (pal.get("record") or {}).get("palId")
def palIdOf (pal : Json K) : Built K (Json K) :=
  if (pal.field "palId").truthy then .ok (pal.field "palId")
  else
    match (pal.field "record").orEmpty with
    | none => .error .other
    | some record => .ok (record.field "palId")

def indexPal (index : List (String × Json K)) (pal : Json K) : Built K (List (String × Json K)) :=
  if !pal.isObject then .ok index
  else (palIdOf pal).map fun id => if id.truthy then PyDict.set (id.toText source.readers) pal index else index

def indexPals (pals : List (Json K)) : Built K (List (String × Json K)) := pals.foldlM (indexPal source) []

def entityKindValue : ProtectedEntityKind → String
  | .esc => "esc"
  | .fssCochannel => "fss_cochannel"
  | .fssBlocking => "fss_blocking"
  | .ppa => "ppa"
  | .gwpz => "gwpz"
  | .generic => "generic"

def pointBefore (first second : ProtectionPoint K) : Bool :=
  decide (toLex (entityKindValue first.entityKind, toLex (first.pointId, toLex (first.lowHz, first.highHz))) ≤
    toLex (entityKindValue second.entityKind, toLex (second.pointId, toLex (second.lowHz, second.highHz))))

-- The payloads that points are built from, each with the id of its row where that counts.
structure EntityPayloads (K : Type) where
  fss : List (Json K)
  wisp : List (Json K)
  zones : List (Json K)
  escRecords : List (String × Json K)
  pals : List (Json K)

def buildProtectionPointsFromPayloads (payloads : EntityPayloads K) : Built K (List (ProtectionPoint K)) := do
  let palById ← indexPals source payloads.pals
  let fss ← payloads.fss.mapM (protectionPointsFromFssPayload source)
  let wisp ← payloads.wisp.mapM (protectionPointFromWispPayload source)
  let zones ← payloads.zones.mapM (zonePoint source palById)
  let esc ← payloads.escRecords.mapM fun sensor => protectionPointFromEscSensorRecord source sensor.1 sensor.2
  pure ((fss.flatten ++ wisp.filterMap id ++ zones.filterMap id ++ esc.filterMap id).mergeSort pointBefore)

end Payloads

end SasCore.Iap
