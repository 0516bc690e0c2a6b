import SasCore.Lib.Json
import SasCore.Registry.CbsdService
import Mathlib.Algebra.Order.Field.Basic

set_option autoImplicit false
set_option linter.unusedSectionVars false

namespace SasCore.Registry

variable {K : Type} [Field K] [LinearOrder K]

def blacklistedRegistration : Nat := 101
def pendingCode : Nat := 200
-- An exception ends the request, with no row written.
def raisedCode : Nat := 500
def validMeas : List String := ["RECEIVED_POWER_WITHOUT_GRANT", "RECEIVED_POWER_WITH_GRANT"]
def catAMaxEirpDbm : K := (30 : Nat)
def catAMaxHaatM : K := (6 : Nat)

-- The catalogues, the CPI signature, the terrain and the quiet zones, and how the stored registration is read back.
structure RegistrationEnv (K : Type) where
  readers : PyReaders K
  blacklisted : String → String → Bool
  verifyRequestCpi : Json K → Except Nat (Option (Json K))
  conditionals : String → String → Json K
  fccMaxEirp : String → Option K
  userKnown : String → Bool
  catAOutdoorHaatExceeds : Json K → Bool
  quietZoneBlocks : Json K → Json K → Bool
  registrationOf : Json K → Registration K

section Merge

mutual

-- The overlay wins, except that two objects are merged.
def mergeValue : Json K → Option (Json K) → Json K
  | .object fields, some (.object held) => .object (mergeFields fields held)
  | value, _ => value

def mergeFields : List (String × Json K) → List (String × Json K) → List (String × Json K)
  | [], base => base
  | (key, value) :: rest, base => mergeFields rest (PyDict.set key (mergeValue value (PyDict.lookup base key)) base)

end

def deepMerge (base overlay : Json K) : Except Nat (Json K) :=
  match base, overlay with
  | .object held, .object fields => .ok (.object (mergeFields fields held))
  | _, _ => .error raisedCode

def givenFields : Json K → Json K
  | .object fields => .object (fields.filter fun entry => !entry.2.isNull)
  | other => other

def fillMissing (key : String) (signed merged : Json K) : Json K :=
  if signed.has key && !(merged.field key).truthy then merged.put key (signed.field key) else merged

-- The request over the conditionals, and the signed installation over both.
def mergeRegistration (request conditionals : Json K) (signed : Option (Json K)) : Except Nat (Json K) := do
  let merged ← deepMerge conditionals (givenFields request)
  match signed.filter (·.truthy) with
  | none => .ok merged
  | some payload =>
      let installed ← if payload.has "installationParam" then do
          let existing := if (merged.field "installationParam").truthy then merged.field "installationParam" else .object []
          let whole ← deepMerge existing (payload.field "installationParam")
          .ok (merged.put "installationParam" whole)
        else .ok merged
      .ok (fillMissing "cbsdSerialNumber" payload (fillMissing "fccId" payload installed))

end Merge

section Fields

-- The schema lets texts and nulls through; a missing text is the empty one.
def textField (request : Json K) (key : String) : String :=
  match request.field key with
  | .text value => value
  | _ => ""

def requestOf (request : Json K) : RegistrationRequest :=
  ⟨textField request "fccId", textField request "cbsdSerialNumber", textField request "userId"⟩

def missingRegistrationFields (req : RegistrationRequest) : Bool := req.userId = "" || req.fccId = "" || req.cbsdSerialNumber = ""

-- What is no object has no fields.
def fieldMissing (container : Json K) (key : String) : Bool := (container.field key).isNull

def isUserIdChar (c : Char) : Bool :=
  ('A' ≤ c && c ≤ 'Z') || ('a' ≤ c && c ≤ 'z') || ('0' ≤ c && c ≤ '9') || c = '_' || c = ':' || c = '-'

-- ^[A-Za-z0-9_:-]+$ also matches in front of a last line feed.
def validUserId (text : String) : Bool :=
  let body := if text.toList.getLast? = some '\n' then text.toList.dropLast else text.toList
  !body.isEmpty && body.all isUserIdChar

-- Present, and no number between the bounds; the upper one may be excluded.
def outOfRange (value : Json K) (low high : K) (strict : Bool) : Bool :=
  !value.isNull &&
    match value.number with
    | none => true
    | some held => held < low || high < held || (strict && held = high)

def installationOf (merged : Json K) : Except Nat (Json K) :=
  match (merged.field "installationParam").orEmpty with
  | none => .error raisedCode
  | some installation => .ok installation

def requiredCommon : List String := ["latitude", "longitude", "height", "heightType"]
def requiredCatB : List String := ["antennaAzimuth", "antennaGain", "antennaBeamwidth"]

def hasPendingParams (merged installation : Json K) : Bool :=
  let category := merged.field "cbsdCategory"
  let air := merged.field "airInterface"
  !category.truthy || !air.truthy || fieldMissing air "radioTechnology" || !installation.truthy ||
    requiredCommon.any (fieldMissing installation) || (category.isText "A" && fieldMissing installation "indoorDeployment") ||
    (category.isText "B" && requiredCatB.any (fieldMissing installation))

def isFalse : Json K → Bool
  | .bool value => !value
  | _ => false

end Fields

section Validation

variable (env : RegistrationEnv K)

def invalidMeas (meas : Json K) : Except Nat Bool :=
  match meas with
  | .null => .ok false
  | .array items => items.anyM fun item => if item.hashable then .ok (!validMeas.any item.isText) else .error raisedCode
  | _ => .ok true

def invalidHeightType (installation : Json K) : Bool :=
  let heightType := installation.field "heightType"
  !heightType.isNull && !heightType.isText "AGL" && !heightType.isText "AMSL"

def invalidEirp (category installation : Json K) (fccMax : K) : Except Nat Bool :=
  if (installation.field "eirpCapability").isNull then .ok false
  else
    match (installation.field "eirpCapability").number with
    | none => .error raisedCode
    | some eirp => .ok (fccMax < eirp || (category.isText "A" && catAMaxEirpDbm < eirp))

-- HAAT matters once the place and the height of an outdoor category A device are there.
def invalidOutdoor (category installation : Json K) : Bool :=
  category.isText "A" && isFalse (installation.field "indoorDeployment") &&
    ((((installation.field "heightType").isText "AGL") &&
        (installation.field "height").number.any fun height => decide (catAMaxHaatM < height)) ||
      ((installation.field "latitude").number.isSome && (installation.field "longitude").number.isSome &&
        (installation.field "height").number.isSome && !(installation.field "heightType").isNull &&
        env.catAOutdoorHaatExceeds installation))

-- A signed request, and one of category B, has no installation in clear.
def invalidClearInstallation (request category : Json K) : Bool :=
  !(request.field "installationParam").isNull && ((request.field "cpiSignatureData").truthy || category.isText "B")

def validateParams (request merged installation : Json K) : Except Nat (Option Nat) := do
  let fccId := (if (merged.field "fccId").truthy then merged.field "fccId" else .text "").toText env.readers
  let userId := (if (merged.field "userId").truthy then merged.field "userId" else .text "").toText env.readers
  let serial := (if (merged.field "cbsdSerialNumber").truthy then merged.field "cbsdSerialNumber" else .text "").toText env.readers
  let category := merged.field "cbsdCategory"
  if 64 < serial.length || 20 < fccId.length || !validUserId userId || !env.userKnown userId then .ok (some invalidParam)
  else
    match env.fccMaxEirp fccId with
    | none => .ok (some invalidParam)
    | some fccMax => do
        let badMeas ← invalidMeas (merged.field "measCapability")
        if badMeas || outOfRange (installation.field "latitude") (-(90 : Nat)) (90 : Nat) false ||
            outOfRange (installation.field "longitude") (-(180 : Nat)) (180 : Nat) false ||
            outOfRange (installation.field "antennaAzimuth") 0 (360 : Nat) true || invalidHeightType installation then
          .ok (some invalidParam)
        else do
          let badEirp ← invalidEirp category installation fccMax
          if badEirp || invalidOutdoor env category installation ||
              (category.isText "B" && (installation.field "indoorDeployment").isTrue) || invalidClearInstallation request category then
            .ok (some invalidParam)
          else .ok none

-- What process_registration does in front of the CBSD lock: an answer, or the merged registration.
def checkRegistration (request : Json K) : Except Nat (Json K) :=
  let req := requestOf request
  if missingRegistrationFields req then .error missingParam
  else if env.blacklisted req.fccId req.cbsdSerialNumber then .error blacklistedRegistration
  else do
    let signed ← env.verifyRequestCpi request
    let merged ← mergeRegistration request (env.conditionals req.fccId req.cbsdSerialNumber) signed
    let installation ← installationOf merged
    match ← validateParams env request merged installation with
    | some code => .error code
    | none =>
        if hasPendingParams merged installation then .error pendingCode
        else if env.quietZoneBlocks installation (merged.field "cbsdCategory") then .error invalidParam
        else .ok merged

-- One item of process_registration.
def registerCbsd (certificateHash : Option String) (clock : Clock) (request : Json K) (store : Store K) : Store K × ServiceResponse :=
  registrationItem ((checkRegistration env request).map env.registrationOf) certificateHash clock (requestOf request) store

end Validation

end SasCore.Registry
