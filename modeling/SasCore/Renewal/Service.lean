import SasCore.Registry.Heartbeat
import SasCore.Injection.Service

set_option autoImplicit false

namespace SasCore.Renewal

open Registry Injection

-- A date text as datetime.fromisoformat reads it: what it does not read, what has no instant in UTC, and the rest.
inductive IsoReading where
  | unreadable
  | outOfRange
  | instant (value : Int)
deriving DecidableEq, Repr

structure RenewalEnv (K : Type) where
  readers : PyReaders K
  strptime : String → Option Int
  fromIsoFormat : String → IsoReading
  strftime : Int → String

-- A row of the grants table; grant_json is `none` where its text is no JSON.
structure GrantRow (K : Type) where
  id : Nat
  grantId : String
  cbsdPk : Nat
  cbsdId : String
  channelType : String
  lowFrequency : Int
  highFrequency : Int
  maxEirp : Option K
  grantExpireTime : Int
  heartbeatInterval : Nat
  transmitExpireTime : Option Int
  authorized : Bool
  measReportRequested : Bool
  terminated : Bool
  lifecycleState : Option GrantState
  grantJson : Option (Json K)

structure PalRecord (K : Type) where
  palId : String
  licenseStatus : String
  licenseExpiration : Option String
  recordJson : Option (Json K)

-- What ends a renewal by an exception: an expiration out of range, a record whose license has no fields, a stored
-- generation that is no number, and current generations that cannot be read.
inductive Raised where
  | dateOutOfRange
  | licenseNotObject
  | generationNotInt
  | noCurrentStamp
deriving DecidableEq, Repr

def authContextKey : String := "auth_context"
def expirationKey : String := "palLicenseExpiration"

def orText (first second : String) : String := if first = "" then second else first

section Reading

variable {K : Type} [Field K] [LinearOrder K] (env : RenewalEnv K)

def parseUtcZ (value : Json K) : Except Raised (Option Int) :=
  let text := if value.isNull then [] else PyText.strip (value.toText env.readers).toList
  if text = [] then .ok none
  else if text.getLast? = some 'Z' then
    .ok ((env.strptime (String.ofList text)).map fun seconds => wholeSecond (seconds * second))
  else
    match env.fromIsoFormat (String.ofList (text.flatMap fun c => if c = 'Z' then "+00:00".toList else [c])) with
    | .unreadable => .ok none
    | .outOfRange => .error .dateOutOfRange
    | .instant value => .ok (some (wholeSecond value))

def loadGrantMeta (row : GrantRow K) : List (String × Json K) :=
  match row.grantJson with
  | some (.object fields) => fields
  | _ => []

def get (dict : List (String × Json K)) (key : String) : Json K := (PyDict.lookup dict key).getD .null

def authContext (data : List (String × Json K)) : Option (List (String × Json K)) :=
  match PyDict.lookup data authContextKey with
  | some (.object fields) => some fields
  | _ => none

-- Legacy grants have the context of their channel column.
def loadAuthContext (row : GrantRow K) : List (String × Json K) :=
  (authContext (loadGrantMeta row)).getD [("channelType", .text (orText row.channelType "GAA"))]

def palId (row : GrantRow K) : Option String :=
  let held := get (loadAuthContext row) "palId"
  if held.truthy then some (held.toText env.readers) else none

def linkedPal (pals : List (PalRecord K)) (row : GrantRow K) : Option (PalRecord K) :=
  (palId env row).bind fun id => pals.find? fun pal => pal.palId = id

def licenseStatus (pal : PalRecord K) : List Char := upperOf (orText pal.licenseStatus "VALID")

def statusValid (pal : PalRecord K) : Bool := licenseStatus pal == "VALID".toList

def textColumn (column : Option String) : Json K := column.elim .null .text

-- The expiration in the record of a PAL; a record that is no object has none.
def recordExpiration (pal : PalRecord K) : Except Raised (Option Int) :=
  match pal.recordJson with
  | some (.object fields) =>
      match (get fields "license").orEmpty with
      | none => .error .licenseNotObject
      | some license => parseUtcZ env (license.field "licenseExpiration")
  | _ => .ok none

def storedExpiration (row : GrantRow K) : Except Raised (Option Int) :=
  parseUtcZ env (get (loadAuthContext row) expirationKey)

def firstKnown (first : Except Raised (Option Int)) (later : Except Raised (Option Int)) : Except Raised (Option Int) :=
  match first with
  | .error raised => .error raised
  | .ok (some known) => .ok (some known)
  | .ok none => later

def resolvePalLicenseCap (pals : List (PalRecord K)) (row : GrantRow K) : Except Raised (Option Int) :=
  match linkedPal env pals row with
  | none => storedExpiration env row
  | some pal =>
      if statusValid pal then
        firstKnown (parseUtcZ env (textColumn pal.licenseExpiration))
          (firstKnown (recordExpiration env pal) (storedExpiration env row))
      else .ok none

def grantExpired (row : GrantRow K) (now : Int) : Bool := wholeSecond row.grantExpireTime ≤ wholeSecond now

def resolveGrantState (row : GrantRow K) (now : Int) : GrantState :=
  match row.lifecycleState with
  | some state =>
      if (state = .granted ∨ state = .authorized ∨ state = .suspended) ∧ grantExpired row now then .expired else state
  | none =>
      if row.terminated then .terminated
      else if grantExpired row now then .expired
      else if row.authorized then .authorized
      else .granted

def channelOf (row : GrantRow K) : List Char :=
  upperOf ((orValue (get (loadAuthContext row) "channelType") (.text (orText row.channelType "GAA"))).toText env.readers)

def palAuthorized (row : GrantRow K) : Bool := channelOf env row == "PAL".toList

end Reading

section Renewing

variable {K : Type} [Field K] [LinearOrder K] (env : RenewalEnv K) (pals : List (PalRecord K))

def renewedAt (newExpire : Int) : RenewalResult := ⟨true, success, some newExpire, none⟩

def computeRenewal (row : GrantRow K) (now : Int) : Except Raised RenewalResult :=
  let wall := wholeSecond now
  if (resolveGrantState row wall).terminal || row.terminated then .ok (renewalRefused "terminal_or_expired")
  else if wholeSecond row.grantExpireTime ≤ wall then .ok (renewalRefused "grant_already_expired")
  else
    let default := wall + defaultGrantDurationSec * second
    if palAuthorized env row then
      if (linkedPal env pals row).any fun pal => !statusValid pal then .ok (renewalRefused "pal_license_invalid")
      else
        match resolvePalLicenseCap env pals row with
        | .error raised => .error raised
        | .ok none => .ok (renewalRefused "pal_license_missing")
        | .ok (some cap) =>
            if wholeSecond cap ≤ wall then .ok (renewalRefused "pal_license_expired")
            else .ok (renewedAt (min default (wholeSecond cap)))
    else .ok (renewedAt default)

-- The stored generation keys with the generations they stand for, in the order they are compared.
def generationFields (stamp : SyncStamp) : List (String × Int) :=
  [("fss_gen", stamp.fss), ("gwbl_gen", stamp.gwbl), ("exz_gen", stamp.exz), ("dpa_gen", stamp.dpa)]

-- int(meta.get(key) or 0)
def storedGeneration (data : List (String × Json K)) (key : String) : Option Int :=
  let held := get data key
  if held.truthy then held.toInt env.readers else some 0

-- The comparison ends at the first generation that moved.
def driftAmong (data : List (String × Json K)) : List (String × Int) → Except Raised Bool
  | [] => .ok false
  | (key, generation) :: rest =>
      match storedGeneration env data key with
      | none => .error .generationNotInt
      | some held => if held = generation then driftAmong data rest else .ok true

-- The current generations are `none` where grant_sync_stamp raises.
def protectionStampDrifted (current : Option SyncStamp) (row : GrantRow K) : Except Raised Bool :=
  match current with
  | none => .error .noCurrentStamp
  | some stamp => driftAmong env (loadGrantMeta row) (generationFields stamp)

def stampedMeta (stamp : SyncStamp) (data : List (String × Json K)) : List (String × Json K) :=
  PyDict.update ((generationFields stamp).map fun entry => (entry.1, .int entry.2)) data

def refreshProtectionStamp (stamp : SyncStamp) (row : GrantRow K) : GrantRow K :=
  { row with grantJson := some (.object (stampedMeta stamp (loadGrantMeta row))) }

-- str(auth.get("channelType") or "").upper()
def contextChannel (auth : List (String × Json K)) : List Char :=
  let channel := get auth "channelType"
  if channel.truthy then upperOf (channel.toText env.readers) else []

-- What keeps the stored licence expiration in step with the live one.
def syncLicense (row : GrantRow K) : GrantRow K × Except Raised Unit :=
  match authContext (loadGrantMeta row) with
  | none => (row, .ok ())
  | some auth =>
      if contextChannel env auth = "PAL".toList then
        match resolvePalLicenseCap env pals row with
        | .error raised => (row, .error raised)
        | .ok none => (row, .ok ())
        | .ok (some cap) =>
            let dated := PyDict.set expirationKey (.text (env.strftime cap)) auth
            ({ row with grantJson := some (.object (PyDict.set authContextKey (.object dated) (loadGrantMeta row))) }, .ok ())
      else (row, .ok ())

def restamp (current : Option SyncStamp) (result : RenewalResult) (row : GrantRow K) :
    GrantRow K × Except Raised RenewalResult :=
  match protectionStampDrifted env current row with
  | .error raised => (row, .error raised)
  | .ok drifted =>
      match current with
      | none => (row, .error .noCurrentStamp)
      | some stamp =>
          match syncLicense env pals (refreshProtectionStamp stamp row) with
          | (synced, .error raised) => (synced, .error raised)
          | (synced, .ok _) =>
              (synced, .ok (if drifted then { result with detail := some "protections_restamped" } else result))

def applyRenewal (current : Option SyncStamp) (row : GrantRow K) (now : Int) : GrantRow K × Except Raised RenewalResult :=
  match computeRenewal env pals row now with
  | .error raised => (row, .error raised)
  | .ok result =>
      match result.ok, result.newExpire with
      | true, some newExpire => restamp env pals current result { row with grantExpireTime := newExpire }
      | _, _ => (row, .ok result)

end Renewing

end SasCore.Renewal
