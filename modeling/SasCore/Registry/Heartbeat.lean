import SasCore.Lib.PyText
import SasCore.Registry.Lifecycle

set_option autoImplicit false

namespace SasCore.Registry

variable {K : Type}

def second : Int := 1000000
def defaultGrantDurationSec : Int := 900
def heartbeatIntervalSec : Nat := 60
def measWithGrant : String := "RECEIVED_POWER_WITH_GRANT"

-- A PAL record as renewal reads it; the two expirations are parsed already, `none` when unusable.
structure PalRow where
  palId : String
  licenseStatus : Option String
  licenseExpiration : Option Int
  recordExpiration : Option Int
deriving DecidableEq, Repr

structure RenewalResult where
  ok : Bool
  responseCode : Nat
  newExpire : Option Int
  detail : Option String
deriving DecidableEq, Repr

def loadAuthContext (grant : Grant K) : AuthContext := grant.grantJson.authContext.getD ⟨grant.channelType, none, none⟩

def linkedPal (pals : List PalRow) (grant : Grant K) : Option PalRow :=
  (loadAuthContext grant).palId.bind fun palId => pals.find? fun row => row.palId = palId

def palStatusValid (row : PalRow) : Bool := PyText.upper ((row.licenseStatus.getD "VALID").toList) == "VALID".toList

def resolvePalLicenseCap (pals : List PalRow) (grant : Grant K) : Option Int :=
  match linkedPal pals grant with
  | some row =>
      if palStatusValid row then
        row.licenseExpiration.orElse fun _ => row.recordExpiration.orElse fun _ =>
          (loadAuthContext grant).palLicenseExpiration
      else none
  | none => (loadAuthContext grant).palLicenseExpiration

def renewalRefused (detail : String) : RenewalResult := ⟨false, invalidParam, none, some detail⟩

def computeRenewal (pals : List PalRow) (grant : Grant K) (now : Int) : RenewalResult :=
  let wall := wholeSecond now
  if (resolveGrantState grant wall).terminal || grant.terminated then renewalRefused "terminal_or_expired"
  else if wholeSecond grant.grantExpireTime ≤ wall then renewalRefused "grant_already_expired"
  else
    let default := wall + defaultGrantDurationSec * second
    match (loadAuthContext grant).channelType with
    | .gaa => ⟨true, success, some default, none⟩
    | .pal =>
        if (linkedPal pals grant).any fun row => !palStatusValid row then renewalRefused "pal_license_invalid"
        else
          match resolvePalLicenseCap pals grant with
          | none => renewalRefused "pal_license_missing"
          | some cap =>
              if wholeSecond cap ≤ wall then renewalRefused "pal_license_expired"
              else ⟨true, success, some (min default (wholeSecond cap)), none⟩

-- The stored licence expiration follows the live one when the grant carries a PAL context.
def restampedMeta (pals : List PalRow) (stamp : SyncStamp) (grant : Grant K) : GrantMeta :=
  match grant.grantJson.authContext with
  | some ⟨.pal, palId, stored⟩ =>
      ⟨stamp, some ⟨.pal, palId, (resolvePalLicenseCap pals grant).orElse fun _ => stored⟩⟩
  | other => ⟨stamp, other⟩

def applyRenewal (pals : List PalRow) (stamp : SyncStamp) (grant : Grant K) (now : Int) : Grant K × RenewalResult :=
  let result := computeRenewal pals grant now
  match result.ok, result.newExpire with
  | true, some newExpire =>
      let drifted := grant.grantJson.stamp ≠ stamp
      ({ grant with grantExpireTime := newExpire, grantJson := restampedMeta pals stamp grant },
        if drifted then ⟨true, success, some newExpire, some "protections_restamped"⟩ else result)
  | _, _ => (grant, result)

-- A missing field is the empty text, as the source tests it for truth.
structure HeartbeatRequest where
  cbsdId : String
  grantId : String
  operationState : String
  grantRenew : Bool
deriving DecidableEq, Repr

structure HeartbeatResponse where
  transmitExpireTime : Int
  responseCode : Nat
  cbsdId : Option String
  grantId : Option String
  grantExpireTime : Option Int
  heartbeatInterval : Option Nat
  measReportConfig : Option (List String)
deriving DecidableEq, Repr

-- The answers of the protection, blacklist, peer and measurement queries at the time of the request.
structure HeartbeatChecks (K : Type) where
  askMeas : Bool
  blacklisted : Cbsd K → Bool
  peerHasGrant : Cbsd K → Bool
  overlapsActiveDpa : Grant K → Bool
  federalCode : Cbsd K → Grant K → Option Nat
  overlapsWisp : Grant K → Bool
  measError : HeartbeatRequest → Option Nat
  txHorizonSec : Cbsd K → Grant K → Int
  pals : List PalRow
  stamp : SyncStamp

-- Each request has its own readings of the clock, numbered in the order the code takes them.
abbrev Clock := Nat → Int

def base (code : Nat) (cbsdId grantId : Option String) (clock : Clock) : HeartbeatResponse :=
  ⟨wholeSecond (clock 9) - second, code, cbsdId, grantId, none, none, none⟩

def suspendedResponse (grant : Grant K) (req : HeartbeatRequest) (clock : Clock) : HeartbeatResponse :=
  { base suspendedGrant (some req.cbsdId) (some req.grantId) clock with
    grantExpireTime := some (wholeSecond grant.grantExpireTime)
    heartbeatInterval := some (if grant.heartbeatInterval = 0 then heartbeatIntervalSec else grant.heartbeatInterval) }

def idPayload (cbsdId grantId : String) : Payload := [("cbsdId", cbsdId), ("grantId", grantId)]

def HeartbeatRequest.payload (req : HeartbeatRequest) : Payload := idPayload req.cbsdId req.grantId

-- A federal termination is stored even where the table refuses the event.
def persistFederalTermination (grant : Grant K) (req : HeartbeatRequest) (now : Int) : Grant K :=
  let applied := applyGrantEvent grant .terminate req.payload now
  if applied.2.ok then applied.1 else applyGrantState applied.1 .terminated

def computeTransmitExpireTime (grantExpire now horizonSec : Int) : Int :=
  min (wholeSecond now + horizonSec * second) (wholeSecond grantExpire)

section Item

variable (checks : HeartbeatChecks K) (clock : Clock) (req : HeartbeatRequest) (cbsd : Cbsd K)

def answer (code : Nat) : HeartbeatResponse := base code (some req.cbsdId) (some req.grantId) clock

def heartbeatAuthorize (grant : Grant K) : Grant K × HeartbeatResponse :=
  let tx := computeTransmitExpireTime grant.grantExpireTime (clock 6) (checks.txHorizonSec cbsd grant)
  let authorized := (applyGrantEvent { grant with transmitExpireTime := some tx } .authorize
    (("operationState", req.operationState) :: req.payload) (clock 7)).1
  let ask := checks.askMeas && cbsd.registration.measCapability.contains measWithGrant
  ({ authorized with measReportRequested := authorized.measReportRequested || ask },
    { transmitExpireTime := tx
      responseCode := success
      cbsdId := some req.cbsdId
      grantId := some req.grantId
      grantExpireTime := if req.grantRenew then some (wholeSecond grant.grantExpireTime) else none
      heartbeatInterval :=
        some (if grant.heartbeatInterval = 0 then heartbeatIntervalSec else grant.heartbeatInterval)
      measReportConfig := if ask then some [measWithGrant] else none })

def heartbeatRenew (grant : Grant K) : Grant K × HeartbeatResponse :=
  if req.grantRenew then
    let renewed := applyRenewal checks.pals checks.stamp grant (clock 5)
    if renewed.2.ok then heartbeatAuthorize checks clock req cbsd renewed.1
    else (renewed.1, answer clock req renewed.2.responseCode)
  else heartbeatAuthorize checks clock req cbsd grant

def heartbeatMeasured (grant : Grant K) : Grant K × HeartbeatResponse :=
  let measured := grant.measReportRequested && cbsd.registration.measCapability.contains measWithGrant
  match if measured then checks.measError req else none with
  | some code => (grant, answer clock req code)
  | none => heartbeatRenew checks clock req cbsd grant

-- Federal termination comes before expiry, expiry before every other protection.
def heartbeatProtected (grant : Grant K) : Grant K × HeartbeatResponse :=
  let federalCode := checks.federalCode cbsd grant
  if checks.overlapsActiveDpa grant then (grant, suspendedResponse grant req clock)
  else if federalCode = some terminatedGrant then
    (persistFederalTermination grant req (clock 2), answer clock req terminatedGrant)
  else if wholeSecond grant.grantExpireTime ≤ wholeSecond (clock 3) then
    ((applyGrantEvent grant .expire req.payload (clock 4)).1, answer clock req invalidParam)
  else if checks.overlapsWisp grant then
    ((applyGrantEvent grant .terminate req.payload (clock 4)).1, answer clock req terminatedGrant)
  else if federalCode = some suspendedGrant then (grant, suspendedResponse grant req clock)
  else heartbeatMeasured checks clock req cbsd grant

def lifecycleRefusal (grant : Grant K) (code : Nat) : HeartbeatResponse :=
  if code = invalidParam then base invalidParam (some req.cbsdId) none clock
  else if code = suspendedGrant then suspendedResponse grant req clock
  else answer clock req code

def heartbeatGrant (grant : Grant K) : Grant K × HeartbeatResponse :=
  if checks.blacklisted cbsd then (grant, answer clock req blacklistedCode)
  else if checks.peerHasGrant cbsd then
    ((applyGrantEvent grant .terminate req.payload (clock 0)).1, answer clock req terminatedGrant)
  else
    let life := heartbeatOperationAllowed grant req.operationState (clock 1)
    if life.ok then heartbeatProtected checks clock req cbsd grant
    else (grant, lifecycleRefusal clock req grant life.responseCode)

end Item

def upperOf (text : String) : List Char := PyText.upper text.toList

def cbsdCertificateMismatch (cbsd : Cbsd K) (certificateHash : Option String) : Bool :=
  let stored := cbsd.certificateHash.getD ""
  if stored = "" then false
  else
    let presented := certificateHash.getD ""
    if presented = "" then true else upperOf stored != upperOf presented

-- One item of process_heartbeat, from the locks to the commit.
def heartbeatItem (checks : HeartbeatChecks K) (certificateHash : Option String) (clock : Clock) (req : HeartbeatRequest)
    (store : Store K) : Store K × HeartbeatResponse :=
  if req.cbsdId = "" ∨ req.grantId = "" ∨ req.operationState = "" then
    let echo := req.grantId ≠ "" ∧ req.cbsdId ≠ "" ∧ (store.findGrant req.grantId req.cbsdId).isSome
    (store, base missingParam (if req.cbsdId = "" then none else some req.cbsdId)
      (if echo then some req.grantId else none) clock)
  else
    match store.findCbsd req.cbsdId with
    | none => (store, base invalidParam (some req.cbsdId) none clock)
    | some cbsd =>
        if cbsdCertificateMismatch cbsd certificateHash then (store, base invalidParam none none clock)
        else
          match store.findGrant req.grantId req.cbsdId with
          | none => (store, base invalidParam (some req.cbsdId) none clock)
          | some grant =>
              let handled := heartbeatGrant checks clock req cbsd grant
              (store.putGrant handled.1, handled.2)

end SasCore.Registry
