import SasCore.Registry.Heartbeat

set_option autoImplicit false

namespace SasCore.Registry

variable {K : Type}

structure ServiceResponse where
  responseCode : Nat
  cbsdId : Option String
  grantId : Option String
deriving DecidableEq, Repr

-- One item of process_relinquishment; a missing id is the empty text.
def relinquishmentItem (certificateHash : Option String) (clock : Clock) (cbsdId grantId : String) (store : Store K) :
    Store K × ServiceResponse :=
  if cbsdId = "" ∨ grantId = "" then (store, ⟨missingParam, if cbsdId = "" then none else some cbsdId, none⟩)
  else
    match store.findCbsd cbsdId with
    | none => (store, ⟨invalidParam, none, none⟩)
    | some cbsd =>
        if cbsdCertificateMismatch cbsd certificateHash then (store, ⟨invalidParam, none, none⟩)
        else
          match store.findGrant grantId cbsdId with
          | none => (store, ⟨invalidParam, some cbsdId, none⟩)
          | some grant =>
              if grant.terminated then (store, ⟨invalidParam, some cbsdId, none⟩)
              else
                let applied := applyGrantEvent grant .relinquish (idPayload cbsdId grantId) (clock 0)
                if applied.2.ok then (store.putGrant applied.1, ⟨success, some cbsdId, some grantId⟩)
                else (store, ⟨applied.2.responseCode, some cbsdId, none⟩)

-- The rows of a CBSD are visited one after the other, each with its own reading of the clock.
def terminateRow (clock : Clock) (cbsdId : String) (grant : Grant K) : Grant K :=
  (applyGrantEvent grant .terminate (idPayload cbsdId grant.grantId) (clock grant.id)).1

def terminateGrants (clock : Clock) (cbsdId : String) (store : Store K) : Store K :=
  store.mapGrantsOf cbsdId fun grant => if grant.terminated then grant else terminateRow clock cbsdId grant

-- One item of process_deregistration: the grants are terminated, then the cascade deletes them.
def deregistrationItem (certificateHash : Option String) (clock : Clock) (cbsdId : String) (store : Store K) :
    Store K × ServiceResponse :=
  if cbsdId = "" then (store, ⟨missingParam, none, none⟩)
  else
    match store.findCbsd cbsdId with
    | none => (store, ⟨invalidParam, none, none⟩)
    | some cbsd =>
        if cbsdCertificateMismatch cbsd certificateHash then (store, ⟨invalidParam, none, none⟩)
        else
          let outcome := evaluateCbsdTransition .deregister (resolveCbsdState (some cbsd)) [("cbsdId", cbsdId)]
          if outcome.ok then
            ((store.mapGrantsOf cbsdId (terminateRow clock cbsdId)).deleteCbsd cbsd.id, ⟨success, some cbsdId, none⟩)
          else (store, ⟨outcome.responseCode, none, none⟩)

structure RegistrationRequest where
  fccId : String
  cbsdSerialNumber : String
  userId : String
deriving DecidableEq, Repr

def RegistrationRequest.payload (req : RegistrationRequest) : Payload :=
  [("fccId", req.fccId), ("cbsdSerialNumber", req.cbsdSerialNumber), ("userId", req.userId)]

def makeCbsdId (fccId serial : String) : String := fccId ++ "/" ++ serial

def registrationRefused (code : Nat) : ServiceResponse := ⟨code, none, none⟩

def reregisteredRow (existing : Cbsd K) (req : RegistrationRequest) (merged : Registration K)
    (certificateHash : Option String) : Cbsd K :=
  applyCbsdState
    { existing with
      userId := req.userId
      cbsdCategory := merged.cbsdCategory
      registration := merged
      certificateHash := certificateHash.orElse fun _ => existing.certificateHash } .registered

-- One item of process_registration behind its validation, which answers an error code or the
-- merged registration.
def registrationItem (validated : Except Nat (Registration K)) (certificateHash : Option String) (clock : Clock)
    (req : RegistrationRequest) (store : Store K) : Store K × ServiceResponse :=
  match validated with
  | .error code => (store, registrationRefused code)
  | .ok merged =>
      let cbsdId := makeCbsdId req.fccId req.cbsdSerialNumber
      match store.findCbsd cbsdId with
      | some existing =>
          if cbsdCertificateMismatch existing certificateHash then (store, registrationRefused invalidParam)
          else
            let outcome := evaluateCbsdTransition .reregister (resolveCbsdState (some existing)) req.payload
            if outcome.ok then
              (terminateGrants clock cbsdId (store.putCbsd (reregisteredRow existing req merged certificateHash)),
                ⟨success, some cbsdId, none⟩)
            else (store, registrationRefused outcome.responseCode)
      | none =>
          let outcome := evaluateCbsdTransition .register .unregistered req.payload
          if !outcome.ok then (store, registrationRefused outcome.responseCode)
          else if store.cbsds.any fun cbsd => cbsd.fccId = req.fccId && cbsd.cbsdSerialNumber = req.cbsdSerialNumber then
            (store, registrationRefused invalidParam)
          else
            (store.addCbsd
              { id := store.nextCbsdPk
                cbsdId := cbsdId
                fccId := req.fccId
                userId := req.userId
                cbsdSerialNumber := req.cbsdSerialNumber
                cbsdCategory := merged.cbsdCategory
                certificateHash := certificateHash
                lifecycleState := some .registered
                registration := merged }, ⟨success, some cbsdId, none⟩)

end SasCore.Registry
