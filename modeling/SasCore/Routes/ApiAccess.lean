import SasCore.Registry.AcceptedRegistration
import SasCore.Routes.Batch

set_option autoImplicit false
set_option linter.unusedSectionVars false

namespace SasCore.Routes

open Registry

variable {K : Type} [Field K] [LinearOrder K]

inductive CertificateKey where
  | rsa (keySize : Nat)
  | ellipticCurve (secp256r1 : Bool)
  | other
deriving DecidableEq, Repr

-- What is read of an X.509 certificate: its DER bytes, its window, and the extensions that it has.
structure Certificate where
  der : ByteArray
  notBefore : Int
  notAfter : Int
  basicConstraintsCa : Option Bool
  extendedKeyUsage : Option (List String)
  digitalSignature : Option Bool
  certificatePolicies : Option (List String)
  publicKey : CertificateKey
  serialNumber : Nat
  issuer : String
  subject : String

inductive CertRejectReason where
  | expired | notYetValid | wrongRole | zonePolicy | missingEku | badKeyUsage | wrongKeyType | isCa | untrustedChain | revoked
  | blacklisted
deriving DecidableEq, Repr

-- hashlib's digest as hex digits, and whether a key verifies the signature of a certificate.
structure CertificateEnv where
  sha1Hex : ByteArray → String
  verifySignature : Certificate → CertificateKey → Bool

-- The CA file with the certificates that are readable in it, where there is one, and the serial numbers in each CRL.
structure TrustFiles where
  caFile : Option (List Certificate)
  crls : List (List Nat)

def oidRoleSas : String := "1.3.6.1.4.1.46609.1.1.1"
def oidRoleInstaller : String := "1.3.6.1.4.1.46609.1.1.2"
def oidRoleCbsd : String := "1.3.6.1.4.1.46609.1.1.3"
def oidRoleDomainProxy : String := "1.3.6.1.4.1.46609.1.1.4"
def oidZone : String := "1.3.6.1.4.1.46609.1.2"
def oidClientAuth : String := "1.3.6.1.5.5.7.3.2"

section Policy

variable (env : CertificateEnv)

-- The digits two by two.
def bytePairs : List Char → List (List Char)
  | first :: second :: rest => [first, second] :: bytePairs rest
  | [] => []
  | last => [last]

def colonForm (digits : List Char) : List Char := [':'].intercalate (bytePairs digits)

def sha1FingerprintColon (cert : Certificate) : String := String.ofList (colonForm (upperOf (env.sha1Hex cert.der)))

def certificatePolicyOids (cert : Certificate) : List String := cert.certificatePolicies.getD []

def checkTemporal (cert : Certificate) (now : Int) : Option CertRejectReason :=
  if now < cert.notBefore then some .notYetValid else if cert.notAfter < now then some .expired else none

def isCa (cert : Certificate) : Bool := cert.basicConstraintsCa.getD false

def hasClientAuth (cert : Certificate) : Bool := (cert.extendedKeyUsage.getD []).contains oidClientAuth

def hasDigitalSignature (cert : Certificate) : Bool := cert.digitalSignature.getD false

def keyTypeAllowed (cert : Certificate) : Bool :=
  match cert.publicKey with
  | .rsa keySize => decide (2048 ≤ keySize)
  | .ellipticCurve secp256r1 => secp256r1
  | .other => false

def checkRevoked (cert : Certificate) (crls : List (List Nat)) : Bool := crls.any fun crl => crl.contains cert.serialNumber

def checkChain (cert : Certificate) (trustRoots : List Certificate) : Bool :=
  trustRoots.isEmpty ||
    trustRoots.any fun root => cert.issuer == root.subject && isCa root && env.verifySignature cert root.publicKey

def trusted (cert : Certificate) : Option (List Certificate) → Bool
  | none => true
  | some roots => checkChain env cert roots

-- The first reason to reject the certificate, `none` where it is good.
def validateLeaf (requiredRole : String) (now : Int) (trustRoots : Option (List Certificate)) (crls : Option (List (List Nat)))
    (blacklistedFingerprints allowedFingerprints : List String) (cert : Certificate) : Option CertRejectReason :=
  match checkTemporal cert now with
  | some reason => some reason
  | none =>
      if isCa cert then some .isCa
      else if !keyTypeAllowed cert then some .wrongKeyType
      else if !hasClientAuth cert then some .missingEku
      else if !hasDigitalSignature cert then some .badKeyUsage
      else if (certificatePolicyOids cert).contains oidZone then some .zonePolicy
      else
        let fingerprint := upperOf (sha1FingerprintColon env cert)
        if !(certificatePolicyOids cert).contains requiredRole && !(allowedFingerprints.map upperOf).contains fingerprint then
          some .wrongRole
        else if (blacklistedFingerprints.map upperOf).contains fingerprint then some .blacklisted
        else if checkRevoked cert (crls.getD []) then some .revoked
        else if !trusted env cert trustRoots then some .untrustedChain
        else none

-- Without a readable CA certificate there is nothing to check a chain against.
def loadRuntimeTrustContext (files : TrustFiles) : Option (List Certificate) × Option (List (List Nat)) :=
  match files.caFile with
  | none => (none, none)
  | some roots => if roots.isEmpty then (none, none) else (some roots, some files.crls)

def validateAtRuntime (requiredRole : String) (files : TrustFiles) (now : Int) (allowedFingerprints : List String)
    (cert : Certificate) : Option CertRejectReason :=
  validateLeaf env requiredRole now (loadRuntimeTrustContext files).1 (loadRuntimeTrustContext files).2 [] allowedFingerprints cert

end Policy

section Access

variable (env : CertificateEnv)

-- The connection of a request: without TLS, or with it and with the certificate of the peer when it is readable.
inductive PeerConnection where
  | plain
  | tls (certificate : Option Certificate)

inductive CbsdClientRole where
  | absent | cbsd | domainProxy | sas | installer | unknown
deriving DecidableEq, Repr

structure CbsdAuthContext extends CbsdAuth where
  role : CbsdClientRole
deriving DecidableEq, Repr

def classifyCbsdClientRole (cert : Certificate) : CbsdClientRole :=
  let policies := certificatePolicyOids cert
  if policies.contains oidRoleDomainProxy then .domainProxy
  else if policies.contains oidRoleCbsd then .cbsd
  else if policies.contains oidRoleSas then .sas
  else if policies.contains oidRoleInstaller then .installer
  else .unknown

def roleCertificateOk (files : TrustFiles) (now : Int) (cert : Certificate) : CbsdClientRole → Bool
  | .cbsd => (validateAtRuntime env oidRoleCbsd files now [] cert).isNone
  | .domainProxy => (validateAtRuntime env oidRoleDomainProxy files now [] cert).isNone
  | _ => false

def authorizeCbsdOperation (files : TrustFiles) (now : Int) : PeerConnection → CbsdAuthContext
  | .plain => ⟨⟨none, true, none⟩, .absent⟩
  | .tls none => ⟨⟨none, false, some certError⟩, .absent⟩
  | .tls (some cert) =>
      let role := classifyCbsdClientRole cert
      let certHash := sha1FingerprintColon env cert
      if roleCertificateOk env files now cert role then ⟨⟨some certHash, true, none⟩, role⟩
      else ⟨⟨some certHash, false, some certError⟩, role⟩

def hexDigits : List Char := "0123456789ABCDEF".toList

-- The ligature of two f is the one code point whose upper case is more than one hex digit.
def upperToken (token : List Char) : List Char :=
  token.flatMap fun c => if c = '\ufb00' then ['F', 'F'] else PyText.upper [c]

-- The digits of one part of the setting.
def tokenDigits (part : List Char) : List Char :=
  ((upperToken (PyText.strip part)).filter fun c => c != ' ').filter fun c => c != ':'

def loadAdminAllowedFingerprints (sasAdminCertSha1 : String) : List String :=
  let raw := PyText.strip sasAdminCertSha1.toList
  if raw.isEmpty then []
  else
    (raw.splitOn ',').filterMap fun part =>
      let digits := tokenDigits part
      if digits.length = 40 && digits.all hexDigits.contains then some (String.ofList (colonForm digits)) else none

-- What FastAPI answers when the dependency raises.
structure Denied where
  status : Nat
  detail : String
deriving DecidableEq, Repr

def requireAdminCertificate (sasAdminCertSha1 : String) (files : TrustFiles) (now : Int) : PeerConnection → Except Denied Unit
  | .plain => .ok ()
  | .tls none => .error ⟨403, "Client certificate required"⟩
  | .tls (some cert) =>
      if (validateAtRuntime env oidRoleSas files now (loadAdminAllowedFingerprints sasAdminCertSha1) cert).isNone then .ok ()
      else .error ⟨403, "Invalid admin client certificate"⟩

-- The peer with the hash as it is stored, or up to case.
def requirePeerSas (peerHashes : List String) (files : TrustFiles) (now : Int) : PeerConnection → Except Denied String
  | .tls (some cert) =>
      if (validateAtRuntime env oidRoleSas files now [] cert).isNone then
        let certHash := sha1FingerprintColon env cert
        if peerHashes.contains certHash || peerHashes.any fun held => upperOf held == upperOf certHash then .ok certHash
        else .error ⟨403, "Peer SAS not authorized"⟩
      else .error ⟨403, "Invalid SAS client certificate"⟩
  | _ => .error ⟨403, "Client certificate required"⟩

end Access

section Passed

variable (env : CertificateEnv)

-- What every certificate that is not rejected has, whatever its role and the order of the checks.
structure SoundLeaf (now : Int) (trustRoots : Option (List Certificate)) (crls : Option (List (List Nat))) (cert : Certificate) :
    Prop where
  started : cert.notBefore ≤ now
  current : now ≤ cert.notAfter
  endEntity : isCa cert = false
  strong : keyTypeAllowed cert = true
  client : hasClientAuth cert = true
  signs : hasDigitalSignature cert = true
  zoneless : oidZone ∉ certificatePolicyOids cert
  unrevoked : ∀ crl ∈ crls.getD [], cert.serialNumber ∉ crl
  rooted : ∀ roots, trustRoots = some roots → roots = [] ∨
    ∃ root ∈ roots, cert.issuer = root.subject ∧ isCa root = true ∧ env.verifySignature cert root.publicKey = true

structure LeafPassed (requiredRole : String) (now : Int) (trustRoots : Option (List Certificate)) (crls : Option (List (List Nat)))
    (blacklistedFingerprints allowedFingerprints : List String) (cert : Certificate) : Prop where
  sound : SoundLeaf env now trustRoots crls cert
  named : requiredRole ∈ certificatePolicyOids cert ∨
    upperOf (sha1FingerprintColon env cert) ∈ allowedFingerprints.map upperOf
  unlisted : upperOf (sha1FingerprintColon env cert) ∉ blacklistedFingerprints.map upperOf

theorem temporal_passed (cert : Certificate) (now : Int) :
    checkTemporal cert now = none ↔ cert.notBefore ≤ now ∧ now ≤ cert.notAfter := by
  rw [checkTemporal]
  split
  · rename_i early
    exact iff_of_false (fun found => by cases found) fun within => absurd early (not_lt.mpr within.1)
  · rename_i started
    split
    · rename_i late
      exact iff_of_false (fun found => by cases found) fun within => absurd late (not_lt.mpr within.2)
    · rename_i current
      exact iff_of_true rfl ⟨not_lt.mp started, not_lt.mp current⟩

theorem revoked_passed (cert : Certificate) (crls : List (List Nat)) :
    checkRevoked cert crls = false ↔ ∀ crl ∈ crls, cert.serialNumber ∉ crl := by
  rw [checkRevoked, List.any_eq_false]
  refine forall₂_congr fun crl _ => ?_
  rw [List.contains_iff_mem]

theorem chain_passed (cert : Certificate) (roots : List Certificate) :
    checkChain env cert roots = true ↔ roots = [] ∨
      ∃ root ∈ roots, cert.issuer = root.subject ∧ isCa root = true ∧ env.verifySignature cert root.publicKey = true := by
  rw [checkChain, Bool.or_eq_true, List.isEmpty_iff, List.any_eq_true]
  simp only [Bool.and_eq_true, beq_iff_eq, and_assoc]

-- One check of a row of checks that each give a reason.
theorem passed_else (rejects : Bool) (reason : CertRejectReason) (next : Option CertRejectReason) :
    (if rejects then some reason else next) = none ↔ rejects = false ∧ next = none := by
  cases rejects with
  | true => exact iff_of_false (fun found => by cases found) fun both => by cases both.1
  | false => exact ⟨fun rest => ⟨rfl, rest⟩, fun both => both.2⟩

theorem trusted_iff (cert : Certificate) (trustRoots : Option (List Certificate)) :
    trusted env cert trustRoots = true ↔ ∀ roots, trustRoots = some roots → roots = [] ∨
      ∃ root ∈ roots, cert.issuer = root.subject ∧ isCa root = true ∧ env.verifySignature cert root.publicKey = true := by
  cases trustRoots with
  | none => exact iff_of_true rfl fun roots given => by cases given
  | some roots =>
      rw [trusted, chain_passed]
      refine ⟨fun passed given same => ?_, fun passed => passed roots rfl⟩
      cases same
      exact passed

theorem absent_iff {Text : Type} [BEq Text] [LawfulBEq Text] (texts : List Text) (text : Text) :
    texts.contains text = false ↔ text ∉ texts := by
  rw [← Bool.not_eq_true, List.contains_iff_mem]

theorem either_iff (first second : Bool) : (!first && !second) = false ↔ first = true ∨ second = true := by
  cases first <;> cases second <;> decide

theorem leaf_passed_iff (requiredRole : String) (now : Int) (trustRoots : Option (List Certificate)) (crls : Option (List (List Nat)))
    (blacklistedFingerprints allowedFingerprints : List String) (cert : Certificate) :
    validateLeaf env requiredRole now trustRoots crls blacklistedFingerprints allowedFingerprints cert = none ↔
      LeafPassed env requiredRole now trustRoots crls blacklistedFingerprints allowedFingerprints cert := by
  rw [validateLeaf]
  cases temporal : checkTemporal cert now with
  | some reason =>
      refine iff_of_false (fun found => by cases found) fun passed => ?_
      have inTime := (temporal_passed cert now).mpr ⟨passed.sound.started, passed.sound.current⟩
      rw [temporal] at inTime
      cases inTime
  | none =>
      obtain ⟨started, current⟩ := (temporal_passed cert now).mp temporal
      simp only [passed_else]
      simp only [Bool.not_eq_false', absent_iff, either_iff, List.contains_iff_mem, revoked_passed, trusted_iff, and_true]
      constructor
      · rintro ⟨endEntity, strong, client, signs, zoneless, named, unlisted, unrevoked, rooted⟩
        exact ⟨⟨started, current, endEntity, strong, client, signs, zoneless, unrevoked, rooted⟩, named, unlisted⟩
      · rintro ⟨sound, named, unlisted⟩
        exact ⟨sound.endEntity, sound.strong, sound.client, sound.signs, sound.zoneless, named, unlisted, sound.unrevoked,
          sound.rooted⟩

end Passed

section Authorization

variable (env : CertificateEnv)

def SoundAt (files : TrustFiles) (now : Int) (cert : Certificate) : Prop :=
  SoundLeaf env now (loadRuntimeTrustContext files).1 (loadRuntimeTrustContext files).2 cert

-- The certificate of a CBSD or of a Domain Proxy.
structure Admitted (files : TrustFiles) (now : Int) (cert : Certificate) : Prop where
  sound : SoundAt env files now cert
  named : oidRoleDomainProxy ∈ certificatePolicyOids cert ∨ oidRoleCbsd ∈ certificatePolicyOids cert

theorem runtime_passed_iff (requiredRole : String) (files : TrustFiles) (now : Int) (allowedFingerprints : List String)
    (cert : Certificate) :
    (validateAtRuntime env requiredRole files now allowedFingerprints cert).isNone = true ↔
      SoundAt env files now cert ∧ (requiredRole ∈ certificatePolicyOids cert ∨
        upperOf (sha1FingerprintColon env cert) ∈ allowedFingerprints.map upperOf) := by
  rw [Option.isNone_iff_eq_none, validateAtRuntime, leaf_passed_iff]
  exact ⟨fun passed => ⟨passed.sound, passed.named⟩, fun passed => ⟨passed.1, passed.2, List.not_mem_nil⟩⟩

theorem runtime_role_iff (requiredRole : String) (files : TrustFiles) (now : Int) (cert : Certificate) :
    (validateAtRuntime env requiredRole files now [] cert).isNone = true ↔
      SoundAt env files now cert ∧ requiredRole ∈ certificatePolicyOids cert := by
  rw [runtime_passed_iff]
  exact and_congr_right fun _ => or_iff_left List.not_mem_nil

-- The role that the certificate is classified with is one that it names.
theorem role_ok_iff (files : TrustFiles) (now : Int) (cert : Certificate) :
    roleCertificateOk env files now cert (classifyCbsdClientRole cert) = true ↔ Admitted env files now cert := by
  by_cases proxy : oidRoleDomainProxy ∈ certificatePolicyOids cert
  · have role : classifyCbsdClientRole cert = .domainProxy := by
      simp only [classifyCbsdClientRole]
      rw [if_pos (List.contains_iff_mem.mpr proxy)]
    rw [role, roleCertificateOk, runtime_role_iff]
    exact ⟨fun passed => ⟨passed.1, .inl proxy⟩, fun admitted => ⟨admitted.sound, proxy⟩⟩
  · by_cases cbsd : oidRoleCbsd ∈ certificatePolicyOids cert
    · have role : classifyCbsdClientRole cert = .cbsd := by
        simp only [classifyCbsdClientRole]
        rw [if_neg fun found => proxy (List.contains_iff_mem.mp found), if_pos (List.contains_iff_mem.mpr cbsd)]
      rw [role, roleCertificateOk, runtime_role_iff]
      exact ⟨fun passed => ⟨passed.1, .inr cbsd⟩, fun admitted => ⟨admitted.sound, cbsd⟩⟩
    · have other : roleCertificateOk env files now cert (classifyCbsdClientRole cert) = false := by
        simp only [classifyCbsdClientRole]
        rw [if_neg fun found => proxy (List.contains_iff_mem.mp found),
          if_neg fun found => cbsd (List.contains_iff_mem.mp found)]
        split
        · rfl
        · split <;> rfl
      rw [other]
      exact iff_of_false Bool.false_ne_true fun admitted => admitted.named.elim proxy cbsd

-- A connection is let through without TLS, or with a certificate of a role that its policy passes.
theorem allowed_cases (files : TrustFiles) (now : Int) (connection : PeerConnection)
    (allowed : (authorizeCbsdOperation env files now connection).allowed = true) :
    (connection = .plain ∧ (authorizeCbsdOperation env files now connection).certificateHash = none) ∨
      ∃ cert, connection = .tls (some cert) ∧ Admitted env files now cert ∧
        (authorizeCbsdOperation env files now connection).certificateHash = some (sha1FingerprintColon env cert) := by
  cases connection with
  | plain => exact .inl ⟨rfl, rfl⟩
  | tls certificate =>
      cases certificate with
      | none => cases allowed
      | some cert =>
          simp only [authorizeCbsdOperation] at allowed ⊢
          cases good : roleCertificateOk env files now cert (classifyCbsdClientRole cert) with
          | false =>
              rw [good] at allowed
              cases allowed
          | true => exact .inr ⟨cert, rfl, (role_ok_iff env files now cert).mp good, rfl⟩

-- Where access is denied, the whole batch is answered with the one code and nothing is stored.
theorem denied_batch (procedure : Procedure) (validate : Json K → Except (List String) (List (String × Json K)))
    (maxBatchSize : Nat) (reads : Nat → (processorOf (K := K) procedure).Reads) (measFlag : Bool) (files : TrustFiles) (now : Int)
    (connection : PeerConnection) (body : Json K) (store : Store K)
    (denied : (authorizeCbsdOperation env files now connection).allowed = false) :
    runBatch procedure validate maxBatchSize reads measFlag (authorizeCbsdOperation env files now connection).toCbsdAuth body store =
      .ok (.single certError, store) := by
  have code : denial (authorizeCbsdOperation env files now connection).toCbsdAuth = certError := by
    cases connection with
    | plain => cases denied
    | tls certificate =>
        cases certificate with
        | none => rfl
        | some cert =>
            simp only [authorizeCbsdOperation] at denied ⊢
            split
            · rename_i good
              rw [if_pos good] at denied
              cases denied
            · rfl
  rw [runBatch, denied, code]
  rfl

end Authorization

section Requests

variable (env : CertificateEnv)

-- The items of the protocol requests, before the request gives them its certificate.
inductive ApiItem (K : Type) where
  | register (env : RegistrationEnv K) (request : Json K) (readings : Readings)
  | grant (item : GrantItem K) (pending : List FrequencyRange)
  | heartbeat (item : HeartbeatItem K)
  | relinquish (item : ReleaseItem)
  | deregister (item : ReleaseItem)

def ApiItem.call (certificateHash : Option String) : ApiItem K → ServiceCall K
  | .register env request readings => .register env certificateHash request readings
  | .grant item pending => .grant certificateHash item pending
  | .heartbeat item => .heartbeat certificateHash item
  | .relinquish item => .relinquish certificateHash item
  | .deregister item => .deregister certificateHash item

inductive ApiStep (K : Type) where
  | batch (connection : PeerConnection) (files : TrustFiles) (now : Int) (items : List (ApiItem K))
  | cpasApply (decisions : List (CpasDecision K)) (readings : Readings)

def apiStep (step : ApiStep K) (store : Store K) : Store K :=
  match step with
  | .batch connection files now items =>
      let auth := authorizeCbsdOperation env files now connection
      if auth.allowed then serveAll (items.map (ApiItem.call auth.certificateHash)) store else store
  | .cpasApply decisions readings => serve (.cpasApply decisions readings) store

def apiRun (steps : List (ApiStep K)) (store : Store K) : Store K := steps.foldl (fun held step => apiStep env step held) store

-- The row goes back to one with its id and its certificate.
def HeldIn (store : Store K) (row : Cbsd K) : Prop :=
  ∃ old ∈ store.cbsds, old.cbsdId = row.cbsdId ∧ old.certificateHash = row.certificateHash

-- The call is the registration that gave the row its certificate.
def CertifiedBy (call : ServiceCall K) (row : Cbsd K) : Prop :=
  ∃ env request readings, call = .register env row.certificateHash request readings ∧ requestedId (requestOf request) = row.cbsdId

theorem registered_certificate (validated : Except Nat (Registration K)) (certificateHash : Option String) (clock : Clock)
    (req : RegistrationRequest) (store : Store K) (row : Cbsd K)
    (member : row ∈ (registrationItem validated certificateHash clock req store).1.cbsds) :
    HeldIn store row ∨ (row.certificateHash = certificateHash ∧ requestedId req = row.cbsdId) := by
  cases validated with
  | error code => exact .inl ⟨row, member, rfl, rfl⟩
  | ok merged =>
      simp only [registrationItem] at member
      cases found : store.findCbsd (makeCbsdId req.fccId req.cbsdSerialNumber) with
      | none =>
          simp only [found] at member
          split at member
          · exact .inl ⟨row, member, rfl, rfl⟩
          · split at member
            · exact .inl ⟨row, member, rfl, rfl⟩
            · rcases List.mem_append.mp member with before | new
              · exact .inl ⟨row, before, rfl, rfl⟩
              · rw [List.mem_singleton.mp new]
                exact .inr ⟨rfl, rfl⟩
      | some existing =>
          obtain ⟨stored, name⟩ := find_cbsd_stored store _ existing found
          simp only [found] at member
          split at member
          · exact .inl ⟨row, member, rfl, rfl⟩
          · split at member
            · rcases mem_put_cbsd store _ row member with rewritten | before
              · rw [rewritten]
                -- Without a certificate the row keeps the one that it has.
                cases certificateHash with
                | none => exact .inl ⟨existing, stored, rfl, rfl⟩
                | some hash => exact .inr ⟨rfl, name.symm⟩
              · exact .inl ⟨row, before, rfl, rfl⟩
            · exact .inl ⟨row, member, rfl, rfl⟩

theorem call_certificate (call : ServiceCall K) (store : Store K) (row : Cbsd K) (member : row ∈ (serve call store).cbsds) :
    HeldIn store row ∨ CertifiedBy call row := by
  have kept (before : row ∈ store.cbsds) : HeldIn store row := ⟨row, before, rfl, rfl⟩
  cases call with
  | register env cert request readings =>
      rcases registered_certificate _ cert readings.read (requestOf request) store row member with held | ⟨same, name⟩
      · exact .inl held
      · exact .inr ⟨env, request, readings, by rw [same], name⟩
  | grant cert item pending =>
      have rows := (grant_item_committed cert item pending store).2
      exact .inl (kept (rows ▸ member))
  | heartbeat cert item =>
      have rows := (heartbeat_rows item.checks cert item.readings.read item.req store).2
      exact .inl (kept (rows ▸ member))
  | relinquish cert item =>
      have rows := (relinquishment_rows cert item.readings.read item.cbsdId item.grantId store).2
      exact .inl (kept (rows ▸ member))
  | deregister cert item =>
      exact .inl (kept ((deregistration_rows cert item.readings.read item.cbsdId store).2 row member))
  | cpasApply decisions readings =>
      obtain ⟨_, rows⟩ := apply_decisions_cbsds readings.read decisions 0 store
      exact .inl (kept (rows ▸ member))

theorem certified_same (call : ServiceCall K) (old row : Cbsd K) (name : old.cbsdId = row.cbsdId)
    (same : old.certificateHash = row.certificateHash) (certified : CertifiedBy call old) : CertifiedBy call row := by
  rw [CertifiedBy, ← name, ← same]
  exact certified

theorem calls_certificate (calls : List (ServiceCall K)) (store : Store K) (row : Cbsd K)
    (member : row ∈ (serveAll calls store).cbsds) : HeldIn store row ∨ ∃ call ∈ calls, CertifiedBy call row := by
  induction calls generalizing store with
  | nil => exact .inl ⟨row, member, rfl, rfl⟩
  | cons call rest ih =>
      rcases ih (serve call store) member with ⟨between, inBetween, name, same⟩ | ⟨later, inRest, certified⟩
      · rcases call_certificate call store between inBetween with ⟨old, inStore, oldName, oldSame⟩ | certified
        · exact .inl ⟨old, inStore, oldName.trans name, oldSame.trans same⟩
        · exact .inr ⟨call, List.mem_cons_self, certified_same call between row name same certified⟩
      · exact .inr ⟨later, List.mem_cons_of_mem _ inRest, certified⟩

-- The request of the step registered the row over TLS, with a good certificate of the fingerprint that the row holds.
def SignedBy (step : ApiStep K) (row : Cbsd K) : Prop :=
  ∃ cert files now items registration request readings,
    step = .batch (.tls (some cert)) files now items ∧ ApiItem.register registration request readings ∈ items ∧
      requestedId (requestOf request) = row.cbsdId ∧ row.certificateHash = some (sha1FingerprintColon env cert) ∧
      Admitted env files now cert

theorem step_certificate (step : ApiStep K) (store : Store K) (row : Cbsd K) (member : row ∈ (apiStep env step store).cbsds) :
    HeldIn store row ∨ row.certificateHash = none ∨ SignedBy env step row := by
  cases step with
  | cpasApply decisions readings =>
      rcases call_certificate _ store row member with held | ⟨_, _, _, isRegister, _⟩
      · exact .inl held
      · cases isRegister
  | batch connection files now items =>
      rw [apiStep] at member
      split at member
      · rename_i allowed
        rcases calls_certificate _ store row member with held | ⟨call, inCalls, registration, request, readings, isRegister, name⟩
        · exact .inl held
        · obtain ⟨item, inItems, isCall⟩ := List.mem_map.mp inCalls
          rw [isRegister] at isCall
          cases item with
          | register asked raw clock =>
              simp only [ApiItem.call, ServiceCall.register.injEq] at isCall
              obtain ⟨rfl, hash, rfl, rfl⟩ := isCall
              rcases allowed_cases env files now connection allowed with ⟨_, bare⟩ | ⟨cert, rfl, admitted, given⟩
              · exact .inr (.inl (hash.symm.trans bare))
              · refine .inr (.inr ⟨cert, files, now, items, asked, raw, clock, rfl, inItems, name, ?_, admitted⟩)
                exact hash.symm.trans given
          | grant item pending => cases isCall
          | heartbeat item => cases isCall
          | relinquish item => cases isCall
          | deregister item => cases isCall
      · exact .inl ⟨row, member, rfl, rfl⟩

theorem signed_same (step : ApiStep K) (old row : Cbsd K) (name : old.cbsdId = row.cbsdId)
    (same : old.certificateHash = row.certificateHash) (signed : SignedBy env step old) : SignedBy env step row := by
  rw [SignedBy, ← name, ← same]
  exact signed

theorem run_certificate (steps : List (ApiStep K)) (store : Store K) (row : Cbsd K) (member : row ∈ (apiRun env steps store).cbsds) :
    HeldIn store row ∨ row.certificateHash = none ∨ ∃ step ∈ steps, SignedBy env step row := by
  induction steps generalizing store with
  | nil => exact .inl ⟨row, member, rfl, rfl⟩
  | cons step rest ih =>
      rcases ih (apiStep env step store) member with ⟨between, inBetween, name, same⟩ | bare | ⟨later, inRest, signed⟩
      · rcases step_certificate env step store between inBetween with ⟨old, inStore, oldName, oldSame⟩ | bare | signed
        · exact .inl ⟨old, inStore, oldName.trans name, oldSame.trans same⟩
        · exact .inr (.inl (same.symm.trans bare))
        · exact .inr (.inr ⟨step, List.mem_cons_self, signed_same env step between row name same signed⟩)
      · exact .inr (.inl bare)
      · exact .inr (.inr ⟨later, List.mem_cons_of_mem _ inRest, signed⟩)

theorem rows_certified (steps : List (ApiStep K)) (row : Cbsd K) (member : row ∈ (apiRun env steps Store.empty).cbsds)
    (certified : row.certificateHash ≠ none) : ∃ step ∈ steps, SignedBy env step row := by
  rcases run_certificate env steps Store.empty row member with ⟨_, inEmpty, _⟩ | bare | signed
  · cases inEmpty
  · exact absurd bare certified
  · exact signed

end Requests

section Sample

-- SHA-1 of the three letters that stand for the DER bytes here.
def lettersEnv : CertificateEnv where
  sha1Hex := fun _ => "a9993e364706816aba3e25717850c26c9cd0d89d"
  verifySignature := fun leaf _ => leaf.issuer == "CN=Root CA"

def rootCertificate : Certificate where
  der := "root".toUTF8
  notBefore := 0
  notAfter := 1000
  basicConstraintsCa := some true
  extendedKeyUsage := none
  digitalSignature := some true
  certificatePolicies := none
  publicKey := .rsa 4096
  serialNumber := 1
  issuer := "CN=Root CA"
  subject := "CN=Root CA"

def leafOf (role : String) : Certificate where
  der := "abc".toUTF8
  notBefore := 0
  notAfter := 100
  basicConstraintsCa := some false
  extendedKeyUsage := some [oidClientAuth]
  digitalSignature := some true
  certificatePolicies := some [role]
  publicKey := .ellipticCurve true
  serialNumber := 2
  issuer := "CN=Root CA"
  subject := "CN=Client"

def sampleTrust : TrustFiles := ⟨some [rootCertificate], [[7]]⟩

def certifiedSteps : List (ApiStep Rat) :=
  [.batch (.tls (some (leafOf oidRoleCbsd))) sampleTrust 50 [.register slashEnv (indoorRequest "fcc" "1") (readingsAt 0)]]

theorem certified_row : ∃ row ∈ (apiRun lettersEnv certifiedSteps Store.empty).cbsds,
    row.certificateHash = some "A9:99:3E:36:47:06:81:6A:BA:3E:25:71:78:50:C2:6C:9C:D0:D8:9D" := by
  have hashes : (apiRun lettersEnv certifiedSteps Store.empty).cbsds.map (·.certificateHash) =
      [some "A9:99:3E:36:47:06:81:6A:BA:3E:25:71:78:50:C2:6C:9C:D0:D8:9D"] := by decide +kernel
  have stored : some "A9:99:3E:36:47:06:81:6A:BA:3E:25:71:78:50:C2:6C:9C:D0:D8:9D" ∈
      (apiRun lettersEnv certifiedSteps Store.empty).cbsds.map (·.certificateHash) := by
    rw [hashes]
    exact List.mem_cons_self
  exact List.mem_map.mp stored

theorem rows_certified_sample :
    ∃ row ∈ (apiRun lettersEnv certifiedSteps Store.empty).cbsds, ∃ step ∈ certifiedSteps, SignedBy lettersEnv step row := by
  obtain ⟨row, member, hash⟩ := certified_row
  have certified : row.certificateHash ≠ none := by
    rw [hash]
    exact Option.some_ne_none _
  exact ⟨row, member, rows_certified lettersEnv certifiedSteps row member certified⟩

end Sample

section Administrators

variable (env : CertificateEnv)

theorem colon_pair (first second third : Char) (rest : List Char) :
    colonForm (first :: second :: third :: rest) = first :: second :: ':' :: colonForm (third :: rest) := by
  cases rest with
  | nil => rfl
  | cons fourth later => rfl

theorem colon_digits : ∀ digits : List Char, ':' ∉ digits → (colonForm digits).filter (fun c => c != ':') = digits
  | [], _ => rfl
  | [first], bare => by
      have apart : first ≠ ':' := fun same => bare (same ▸ List.mem_cons_self)
      simp [colonForm, bytePairs, apart]
  | [first, second], bare => by
      simp only [List.mem_cons, List.not_mem_nil, or_false, not_or] at bare
      simp [colonForm, bytePairs, Ne.symm bare.1, Ne.symm bare.2]
  | first :: second :: third :: rest, bare => by
      have later := colon_digits (third :: rest) fun found => bare (List.mem_cons_of_mem _ (List.mem_cons_of_mem _ found))
      simp only [List.mem_cons, not_or] at bare
      rw [colon_pair]
      simp [Ne.symm bare.1, Ne.symm bare.2.1, later]

theorem hex_upper (c : Char) (hex : c ∈ hexDigits) : PyText.upper [c] = [c] := by
  have each : hexDigits.all (fun digit => PyText.upper [digit] == [digit]) = true := by decide +kernel
  exact beq_iff_eq.mp (List.all_eq_true.mp each c hex)

theorem hex_bare : ':' ∉ hexDigits := by decide +kernel

theorem upper_cons (c : Char) (rest : List Char) : PyText.upper (c :: rest) = PyText.upper [c] ++ PyText.upper rest := rfl

theorem colon_upper : ∀ digits : List Char, (∀ c ∈ digits, c ∈ hexDigits) →
    PyText.upper (colonForm digits) = colonForm digits
  | [], _ => rfl
  | [first], hex => hex_upper first (hex first List.mem_cons_self)
  | [first, second], hex => by
      show PyText.upper [first, second] = [first, second]
      rw [upper_cons, hex_upper first (hex first (by simp)), hex_upper second (hex second (by simp))]
      rfl
  | first :: second :: third :: rest, hex => by
      have later := colon_upper (third :: rest) fun c found => hex c (List.mem_cons_of_mem _ (List.mem_cons_of_mem _ found))
      rw [colon_pair, upper_cons, upper_cons second, upper_cons ':', later, hex_upper first (hex first (by simp)),
        hex_upper second (hex second (by simp))]
      rfl

theorem colon_injective (first second : List Char) (firstHex : ∀ c ∈ first, c ∈ hexDigits)
    (secondHex : ∀ c ∈ second, c ∈ hexDigits) (same : colonForm first = colonForm second) : first = second := by
  rw [← colon_digits first fun found => hex_bare (firstHex _ found), same]
  exact colon_digits second fun found => hex_bare (secondHex _ found)

-- hexdigest gives forty hex digits.
structure Sha1Digest (cert : Certificate) : Prop where
  forty : (upperOf (env.sha1Hex cert.der)).length = 40
  hex : ∀ c ∈ upperOf (env.sha1Hex cert.der), c ∈ hexDigits

theorem letters_digest (cert : Certificate) : Sha1Digest lettersEnv cert := by
  have forty : (upperOf "a9993e364706816aba3e25717850c26c9cd0d89d").length = 40 := by decide +kernel
  have hex : (upperOf "a9993e364706816aba3e25717850c26c9cd0d89d").all hexDigits.contains = true := by decide +kernel
  exact ⟨forty, fun c found => List.contains_iff_mem.mp (List.all_eq_true.mp hex c found)⟩

-- One part of the setting spells the fingerprint of the certificate, with or without colons and in any case.
def Spelled (sasAdminCertSha1 : String) (cert : Certificate) : Prop :=
  ∃ part ∈ (PyText.strip sasAdminCertSha1.toList).splitOn ',', tokenDigits part = upperOf (env.sha1Hex cert.der)

theorem allowed_fingerprint_iff (sasAdminCertSha1 text : String) :
    text ∈ loadAdminAllowedFingerprints sasAdminCertSha1 ↔
      ∃ part ∈ (PyText.strip sasAdminCertSha1.toList).splitOn ',', (tokenDigits part).length = 40 ∧
        (∀ c ∈ tokenDigits part, c ∈ hexDigits) ∧ text = String.ofList (colonForm (tokenDigits part)) := by
  rw [loadAdminAllowedFingerprints]
  dsimp only
  by_cases blank : (PyText.strip sasAdminCertSha1.toList).isEmpty = true
  · rw [if_pos blank, List.isEmpty_iff.mp blank]
    refine iff_of_false List.not_mem_nil ?_
    rintro ⟨part, inSetting, forty, _⟩
    rw [List.mem_singleton.mp inSetting] at forty
    cases forty
  · rw [if_neg blank, List.mem_filterMap]
    refine exists_congr fun part => and_congr_right fun _ => ?_
    have kept : (decide ((tokenDigits part).length = 40) && (tokenDigits part).all hexDigits.contains) = true ↔
        (tokenDigits part).length = 40 ∧ ∀ c ∈ tokenDigits part, c ∈ hexDigits := by
      rw [Bool.and_eq_true, decide_eq_true_iff, List.all_eq_true]
      exact and_congr_right fun _ => forall₂_congr fun c _ => List.contains_iff_mem
    split
    · rename_i good
      obtain ⟨forty, hex⟩ := kept.mp good
      exact ⟨fun same => ⟨forty, hex, (Option.some.inj same).symm⟩, fun spelled => congrArg some spelled.2.2.symm⟩
    · rename_i bad
      exact iff_of_false (fun found => by cases found) fun spelled => bad (kept.mpr ⟨spelled.1, spelled.2.1⟩)

theorem spelled_iff (sasAdminCertSha1 : String) (cert : Certificate) (digest : Sha1Digest env cert) :
    upperOf (sha1FingerprintColon env cert) ∈ (loadAdminAllowedFingerprints sasAdminCertSha1).map upperOf ↔
      Spelled env sasAdminCertSha1 cert := by
  have own : upperOf (sha1FingerprintColon env cert) = colonForm (upperOf (env.sha1Hex cert.der)) := by
    rw [sha1FingerprintColon, upperOf, String.toList_ofList, colon_upper _ digest.hex]
  rw [own, List.mem_map]
  constructor
  · rintro ⟨text, listed, same⟩
    obtain ⟨part, inSetting, _, hex, rfl⟩ := (allowed_fingerprint_iff _ text).mp listed
    rw [upperOf, String.toList_ofList, colon_upper _ hex] at same
    exact ⟨part, inSetting, colon_injective _ _ hex digest.hex same⟩
  · rintro ⟨part, inSetting, same⟩
    refine ⟨String.ofList (colonForm (tokenDigits part)), (allowed_fingerprint_iff _ _).mpr ⟨part, inSetting, ?_, ?_, rfl⟩, ?_⟩
    · rw [same]
      exact digest.forty
    · rw [same]
      exact digest.hex
    · rw [upperOf, String.toList_ofList, same, colon_upper _ digest.hex]

theorem admin_admitted_iff (digests : ∀ cert, Sha1Digest env cert) (sasAdminCertSha1 : String) (files : TrustFiles) (now : Int)
    (connection : PeerConnection) :
    requireAdminCertificate env sasAdminCertSha1 files now connection = .ok () ↔
      connection = .plain ∨ ∃ cert, connection = .tls (some cert) ∧ SoundAt env files now cert ∧
        (oidRoleSas ∈ certificatePolicyOids cert ∨ Spelled env sasAdminCertSha1 cert) := by
  cases connection with
  | plain => exact iff_of_true rfl (.inl rfl)
  | tls certificate =>
      cases certificate with
      | none =>
          refine iff_of_false (fun found => by cases found) ?_
          rintro (same | ⟨_, same, _⟩) <;> cases same
      | some cert =>
          have passed := runtime_passed_iff env oidRoleSas files now (loadAdminAllowedFingerprints sasAdminCertSha1) cert
          rw [spelled_iff env sasAdminCertSha1 cert (digests cert)] at passed
          rw [requireAdminCertificate]
          split
          · rename_i good
            exact iff_of_true rfl (.inr ⟨cert, rfl, passed.mp good⟩)
          · rename_i bad
            refine iff_of_false (fun found => by cases found) ?_
            rintro (same | ⟨presented, same, sound⟩)
            · cases same
            · cases same
              exact bad (passed.mpr sound)

-- A CBSD certificate that the setting spells in lower case and without colons.
theorem admin_admitted_sample :
    requireAdminCertificate lettersEnv "a9993e364706816aba3e25717850c26c9cd0d89d" sampleTrust 50
      (.tls (some (leafOf oidRoleCbsd))) = .ok () := by
  have sound : SoundAt lettersEnv sampleTrust 50 (leafOf oidRoleCbsd) :=
    ((runtime_role_iff lettersEnv oidRoleCbsd sampleTrust 50 (leafOf oidRoleCbsd)).mp (by decide +kernel)).1
  have spelled : Spelled lettersEnv "a9993e364706816aba3e25717850c26c9cd0d89d" (leafOf oidRoleCbsd) :=
    ⟨"a9993e364706816aba3e25717850c26c9cd0d89d".toList, by decide +kernel, by decide +kernel⟩
  exact (admin_admitted_iff lettersEnv letters_digest _ sampleTrust 50 _).mpr (.inr ⟨leafOf oidRoleCbsd, rfl, sound, .inr spelled⟩)

theorem peer_admitted_iff (peerHashes : List String) (files : TrustFiles) (now : Int) (connection : PeerConnection) (hash : String) :
    requirePeerSas env peerHashes files now connection = .ok hash ↔
      ∃ cert, connection = .tls (some cert) ∧ SoundAt env files now cert ∧ oidRoleSas ∈ certificatePolicyOids cert ∧
        hash = sha1FingerprintColon env cert ∧ ∃ held ∈ peerHashes, upperOf held = upperOf hash := by
  cases connection with
  | plain =>
      refine iff_of_false (fun found => by cases found) ?_
      rintro ⟨_, same, _⟩
      cases same
  | tls certificate =>
      cases certificate with
      | none =>
          refine iff_of_false (fun found => by cases found) ?_
          rintro ⟨_, same, _⟩
          cases same
      | some cert =>
          have passed := runtime_role_iff env oidRoleSas files now cert
          have known : (peerHashes.contains (sha1FingerprintColon env cert) ||
              peerHashes.any fun held => upperOf held == upperOf (sha1FingerprintColon env cert)) = true ↔
              ∃ held ∈ peerHashes, upperOf held = upperOf (sha1FingerprintColon env cert) := by
            rw [Bool.or_eq_true, List.contains_iff_mem, List.any_eq_true]
            simp only [beq_iff_eq]
            exact or_iff_right_of_imp fun stored => ⟨_, stored, rfl⟩
          simp only [requirePeerSas]
          constructor
          · intro ran
            split at ran
            · rename_i good
              split at ran
              · rename_i stored
                cases ran
                exact ⟨cert, rfl, (passed.mp good).1, (passed.mp good).2, rfl, known.mp stored⟩
              · cases ran
            · cases ran
          · rintro ⟨presented, same, sound, role, rfl, stored⟩
            cases same
            rw [if_pos (passed.mpr ⟨sound, role⟩), if_pos (known.mpr stored)]

end Administrators

section Guarded

variable (env : CertificateEnv)

theorem untouched_refl (other : Cbsd K) (store : Store K) (inStore : other ∈ store.cbsds) : Untouched other store store :=
  ⟨inStore, fun _ _ => Iff.rfl⟩

theorem untouched_trans (other : Cbsd K) (store between after : Store K) (first : Untouched other store between)
    (second : Untouched other between after) : Untouched other store after :=
  ⟨second.1, fun grant own => (second.2 grant own).trans (first.2 grant own)⟩

theorem call_committed (certificateHash : Option String) (item : ApiItem K) (store : Store K) :
    Committed certificateHash store (serve (item.call certificateHash) store) := by
  cases item with
  | register registration request readings => exact registration_committed _ certificateHash readings (requestOf request) store
  | grant item pending => exact (grant_item_committed certificateHash item pending store).1
  | heartbeat item => exact heartbeat_committed item.checks certificateHash item.readings item.req store
  | relinquish item => exact relinquishment_committed certificateHash item.readings item.cbsdId item.grantId store
  | deregister item => exact deregistration_committed certificateHash item.readings item.cbsdId store

theorem items_untouched (certificateHash : Option String) (items : List (ApiItem K)) (store : Store K) (linked : Linked store)
    (other : Cbsd K) (inStore : other ∈ store.cbsds) (foreign : cbsdCertificateMismatch other certificateHash = true) :
    Untouched other store (serveAll (items.map (ApiItem.call certificateHash)) store) := by
  induction items generalizing store with
  | nil => exact untouched_refl other store inStore
  | cons item rest ih =>
      have committed := call_committed certificateHash item store
      have first := committed_untouched certificateHash store _ linked committed other inStore foreign
      have later := ih _ (committed_linked certificateHash store _ linked committed) first.1
      exact untouched_trans other store _ _ first later

theorem step_identified (step : ApiStep K) (store : Store K) (identified : Identified store) :
    Identified (apiStep env step store) := by
  cases step with
  | cpasApply decisions readings => exact serve_identified (.cpasApply decisions readings) store identified
  | batch connection files now items =>
      rw [apiStep]
      split
      · exact serve_all_identified _ store identified
      · exact identified

theorem run_identified (steps : List (ApiStep K)) (store : Store K) (identified : Identified store) :
    Identified (apiRun env steps store) := by
  induction steps generalizing store with
  | nil => exact identified
  | cons step rest ih => exact ih (apiStep env step store) (step_identified env step store identified)

-- A row with a certificate is foreign to every other one, and to a request without any.
theorem foreign_iff (row : Cbsd K) (hash : String) (held : row.certificateHash = some hash) (given : hash ≠ "")
    (presented : Option String) :
    cbsdCertificateMismatch row presented = true ↔ presented.getD "" = "" ∨ upperOf hash ≠ upperOf (presented.getD "") := by
  simp only [cbsdCertificateMismatch]
  rw [held, Option.getD_some, if_neg given]
  by_cases absent : presented.getD "" = ""
  · rw [if_pos absent]
    exact iff_of_true rfl (.inl absent)
  · rw [if_neg absent, bne_iff_ne]
    exact (or_iff_right absent).symm

theorem fingerprint_given (cert : Certificate) (digest : Sha1Digest env cert) : sha1FingerprintColon env cert ≠ "" := by
  intro empty
  have shown := congrArg String.toList empty
  rw [sha1FingerprintColon, String.toList_ofList] at shown
  have bare := colon_digits _ fun found => hex_bare (digest.hex _ found)
  have forty := digest.forty
  rw [← bare, shown] at forty
  cases forty

-- A row that holds a certificate is changed only by requests over TLS with that certificate, good for its role.
theorem rows_guarded (digests : ∀ cert, Sha1Digest env cert) (steps : List (ApiStep K)) (row : Cbsd K)
    (member : row ∈ (apiRun env steps Store.empty).cbsds) (hash : String) (held : row.certificateHash = some hash)
    (connection : PeerConnection) (files : TrustFiles) (now : Int) (items : List (ApiItem K)) :
    Untouched row (apiRun env steps Store.empty)
        (apiStep env (.batch connection files now items) (apiRun env steps Store.empty)) ∨
      ∃ cert, connection = .tls (some cert) ∧ Admitted env files now cert ∧
        upperOf (sha1FingerprintColon env cert) = upperOf hash := by
  have linked := (run_identified env steps Store.empty empty_identified).linked
  have given : hash ≠ "" := by
    rcases run_certificate env steps Store.empty row member with
      ⟨_, inEmpty, _⟩ | bare | ⟨_, _, cert, _, _, _, _, _, _, _, _, _, signed, _⟩
    · cases inEmpty
    · rw [held] at bare
      cases bare
    · rw [Option.some.inj (held.symm.trans signed)]
      exact fingerprint_given env cert (digests cert)
  have foreign := foreign_iff row hash held given
  rw [apiStep]
  split
  · rename_i allowed
    rcases allowed_cases env files now connection allowed with ⟨_, bare⟩ | ⟨cert, isTls, admitted, presented⟩
    · left
      rw [bare]
      exact items_untouched none items _ linked row member ((foreign none).mpr (.inl rfl))
    · by_cases same : upperOf (sha1FingerprintColon env cert) = upperOf hash
      · exact .inr ⟨cert, isTls, admitted, same⟩
      · left
        rw [presented]
        exact items_untouched _ items _ linked row member ((foreign _).mpr (.inr (Ne.symm same)))
  · exact .inl (untouched_refl row _ member)

-- Without TLS the device of the sample cannot be deregistered.
theorem rows_guarded_sample :
    ∃ row ∈ (apiRun lettersEnv certifiedSteps Store.empty).cbsds,
      Untouched row (apiRun lettersEnv certifiedSteps Store.empty)
        (apiStep lettersEnv (.batch .plain sampleTrust 60 [.deregister ⟨"fcc/1", "", readingsAt 0⟩])
          (apiRun lettersEnv certifiedSteps Store.empty)) := by
  obtain ⟨row, member, hash⟩ := certified_row
  refine ⟨row, member, ?_⟩
  rcases rows_guarded lettersEnv letters_digest certifiedSteps row member _ hash .plain sampleTrust 60
      [.deregister ⟨"fcc/1", "", readingsAt 0⟩] with untouched | ⟨cert, isTls, _⟩
  · exact untouched
  · cases isTls

end Guarded

end SasCore.Routes
