import SasCore.Lib.Base64
import SasCore.Federal.CpiSync
import SasCore.Registry.AcceptedRegistration

set_option autoImplicit false
set_option linter.unusedSectionVars false

-- The signature of a professional installer over an installation, and the requests that carry one.
namespace SasCore.Registry

variable {K Key : Type} [Field K] [LinearOrder K]

inductive CpiAlgorithm where
  | rs256
  | es256
deriving DecidableEq, Repr

def CpiAlgorithm.name : CpiAlgorithm → String
  | .rs256 => "RS256"
  | .es256 => "ES256"

def allowedAlgorithms : List CpiAlgorithm := [.rs256, .es256]

-- What a PEM text holds.
inductive PublicKey (Key : Type) where
  | rsa (key : Key)
  | ec (key : Key)
  | other
deriving DecidableEq, Repr

-- The rows of cpi_users and the clock of one verification, over the cryptographic library and strptime.
-- A key that cannot be read, and a query for an id that is no text, end with their code.
structure CpiEnv (K Key : Type) where
  readers : PyReaders K
  strptime : String → Option Int
  loadPem : List Char → Except Nat (PublicKey Key)
  rsaVerify : Key → List UInt8 → List UInt8 → Bool
  ecVerify : Key → Nat → Nat → List UInt8 → Bool
  users : List Federal.CpiUser
  queryOther : Json K → Except Nat (Option String)
  now : Int

structure CpiVerified (K : Type) where
  payload : Json K
  algorithm : CpiAlgorithm
  cpiId : String

def maxFutureSkew : Int := 5 * 60 * 1000000

section Reading

def utf8Decode (bytes : List UInt8) : Option String := String.fromUTF8? ⟨bytes.toArray⟩
def utf8Encode (text : String) : List UInt8 := text.toByteArray.data.toList

def b64urlDecode (text : String) : Option (List UInt8) :=
  if text = "" then none else Base64.decode (text.toList ++ Base64.padding text.toList)

def b64urlEncode (raw : List UInt8) : String := String.ofList (Base64.stripPads (Base64.encode raw))

-- value in (None, "")
def blank (value : Json K) : Bool := value.isNull || value.isText ""

def ofBigEndian (bytes : List UInt8) : Nat := bytes.foldl (fun number byte => number * 256 + byte.toNat) 0

-- The bytes of f"{protected}.{payload}", which are all ASCII.
def signingInput (protectedText encoded : String) : Option (List UInt8) :=
  let chars := protectedText.toList ++ '.' :: encoded.toList
  if chars.all Base64.isAscii then some (chars.map fun c => UInt8.ofNat c.toNat) else none

end Reading

section Verification

variable (env : CpiEnv K Key)

def readSegment (text : String) : Option (Json K) := ((b64urlDecode text).bind utf8Decode).bind env.readers.loads

-- A payload of null counts as none.
def decodeCpiSignedData (signature : Json K) : Option (Json K) :=
  match signature.field "encodedCpiSignedData" with
  | .text encoded => (readSegment env encoded).filter fun value => !value.isNull
  | _ => none

def checkSegment (signature : Json K) (key : String) : Except Nat Unit :=
  match signature.field key with
  | .null => .error missingParam
  | .text value => if value = "" then .error missingParam else .ok ()
  | _ => .error invalidParam

def requiredSigned : List String := ["fccId", "cbsdSerialNumber", "installationParam"]

-- `in` also asks the items of a list and the pieces of a text, and .get then fails there.
def checkSignedMembers (signed : Json K) : Except Nat Unit :=
  match signed with
  | .object fields => if requiredSigned.any fun key => blank ((Json.object fields).field key) then .error missingParam else .ok ()
  | .array items => .error (if items.any fun item => item.isText "fccId" then raisedCode else missingParam)
  | .text value => .error (if "fccId".toList <:+: value.toList then raisedCode else missingParam)
  | _ => .error raisedCode

def professionalInstaller (payload : Json K) : Option (Json K) := (payload.field "professionalInstallerData").orEmpty

def structuralCpiError (signature : Json K) : Except Nat Unit :=
  if !signature.truthy then .ok ()
  else if !signature.isObject then .error raisedCode
  else do
    checkSegment signature "digitalSignature"
    checkSegment signature "encodedCpiSignedData"
    checkSegment signature "protectedHeader"
    match decodeCpiSignedData env signature with
    | none => .error invalidParam
    | some signed => do
        checkSignedMembers signed
        if !(signed.field "installationParam").isObject then .error invalidParam
        else
          match professionalInstaller signed with
          | none => .error invalidParam
          | some installer =>
              if blank (installer.field "cpiId") || blank (installer.field "installCertificationTime") then .error missingParam
              else .ok ()

def parseProtectedHeader (text : String) : Option (Json K) := (readSegment env text).filter Json.isObject

-- An algorithm that has no hash ends the request.
def headerAlgorithm (header : Json K) : Except Nat CpiAlgorithm :=
  if !(header.field "alg").hashable then .error raisedCode
  else
    match allowedAlgorithms.find? fun algorithm => (header.field "alg").isText algorithm.name with
    | none => .error invalidParam
    | some algorithm =>
        if !(header.field "typ").isNull && !(header.field "typ").isText "JWT" then .error invalidParam else .ok algorithm

def parseInstallCertTime (value : Json K) : Option Int :=
  match value with
  | .text text => if text.toList.getLast? = some 'Z' then env.strptime text else none
  | _ => none

-- Each algorithm has its own kind of key; the two numbers of an ES256 signature are 32 bytes each.
def verifySignature (algorithm : CpiAlgorithm) (key : PublicKey Key) (message signature : List UInt8) : Bool :=
  match algorithm, key with
  | .rs256, .rsa key => env.rsaVerify key signature message
  | .es256, .ec key =>
      signature.length = 64 && env.ecVerify key (ofBigEndian (signature.take 32)) (ofBigEndian (signature.drop 32)) message
  | _, _ => false

def verifySegments (algorithm : CpiAlgorithm) (pem : Option String) (protectedText encoded signatureText : String) :
    Except Nat Unit :=
  let stripped := PyText.strip (pem.getD "").toList
  if stripped = [] then .error invalidParam
  else do
    let key ← env.loadPem stripped
    match b64urlDecode signatureText, signingInput protectedText encoded with
    | some signature, some message => if verifySignature env algorithm key message signature then .ok () else .error invalidParam
    | _, _ => .error invalidParam

def checkBinding (payload : Json K) (fccId serial : String) : Except Nat Unit :=
  let signedFcc := payload.field "fccId"
  let signedSerial := payload.field "cbsdSerialNumber"
  if blank signedFcc || blank signedSerial then .error missingParam
  else if signedFcc.toText env.readers ≠ fccId then .error invalidParam
  else if signedSerial.toText env.readers ≠ serial then .error invalidParam
  else if !(payload.field "installationParam").isObject then .error invalidParam
  else .ok ()

def checkInstaller (payload : Json K) : Except Nat (Json K) :=
  match professionalInstaller payload with
  | none => .error invalidParam
  | some installer =>
      if !(installer.field "cpiId").truthy then .error missingParam
      else
        match parseInstallCertTime env (installer.field "installCertificationTime") with
        | none => .error invalidParam
        | some certified => if env.now + maxFutureSkew < certified then .error invalidParam else .ok (installer.field "cpiId")

def segmentText (signature : Json K) (key : String) : String := (signature.field key).toText env.readers

def verifyCpiSignature (signature : Json K) (pem : Option String) (fccId serial : String) : Except Nat (CpiVerified K) :=
  if !signature.truthy then .error raisedCode
  else do
    structuralCpiError env signature
    let protectedText := segmentText env signature "protectedHeader"
    let encoded := segmentText env signature "encodedCpiSignedData"
    match parseProtectedHeader env protectedText with
    | none => .error invalidParam
    | some header => do
        let algorithm ← headerAlgorithm header
        match decodeCpiSignedData env signature with
        | none => .error invalidParam
        | some payload => do
            let cpiId ← checkInstaller env payload
            checkBinding env payload fccId serial
            verifySegments env algorithm pem protectedText encoded (segmentText env signature "digitalSignature")
            .ok ⟨payload, algorithm, cpiId.toText env.readers⟩

def cpiPublicKey (cpiId : Json K) : Except Nat (Option String) :=
  match cpiId with
  | .text id => .ok ((env.users.find? (Federal.hasCpiId id)).map (·.cpiPublicKey))
  | other => env.queryOther other

-- str(request.get(key) or "")
def requestText (request : Json K) (key : String) : String :=
  if (request.field key).truthy then (request.field key).toText env.readers else ""

-- The payload is looked into for its cpiId before anything vouches for it.
def peekPublicKey (signature : Json K) : Except Nat (Option String) :=
  let peek := (decodeCpiSignedData env signature).getD .null
  let cpiId := (peek.field "professionalInstallerData").field "cpiId"
  if cpiId.truthy then cpiPublicKey env cpiId else .ok none

def verifyRequestCpi (request : Json K) : Except Nat (Option (Json K)) :=
  let signature := request.field "cpiSignatureData"
  if !signature.truthy then .ok none
  else do
    structuralCpiError env signature
    let pem ← peekPublicKey env signature
    let verified ← verifyCpiSignature env signature pem (requestText env request "fccId") (requestText env request "cbsdSerialNumber")
    .ok (some verified.payload)

end Verification

section Signed

variable (env : CpiEnv K Key)

-- A payload for this device: complete, and certified no later than the clock and its skew.
structure CertifiedPayload (payload : Json K) (fccId serial : String) : Prop where
  named : blank (payload.field "fccId") = false ∧ blank (payload.field "cbsdSerialNumber") = false
  bound : (payload.field "fccId").toText env.readers = fccId ∧ (payload.field "cbsdSerialNumber").toText env.readers = serial
  installed : (payload.field "installationParam").isObject = true
  identified : ((payload.field "professionalInstallerData").field "cpiId").truthy = true
  timely : ∃ certified,
    parseInstallCertTime env ((payload.field "professionalInstallerData").field "installCertificationTime") = some certified ∧
      certified ≤ env.now + maxFutureSkew

-- What a signature vouches for: the segments it covers, the key of the installer the payload names, and the device.
structure CpiSigned (signature payload : Json K) (fccId serial : String) : Prop where
  read : decodeCpiSignedData env signature = some payload
  certified : CertifiedPayload env payload fccId serial
  vouched : ∃ protectedText encoded signatureText header algorithm pem key message bytes,
    signature.field "protectedHeader" = .text protectedText ∧ signature.field "encodedCpiSignedData" = .text encoded ∧
      signature.field "digitalSignature" = .text signatureText ∧ parseProtectedHeader env protectedText = some header ∧
      header.field "alg" = .text (CpiAlgorithm.name algorithm) ∧
      cpiPublicKey env ((payload.field "professionalInstallerData").field "cpiId") = .ok (some pem) ∧
      env.loadPem (PyText.strip pem.toList) = .ok key ∧ b64urlDecode signatureText = some bytes ∧
      signingInput protectedText encoded = some message ∧ verifySignature env algorithm key message bytes = true

theorem passes_check (refuses : Bool) (code : Nat) (next : Except Nat Unit)
    (passed : (if refuses = true then .error code else next) = .ok ()) : refuses = false ∧ next = .ok () := by
  cases refuses with
  | true => cases passed
  | false => exact ⟨rfl, passed⟩

theorem is_text (data : Json K) (value : String) (same : data.isText value = true) : data = .text value := by
  cases data with
  | text held => rw [Json.isText, beq_iff_eq] at same; rw [same]
  | _ => cases same

theorem check_segment_text (signature : Json K) (key : String) (passed : checkSegment signature key = .ok ()) :
    ∃ value, signature.field key = .text value := by
  rw [checkSegment] at passed
  split at passed
  · cases passed
  · rename_i value held
    exact ⟨value, held⟩
  · cases passed

theorem structural_segments (signature : Json K) (given : signature.truthy = true)
    (passed : structuralCpiError env signature = .ok ()) :
    ∃ protectedText encoded signatureText, signature.field "protectedHeader" = .text protectedText ∧
      signature.field "encodedCpiSignedData" = .text encoded ∧ signature.field "digitalSignature" = .text signatureText := by
  rw [structuralCpiError, given, Bool.not_true, if_neg Bool.false_ne_true] at passed
  obtain ⟨_, segments⟩ := passes_check _ _ _ passed
  obtain ⟨_, first, afterFirst⟩ := Collect.bind_ok _ _ _ segments
  obtain ⟨_, second, afterSecond⟩ := Collect.bind_ok _ _ _ afterFirst
  obtain ⟨_, third, _⟩ := Collect.bind_ok _ _ _ afterSecond
  obtain ⟨signatureText, isSignature⟩ := check_segment_text signature _ first
  obtain ⟨encoded, isEncoded⟩ := check_segment_text signature _ second
  obtain ⟨protectedText, isProtected⟩ := check_segment_text signature _ third
  exact ⟨protectedText, encoded, signatureText, isProtected, isEncoded, isSignature⟩

theorem header_algorithm_named (header : Json K) (algorithm : CpiAlgorithm) (allowed : headerAlgorithm header = .ok algorithm) :
    header.field "alg" = .text algorithm.name := by
  rw [headerAlgorithm] at allowed
  split at allowed
  · cases allowed
  · split at allowed
    · cases allowed
    · rename_i found isFound
      split at allowed
      · cases allowed
      · cases allowed
        exact is_text _ _ (by simpa using List.find?_some isFound)

theorem empty_or_field (data installer : Json K) (key : String) (isInstaller : data.orEmpty = some installer) :
    installer.field key = data.field key ∨ (data.truthy = false ∧ installer = .object []) := by
  rw [Json.orEmpty] at isInstaller
  cases given : data.truthy with
  | false =>
      rw [given, Bool.not_false, if_pos rfl] at isInstaller
      exact .inr ⟨rfl, (Option.some.inj isInstaller).symm⟩
  | true =>
      rw [given, Bool.not_true, if_neg Bool.false_ne_true] at isInstaller
      split at isInstaller
      · exact .inl (by rw [Option.some.inj isInstaller])
      · cases isInstaller

theorem installer_passed (payload cpiId : Json K) (passed : checkInstaller env payload = .ok cpiId) :
    cpiId = (payload.field "professionalInstallerData").field "cpiId" ∧ cpiId.truthy = true ∧
      ∃ certified,
        parseInstallCertTime env ((payload.field "professionalInstallerData").field "installCertificationTime") = some certified ∧
          certified ≤ env.now + maxFutureSkew := by
  rw [checkInstaller] at passed
  split at passed
  · cases passed
  · rename_i installer isInstaller
    cases known : (installer.field "cpiId").truthy with
    | false =>
        rw [known, Bool.not_false, if_pos rfl] at passed
        cases passed
    | true =>
        rw [known, Bool.not_true, if_neg Bool.false_ne_true] at passed
        -- An empty installer has no cpiId.
        have inner : ∀ key, installer.field key = (payload.field "professionalInstallerData").field key := by
          intro key
          rcases empty_or_field _ installer key isInstaller with same | ⟨_, none⟩
          · exact same
          · rw [none] at known
            cases known
        split at passed
        · cases passed
        · rename_i certified isCertified
          split at passed
          · cases passed
          · rename_i timely
            cases passed
            rw [inner] at known isCertified
            exact ⟨inner "cpiId", inner "cpiId" ▸ known, certified, isCertified, not_lt.mp timely⟩

theorem binding_passed (payload : Json K) (fccId serial : String) (passed : checkBinding env payload fccId serial = .ok ()) :
    (blank (payload.field "fccId") = false ∧ blank (payload.field "cbsdSerialNumber") = false) ∧
      (payload.field "fccId").toText env.readers = fccId ∧ (payload.field "cbsdSerialNumber").toText env.readers = serial ∧
      (payload.field "installationParam").isObject = true := by
  rw [checkBinding] at passed
  split at passed
  · cases passed
  · rename_i named
    rw [Bool.not_eq_true, Bool.or_eq_false_iff] at named
    split at passed
    · cases passed
    · rename_i sameFcc
      split at passed
      · cases passed
      · rename_i sameSerial
        split at passed
        · cases passed
        · rename_i isDict
          exact ⟨named, not_not.mp sameFcc, not_not.mp sameSerial, by simpa using isDict⟩

theorem segments_verified (algorithm : CpiAlgorithm) (pem : Option String) (protectedText encoded signatureText : String)
    (passed : verifySegments env algorithm pem protectedText encoded signatureText = .ok ()) :
    ∃ held key message bytes, pem = some held ∧ env.loadPem (PyText.strip held.toList) = .ok key ∧
      b64urlDecode signatureText = some bytes ∧ signingInput protectedText encoded = some message ∧
      verifySignature env algorithm key message bytes = true := by
  rw [verifySegments] at passed
  cases pem with
  | none =>
      rw [if_pos (by decide)] at passed
      cases passed
  | some held =>
      dsimp only [Option.getD_some] at passed
      split at passed
      · cases passed
      · obtain ⟨key, loaded, checked⟩ := Collect.bind_ok _ _ _ passed
        split at checked
        · rename_i bytes message isBytes isMessage
          split at checked
          · rename_i valid
            exact ⟨held, key, message, bytes, rfl, loaded, isBytes, isMessage, valid⟩
          · cases checked
        · cases checked

-- Only a payload that its own installer has signed for this device, not in the future, passes.
theorem verified_signed (request payload : Json K) (ran : verifyRequestCpi env request = .ok (some payload)) :
    CpiSigned env (request.field "cpiSignatureData") payload (requestText env request "fccId")
        (requestText env request "cbsdSerialNumber") := by
  rw [verifyRequestCpi] at ran
  cases given : (request.field "cpiSignatureData").truthy with
  | false =>
      rw [given, Bool.not_false, if_pos rfl] at ran
      cases ran
  | true =>
      rw [given, Bool.not_true, if_neg Bool.false_ne_true] at ran
      obtain ⟨_, structural, looked⟩ := Collect.bind_ok _ _ _ ran
      obtain ⟨pem, isPem, verifying⟩ := Collect.bind_ok _ _ _ looked
      obtain ⟨verified, isVerified, ending⟩ := Collect.bind_ok _ _ _ verifying
      rw [verifyCpiSignature, given, Bool.not_true, if_neg Bool.false_ne_true] at isVerified
      obtain ⟨_, _, parsing⟩ := Collect.bind_ok _ _ _ isVerified
      dsimp only at parsing
      cases isHeader : parseProtectedHeader env (segmentText env (request.field "cpiSignatureData") "protectedHeader") with
      | none =>
          rw [isHeader] at parsing
          cases parsing
      | some header =>
          rw [isHeader] at parsing
          obtain ⟨algorithm, isAlgorithm, decoding⟩ := Collect.bind_ok _ _ _ parsing
          cases isPayload : decodeCpiSignedData env (request.field "cpiSignatureData") with
          | none =>
              rw [isPayload] at decoding
              cases decoding
          | some signed =>
              rw [isPayload] at decoding
              obtain ⟨cpiId, isCpiId, binding⟩ := Collect.bind_ok _ _ _ decoding
              obtain ⟨_, isBound, signing⟩ := Collect.bind_ok _ _ _ binding
              obtain ⟨_, isSigned, finished⟩ := Collect.bind_ok _ _ _ signing
              cases finished
              cases ending
              obtain ⟨protectedText, encoded, signatureText, isProtected, isEncoded, isSignature⟩ :=
                structural_segments env _ given structural
              obtain ⟨sameId, known, timely⟩ := installer_passed env signed cpiId isCpiId
              obtain ⟨named, sameFcc, sameSerial, isDict⟩ := binding_passed env signed _ _ isBound
              simp only [segmentText, isProtected, isEncoded, isSignature, Json.toText] at isHeader isSigned
              obtain ⟨pemText, key, message, bytes, hasPem, loaded, isBytes, isMessage, valid⟩ :=
                segments_verified env algorithm pem protectedText encoded signatureText isSigned
              rw [peekPublicKey, isPayload, Option.getD_some, ← sameId, if_pos known, hasPem] at isPem
              refine ⟨isPayload, ⟨named, ⟨sameFcc, sameSerial⟩, isDict, sameId ▸ known, timely⟩, ?_⟩
              exact ⟨protectedText, encoded, signatureText, header, algorithm, pemText, key, message, bytes, isProtected, isEncoded,
                isSignature, isHeader, header_algorithm_named header algorithm isAlgorithm, sameId ▸ isPem, loaded, isBytes,
                isMessage, valid⟩

end Signed

section Signing

inductive PrivateKey (Key : Type) where
  | rsa (key : Key)
  | ec (key : Key)
  | other
deriving DecidableEq, Repr

-- json.dumps with the compact separators, and the private half of the cryptographic library.
structure CpiSigner (K Key : Type) where
  compactDumps : Json K → String
  loadPrivatePem : String → Except String (PrivateKey Key)
  rsaSign : Key → List UInt8 → List UInt8
  ecSign : Key → List UInt8 → Nat × Nat

variable (signer : CpiSigner K Key)

-- number.to_bytes(length, "big"), for a number that fits.
def toBigEndian : Nat → Nat → List UInt8
  | 0, _ => []
  | length + 1, number => toBigEndian length (number / 256) ++ [UInt8.ofNat (number % 256)]

def protectedHeader (algorithm : CpiAlgorithm) : Json K := .object [("alg", .text algorithm.name), ("typ", .text "JWT")]

-- What fits into the 32 bytes of one number of an ES256 signature.
def numberLimit : Nat := 256 ^ 32

def segmentOf (value : Json K) : String := b64urlEncode (utf8Encode (signer.compactDumps value))

def signMessage (algorithm : CpiAlgorithm) (key : PrivateKey Key) (message : List UInt8) : Except String (List UInt8) :=
  match algorithm, key with
  | .rs256, .rsa key => .ok (signer.rsaSign key message)
  | .es256, .ec key =>
      let numbers := signer.ecSign key message
      if numberLimit ≤ numbers.1 ∨ numberLimit ≤ numbers.2 then .error "OverflowError"
      else .ok (toBigEndian 32 numbers.1 ++ toBigEndian 32 numbers.2)
  | _, _ => .error "TypeError"

def signCpiPayload (payload : Json K) (privateKeyPem : String) (algorithm : CpiAlgorithm) : Except String (Json K) :=
  let protectedText := segmentOf signer (protectedHeader algorithm)
  let encoded := segmentOf signer payload
  match signingInput protectedText encoded with
  | none => .error "UnicodeEncodeError"
  | some message => do
      let key ← signer.loadPrivatePem privateKeyPem
      let signature ← signMessage signer algorithm key message
      .ok (.object [("protectedHeader", .text protectedText), ("encodedCpiSignedData", .text encoded),
        ("digitalSignature", .text (b64urlEncode signature))])

end Signing

section RoundTrip

variable (env : CpiEnv K Key) (signer : CpiSigner K Key)

-- json.loads reads back what json.dumps has written.
structure ReadsBack (value : Json K) : Prop where
  written : signer.compactDumps value ≠ ""
  reads : env.readers.loads (signer.compactDumps value) = some value

-- The two halves of a key: what one signs the other verifies.
def Paired : PrivateKey Key → PublicKey Key → Prop
  | .rsa secret, .rsa known => ∀ message, signer.rsaSign secret message ≠ [] ∧
      env.rsaVerify known (signer.rsaSign secret message) message = true
  | .ec secret, .ec known => ∀ message, env.ecVerify known (signer.ecSign secret message).1 (signer.ecSign secret message).2 message = true
  | _, _ => False

theorem b64url_back (bytes : List UInt8) (some : bytes ≠ []) : b64urlDecode (b64urlEncode bytes) = .some bytes := by
  have nonempty : ¬String.ofList (Base64.stripPads (Base64.encode bytes)) = "" := by
    intro empty
    have chars := congrArg String.toList empty
    rw [String.toList_ofList] at chars
    exact Base64.encode_nonempty bytes some chars
  rw [b64urlDecode, b64urlEncode, if_neg nonempty, String.toList_ofList, Base64.decode_unpadded]

theorem utf8_back (text : String) : utf8Decode (utf8Encode text) = some text := by
  have whole : (⟨(utf8Encode text).toArray⟩ : ByteArray) = text.toByteArray := by
    rw [utf8Encode, Array.toArray_toList]
  rw [utf8Decode, whole, String.fromUTF8?, dif_pos text.isValidUTF8]
  rfl

theorem utf8_nonempty (text : String) (some : text ≠ "") : utf8Encode text ≠ [] := by
  intro empty
  have back := utf8_back text
  rw [empty] at back
  have none : utf8Decode [] = Option.some "" := utf8_back ""
  exact some (Option.some.inj (back.symm.trans none))

theorem read_segment_back (value : Json K) (back : ReadsBack env signer value) :
    readSegment env (segmentOf signer value) = some value := by
  rw [readSegment, segmentOf, b64url_back _ (utf8_nonempty _ back.written), Option.bind_some, utf8_back, Option.bind_some, back.reads]

theorem big_endian_length (length number : Nat) : (toBigEndian length number).length = length := by
  induction length generalizing number with
  | zero => rfl
  | succ length ih => rw [toBigEndian, List.length_append, ih]; rfl

theorem big_endian_back (length number : Nat) (fits : number < 256 ^ length) : ofBigEndian (toBigEndian length number) = number := by
  induction length generalizing number with
  | zero =>
      have zero : number = 0 := by simpa using fits
      rw [zero]
      rfl
  | succ length ih =>
      have upper : number / 256 < 256 ^ length := by
        rw [Nat.div_lt_iff_lt_mul (by decide), ← Nat.pow_succ]
        exact fits
      have low : (UInt8.ofNat (number % 256)).toNat = number % 256 := UInt8.toNat_ofNat_of_lt' (Nat.mod_lt _ (by decide))
      have whole := ih (number / 256) upper
      rw [ofBigEndian] at whole
      rw [toBigEndian, ofBigEndian, List.foldl_append, whole]
      simp only [List.foldl_cons, List.foldl_nil, low]
      omega

theorem halves_back (length first second : Nat) (firstFits : first < 256 ^ length) (secondFits : second < 256 ^ length) :
    (toBigEndian length first ++ toBigEndian length second).length = length + length ∧
      ofBigEndian ((toBigEndian length first ++ toBigEndian length second).take length) = first ∧
      ofBigEndian ((toBigEndian length first ++ toBigEndian length second).drop length) = second := by
  have half := big_endian_length length first
  refine ⟨by rw [List.length_append, half, big_endian_length], ?_, ?_⟩
  · rw [List.take_left' half, big_endian_back length first firstFits]
  · rw [List.drop_left' half, big_endian_back length second secondFits]

theorem signature_verified (algorithm : CpiAlgorithm) (secret : PrivateKey Key) (known : PublicKey Key) (message signature : List UInt8)
    (paired : Paired env signer secret known) (signed : signMessage signer algorithm secret message = .ok signature) :
    signature ≠ [] ∧ verifySignature env algorithm known message signature = true := by
  cases algorithm with
  | rs256 =>
      cases secret with
      | rsa secret =>
          cases known with
          | rsa known =>
              cases signed
              exact paired message
          | _ => exact paired.elim
      | _ => cases signed
  | es256 =>
      cases secret with
      | ec secret =>
          cases known with
          | ec known =>
              simp only [signMessage] at signed
              split at signed
              · cases signed
              · rename_i fits
                rw [not_or, not_le, not_le] at fits
                have isSignature := Except.ok.inj signed
                obtain ⟨length, first, second⟩ := halves_back 32 _ _ fits.1 fits.2
                rw [isSignature] at length first second
                refine ⟨fun empty => ?_, ?_⟩
                · rw [empty] at length
                  cases length
                · rw [verifySignature, first, second, paired message, length]
                  rfl
          | _ => exact paired.elim
      | _ => cases signed

theorem signing_input_ascii (value other : Json K) :
    ∃ message, signingInput (segmentOf signer value) (segmentOf signer other) = some message := by
  have ascii : ∀ value : Json K, (segmentOf signer value).toList.all Base64.isAscii = true := by
    intro value
    rw [segmentOf, b64urlEncode, String.toList_ofList]
    exact Base64.unpadded_ascii _
  refine ⟨_, if_pos ?_⟩
  rw [List.all_append, List.all_cons, ascii value, ascii other]
  rfl

theorem segment_nonempty (bytes : List UInt8) (some : bytes ≠ []) : b64urlEncode bytes ≠ "" := by
  intro empty
  have back := b64url_back bytes some
  rw [empty] at back
  cases back

theorem check_segment_given (signature : Json K) (key value : String) (held : signature.field key = .text value) (given : value ≠ "") :
    checkSegment signature key = .ok () := by
  rw [checkSegment, held]
  exact if_neg given

theorem object_not_blank (value : Json K) (isDict : value.isObject = true) : blank value = false := by
  cases value with
  | object fields => rfl
  | _ => cases isDict

theorem truthy_not_blank (value : Json K) (truthy : value.truthy = true) : blank value = false := by
  cases value with
  | text value =>
      rw [Json.truthy, bne_iff_ne] at truthy
      simp [blank, Json.isNull, Json.isText, truthy]
  | null => cases truthy
  | _ => rfl

theorem field_of_object (data : Json K) (key : String) (truthy : (data.field key).truthy = true) : data.isObject = true := by
  cases data with
  | object fields => rfl
  | _ => cases truthy

theorem dated_not_blank (value : Json K) (certified : Int) (parsed : parseInstallCertTime env value = some certified) :
    blank value = false := by
  cases value with
  | text text =>
      simp only [parseInstallCertTime] at parsed
      split at parsed
      · rename_i zulu
        have given : ¬text = "" := by
          intro empty
          rw [empty] at zulu
          cases zulu
        simp [blank, Json.isNull, Json.isText, given]
      · cases parsed
  | _ => cases parsed

section Certified

variable (payload : Json K) (fccId serial : String) (certified : CertifiedPayload env payload fccId serial)

include certified

theorem certified_installer : professionalInstaller payload = some (payload.field "professionalInstallerData") := by
  have isDict := field_of_object _ "cpiId" certified.identified
  have truthy : (payload.field "professionalInstallerData").truthy = true := by
    cases given : (payload.field "professionalInstallerData").truthy with
    | true => rfl
    | false =>
        have known := certified.identified
        cases shape : payload.field "professionalInstallerData" with
        | object fields =>
            rw [shape] at known given
            cases fields with
            | nil => cases known
            | cons entry rest => cases given
        | _ => rw [shape] at isDict; cases isDict
  rw [professionalInstaller, Json.orEmpty, truthy, isDict]
  rfl

theorem certified_installer_passes :
    checkInstaller env payload = .ok ((payload.field "professionalInstallerData").field "cpiId") := by
  obtain ⟨time, isTime, timely⟩ := certified.timely
  simp only [checkInstaller, certified_installer env payload fccId serial certified, certified.identified, isTime, Bool.not_true,
    if_neg Bool.false_ne_true, if_neg (not_lt.mpr timely)]

theorem certified_binding_passes : checkBinding env payload fccId serial = .ok () := by
  simp [checkBinding, certified.named, certified.bound, certified.installed]

theorem certified_structure (signature : Json K) (isDict : signature.isObject = true) (given : signature.truthy = true)
    (segments : ∀ key ∈ ["digitalSignature", "encodedCpiSignedData", "protectedHeader"], checkSegment signature key = .ok ())
    (read : decodeCpiSignedData env signature = some payload) : structuralCpiError env signature = .ok () := by
  obtain ⟨time, isTime, _⟩ := certified.timely
  have members : checkSignedMembers payload = .ok () := by
    have isObject : payload.isObject = true := by
      cases payload with
      | object fields => rfl
      | _ => cases certified.installed
    have none : (requiredSigned.any fun key => blank (payload.field key)) = false := by
      simp [requiredSigned, certified.named, object_not_blank _ certified.installed]
    cases payload with
    | object fields =>
        rw [checkSignedMembers, none]
        rfl
    | _ => cases isObject
  have checks : ∀ key ∈ ["digitalSignature", "encodedCpiSignedData", "protectedHeader"], checkSegment signature key = pure () := segments
  simp only [structuralCpiError, given, isDict, checks _ (List.mem_cons_self), checks "encodedCpiSignedData" (by simp),
    checks "protectedHeader" (by simp), read, members, certified.installed, certified_installer env payload fccId serial certified,
    truthy_not_blank _ certified.identified, dated_not_blank env _ time isTime, Bool.not_true, Bool.or_self, pure_bind,
    if_neg Bool.false_ne_true]
  rfl

end Certified

theorem header_allowed (algorithm : CpiAlgorithm) : headerAlgorithm (protectedHeader algorithm : Json K) = .ok algorithm := by
  cases algorithm <;> rfl

theorem signed_shape (payload signature : Json K) (privateKeyPem : String) (algorithm : CpiAlgorithm)
    (signs : signCpiPayload signer payload privateKeyPem algorithm = .ok signature) :
    ∃ message secret bytes, signingInput (segmentOf signer (protectedHeader algorithm)) (segmentOf signer payload) = some message ∧
      signer.loadPrivatePem privateKeyPem = .ok secret ∧ signMessage signer algorithm secret message = .ok bytes ∧
      signature = .object [("protectedHeader", .text (segmentOf signer (protectedHeader algorithm))),
        ("encodedCpiSignedData", .text (segmentOf signer payload)), ("digitalSignature", .text (b64urlEncode bytes))] := by
  obtain ⟨message, isMessage⟩ := signing_input_ascii signer (protectedHeader algorithm) payload
  rw [signCpiPayload, isMessage] at signs
  obtain ⟨secret, isSecret, signing⟩ := Collect.bind_ok _ _ _ signs
  obtain ⟨bytes, isBytes, ending⟩ := Collect.bind_ok _ _ _ signing
  cases ending
  exact ⟨message, secret, bytes, isMessage, isSecret, isBytes, rfl⟩

section Keys

variable (request payload signature : Json K) (privateKeyPem pem : String) (algorithm : CpiAlgorithm)
variable (secret : PrivateKey Key) (known : PublicKey Key)
variable (signs : signCpiPayload signer payload privateKeyPem algorithm = .ok signature)
variable (carries : request.field "cpiSignatureData" = signature)
variable (headerBack : ReadsBack env signer (protectedHeader algorithm)) (payloadBack : ReadsBack env signer payload)
variable (isSecret : signer.loadPrivatePem privateKeyPem = .ok secret) (paired : Paired env signer secret known)
variable (registered : cpiPublicKey env ((payload.field "professionalInstallerData").field "cpiId") = .ok (some pem))
variable (loaded : env.loadPem (PyText.strip pem.toList) = .ok known) (given : PyText.strip pem.toList ≠ [])

include signs carries headerBack payloadBack isSecret paired registered loaded given

theorem certified_verifies
    (certified : CertifiedPayload env payload (requestText env request "fccId") (requestText env request "cbsdSerialNumber")) :
    verifyRequestCpi env request = .ok (some payload) := by
  obtain ⟨message, loadedSecret, bytes, isMessage, isLoaded, isBytes, shape⟩ :=
    signed_shape signer payload signature privateKeyPem algorithm signs
  rw [isSecret] at isLoaded
  cases isLoaded
  obtain ⟨nonempty, valid⟩ := signature_verified env signer algorithm secret known message bytes paired isBytes
  have headerText : segmentOf signer (protectedHeader algorithm : Json K) ≠ "" :=
    segment_nonempty _ (utf8_nonempty _ headerBack.written)
  have payloadText : segmentOf signer payload ≠ "" := segment_nonempty _ (utf8_nonempty _ payloadBack.written)
  have read : decodeCpiSignedData env signature = some payload := by
    have isSegment : signature.field "encodedCpiSignedData" = .text (segmentOf signer payload) := by
      rw [shape]
      rfl
    have notNull : payload.isNull = false := by
      cases payload with
      | null => cases certified.installed
      | _ => rfl
    rw [decodeCpiSignedData, isSegment]
    simp only [read_segment_back env signer payload payloadBack, Option.filter, notNull, Bool.not_false, if_true]
  have isHeader : parseProtectedHeader env (segmentOf signer (protectedHeader algorithm)) = some (protectedHeader algorithm) := by
    rw [parseProtectedHeader, read_segment_back env signer _ headerBack]
    rfl
  have structural : structuralCpiError env signature = .ok () := by
    refine certified_structure env payload _ _ certified signature (shape ▸ rfl) (shape ▸ rfl) ?_ read
    intro key member
    simp only [List.mem_cons, List.not_mem_nil, or_false] at member
    rcases member with isKey | isKey | isKey
    · exact check_segment_given signature key (b64urlEncode bytes) (by rw [shape, isKey]; rfl) (segment_nonempty bytes nonempty)
    · exact check_segment_given signature key _ (by rw [shape, isKey]; rfl) payloadText
    · exact check_segment_given signature key _ (by rw [shape, isKey]; rfl) headerText
  have peeked : peekPublicKey env signature = .ok (some pem) := by
    rw [peekPublicKey, read, Option.getD_some, if_pos certified.identified, registered]
  have segments : verifySegments env algorithm (some pem) (segmentOf signer (protectedHeader algorithm)) (segmentOf signer payload)
      (b64urlEncode bytes) = .ok () := by
    rw [verifySegments, Option.getD_some, if_neg given, loaded]
    simp only [bind, Except.bind, b64url_back bytes nonempty, isMessage, valid, if_true]
  have isProtected : segmentText env signature "protectedHeader" = segmentOf signer (protectedHeader algorithm) := by
    rw [segmentText, shape]
    rfl
  have isEncoded : segmentText env signature "encodedCpiSignedData" = segmentOf signer payload := by
    rw [segmentText, shape]
    rfl
  have isSignature : segmentText env signature "digitalSignature" = b64urlEncode bytes := by
    rw [segmentText, shape]
    rfl
  have truthy : signature.truthy = true := shape ▸ rfl
  simp only [verifyRequestCpi, carries, verifyCpiSignature, truthy, structural, peeked, isProtected, isEncoded, isSignature, isHeader,
    header_allowed, read, certified_installer_passes env payload _ _ certified, certified_binding_passes env payload _ _ certified,
    segments, bind, Except.bind, Bool.not_true, if_neg Bool.false_ne_true]

-- What an installer signs with the key that the SAS knows under its id verifies exactly when the payload is complete,
-- not from the future and made for the device of the request.
theorem sign_verify_iff : verifyRequestCpi env request = .ok (some payload) ↔
    CertifiedPayload env payload (requestText env request "fccId") (requestText env request "cbsdSerialNumber") :=
  ⟨fun ran => (verified_signed env request payload ran).certified,
    certified_verifies env signer request payload signature privateKeyPem pem algorithm secret known signs carries headerBack
      payloadBack isSecret paired registered loaded given⟩

end Keys

end RoundTrip

def sampleHeaderText : String := "\x7b\"alg\":\"RS256\",\"typ\":\"JWT\"\x7d"

@[irreducible] def samplePayloadText : String :=
  "\x7b\"fccId\":\"fcc\",\"cbsdSerialNumber\":\"sn\",\"installationParam\":\x7b\"latitude\":37,\"longitude\":-122,\"height\":10," ++
    "\"heightType\":\"AGL\",\"antennaAzimuth\":0,\"antennaGain\":0,\"antennaBeamwidth\":0\x7d," ++
    "\"professionalInstallerData\":\x7b\"cpiId\":\"cpi\",\"installCertificationTime\":\"2020-01-01T00:00:00Z\"\x7d\x7d"

def samplePayload : Json Rat :=
  .object [("fccId", .text "fcc"), ("cbsdSerialNumber", .text "sn"),
    ("installationParam", .object [("latitude", .int 37), ("longitude", .int (-122)), ("height", .int 10), ("heightType", .text "AGL"),
      ("antennaAzimuth", .int 0), ("antennaGain", .int 0), ("antennaBeamwidth", .int 0)]),
    ("professionalInstallerData", .object [("cpiId", .text "cpi"), ("installCertificationTime", .text "2020-01-01T00:00:00Z")])]

def sampleLoads (text : String) : Option (Json Rat) :=
  if text = sampleHeaderText then some (protectedHeader .rs256) else if text = samplePayloadText then some samplePayload else none

-- A signature that repeats the message behind a zero.
def sampleCpi : CpiEnv Rat Unit where
  readers := ⟨sampleLoads, fun _ => none, fun _ => none, fun _ => 0, fun _ => ""⟩
  strptime := fun text => if text = "2020-01-01T00:00:00Z" then some 1577836800000000 else none
  loadPem := fun pem => if pem = "PUBLIC".toList then .ok (.rsa ()) else .error invalidParam
  rsaVerify := fun _ signature message => signature == 0 :: message
  ecVerify := fun _ _ _ _ => false
  users := [⟨"cpi", "", "PUBLIC"⟩]
  queryOther := fun _ => .ok none
  now := 1577836800000000

def sampleSigner : CpiSigner Rat Unit where
  compactDumps := fun value => if value.has "alg" then sampleHeaderText else samplePayloadText
  loadPrivatePem := fun _ => .ok (.rsa ())
  rsaSign := fun _ message => 0 :: message
  ecSign := fun _ _ => (0, 0)

def sampleMessage : List UInt8 :=
  (signingInput (segmentOf sampleSigner (protectedHeader .rs256)) (segmentOf sampleSigner samplePayload)).getD []

def sampleSignature : Json Rat :=
  .object [("protectedHeader", .text (segmentOf sampleSigner (protectedHeader .rs256))),
    ("encodedCpiSignedData", .text (segmentOf sampleSigner samplePayload)),
    ("digitalSignature", .text (b64urlEncode (0 :: sampleMessage)))]

def signedRequest : Json Rat :=
  .object [("fccId", .text "fcc"), ("cbsdSerialNumber", .text "sn"), ("userId", .text "user"), ("cbsdCategory", .text "B"),
    ("airInterface", .object [("radioTechnology", .text "E_UTRA")]), ("cpiSignatureData", sampleSignature)]

theorem sample_text_apart : samplePayloadText ≠ sampleHeaderText ∧ samplePayloadText ≠ "" := by
  unfold samplePayloadText
  decide +kernel

theorem sample_loads_payload : sampleLoads samplePayloadText = some samplePayload := by
  rw [sampleLoads, if_neg sample_text_apart.1, if_pos rfl]

theorem sample_loads_header : sampleLoads sampleHeaderText = some (protectedHeader .rs256) := if_pos rfl

theorem sample_header_back : ReadsBack sampleCpi sampleSigner (protectedHeader .rs256) where
  written := by decide
  reads := sample_loads_header

theorem sample_payload_back : ReadsBack sampleCpi sampleSigner samplePayload where
  written := sample_text_apart.2
  reads := sample_loads_payload

theorem sample_certified :
    CertifiedPayload sampleCpi samplePayload (requestText sampleCpi signedRequest "fccId")
      (requestText sampleCpi signedRequest "cbsdSerialNumber") where
  named := ⟨rfl, rfl⟩
  bound := ⟨rfl, rfl⟩
  installed := rfl
  identified := rfl
  timely := ⟨1577836800000000, rfl, by decide⟩

theorem sample_signs : signCpiPayload sampleSigner samplePayload "PRIVATE" .rs256 = .ok sampleSignature := by
  obtain ⟨message, isMessage⟩ := signing_input_ascii sampleSigner (protectedHeader .rs256) samplePayload
  have isSample : sampleMessage = message := by rw [sampleMessage, isMessage, Option.getD_some]
  rw [signCpiPayload, isMessage, sampleSignature, isSample]
  rfl

theorem sample_verifies : verifyRequestCpi sampleCpi signedRequest = .ok (some samplePayload) :=
  certified_verifies sampleCpi sampleSigner signedRequest samplePayload sampleSignature "PRIVATE" "PUBLIC" .rs256 (.rsa ())
    (.rsa ()) sample_signs rfl sample_header_back sample_payload_back rfl
    (fun message => ⟨List.cons_ne_nil 0 message, beq_self_eq_true _⟩) rfl rfl (by decide) sample_certified

theorem sign_verify_sample : verifyRequestCpi sampleCpi signedRequest = .ok (some samplePayload) :=
  (sign_verify_iff sampleCpi sampleSigner signedRequest samplePayload sampleSignature "PRIVATE" "PUBLIC" .rs256 (.rsa ())
    (.rsa ()) sample_signs rfl sample_header_back sample_payload_back rfl
    (fun message => ⟨List.cons_ne_nil 0 message, beq_self_eq_true _⟩) rfl rfl (by decide)).mpr sample_certified

end SasCore.Registry
