import SasCore.Lib.JsonRoundTrip
import SasCore.Registry.CpiSignature

set_option autoImplicit false
set_option linter.unusedSectionVars false

-- Where the installation of a registered device comes from.
namespace SasCore.Registry

variable {K Key : Type} [Field K] [LinearOrder K]

section Merge

theorem field_put_other (data value : Json K) (key other : String) (apart : key ≠ other) :
    (data.put key value).field other = data.field other := by
  cases shape : data.isObject with
  | true => rw [Json.field_put key other value data shape, if_neg apart]
  | false =>
      cases data with
      | object fields => cases shape
      | _ => rfl

theorem fill_missing_other (key other : String) (signed merged : Json K) (apart : key ≠ other) :
    (fillMissing key signed merged).field other = merged.field other := by
  rw [fillMissing]
  split
  · exact field_put_other merged _ key other apart
  · rfl

theorem lookup_merge_absent (fields held : List (String × Json K)) (key : String) (absent : key ∉ fields.map (·.1)) :
    PyDict.lookup (mergeFields fields held) key = PyDict.lookup held key := by
  induction fields generalizing held with
  | nil => rw [mergeFields]
  | cons entry rest ih =>
      obtain ⟨name, value⟩ := entry
      rw [List.map_cons, List.mem_cons, not_or] at absent
      rw [mergeFields, ih _ absent.2, PyDict.lookup_set, if_neg (Ne.symm absent.1)]

theorem key_unknown (fields : List (String × Json K)) (distinct : (fields.map (·.1)).Nodup) (key : String)
    (absent : (Json.object fields).has key = false) : key ∉ fields.map (·.1) := by
  intro member
  obtain ⟨entry, listed, isKey⟩ := List.mem_map.mp member
  rw [Json.has, PyDict.lookup_mem fields distinct key entry.2 (by rw [← isKey]; exact listed)] at absent
  cases absent

theorem lookup_merge_present (fields held : List (String × Json K)) (distinct : (fields.map (·.1)).Nodup) (key : String)
    (value : Json K) (found : PyDict.lookup fields key = some value) :
    PyDict.lookup (mergeFields fields held) key = some (mergeValue value (PyDict.lookup held key)) := by
  induction fields generalizing held with
  | nil => cases found
  | cons entry rest ih =>
      obtain ⟨name, first⟩ := entry
      rw [List.map_cons, List.nodup_cons] at distinct
      rw [PyDict.lookup_cons] at found
      rw [mergeFields]
      by_cases here : name = key
      · rw [if_pos here] at found
        cases found
        rw [← here, lookup_merge_absent rest _ name distinct.1, PyDict.lookup_set, if_pos rfl]
      · rw [if_neg here] at found
        rw [ih _ distinct.2 found, PyDict.lookup_set, if_neg here]

-- A signed value over a preloaded one: two objects are merged key by key, at every depth; else the signed value stands.
inductive Overlaid : Json K → Json K → Json K → Prop where
  | signed (value below : Json K) (single : (value.isObject && below.isObject) = false) : Overlaid value below value
  | merged (value below whole : Json K) (objects : (value.isObject && below.isObject && whole.isObject) = true)
      (covered : ∀ key, value.has key = true → Overlaid (value.field key) (below.field key) (whole.field key))
      (rest : ∀ key, value.has key = false → whole.field key = below.field key) : Overlaid value below whole

theorem merge_single (value : Json K) (below : Option (Json K))
    (single : (value.isObject && (below.getD .null).isObject) = false) : mergeValue value below = value := by
  unfold mergeValue
  split
  · cases single
  · rfl

theorem merge_overlays (value : Json K) (below : Option (Json K)) (plain : JsonText.Plain value) :
    Overlaid value (below.getD .null) (mergeValue value below) := by
  cases single : (value.isObject && (below.getD .null).isObject) with
  | false =>
      rw [merge_single value below single]
      exact .signed value _ single
  | true =>
      match value, below with
      | .object fields, some (.object held) =>
          rw [mergeValue]
          refine .merged _ _ _ rfl (fun key has => ?_) fun key absent => ?_
          · obtain ⟨inner, found⟩ := Option.isSome_iff_exists.mp has
            have entry := PyDict.lookup_entry fields key inner found
            have smaller : sizeOf inner < 1 + sizeOf fields := by
              have bounded := List.sizeOf_lt_of_mem entry
              simp only [Prod.mk.sizeOf_spec] at bounded
              omega
            have deeper := merge_overlays inner (PyDict.lookup held key) (JsonText.fields_plain_each fields plain.2 _ entry)
            simp only [Json.field, Option.getD_some, found, lookup_merge_present fields held plain.1 key inner found]
            exact deeper
          · have unknown := key_unknown fields plain.1 key absent
            simp only [Json.field, Option.getD_some, lookup_merge_absent fields held key unknown]
termination_by sizeOf value

theorem falsy_field (data : Json K) (key : String) (falsy : data.truthy = false) : data.field key = .null := by
  cases data with
  | object fields =>
      cases fields with
      | nil => rfl
      | cons entry rest => cases falsy
  | _ => rfl

-- A request without an installation of its own leaves that of the conditionals.
theorem conditional_kept (request conditionals merged : Json K) (keyed : JsonText.Plain request)
    (cleared : (request.field "installationParam").isNull = true)
    (ran : deepMerge conditionals (givenFields request) = .ok merged) :
    merged.field "installationParam" = conditionals.field "installationParam" := by
  unfold deepMerge at ran
  split at ran
  · rename_i held fields isGiven
    cases ran
    cases request with
    | object items =>
        rw [givenFields] at isGiven
        cases isGiven
        have absent : "installationParam" ∉ (items.filter fun entry => !entry.2.isNull).map (·.1) := by
          intro member
          obtain ⟨entry, listed, named⟩ := List.mem_map.mp member
          obtain ⟨inItems, given⟩ := List.mem_filter.mp listed
          have found : PyDict.lookup items "installationParam" = some entry.2 :=
            PyDict.lookup_mem items keyed.1 _ _ (by rw [← named]; exact inItems)
          rw [Json.field, found, Option.getD_some] at cleared
          rw [cleared] at given
          cases given
        simp only [Json.field, lookup_merge_absent _ held _ absent]
    | _ => cases isGiven
  · cases ran

theorem unsigned_installation (request conditionals merged : Json K) (keyed : JsonText.Plain request)
    (cleared : (request.field "installationParam").isNull = true)
    (ran : mergeRegistration request conditionals none = .ok merged) :
    merged.field "installationParam" = conditionals.field "installationParam" := by
  obtain ⟨whole, isWhole, ending⟩ := Collect.bind_ok _ _ _ ran
  cases ending
  exact conditional_kept request conditionals merged keyed cleared isWhole

-- The signed installation lies over that of the conditionals.
theorem signed_installation (request conditionals merged payload : Json K) (keyed : JsonText.Plain request)
    (cleared : (request.field "installationParam").isNull = true)
    (isDict : (payload.field "installationParam").isObject = true)
    (ran : mergeRegistration request conditionals (some payload) = .ok merged) :
    ∃ fields held, payload.field "installationParam" = .object fields ∧
      merged.field "installationParam" = .object (mergeFields fields held) ∧
      ∀ key, (PyDict.lookup held key).getD .null = (conditionals.field "installationParam").field key := by
  have named : payload.has "installationParam" = true ∧ payload.truthy = true := by
    cases payload with
    | object fields =>
        rw [Json.field] at isDict
        cases found : PyDict.lookup fields "installationParam" with
        | none =>
            rw [found] at isDict
            cases isDict
        | some value =>
            refine ⟨by rw [Json.has, found]; rfl, ?_⟩
            cases fields with
            | nil => cases found
            | cons entry rest => rfl
    | _ => cases isDict
  obtain ⟨first, isFirst, filling⟩ := Collect.bind_ok _ _ _ ran
  have kept := conditional_kept request conditionals first keyed cleared isFirst
  simp only [Option.filter, named.2, if_true, named.1] at filling
  obtain ⟨whole, isWhole, ending⟩ := Collect.bind_ok _ _ _ filling
  cases ending
  unfold deepMerge at isWhole
  split at isWhole
  · rename_i held fields isHeld isFields
    cases isWhole
    have firstDict : first.isObject = true := by
      unfold deepMerge at isFirst
      split at isFirst
      · cases isFirst
        rfl
      · cases isFirst
    refine ⟨fields, held, isFields, ?_, fun key => ?_⟩
    · rw [fill_missing_other _ _ _ _ (by decide), fill_missing_other _ _ _ _ (by decide), Json.field_put _ _ _ _ firstDict,
        if_pos rfl]
    · have inner : (Json.object held : Json K).field key = (conditionals.field "installationParam").field key := by
        rw [← isHeld, kept]
        split
        · rfl
        · rename_i falsy
          rw [falsy_field _ key (Bool.eq_false_of_not_eq_true falsy)]
          rfl
      exact inner
  · cases isWhole

end Merge

section Runs

open JsonText

-- The registration calls that look at the signature, their JSON with distinct keys as json.loads makes it.
structure CpiGated (cpi : RegistrationEnv K → CpiEnv K Key) (env : RegistrationEnv K) (request : Json K) : Prop where
  verifies : env.verifyRequestCpi = verifyRequestCpi (cpi env)
  keyed : Plain request
  loaded : ∀ text value, (cpi env).readers.loads text = some value → Plain value

-- Every parameter of the installation is the signed one, over the preloaded one where both are objects, or where none is
-- signed the preloaded one.
structure VouchedInstallation (cpi : CpiEnv K Key) (request conditionals installation payload : Json K) : Prop where
  signed : CpiSigned cpi (request.field "cpiSignatureData") payload (requestOf request).fccId (requestOf request).cbsdSerialNumber
  covered : ∀ key, (payload.field "installationParam").has key = true →
    Overlaid ((payload.field "installationParam").field key) ((conditionals.field "installationParam").field key)
      (installation.field key)
  rest : ∀ key, (payload.field "installationParam").has key = false →
    installation.field key = (conditionals.field "installationParam").field key

-- Where the installation of an accepted registration comes from.
def InstallationVouched (cpi : CpiEnv K Key) (request conditionals installation : Json K) : Prop :=
  if (request.field "cpiSignatureData").truthy = true then
    ∃ payload, VouchedInstallation cpi request conditionals installation payload
  else ∀ key, installation.field key = (conditionals.field "installationParam").field key

theorem decoded_plain (env : CpiEnv K Key) (loaded : ∀ text value, env.readers.loads text = some value → JsonText.Plain value)
    (signature payload : Json K) (read : decodeCpiSignedData env signature = some payload) : JsonText.Plain payload := by
  rw [decodeCpiSignedData] at read
  split at read
  · obtain ⟨isRead, _⟩ := Option.filter_eq_some_iff.mp read
    obtain ⟨text, _, isLoaded⟩ := Option.bind_eq_some_iff.mp isRead
    exact loaded text payload isLoaded
  · cases read

theorem installation_field (merged installation : Json K) (installed : installationOf merged = .ok installation) (key : String) :
    installation.field key = (merged.field "installationParam").field key := by
  rw [installationOf] at installed
  cases found : (merged.field "installationParam").orEmpty with
  | none =>
      rw [found] at installed
      cases installed
  | some held =>
      rw [found] at installed
      cases installed
      rcases empty_or_field _ installation key found with same | ⟨falsy, none⟩
      · exact same
      · rw [none, falsy_field _ key falsy]
        rfl

theorem named_text (request : Json K) (key : String) (named : textField request key ≠ "") (env : CpiEnv K Key) :
    requestText env request key = textField request key := by
  rw [textField] at named ⊢
  rw [requestText]
  split at named
  · rename_i value held
    have truthy : (Json.text value : Json K).truthy = true := bne_iff_ne.mpr named
    rw [held, if_pos truthy]
    rfl
  · exact absurd rfl named

theorem accepted_vouched (cpi : RegistrationEnv K → CpiEnv K Key) (env : RegistrationEnv K) (request merged installation : Json K)
    (gated : CpiGated cpi env request) (accepted : Accepted env request merged installation)
    (closed : (request.field "cpiSignatureData").truthy = true ∨ (merged.field "cbsdCategory").isText "B" = true) :
    InstallationVouched (cpi env) request (env.conditionals (requestOf request).fccId (requestOf request).cbsdSerialNumber)
      installation := by
  have cleared : (request.field "installationParam").isNull = true := by
    have clear := valid_clear env request merged installation accepted.valid
    rw [invalidClearInstallation, Bool.and_eq_false_iff] at clear
    rcases clear with noInstallation | neither
    · simpa using noInstallation
    · rw [Bool.or_eq_false_iff] at neither
      rcases closed with signs | isB
      · rw [neither.1] at signs
        cases signs
      · rw [neither.2] at isB
        cases isB
  have named := accepted.named
  simp only [missingRegistrationFields, Bool.or_eq_false_iff, decide_eq_false_iff_not] at named
  obtain ⟨verified, isVerified, isMerged⟩ := accepted.signed
  rw [gated.verifies] at isVerified
  rw [InstallationVouched]
  cases given : (request.field "cpiSignatureData").truthy with
  | false =>
      rw [if_neg Bool.false_ne_true]
      intro key
      simp only [verifyRequestCpi, given, Bool.not_false, if_true] at isVerified
      cases isVerified
      rw [installation_field merged installation accepted.installed key,
        unsigned_installation request _ merged gated.keyed cleared isMerged]
  | true =>
      rw [if_pos rfl]
      cases verified with
      | none =>
          rw [verifyRequestCpi, given, Bool.not_true, if_neg Bool.false_ne_true] at isVerified
          obtain ⟨_, _, looked⟩ := Collect.bind_ok _ _ _ isVerified
          obtain ⟨_, _, verifying⟩ := Collect.bind_ok _ _ _ looked
          obtain ⟨_, _, ending⟩ := Collect.bind_ok _ _ _ verifying
          cases ending
      | some payload =>
          have signed := verified_signed (cpi env) request payload isVerified
          rw [named_text request "fccId" named.1.2, named_text request "cbsdSerialNumber" named.2] at signed
          obtain ⟨fields, held, isFields, isWhole, below⟩ :=
            signed_installation request _ merged payload gated.keyed cleared signed.certified.installed isMerged
          have plain : Plain (Json.object fields) := by
            rw [← isFields]
            exact plain_of_field payload (decoded_plain (cpi env) gated.loaded _ payload signed.read) "installationParam"
          refine ⟨payload, signed, fun key covered => ?_, fun key absent => ?_⟩
          · rw [installation_field merged installation accepted.installed key, isWhole, ← below key]
            rw [isFields] at covered ⊢
            obtain ⟨value, found⟩ := Option.isSome_iff_exists.mp covered
            simp only [Json.field, found, Option.getD_some, lookup_merge_present fields held plain.1 key value found]
            exact merge_overlays value _ (fields_plain_each fields plain.2 _ (PyDict.lookup_entry fields key value found))
          · rw [installation_field merged installation accepted.installed key, isWhole, ← below key]
            rw [isFields] at absent
            rw [Json.field, lookup_merge_absent fields held key (key_unknown fields plain.1 key absent)]

-- After every run of the services each device that is of category B or came with a signature stands where its installer
-- signed for it, under its own id, or where the conditionals put it.
theorem installations_vouched (cpi : RegistrationEnv K → CpiEnv K Key) (calls : List (ServiceCall K))
    (gated : ∀ env cert request readings, .register env cert request readings ∈ calls → CpiGated cpi env request)
    (row : Cbsd K) (member : row ∈ (serveAll calls Store.empty).cbsds) :
    ∃ env request merged installation, (∃ cert readings, .register env cert request readings ∈ calls) ∧
      row.cbsdId = makeCbsdId (requestOf request).fccId (requestOf request).cbsdSerialNumber ∧
      row.registration = env.registrationOf merged ∧ installationOf merged = .ok installation ∧
      ((request.field "cpiSignatureData").truthy = true ∨ (merged.field "cbsdCategory").isText "B" = true →
        InstallationVouched (cpi env) request (env.conditionals (requestOf request).fccId (requestOf request).cbsdSerialNumber)
          installation) := by
  rcases served_rows calls Store.empty row member with none | ⟨call, inCalls, env, cert, request, readings, merged, isCall, checked,
    name, stored⟩
  · cases none
  · rw [isCall] at inCalls
    obtain ⟨installation, accepted⟩ := check_registration_accepted env request merged checked
    exact ⟨env, request, merged, installation, ⟨cert, readings, inCalls⟩, name, stored, accepted.installed,
      accepted_vouched cpi env request merged installation (gated env cert request readings inCalls) accepted⟩

end Runs

-- The conditionals of this device fill in its power and lose its latitude to the signed one.
def signedEnv : RegistrationEnv Rat where
  readers := sampleCpi.readers
  blacklisted := fun _ _ => false
  verifyRequestCpi := verifyRequestCpi sampleCpi
  conditionals := fun _ _ => .object [("installationParam", .object [("latitude", .int 40), ("eirpCapability", .int 40)])]
  fccMaxEirp := fun _ => some 47
  userKnown := fun _ => true
  catAOutdoorHaatExceeds := fun _ => false
  quietZoneBlocks := fun _ _ => false
  registrationOf := fun _ => ⟨some "B", none, []⟩

def mergedInstallation : Json Rat :=
  .object [("latitude", .int 37), ("eirpCapability", .int 40), ("longitude", .int (-122)), ("height", .int 10),
    ("heightType", .text "AGL"), ("antennaAzimuth", .int 0), ("antennaGain", .int 0), ("antennaBeamwidth", .int 0)]

def signedMerged : Json Rat :=
  .object [("installationParam", mergedInstallation), ("fccId", .text "fcc"), ("cbsdSerialNumber", .text "sn"), ("userId", .text "user"),
    ("cbsdCategory", .text "B"), ("airInterface", .object [("radioTechnology", .text "E_UTRA")]), ("cpiSignatureData", sampleSignature)]

theorem signed_merged : mergeRegistration signedRequest (signedEnv.conditionals "fcc" "sn") (some samplePayload) = .ok signedMerged := by
  rfl

theorem signed_valid : validateParams signedEnv signedRequest signedMerged mergedInstallation = .ok none := by
  rfl

-- Each check is evaluated alone, on the values that the ones before it have given.
theorem signed_accepted : checkRegistration signedEnv signedRequest = .ok signedMerged := by
  have named : missingRegistrationFields (requestOf signedRequest) = false := by rfl
  have verified : signedEnv.verifyRequestCpi signedRequest = .ok (some samplePayload) := sample_verifies
  have conditionals : signedEnv.conditionals (requestOf signedRequest).fccId (requestOf signedRequest).cbsdSerialNumber =
      signedEnv.conditionals "fcc" "sn" := by rfl
  have installed : installationOf signedMerged = .ok mergedInstallation := by rfl
  have complete : hasPendingParams signedMerged mergedInstallation = false := by rfl
  have clear : signedEnv.quietZoneBlocks mergedInstallation (signedMerged.field "cbsdCategory") = false := by rfl
  have allowed : signedEnv.blacklisted (requestOf signedRequest).fccId (requestOf signedRequest).cbsdSerialNumber = false := by rfl
  rw [checkRegistration, named, if_neg Bool.false_ne_true, allowed, if_neg Bool.false_ne_true, verified, conditionals]
  simp only [bind, Except.bind, signed_merged, installed, signed_valid, complete, clear, Bool.false_eq_true, if_false]

theorem sample_loaded_plain (text : String) (value : Json Rat) (loaded : sampleLoads text = some value) : JsonText.Plain value := by
  rw [sampleLoads] at loaded
  split at loaded
  · cases loaded
    simp [protectedHeader, JsonText.Plain, JsonText.PlainFields]
  · split at loaded
    · cases loaded
      simp [samplePayload, JsonText.Plain, JsonText.PlainFields]
    · cases loaded

theorem signed_gated : CpiGated (fun _ : RegistrationEnv Rat => sampleCpi) signedEnv signedRequest where
  verifies := rfl
  keyed := by simp [signedRequest, sampleSignature, JsonText.Plain, JsonText.PlainFields]
  loaded := sample_loaded_plain

def signedCalls : List (ServiceCall Rat) := [.register signedEnv none signedRequest (readingsAt 0)]

theorem installations_vouched_signed : ∃ merged installation, installationOf merged = .ok installation ∧
    InstallationVouched sampleCpi signedRequest (signedEnv.conditionals "fcc" "sn") installation := by
  have served : serveAll signedCalls Store.empty =
      (registrationItem (.ok (signedEnv.registrationOf signedMerged)) none (readingsAt 0).read (requestOf signedRequest) Store.empty).1 := by
    rw [serveAll, signedCalls, List.foldl_cons, List.foldl_nil, serve, registerCbsd, signed_accepted, Except.map]
  obtain ⟨row, member⟩ : ∃ row, row ∈ (serveAll signedCalls Store.empty).cbsds := by
    rw [served]
    exact ⟨_, List.mem_singleton_self _⟩
  have gated : ∀ env cert request readings, ServiceCall.register env cert request readings ∈ signedCalls →
      CpiGated (fun _ : RegistrationEnv Rat => sampleCpi) env request := by
    intro env cert request readings listed
    cases List.mem_singleton.mp listed
    exact signed_gated
  obtain ⟨env, request, merged, installation, ⟨cert, readings, listed⟩, _, _, installed, vouched⟩ :=
    installations_vouched (fun _ => sampleCpi) signedCalls gated row member
  cases List.mem_singleton.mp listed
  exact ⟨merged, installation, installed, vouched (.inl rfl)⟩

end SasCore.Registry
