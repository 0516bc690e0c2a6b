import SasCore.Fad.GrantJson
import SasCore.Routes.Loops

set_option autoImplicit false
set_option linter.unusedSectionVars false

-- A CBSD request: its items through the schema, the process function over the valid ones, and the merge.
namespace SasCore.Routes

open Gather Registry Spectrum

variable {K : Type} [Field K] [LinearOrder K]

inductive Procedure where
  | registration | spectrumInquiry | grant | heartbeat | relinquishment | deregistration
deriving DecidableEq, Repr

def requestKey : Procedure → String
  | .registration => "registrationRequest"
  | .spectrumInquiry => "spectrumInquiryRequest"
  | .grant => "grantRequest"
  | .heartbeat => "heartbeatRequest"
  | .relinquishment => "relinquishmentRequest"
  | .deregistration => "deregistrationRequest"

section Processors

-- A process function: the round of its loop for an item, and what it does to a response behind the loop.
structure Processor (K : Type) where
  Reads : Type
  State : Type
  Response : Type
  enter : Store K → State
  leave : State → Store K
  body : Reads → Option String → List (String × Json K) → State → Round State Response
  amend : Bool → List (String × Json K) → Response → Response
  appends : ∀ reads certificateHash payload state, Appends (body reads certificateHash payload state)

structure RegistrationReads (K : Type) where
  env : RegistrationEnv K
  clock : Clock

structure GrantReads (K : Type) where
  checks : GrantChecks K
  readers : PyReaders K
  grantId : String
  clock : Clock

structure HeartbeatReads (K : Type) where
  checks : HeartbeatChecks K
  clock : Clock

-- The schema leaves a list of texts, or no field at all.
def asksMeasurement (payload : List (String × Json K)) : Bool :=
  ((Json.object payload).field "measCapability").items.any (·.isText measWithoutGrant)

-- The loop of process_registration behind its loop over the requests, for one pair.
def requestMeasurement (measFlag : Bool) (payload : List (String × Json K)) (response : RegistrationResponse) : RegistrationResponse :=
  if measFlag && response.responseCode = success && asksMeasurement payload then
    { response with measReportConfig := some [measWithoutGrant] }
  else response

def readHeartbeatRequest (payload : List (String × Json K)) : HeartbeatRequest where
  cbsdId := textField (.object payload) "cbsdId"
  grantId := textField (.object payload) "grantId"
  operationState := textField (.object payload) "operationState"
  grantRenew := ((Json.object payload).field "grantRenew").isTrue

def processRegistration : Processor K where
  Reads := RegistrationReads K
  State := Store K
  Response := RegistrationResponse
  enter store := store
  leave store := store
  body reads certificateHash payload store := registrationBody reads.env certificateHash reads.clock (.object payload) store
  amend measFlag payload response := requestMeasurement measFlag payload response
  appends reads certificateHash payload store := registration_appends reads.env certificateHash reads.clock (.object payload) store

def processSpectrumInquiry : Processor K where
  Reads := InquiryChecks K
  State := Store K
  Response := InquiryResponse
  enter store := store
  leave store := store
  body checks certificateHash payload store := inquiryBody checks certificateHash (.object payload) store
  amend _ _ response := response
  appends checks certificateHash payload store := inquiry_appends checks certificateHash (.object payload) store

def processGrant : Processor K where
  Reads := GrantReads K
  State := Store K × Pending
  Response := GrantResponse
  enter store := (store, fun _ => [])
  leave state := state.1
  body reads certificateHash payload state :=
    grantBody reads.checks certificateHash (Fad.readGrantRequest reads.readers payload) reads.grantId reads.clock state.1 state.2
  amend _ _ response := response
  appends reads certificateHash payload state := by
    obtain ⟨ranges, body⟩ := grant_body reads.checks certificateHash (Fad.readGrantRequest reads.readers payload) reads.grantId
      reads.clock state.1 state.2
    rw [body]
    exact respond_appends _ _

def processHeartbeat : Processor K where
  Reads := HeartbeatReads K
  State := Store K
  Response := HeartbeatResponse
  enter store := store
  leave store := store
  body reads certificateHash payload store :=
    heartbeatBody reads.checks reads.clock (readHeartbeatRequest payload) store certificateHash
  amend _ _ response := response
  appends reads certificateHash payload store := by
    rw [heartbeat_body]
    exact respond_appends _ _

def processRelinquishment : Processor K where
  Reads := Clock
  State := Store K
  Response := ServiceResponse
  enter store := store
  leave store := store
  body clock certificateHash payload store :=
    relinquishmentBody certificateHash clock (textField (.object payload) "cbsdId") (textField (.object payload) "grantId") store
  amend _ _ response := response
  appends clock certificateHash payload store := by
    rw [relinquishment_body]
    exact respond_appends _ _

def processDeregistration : Processor K where
  Reads := Clock
  State := Store K
  Response := ServiceResponse
  enter store := store
  leave store := store
  body clock certificateHash payload store :=
    deregistrationBody certificateHash clock (textField (.object payload) "cbsdId") store
  amend _ _ response := response
  appends clock certificateHash payload store := by
    rw [deregistration_body]
    exact respond_appends _ _

def processorOf : Procedure → Processor K
  | .registration => processRegistration
  | .spectrumInquiry => processSpectrumInquiry
  | .grant => processGrant
  | .heartbeat => processHeartbeat
  | .relinquishment => processRelinquishment
  | .deregistration => processDeregistration

-- The loop over the valid items, each with what its round reads, and the loop behind it.
def Processor.process (processor : Processor K) (reads : Nat → processor.Reads) (measFlag : Bool) (certificateHash : Option String)
    (items : List (List (String × Json K))) (store : Store K) : Except String (List processor.Response × Store K) :=
  (rounds (fun item state => processor.body (reads item.2) certificateHash item.1 state) items.zipIdx (processor.enter store, [])).map
    fun done => (amended (fun item response => processor.amend measFlag item.1 response) items.zipIdx done.2, processor.leave done.1)

end Processors

section Parsing

structure BatchParseResult (K : Type) where
  schemaErrorCodes : List (Option Nat)
  itemsForService : List (List (String × Json K))
  serviceIndexMap : List Nat

def missingTypes : List String := ["missing", "missing_argument", "missing_positional_only_argument", "missing_keyword_only_argument"]

-- From the types of the errors of one item.
def winnfCode (errors : List String) : Nat := if errors.any missingTypes.contains then missingParam else invalidParam

-- A nested object keeps the fields that the model does not know.
def keepNested (raw dumped : List (String × Json K)) (key : String) : List (String × Json K) :=
  match PyDict.lookup raw key, (PyDict.lookup dumped key).getD .null with
  | some (.object held), .object fields =>
      PyDict.set key (.object ((PyDict.update fields held).filter fun entry => !entry.2.isNull || (PyDict.lookup held entry.1).isSome))
        dumped
  | some (.object held), .null => PyDict.set key (.object held) dumped
  | _, _ => dumped

def payloadForService (raw dumped : List (String × Json K)) : List (String × Json K) :=
  ["installationParam", "airInterface", "measReport", "cbsdInfo"].foldl (keepNested raw) dumped

variable (validate : Json K → Except (List String) (List (String × Json K))) (maxBatchSize : Nat)

-- An item of the batch behind its model, which gives the types of its errors or its dump without nulls.
def parseItem (raw : Json K) : Except Nat (List (String × Json K)) :=
  match raw with
  | .object fields =>
      match validate raw with
      | .error errors => .error (winnfCode errors)
      | .ok dumped => .ok (payloadForService fields dumped)
  | _ => .error invalidParam

def parseStep (parsed : BatchParseResult K) (entry : Json K × Nat) : BatchParseResult K :=
  match parseItem validate entry.1 with
  | .error code => { parsed with schemaErrorCodes := parsed.schemaErrorCodes ++ [some code] }
  | .ok payload =>
      { schemaErrorCodes := parsed.schemaErrorCodes ++ [none]
        itemsForService := parsed.itemsForService ++ [payload]
        serviceIndexMap := parsed.serviceIndexMap ++ [entry.2] }

def oversized : String := "batch exceeds MaximumBatchSize (" ++ toString maxBatchSize ++ ")"

def parseItemBatch (rawItems : Json K) : Except String (BatchParseResult K) :=
  match rawItems with
  | .array items =>
      if maxBatchSize < items.length then .error (oversized maxBatchSize)
      else .ok (items.zipIdx.foldl (parseStep validate) ⟨[], [], []⟩)
  | _ => .error "batch must be a list"

end Parsing

section Merge

inductive EchoPolicy where
  | always | never | syntactic
deriving DecidableEq, Repr

-- fccId/serial with one separator and no blanks.
def isSyntacticallyValidCbsdId (value : Json K) : Bool :=
  match value with
  | .text id =>
      id.toList.count '/' = 1 && id.toList.head? != some '/' && id.toList.getLast? != some '/' && !id.toList.any PyText.isSpace
  | _ => false

def shouldEchoCbsdId (policy : EchoPolicy) (value : Json K) : Bool :=
  match policy with
  | .never => false
  | .always => true
  | .syntactic => isSyntacticallyValidCbsdId value

-- The ids that stand beside the code of a schema error.
def echoed (policy : EchoPolicy) (raw : Json K) : List (String × Json K) :=
  ["cbsdId", "grantId"].filterMap fun key =>
    if (raw.field key).isNull then none
    else if key = "cbsdId" && !shouldEchoCbsdId policy (raw.field key) then none
    else some (key, raw.field key)

inductive BatchResponse (K R : Type) where
  | schemaError (responseCode : Nat) (ids : List (String × Json K))
  | service (response : R)

variable {R : Type}

def schemaSlots (policy : EchoPolicy) (codes : List (Option Nat)) (rawItems : List (Json K)) : List (Option (BatchResponse K R)) :=
  codes.zipIdx.map fun entry => entry.1.map fun code => .schemaError code (echoed policy (rawItems.getD entry.2 .null))

def mergeResponses (policy : EchoPolicy) (parsed : BatchParseResult K) (responses : List R) (rawItems : List (Json K)) :
    Except String (List (BatchResponse K R)) :=
  if responses.length ≠ parsed.serviceIndexMap.length then .error "service response count mismatch"
  else
    .ok ((putBack .service (schemaSlots policy parsed.schemaErrorCodes rawItems) (parsed.serviceIndexMap.zip responses)).map
      fun slot => slot.getD (.schemaError invalidParam []))

end Merge

section Requests

structure CbsdAuth where
  certificateHash : Option String
  allowed : Bool
  denialCode : Option Nat
deriving DecidableEq, Repr

def certError : Nat := 104

-- denial_code or CERT_ERROR
def denial (auth : CbsdAuth) : Nat := (auth.denialCode.filter (· ≠ 0)).getD certError

inductive Reply (K R : Type) where
  | single (responseCode : Nat)
  | refused (detail : String)
  | batch (responses : List (BatchResponse K R))

def echoPolicy (procedure : Procedure) : EchoPolicy := if procedure = .spectrumInquiry then .syntactic else .always

variable (procedure : Procedure) (validate : Json K → Except (List String) (List (String × Json K))) (maxBatchSize : Nat)
  (reads : Nat → (processorOf (K := K) procedure).Reads) (measFlag : Bool)

def mentions (message word : String) : Bool := decide (word.toList <:+: message.toList)

def runBatch (auth : CbsdAuth) (body : Json K) (store : Store K) :
    Except String (Reply K (processorOf (K := K) procedure).Response × Store K) :=
  if !auth.allowed then .ok (.single (denial auth), store)
  else
    match body.field (requestKey procedure) with
    | .null => .ok (.single missingParam, store)
    | .array items =>
        match parseItemBatch validate maxBatchSize (.array items) with
        | .error message =>
            if mentions message "MaximumBatchSize" then .ok (.refused message, store) else .ok (.single invalidParam, store)
        | .ok parsed =>
            (if parsed.itemsForService.isEmpty then .ok ([], store)
              else (processorOf procedure).process reads measFlag auth.certificateHash parsed.itemsForService store).bind fun done =>
                (mergeResponses (echoPolicy procedure) parsed done.1 items).map fun merged => (.batch merged, done.2)
    | _ => .ok (.single invalidParam, store)

end Requests

section Alignment

open Outcomes

variable (procedure : Procedure) (validate : Json K → Except (List String) (List (String × Json K))) (maxBatchSize : Nat)
  (reads : Nat → (processorOf (K := K) procedure).Reads) (measFlag : Bool)

-- An item with what its refusal takes from it.
def tagged (raw : Json K) : Except (Nat × Json K) (List (String × Json K)) := (parseItem validate raw).mapError fun code => (code, raw)

def refusal {R : Type} (policy : EchoPolicy) (fault : Nat × Json K) : BatchResponse K R := .schemaError fault.1 (echoed policy fault.2)

theorem parse_from (items : List (Json K)) (start : Nat) (before : BatchParseResult K) :
    (items.zipIdx start).foldl (parseStep validate) before =
      ⟨before.schemaErrorCodes ++ items.map fun raw => fault? (parseItem validate raw),
        before.itemsForService ++ accepted (items.map (tagged validate)),
        before.serviceIndexMap ++ places start (items.map (tagged validate))⟩ := by
  induction items generalizing start before with
  | nil => simp [accepted, places]
  | cons raw rest ih =>
      rw [List.zipIdx_cons, List.foldl_cons, ih, parseStep, List.map_cons, List.map_cons, tagged]
      cases parseItem validate raw with
      | error code => simp [accepted, places, fault?, Except.mapError]
      | ok payload => simp [accepted, places, fault?, Except.mapError]

theorem tagged_accepted (items : List (Json K)) :
    accepted (items.map (tagged validate)) = items.filterMap fun raw => (parseItem validate raw).toOption := by
  rw [accepted_map]
  congr 1
  funext raw
  rw [tagged]
  cases parseItem validate raw with
  | error code => rfl
  | ok payload => rfl

theorem schema_slots {R : Type} (policy : EchoPolicy) (items : List (Json K)) :
    schemaSlots policy (items.map fun raw => fault? (parseItem validate raw)) items =
      refusals (refusal (R := R) policy) (items.map (tagged validate)) := by
  apply List.ext_getElem
  · simp [schemaSlots, refusals]
  · intro place within _
    have inside : place < items.length := by simpa [schemaSlots] using within
    simp only [schemaSlots, refusals, List.getElem_map, List.getElem_zipIdx, tagged, Nat.zero_add]
    rw [List.getD_eq_getElem?_getD, List.getElem?_eq_getElem inside, Option.getD_some]
    cases parseItem validate items[place] with
    | error code => rfl
    | ok payload => rfl

theorem merge_woven {R : Type} (policy : EchoPolicy) (items : List (Json K)) (responses : List R)
    (enough : responses.length = (accepted (items.map (tagged validate))).length) :
    mergeResponses policy (items.zipIdx.foldl (parseStep validate) ⟨[], [], []⟩) responses items =
      .ok (woven (refusal policy) .service (items.map (tagged validate)) responses) := by
  rw [mergeResponses, parse_from]
  simp only [List.nil_append]
  rw [if_neg (by rw [places_length]; simpa using enough), schema_slots, put_back _ _ _ _ enough]
  simp

-- What a processor gives for one valid item, at its place among the valid ones.
def Processor.serve (processor : Processor K) (reads : Nat → processor.Reads) (certificateHash : Option String)
    (item : List (String × Json K) × Nat) (state : processor.State) : Except String (processor.State × processor.Response) :=
  (answered (processor.body (reads item.2) certificateHash item.1 state)).map fun one =>
    (one.1, processor.amend measFlag item.1 one.2)

theorem process_answers (processor : Processor K) (reads : Nat → processor.Reads) (certificateHash : Option String)
    (items : List (List (String × Json K))) (store : Store K) :
    processor.process reads measFlag certificateHash items store =
      (answers (processor.serve measFlag reads certificateHash) items.zipIdx (processor.enter store)).map
        fun done => (done.1, processor.leave done.2) := by
  have appends : ∀ (item : List (String × Json K) × Nat) state, Appends (processor.body (reads item.2) certificateHash item.1 state) :=
    fun item state => processor.appends _ _ _ _
  have served := answers_amended (fun item state => answered (processor.body (reads item.2) certificateHash item.1 state))
    (fun item response => processor.amend measFlag item.1 response) items.zipIdx (processor.enter store)
  change _ = answers (processor.serve measFlag reads certificateHash) _ _ at served
  rw [Processor.process, rounds_answers _ appends, ← served]
  cases answers (fun item state => answered (processor.body (reads item.2) certificateHash item.1 state)) items.zipIdx
      (processor.enter store) with
  | error error => rfl
  | ok done => rfl

-- The batch as one pass: an item that the schema refuses has its code, any other the response of the processor.
def inOrder (certificateHash : Option String) (items : List (Json K)) (store : Store K) :
    Except String (List (BatchResponse K (processorOf (K := K) procedure).Response) × Store K) :=
  (inPlace ((processorOf procedure).serve measFlag reads certificateHash) (refusal (echoPolicy procedure)) .service 0
    (items.map (tagged validate)) ((processorOf procedure).enter store)).map fun done => (done.1, (processorOf procedure).leave done.2)

theorem served_in_order (certificateHash : Option String) (items : List (Json K)) (store : Store K) :
    (((processorOf procedure).process reads measFlag certificateHash (accepted (items.map (tagged validate))) store).bind fun done =>
      (mergeResponses (echoPolicy procedure) (items.zipIdx.foldl (parseStep validate) ⟨[], [], []⟩) done.1 items).map
        fun merged => (merged, done.2)) = inOrder procedure validate reads measFlag certificateHash items store := by
  rw [inOrder, ← woven_answers, process_answers]
  cases ran : answers ((processorOf procedure).serve measFlag reads certificateHash)
      (accepted (items.map (tagged validate))).zipIdx ((processorOf procedure).enter store) with
  | error error => rfl
  | ok done =>
      have enough := answers_length _ _ _ done ran
      rw [List.length_zipIdx] at enough
      have merged := merge_woven validate (echoPolicy procedure) items done.1 enough
      simp only [Except.map, Except.bind, merged]

theorem process_none (certificateHash : Option String) (store : Store K) :
    (processorOf procedure).process reads measFlag certificateHash [] store = .ok ([], store) := by
  cases procedure <;> rfl

-- The response of an item: the code that its schema gives, or what the processor gives for its payload.
def Answers (certificateHash : Option String) (raw : Json K)
    (slot : BatchResponse K (processorOf (K := K) procedure).Response) : Prop :=
  match parseItem validate raw with
  | .error code => slot = .schemaError code (echoed (echoPolicy procedure) raw)
  | .ok payload =>
      ∃ place before after response,
        (processorOf procedure).serve measFlag reads certificateHash (payload, place) before = .ok (after, response) ∧
          slot = .service response

theorem stands_answers (certificateHash : Option String) (raw : Json K)
    (slot : BatchResponse K (processorOf (K := K) procedure).Response)
    (stands : Stands ((processorOf procedure).serve measFlag reads certificateHash) (refusal (echoPolicy procedure)) .service
      (tagged validate raw) slot) : Answers procedure validate reads measFlag certificateHash raw slot := by
  rw [tagged] at stands
  rw [Answers]
  cases parsed : parseItem validate raw with
  | error code =>
      rw [parsed] at stands
      exact stands
  | ok payload =>
      rw [parsed] at stands
      exact stands

theorem in_order_answers (certificateHash : Option String) (items : List (Json K)) (store : Store K)
    (merged : List (BatchResponse K (processorOf (K := K) procedure).Response)) (after : Store K)
    (finished : inOrder procedure validate reads measFlag certificateHash items store = .ok (merged, after)) :
    List.Forall₂ (Answers procedure validate reads measFlag certificateHash) items merged := by
  obtain ⟨done, passed, same⟩ := Collect.map_ok _ _ _ finished
  have stands := in_place_stands _ _ _ _ _ _ done passed
  rw [List.forall₂_map_left_iff] at stands
  have first : done.1 = merged := congrArg Prod.fst same
  rw [← first]
  apply stands.imp
  intro raw slot here
  exact stands_answers procedure validate reads measFlag certificateHash raw slot here

theorem run_batch_in_order (auth : CbsdAuth) (allowed : auth.allowed = true) (body : Json K) (items : List (Json K))
    (sent : body.field (requestKey procedure) = .array items) (fits : ¬ maxBatchSize < items.length) (store : Store K) :
    runBatch procedure validate maxBatchSize reads measFlag auth body store =
      (inOrder procedure validate reads measFlag auth.certificateHash items store).map fun done => (.batch done.1, done.2) := by
  have parsed := parse_from validate items 0 ⟨[], [], []⟩
  rw [← served_in_order, runBatch]
  simp only [allowed, Bool.not_true, Bool.false_eq_true, if_false, sent, parseItemBatch, if_neg fits]
  have held : (items.zipIdx.foldl (parseStep validate) ⟨[], [], []⟩).itemsForService = accepted (items.map (tagged validate)) := by
    rw [parsed]
    rfl
  rw [held]
  have whole : (if (accepted (items.map (tagged validate))).isEmpty then .ok ([], store)
      else (processorOf procedure).process reads measFlag auth.certificateHash (accepted (items.map (tagged validate))) store) =
        (processorOf procedure).process reads measFlag auth.certificateHash (accepted (items.map (tagged validate))) store := by
    split
    · rename_i empty
      rw [List.isEmpty_iff.mp empty, process_none]
    · rfl
  rw [whole]
  cases (processorOf procedure).process reads measFlag auth.certificateHash (accepted (items.map (tagged validate))) store with
  | error error => rfl
  | ok done =>
      simp only [Except.bind]
      cases mergeResponses (echoPolicy procedure) (items.zipIdx.foldl (parseStep validate) ⟨[], [], []⟩) done.1 items with
      | error error => rfl
      | ok merged => rfl

theorem oversized_pieces : "batch exceeds MaximumBatchSize (".toList = "batch exceeds ".toList ++ "MaximumBatchSize".toList ++ " (".toList := by
  decide +kernel

theorem oversized_part : "MaximumBatchSize".toList <:+: ("batch exceeds MaximumBatchSize (" ++ toString maxBatchSize ++ ")").toList := by
  have inside := List.infix_append "batch exceeds ".toList "MaximumBatchSize".toList " (".toList
  rw [String.toList_append, String.toList_append, oversized_pieces]
  exact inside.trans ((List.prefix_append _ _).isInfix.trans (List.prefix_append _ _).isInfix)

theorem oversized_mentions : mentions (oversized maxBatchSize) "MaximumBatchSize" = true :=
  decide_eq_true (oversized_part maxBatchSize)

theorem run_batch_oversized (auth : CbsdAuth) (allowed : auth.allowed = true) (body : Json K) (items : List (Json K))
    (sent : body.field (requestKey procedure) = .array items) (long : maxBatchSize < items.length) (store : Store K) :
    runBatch procedure validate maxBatchSize reads measFlag auth body store = .ok (.refused (oversized maxBatchSize), store) := by
  rw [runBatch]
  simp only [allowed, Bool.not_true, Bool.false_eq_true, if_false, sent, parseItemBatch, if_pos long, oversized_mentions, if_true]

theorem batch_aligned (auth : CbsdAuth) (allowed : auth.allowed = true) (body : Json K) (items : List (Json K))
    (sent : body.field (requestKey procedure) = .array items) (store : Store K) :
    runBatch procedure validate maxBatchSize reads measFlag auth body store =
        (if maxBatchSize < items.length then .ok (.refused (oversized maxBatchSize), store)
          else (inOrder procedure validate reads measFlag auth.certificateHash items store).map fun done => (.batch done.1, done.2)) ∧
      (∀ parsed, parseItemBatch validate maxBatchSize (.array items) = .ok parsed →
        parsed.itemsForService = items.filterMap fun raw => (parseItem validate raw).toOption) ∧
      ∀ merged after, runBatch procedure validate maxBatchSize reads measFlag auth body store = .ok (.batch merged, after) →
        List.Forall₂ (Answers procedure validate reads measFlag auth.certificateHash) items merged := by
  by_cases long : maxBatchSize < items.length
  · have refused := run_batch_oversized procedure validate maxBatchSize reads measFlag auth allowed body items sent long store
    rw [refused, if_pos long]
    refine ⟨rfl, ?_, ?_⟩
    · intro parsed accepts
      rw [parseItemBatch, if_pos long] at accepts
      cases accepts
    · intro merged after answered
      cases answered
  · have passed := run_batch_in_order procedure validate maxBatchSize reads measFlag auth allowed body items sent long store
    rw [passed, if_neg long]
    refine ⟨rfl, ?_, ?_⟩
    · intro parsed accepts
      rw [parseItemBatch, if_neg long, parse_from] at accepts
      cases accepts
      exact tagged_accepted validate items
    · intro merged after answered
      obtain ⟨done, finished, same⟩ := Collect.map_ok _ _ _ answered
      cases same
      exact in_order_answers procedure validate reads measFlag auth.certificateHash items store _ _ finished

-- DeregistrationRequestItem: a text or null under cbsdId, and no other field.
def deregistrationModel (raw : Json Rat) : Except (List String) (List (String × Json Rat)) :=
  match raw with
  | .object fields =>
      if fields.any fun entry => entry.1 != "cbsdId" then .error ["extra_forbidden"]
      else if fields.any fun entry => !entry.2.isNull && !(entry.2 matches .text _) then .error ["string_type"]
      else .ok (fields.filter fun entry => !entry.2.isNull)
  | _ => .error ["model_type"]

def deregistrationOf (items : List (Json Rat)) : Json Rat := .object [("deregistrationRequest", .array items)]

theorem batch_aligned_mixed :
    runBatch .deregistration deregistrationModel 100 (fun _ _ => 0) false ⟨none, true, none⟩
        (deregistrationOf [.null, .object [("cbsdId", .text "fcc/1")]]) Store.empty =
      .ok (.batch [.schemaError 103 [], .service ⟨103, none, none⟩], Store.empty) := by
  have aligned := batch_aligned .deregistration deregistrationModel 100 (fun _ _ => 0) false ⟨none, true, none⟩ rfl
    (deregistrationOf [.null, .object [("cbsdId", .text "fcc/1")]]) [.null, .object [("cbsdId", .text "fcc/1")]] rfl Store.empty
  rw [aligned.1]
  rfl

-- A batch above the limit is refused as a whole, with no response for any of its items.
theorem long_batch_unanswered :
    ¬ ∀ items : List (Json Rat), ∃ merged after,
      runBatch .deregistration deregistrationModel 100 (fun _ _ => 0) false ⟨none, true, none⟩ (deregistrationOf items) Store.empty =
          .ok (.batch merged, after) ∧ merged.length = items.length := by
  intro answered
  obtain ⟨merged, after, batch, _⟩ := answered (List.replicate 101 .null)
  rw [run_batch_oversized .deregistration deregistrationModel 100 (fun _ _ => 0) false ⟨none, true, none⟩ rfl
    (deregistrationOf (List.replicate 101 .null)) (List.replicate 101 .null) rfl (by simp) Store.empty] at batch
  cases batch

end Alignment

end SasCore.Routes
