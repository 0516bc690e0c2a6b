import SasCore.Fad.Records
import SasCore.Registry.Terms
import Mathlib.Logic.Function.Basic

set_option autoImplicit false
set_option linter.unusedSectionVars false

namespace SasCore.Fad

open Registry JsonText

variable {K : Type}

-- An item of a grant batch behind its schema, which leaves numbers only where it asks for numbers.
structure OperationParamItem (K : Type) where
  maxEirp : Option K
  operationFrequencyRange : Option (Int × Int)
deriving DecidableEq, Repr

structure GrantRequestItem (K : Type) where
  cbsdId : Option String
  operationParam : Option (OperationParamItem K)
  measuringCapabilities : Option (List String)
  measReport : Option (Json K)

def fieldOf (name : String) (value : Option (Json K)) : List (String × Json K) := (value.map (Prod.mk name)).toList

def frequencyRangeJson (range : Int × Int) : Json K := .object [("lowFrequency", .int range.1), ("highFrequency", .int range.2)]

def operationParamJson (op : OperationParamItem K) : Json K :=
  .object (fieldOf "maxEirp" (op.maxEirp.map .float) ++
    fieldOf "operationFrequencyRange" (op.operationFrequencyRange.map frequencyRangeJson))

-- _payload_for_service: the item without what is null.
def payloadForService (item : GrantRequestItem K) : List (String × Json K) :=
  fieldOf "cbsdId" (item.cbsdId.map .text) ++ fieldOf "operationParam" (item.operationParam.map operationParamJson) ++
    fieldOf "measuringCapabilities" (item.measuringCapabilities.map fun names => .array (names.map .text)) ++
    fieldOf "measReport" item.measReport

section Reading

variable [Field K] (readers : PyReaders K)

def rawNumber {α : Type} (number : Json K → Option α) (value : Json K) : RawNumber α :=
  if value.isNull then .absent
  else
    match number value with
    | some read => .given read
    | none => .malformed

def readOperationParam (op : Json K) : OperationParam K where
  maxEirp := rawNumber (Json.toFloat readers) (op.field "maxEirp")
  operationFrequencyRange := (op.dictField "operationFrequencyRange").map fun freq =>
    (rawNumber (Json.toInt readers) (freq.field "lowFrequency"), rawNumber (Json.toInt readers) (freq.field "highFrequency"))

-- What process_grant takes from a request.
def readGrantRequest (req : List (String × Json K)) : GrantRequest K where
  cbsdId :=
    match (Json.object req).field "cbsdId" with
    | .text cbsdId => cbsdId
    | _ => ""
  operationParam := ((Json.object req).dictField "operationParam").map (readOperationParam readers)

end Reading

section Writing

def authContextJson (utcText : Int → String) (context : AuthContext) : Json K :=
  .object (("channelType", .text (channelTypeText context.channelType)) ::
    (fieldOf "palId" ((context.palId.filter fun palId => palId ≠ "").map .text) ++
      fieldOf "palLicenseExpiration" (context.palLicenseExpiration.map fun expiration => .text (utcText expiration))))

def stampFields (stamp : SyncStamp) : List (String × Json K) :=
  [("fss_gen", .int stamp.fss), ("gwbl_gen", .int stamp.gwbl), ("exz_gen", .int stamp.exz), ("dpa_gen", .int stamp.dpa)]

-- The value of grant_json: the request, with the stamps and the context of the grant or of its last renewal.
def grantPayload (utcText : Int → String) (req : List (String × Json K)) (written : GrantMeta) : Json K :=
  .object (PyDict.update (stampFields written.stamp ++ fieldOf "auth_context" (written.authContext.map (authContextJson utcText))) req)

end Writing

section Runs

variable [Field K] [LinearOrder K] (readers : PyReaders K)

-- A request that passed its checks on some copy of the CBSD, and what meets it under the locks.
structure PostedGrant where
  checks : GrantChecks K
  certificateHash : Option String
  item : GrantRequestItem K
  screened : Cbsd K
  proposal : Proposal K
  loaded : Option (Cbsd K)
  pending : List FrequencyRange
  grantId : String
  readings : Readings
  passes : screenRequest checks certificateHash (readGrantRequest readers (payloadForService item)) screened = .ok proposal

def PostedGrant.event (posted : PostedGrant readers) : Event K :=
  .create posted.checks posted.certificateHash (readGrantRequest readers (payloadForService posted.item)) posted.loaded
    posted.pending posted.proposal posted.grantId posted.readings

inductive PowerEvent where
  | grant (posted : PostedGrant readers)
  | service (event : Event K) (service : event.isService = true)
  | cpasApply (decisions : List (CpasDecision K)) (readings : Readings)

-- The tables with the request in each grant_json, by primary key, and the grants whose power was lowered so far.
structure GrantHistory (K : Type) where
  store : Store K
  requests : Nat → GrantRequestItem K
  lowered : List Nat

def GrantHistory.start : GrantHistory K := ⟨Store.empty, fun _ => ⟨none, none, none, none⟩, []⟩

-- A request goes with the row it adds, under the next key.
def powerStep (history : GrantHistory K) : PowerEvent readers → GrantHistory K
  | .grant posted =>
      { history with
        store := step posted.event history.store
        requests := Function.update history.requests history.store.nextGrantPk posted.item }
  | .service event _ => { history with store := step event history.store }
  | .cpasApply decisions readings =>
      { history with
        store := step (.cpasApply decisions readings) history.store
        lowered := history.lowered ++ loweredByAll readings.read decisions 0 history.store }

def powerRun (events : List (PowerEvent readers)) : GrantHistory K := events.foldl (powerStep readers) GrantHistory.start

end Runs

-- The tables an export reads, where each text loads to the value that was written.
structure Dumped (settings : FadSettings K) (history : GrantHistory K) (tables : FadTables K) : Prop where
  cbsds : tables.cbsds.map (·.1) = history.store.cbsds
  grants : tables.grants.map (·.1) = history.store.grants
  texts : ∀ row ∈ tables.grants, loads settings.floats row.2 =
    some (grantPayload settings.utcText (payloadForService (history.requests row.1.id)) row.1.grantJson)

-- The operationParam of an exported record says what the columns of the row say, numbers by value.
def ShowsColumns [Field K] (record : Json K) (grant : Grant K) : Prop :=
  ((record.field "operationParam").field "maxEirp").number = grant.maxEirp ∧
    (((record.field "operationParam").field "operationFrequencyRange").field "lowFrequency").number = some (grant.lowFrequency : K) ∧
    (((record.field "operationParam").field "operationFrequencyRange").field "highFrequency").number = some (grant.highFrequency : K)

end SasCore.Fad
