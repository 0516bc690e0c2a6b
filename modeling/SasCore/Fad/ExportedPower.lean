import SasCore.Fad.GrantJson
import SasCore.Fad.RoundTrip
import SasCore.Registry.GrantSession
import SasCore.Registry.LifecycleSafety

set_option autoImplicit false
set_option linter.unusedSectionVars false

namespace SasCore.Fad

open Registry JsonText

variable {K : Type} [Field K] [LinearOrder K]

section Columns

theorem written_names (utcText : Int → String) (written : GrantMeta) (entry : String × Json K)
    (member : entry ∈ stampFields written.stamp ++ fieldOf "auth_context" (written.authContext.map (authContextJson utcText))) :
    entry.1 ∈ ["fss_gen", "gwbl_gen", "exz_gen", "dpa_gen", "auth_context"] := by
  rcases List.mem_append.mp member with stamp | context
  · have named := List.mem_map_of_mem (f := Prod.fst) stamp
    exact List.mem_append_left ["auth_context"] named
  · rw [fieldOf, Option.mem_toList, Option.map_eq_some_iff] at context
    obtain ⟨value, _, same⟩ := context
    rw [← same]
    exact List.mem_of_mem_getLast? rfl

theorem payload_lookup (item : GrantRequestItem K) :
    PyDict.lookup (payloadForService item) "operationParam" = item.operationParam.map operationParamJson := by
  rcases item with ⟨cbsdId, operationParam, measuringCapabilities, measReport⟩
  cases cbsdId <;> cases operationParam <;> cases measuringCapabilities <;> cases measReport <;>
    simp [payloadForService, fieldOf, PyDict.lookup_cons, PyDict.lookup_nil]

-- The stamps and the context leave the operationParam of the request in grant_json.
theorem grant_payload_param (utcText : Int → String) (item : GrantRequestItem K) (op : OperationParamItem K)
    (asked : item.operationParam = some op) (written : GrantMeta) :
    (grantPayload utcText (payloadForService item) written).field "operationParam" = operationParamJson op := by
  have kept := PyDict.lookup_update _ (payloadForService item) "operationParam" fun entry member same => by
    have named := written_names utcText written entry member
    rw [same] at named
    exact absurd named (by decide)
  rw [grantPayload, Json.field, kept, payload_lookup, asked, Option.map_some, Option.getD_some]

end Columns

section Requests

theorem field_max_eirp (op : OperationParamItem K) :
    (operationParamJson op).field "maxEirp" = (op.maxEirp.map Json.float).getD .null := by
  rcases op with ⟨maxEirp, range⟩
  cases maxEirp <;> cases range <;> simp [operationParamJson, fieldOf, Json.field, PyDict.lookup_cons, PyDict.lookup_nil]

theorem field_frequency_range (op : OperationParamItem K) :
    (operationParamJson op).field "operationFrequencyRange" = (op.operationFrequencyRange.map frequencyRangeJson).getD .null := by
  rcases op with ⟨maxEirp, range⟩
  cases maxEirp <;> cases range <;> simp [operationParamJson, fieldOf, Json.field, PyDict.lookup_cons, PyDict.lookup_nil]

theorem range_fields (range : Int × Int) : (frequencyRangeJson range : Json K).field "lowFrequency" = .int range.1 ∧
    (frequencyRangeJson range : Json K).field "highFrequency" = .int range.2 := by
  simp [frequencyRangeJson, Json.field, PyDict.lookup_cons]

variable (readers : PyReaders K)

-- What process_grant reads of a validated item.
def readParam (op : OperationParamItem K) : OperationParam K where
  maxEirp := (op.maxEirp.map RawNumber.given).getD .absent
  operationFrequencyRange := op.operationFrequencyRange.map fun range => (.given range.1, .given range.2)

theorem read_operation_param (op : OperationParamItem K) : readOperationParam readers (operationParamJson op) = readParam op := by
  rcases op with ⟨maxEirp, range⟩
  cases maxEirp <;> cases range <;>
    simp [readOperationParam, readParam, operationParamJson, fieldOf, frequencyRangeJson, rawNumber, Json.field, Json.dictField,
      PyDict.lookup_cons, PyDict.lookup_nil, Json.isNull, Json.toFloat, Json.toInt]

theorem read_grant_param (item : GrantRequestItem K) :
    (readGrantRequest readers (payloadForService item)).operationParam = item.operationParam.map readParam := by
  simp only [readGrantRequest, Json.dictField, Json.field, payload_lookup]
  cases item.operationParam with
  | none => rfl
  | some op => exact congrArg some (read_operation_param readers op)

theorem parse_freq_given (op : OperationParam K) (range : FrequencyRange) (parsed : parseFreq op = .ok range) :
    op.operationFrequencyRange = some (.given range.low, .given range.high) := by
  rw [parseFreq] at parsed
  split at parsed
  all_goals try cases parsed
  rename_i low high given
  split at parsed
  · split at parsed
    · cases parsed
    · cases parsed
      exact given
  · cases parsed

theorem screen_request_param (checks : GrantChecks K) (certificateHash : Option String) (req : GrantRequest K) (cbsd : Cbsd K)
    (proposal : Proposal K) (passes : screenRequest checks certificateHash req cbsd = .ok proposal) :
    ∃ op, req.operationParam = some op ∧ op.maxEirp = .given proposal.maxEirp ∧ parseFreq op = .ok proposal.range := by
  simp only [screenRequest] at passes
  split at passes
  · cases passes
  · split at passes
    · cases passes
    · split at passes
      · cases passes
      · split at passes
        · cases passes
        · rename_i op asked
          refine ⟨op, asked, ?_⟩
          cases given : op.maxEirp with
          | absent => simp [given] at passes
          | malformed => cases parsed : parseFreq op <;> simp [given, parsed] at passes
          | given maxEirp =>
              cases parsed : parseFreq op with
              | error code => simp [given, parsed] at passes
              | ok range =>
                  simp only [given, parsed, Bool.false_eq_true, if_false] at passes
                  split at passes
                  · cases passes
                  · split at passes
                    · cases passes
                    · cases passes
                      exact ⟨rfl, rfl⟩

-- So the row that is added has the range and the power of its request.
theorem posted_param (posted : PostedGrant readers) :
    ∃ op, posted.item.operationParam = some op ∧ op.maxEirp = some posted.proposal.maxEirp ∧
      op.operationFrequencyRange = some (posted.proposal.range.low, posted.proposal.range.high) := by
  obtain ⟨read, asked, power, parsed⟩ := screen_request_param _ _ _ _ _ posted.passes
  rw [read_grant_param] at asked
  obtain ⟨op, isOp, isRead⟩ := Option.map_eq_some_iff.mp asked
  have range := parse_freq_given read _ parsed
  rw [← isRead] at power range
  refine ⟨op, isOp, ?_, ?_⟩
  · cases given : op.maxEirp with
    | none =>
        rw [readParam, given] at power
        cases power
    | some value =>
        rw [readParam, given] at power
        exact congrArg some (RawNumber.given.inj power)
  · obtain ⟨pair, isPair, same⟩ := Option.map_eq_some_iff.mp range
    rw [Prod.mk.injEq, RawNumber.given.injEq, RawNumber.given.injEq] at same
    rw [isPair, ← same.1, ← same.2]

end Requests

section Histories

variable (readers : PyReaders K)

-- A row has the range of its request, and its power as long as no decision lowered it.
def Stated (history : GrantHistory K) (grant : Grant K) : Prop :=
  ∃ op power held, (history.requests grant.id).operationParam = some op ∧ op.maxEirp = some power ∧
    op.operationFrequencyRange = some (grant.lowFrequency, grant.highFrequency) ∧ grant.maxEirp = some held ∧
    (grant.id ∉ history.lowered → held = power) ∧ (grant.id ∈ history.lowered → held < power)

structure HistorySound (history : GrantHistory K) : Prop where
  store : StoreSound history.store
  lowered : ∀ pk ∈ history.lowered, pk < history.store.nextGrantPk
  stated : ∀ grant ∈ history.store.grants, Stated history grant

theorem start_sound : HistorySound (GrantHistory.start : GrantHistory K) :=
  ⟨empty_sound, fun _ member => absurd member List.not_mem_nil, fun _ member => absurd member List.not_mem_nil⟩

-- Rows that keep their terms but for the named ones, whose power falls.
theorem lowers_sound (history : GrantHistory K) (sound : HistorySound history) (after : Store K) (pks : List Nat)
    (afterSound : StoreSound after) (next : history.store.nextGrantPk ≤ after.nextGrantPk)
    (named : ∀ pk ∈ pks, pk < history.store.nextGrantPk) (lowers : LowersTerms pks history.store after) :
    HistorySound { history with store := after, lowered := history.lowered ++ pks } := by
  refine ⟨afterSound, fun pk member => ?_, fun grant member => ?_⟩
  · rcases List.mem_append.mp member with before | new
    · exact (sound.lowered pk before).trans_le next
    · exact (named pk new).trans_le next
  · obtain ⟨old, oldMember, id, low, high, power⟩ := lowers grant member
    obtain ⟨op, asked, held, isOp, isAsked, range, isHeld, same, less⟩ := sound.stated old oldMember
    rw [← low, ← high] at range
    rw [← id] at isOp same less
    rcases power with ⟨unnamed, kept⟩ | ⟨isNamed, fell⟩
    · refine ⟨op, asked, held, isOp, isAsked, range, kept.trans isHeld, fun fresh => ?_, fun either => ?_⟩
      · exact same fun before => fresh (List.mem_append_left _ before)
      · exact less ((List.mem_append.mp either).resolve_right unnamed)
    · obtain ⟨left, isLeft, below⟩ := fell held isHeld
      refine ⟨op, asked, left, isOp, isAsked, range, isLeft, fun fresh => ?_, fun _ => ?_⟩
      · exact absurd (List.mem_append_right _ isNamed) fresh
      · by_cases before : grant.id ∈ history.lowered
        · exact below.trans (less before)
        · exact below.trans_eq (same before)

theorem posted_sound (history : GrantHistory K) (sound : HistorySound history) (posted : PostedGrant readers) :
    HistorySound (powerStep readers history (.grant posted)) := by
  obtain ⟨afterSound, descends⟩ := step_sound posted.event history.store sound.store
  refine ⟨afterSound, fun pk member => (sound.lowered pk member).trans_le descends.next, ?_⟩
  have earlier : ∀ grant ∈ history.store.grants, Stated (powerStep readers history (.grant posted)) grant := by
    intro grant member
    obtain ⟨op, power, held, isOp, rest⟩ := sound.stated grant member
    have apart : grant.id ≠ history.store.nextGrantPk := ne_of_lt (sound.store.fresh grant member)
    refine ⟨op, power, held, ?_, rest⟩
    exact (congrArg GrantRequestItem.operationParam (Function.update_of_ne apart _ _)).trans isOp
  intro grant member
  rcases locked_create_cases posted.checks posted.certificateHash (readGrantRequest readers (payloadForService posted.item)) posted.loaded
      posted.pending posted.proposal posted.grantId posted.readings.read history.store with refused | ⟨cbsd, _, _, added⟩
  · exact earlier grant (refused ▸ member)
  · have inAdded : grant ∈ (history.store.addGrant (newGrant posted.checks (readGrantRequest readers (payloadForService posted.item)) cbsd
        posted.proposal posted.grantId posted.readings.read)).grants := added ▸ member
    rcases List.mem_append.mp inAdded with before | new
    · exact earlier grant before
    · rw [List.mem_singleton.mp new]
      obtain ⟨op, asked, power, range⟩ := posted_param readers posted
      refine ⟨op, posted.proposal.maxEirp, posted.proposal.maxEirp, ?_, power, range, rfl, fun _ => rfl, fun named => ?_⟩
      · have own : (powerStep readers history (.grant posted)).requests history.store.nextGrantPk = posted.item := by
          simp only [powerStep, Function.update_self]
        exact (congrArg GrantRequestItem.operationParam own).trans asked
      · exact absurd (sound.lowered _ named) (lt_irrefl _)

variable [IsStrictOrderedRing K]

theorem lowered_stored (decision : CpasDecision K) (store : Store K) (sound : StoreSound store) :
    ∀ pk ∈ loweredBy decision store, pk < store.nextGrantPk := by
  intro pk member
  cases found : decision.grantPk.bind fun key => decisionRow decision key store with
  | none =>
      rw [loweredBy, found] at member
      cases member
  | some grant =>
      obtain ⟨key, _, isRow⟩ := Option.bind_eq_some_iff.mp found
      have stored := sound.fresh grant (decision_row_stored decision key store grant isRow)
      simp only [loweredBy, found] at member
      split at member
      · cases member
      · split at member
        · rw [List.mem_singleton.mp member]
          exact stored
        · cases member

theorem lowered_all_stored (clock : Clock) (decisions : List (CpasDecision K)) (n : Nat) (store : Store K) (sound : StoreSound store) :
    ∀ pk ∈ loweredByAll clock decisions n store, pk < store.nextGrantPk := by
  induction decisions generalizing n store with
  | nil => exact fun _ member => absurd member List.not_mem_nil
  | cons decision rest ih =>
      intro pk member
      have inherits := apply_decision_inherits 0 0 decision (clock n) store
      rcases List.mem_append.mp member with here | later
      · exact lowered_stored decision store sound pk here
      · rw [← inherits.next]
        exact ih (n + 1) _ (inherits_sound 0 0 store _ sound inherits) pk later

theorem power_step_sound (history : GrantHistory K) (sound : HistorySound history) (event : PowerEvent readers) :
    HistorySound (powerStep readers history event) := by
  cases event with
  | grant posted => exact posted_sound readers history sound posted
  | service event service =>
      obtain ⟨afterSound, descends⟩ := step_sound event history.store sound.store
      have lowers := keeps_lowers_nothing _ _ (service_keeps_terms event history.store service)
      have kept := lowers_sound history sound _ [] afterSound descends.next (fun _ member => absurd member List.not_mem_nil) lowers
      rw [List.append_nil] at kept
      exact kept
  | cpasApply decisions readings =>
      obtain ⟨afterSound, descends⟩ := step_sound (.cpasApply decisions readings) history.store sound.store
      exact lowers_sound history sound _ _ afterSound descends.next (lowered_all_stored readings.read decisions 0 history.store sound.store)
        (apply_decisions_lower readings.read decisions 0 history.store)

theorem power_run_sound (events : List (PowerEvent readers)) : HistorySound (powerRun readers events) := by
  have from_sound : ∀ (events : List (PowerEvent readers)) (history : GrantHistory K), HistorySound history →
      HistorySound (events.foldl (powerStep readers) history) := by
    intro events
    induction events with
    | nil => exact fun _ sound => sound
    | cons event rest ih => exact fun history sound => ih _ (power_step_sound readers history sound event)
  exact from_sound events _ start_sound

end Histories

section Exports

variable (settings : FadSettings K) (history : GrantHistory K) (tables : FadTables K)

-- The record of a grant carries the operationParam of its request, whatever became of the columns since.
theorem record_carries_request (dumped : Dumped settings history tables) (sound : HistorySound history) (row : Grant K × String)
    (member : row ∈ tables.grants) :
    ∃ record op, buildGrantRecord settings row = .ok record ∧ (history.requests row.1.id).operationParam = some op ∧
      record.field "operationParam" = operationParamJson op := by
  have stored : row.1 ∈ history.store.grants := dumped.grants ▸ List.mem_map_of_mem member
  obtain ⟨op, power, held, asked, isPower, range, _⟩ := sound.stated row.1 stored
  have loaded : loadedOr settings row.2 =
      grantPayload settings.utcText (payloadForService (history.requests row.1.id)) row.1.grantJson := by
    rw [loadedOr, dumped.texts row member, Option.getD_some]
  have field := grant_payload_param settings.utcText (history.requests row.1.id) op asked row.1.grantJson
  have ranged : (operationParamJson op).has "operationFrequencyRange" = true := by
    simp [operationParamJson, isPower, range, fieldOf, Json.has, PyDict.lookup_cons]
  have exported : operationParamFromGrant settings row.1 row.2 = .ok (operationParamJson op) := by
    rw [operationParamFromGrant, loaded]
    simp only [field, ranged]
    rfl
  refine ⟨_, op, by rw [buildGrantRecord, exported]; rfl, asked, rfl⟩

theorem record_shows_iff (dumped : Dumped settings history tables) (sound : HistorySound history) (row : Grant K × String)
    (member : row ∈ tables.grants) :
    ∃ record, buildGrantRecord settings row = .ok record ∧ (ShowsColumns record row.1 ↔ row.1.id ∉ history.lowered) := by
  have stored : row.1 ∈ history.store.grants := dumped.grants ▸ List.mem_map_of_mem member
  obtain ⟨record, op, built, asked, carries⟩ := record_carries_request settings history tables dumped sound row member
  obtain ⟨same, power, held, isSame, isPower, range, isHeld, kept, fell⟩ := sound.stated row.1 stored
  rw [asked, Option.some_inj] at isSame
  subst isSame
  refine ⟨record, built, ?_⟩
  have ranges := range_fields (K := K) (row.1.lowFrequency, row.1.highFrequency)
  rw [ShowsColumns, carries, isHeld, field_max_eirp, field_frequency_range, isPower, range, Option.map_some, Option.getD_some,
    Option.map_some, Option.getD_some, ranges.1, ranges.2]
  simp only [Json.number, Option.some.injEq, and_true]
  constructor
  · intro equal named
    exact absurd equal.symm (ne_of_lt (fell named))
  · intro fresh
    exact (kept fresh).symm

-- Every grant of a registered CBSD is exported with the range and the power of its row.
def ExportsColumns : Prop :=
  ∀ cbsd ∈ tables.cbsds, cbsd.1.lifecycleState = some .registered → ∀ row ∈ exportedGrants tables cbsd.1,
    ∃ record, buildGrantRecord settings row = .ok record ∧ ShowsColumns record row.1

theorem exports_columns_iff (dumped : Dumped settings history tables) (sound : HistorySound history) :
    ExportsColumns settings tables ↔
      ∀ cbsd ∈ tables.cbsds, cbsd.1.lifecycleState = some .registered → ∀ row ∈ exportedGrants tables cbsd.1,
        row.1.id ∉ history.lowered := by
  constructor
  · intro exports cbsd stored registered row member
    obtain ⟨record, built, shows⟩ := exports cbsd stored registered row member
    obtain ⟨same, rebuilt, iff⟩ := record_shows_iff settings history tables dumped sound row (List.mem_of_mem_filter member)
    rw [built] at rebuilt
    cases rebuilt
    exact iff.mp shows
  · intro fresh cbsd stored registered row member
    obtain ⟨record, built, iff⟩ := record_shows_iff settings history tables dumped sound row (List.mem_of_mem_filter member)
    exact ⟨record, built, iff.mpr (fresh cbsd stored registered row member)⟩

theorem exported_power_iff [IsStrictOrderedRing K] (events : List (PowerEvent settings.readers))
    (dumped : Dumped settings (powerRun settings.readers events) tables) :
    ExportsColumns settings tables ↔
      ∀ cbsd ∈ tables.cbsds, cbsd.1.lifecycleState = some .registered → ∀ row ∈ exportedGrants tables cbsd.1,
        row.1.id ∉ (powerRun settings.readers events).lowered :=
  exports_columns_iff settings _ tables dumped (power_run_sound settings.readers events)

end Exports

section Sample

def poweredCbsd : Cbsd Rat := ⟨0, "fcc/sn", "fcc", "user", "sn", some "A", none, some .registered, ⟨some "A", none, []⟩⟩

def poweredItem : GrantRequestItem Rat := ⟨some "fcc/sn", some ⟨some 20, some (3550000000, 3560000000)⟩, none, none⟩

def poweredPost : PostedGrant dumpingSettings.readers where
  checks := openGrantChecks
  certificateHash := none
  item := poweredItem
  screened := poweredCbsd
  proposal := { sampleProposal with maxEirp := 20 }
  loaded := some poweredCbsd
  pending := []
  grantId := "grant/1"
  readings := readingsAt 0
  passes := by decide +kernel

def grantingRun : List (PowerEvent dumpingSettings.readers) :=
  [.service (.register (.ok ⟨some "A", none, []⟩) none ⟨"fcc", "sn", "user"⟩ (readingsAt 0)) rfl, .grant poweredPost]

def reducingRun : List (PowerEvent dumpingSettings.readers) :=
  grantingRun ++ [.cpasApply [⟨some 0, "grant/1", "fcc/sn", .reducePower, some 10, "iap", ""⟩] (readingsAt 0)]

def poweredRow (maxEirp : Rat) : Grant Rat :=
  ⟨0, "grant/1", 0, "fcc/sn", .gaa, 3550000000, 3560000000, some maxEirp, 900000000, 60, some 240000000, false, false, false,
    some .granted, ⟨⟨0, 0, 0, 0⟩, some ⟨.gaa, none, none⟩⟩⟩

def poweredTables (maxEirp : Rat) : FadTables Rat :=
  ⟨[(poweredCbsd, "")],
    [(poweredRow maxEirp, dumps pointed (grantPayload dumpingSettings.utcText (payloadForService poweredItem) (poweredRow maxEirp).grantJson))],
    [], []⟩

theorem powered_dumped (maxEirp : Rat) (history : GrantHistory Rat) (cbsds : history.store.cbsds = [poweredCbsd])
    (grants : history.store.grants = [poweredRow maxEirp]) (request : history.requests 0 = poweredItem) :
    Dumped dumpingSettings history (poweredTables maxEirp) := by
  refine ⟨cbsds.symm, grants.symm, fun row member => ?_⟩
  rw [List.mem_singleton.mp member]
  have plain : Plain (grantPayload dumpingSettings.utcText (payloadForService poweredItem) (poweredRow maxEirp).grantJson) := by
    simp [grantPayload, PyDict.update, stampFields, fieldOf, payloadForService, poweredItem, poweredRow, authContextJson, operationParamJson,
      frequencyRangeJson, PyDict.set, Plain, PlainFields]
  have isRequest : history.requests (poweredRow maxEirp).id = poweredItem := request
  rw [isRequest]
  exact loads_dumps pointed pointed_lawful _ plain

theorem reduced_power_exports_request :
    ¬ ∀ (events : List (PowerEvent dumpingSettings.readers)) (tables : FadTables Rat),
      Dumped dumpingSettings (powerRun dumpingSettings.readers events) tables → ExportsColumns dumpingSettings tables := by
  intro claim
  have dumped := powered_dumped 10 (powerRun dumpingSettings.readers reducingRun) (by decide +kernel) (by decide +kernel) rfl
  have sound := power_run_sound dumpingSettings.readers reducingRun
  have fresh := (exports_columns_iff dumpingSettings _ _ dumped sound).mp (claim reducingRun _ dumped)
    (poweredCbsd, "") (List.mem_singleton_self _) rfl _ (List.mem_singleton_self _)
  exact fresh (by decide +kernel)

theorem exported_power_iff_sample : ExportsColumns dumpingSettings (poweredTables 20) := by
  have dumped := powered_dumped 20 (powerRun dumpingSettings.readers grantingRun) (by decide +kernel) (by decide +kernel) rfl
  refine (exported_power_iff dumpingSettings (poweredTables 20) grantingRun dumped).mpr fun cbsd _ _ row _ => ?_
  exact List.not_mem_nil

end Sample

end SasCore.Fad
