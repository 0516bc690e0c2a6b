import SasCore.Registry.CertificateBinding
import SasCore.Registry.Operations
import SasCore.Registry.RegistrationChecks
import SasCore.Lib.Collect

set_option autoImplicit false
set_option linter.unusedSectionVars false

namespace SasCore.Registry

variable {K : Type} [Field K] [LinearOrder K]

-- The items of the protocol services and CPAS, each run to its end before the next.
inductive ServiceCall (K : Type) where
  | register (env : RegistrationEnv K) (certificateHash : Option String) (request : Json K) (readings : Readings)
  | grant (certificateHash : Option String) (item : GrantItem K) (pending : List FrequencyRange)
  | heartbeat (certificateHash : Option String) (item : HeartbeatItem K)
  | relinquish (certificateHash : Option String) (item : ReleaseItem)
  | deregister (certificateHash : Option String) (item : ReleaseItem)
  | cpasApply (decisions : List (CpasDecision K)) (readings : Readings)

def serve (call : ServiceCall K) (store : Store K) : Store K :=
  match call with
  | .register env cert request readings => (registerCbsd env cert readings.read request store).1
  | .grant cert item pending => (grantItem item.checks cert item.req pending item.grantId item.readings.read store).1
  | .heartbeat cert item => (heartbeatItem item.checks cert item.readings.read item.req store).1
  | .relinquish cert item => (relinquishmentItem cert item.readings.read item.cbsdId item.grantId store).1
  | .deregister cert item => (deregistrationItem cert item.readings.read item.cbsdId store).1
  | .cpasApply decisions readings => (applyCpasDecisions readings.read decisions 0 store).1

def serveAll (calls : List (ServiceCall K)) (store : Store K) : Store K := calls.foldl (fun held call => serve call held) store

section Identity

variable (env : RegistrationEnv K) (certificateHash : Option String) (clock : Clock) (request : Json K) (store : Store K)

def SamePair (row : Cbsd K) (req : RegistrationRequest) : Prop := row.fccId = req.fccId ∧ row.cbsdSerialNumber = req.cbsdSerialNumber

def requestedId (req : RegistrationRequest) : String := makeCbsdId req.fccId req.cbsdSerialNumber

-- An accepted request has a row with its own pair, and leaves the devices with another pair and their grants alone.
def IdentityKept : Prop :=
  let after := (registerCbsd env certificateHash clock request store).1
  (registerCbsd env certificateHash clock request store).2 = ⟨success, some (requestedId (requestOf request)), none⟩ →
    (∃ row, after.findCbsd (requestedId (requestOf request)) = some row ∧ SamePair row (requestOf request)) ∧
      ∀ other ∈ store.cbsds, ¬ SamePair other (requestOf request) → Untouched other store after

-- Every row whose fccId/cbsdSerialNumber reads like that of the request, and that the request may register again, has
-- the pair of the request.
def OwnIdentity : Prop :=
  ∀ merged, checkRegistration env request = .ok merged → ∀ row ∈ store.cbsds,
    makeCbsdId row.fccId row.cbsdSerialNumber = requestedId (requestOf request) →
      cbsdCertificateMismatch row certificateHash = false →
        (evaluateCbsdTransition .reregister (resolveCbsdState (some row)) (requestOf request).payload).ok = true →
          SamePair row (requestOf request)

-- Keys are sound, and the id of a row is made of its pair.
structure Identified : Prop where
  linked : Linked store
  named : ∀ row ∈ store.cbsds, row.cbsdId = makeCbsdId row.fccId row.cbsdSerialNumber

end Identity

section Registration

variable (validated : Except Nat (Registration K)) (certificateHash : Option String) (clock : Clock) (req : RegistrationRequest)
  (store : Store K)

-- What a registration does: nothing, a new row, or the row of its id anew with the grants of that id terminated.
theorem registration_cases :
    ((registrationItem validated certificateHash clock req store).1 = store ∧
        (registrationItem validated certificateHash clock req store).2.cbsdId = none) ∨
      (∃ row, store.findCbsd (requestedId req) = none ∧ row.cbsdId = requestedId req ∧ SamePair row req ∧
        (registrationItem validated certificateHash clock req store).1 = store.addCbsd row) ∨
      ∃ existing merged, validated = .ok merged ∧ store.findCbsd (requestedId req) = some existing ∧
        cbsdCertificateMismatch existing certificateHash = false ∧
        (evaluateCbsdTransition .reregister (resolveCbsdState (some existing)) req.payload).ok = true ∧
        (registrationItem validated certificateHash clock req store).1 =
          terminateGrants clock (requestedId req) (store.putCbsd (reregisteredRow existing req merged certificateHash)) ∧
        (registrationItem validated certificateHash clock req store).2 = ⟨success, some (requestedId req), none⟩ := by
  cases validated with
  | error code => exact .inl ⟨rfl, rfl⟩
  | ok merged =>
      simp only [registrationItem]
      cases found : store.findCbsd (makeCbsdId req.fccId req.cbsdSerialNumber) with
      | none =>
          simp only
          split
          · exact .inl ⟨rfl, rfl⟩
          · split
            · exact .inl ⟨rfl, rfl⟩
            · exact .inr (.inl ⟨_, found, rfl, ⟨rfl, rfl⟩, rfl⟩)
      | some existing =>
          simp only
          split
          · exact .inl ⟨rfl, rfl⟩
          · rename_i owner
            split
            · rename_i allowed
              exact .inr (.inr ⟨existing, merged, rfl, found, Bool.eq_false_of_not_eq_true owner, allowed, rfl, rfl⟩)
            · exact .inl ⟨rfl, rfl⟩

-- The rows after a registration: those from before, the new one, or the one of the id with its old pair.
theorem registered_rows (row : Cbsd K)
    (member : row ∈ (registrationItem validated certificateHash clock req store).1.cbsds) :
    row ∈ store.cbsds ∨ (row.cbsdId = requestedId req ∧ SamePair row req) ∨
      ∃ existing ∈ store.cbsds, row.cbsdId = existing.cbsdId ∧ row.fccId = existing.fccId ∧
        row.cbsdSerialNumber = existing.cbsdSerialNumber := by
  rcases registration_cases validated certificateHash clock req store with
    ⟨same, _⟩ | ⟨added, _, name, pair, result⟩ | ⟨existing, merged, _, found, _, _, result, _⟩
  · rw [same] at member
    exact .inl member
  · rw [result] at member
    rcases List.mem_append.mp member with before | new
    · exact .inl before
    · rw [List.mem_singleton.mp new]
      exact .inr (.inl ⟨name, pair⟩)
  · rw [result] at member
    obtain ⟨old, oldMember, same⟩ := List.mem_map.mp member
    by_cases here : old.id = (reregisteredRow existing req merged certificateHash).id
    · rw [if_pos here] at same
      rw [← same]
      exact .inr (.inr ⟨existing, (find_cbsd_stored store _ existing found).1, rfl, rfl, rfl⟩)
    · rw [if_neg here] at same
      exact .inl (same ▸ oldMember)

theorem registered_identified (identified : Identified store) (readings : Readings) :
    Identified (registrationItem validated certificateHash readings.read req store).1 := by
  refine ⟨?_, fun row member => ?_⟩
  · exact committed_linked _ store _ identified.linked (registration_committed validated certificateHash readings req store)
  · rcases registered_rows validated certificateHash readings.read req store row member with
      before | ⟨name, fccId, serial⟩ | ⟨existing, inStore, name, fccId, serial⟩
    · exact identified.named row before
    · rw [name, fccId, serial]
      rfl
    · rw [name, fccId, serial]
      exact identified.named existing inStore

end Registration

section Runs

theorem empty_identified : Identified (Store.empty : Store K) :=
  ⟨⟨List.nodup_nil, fun _ member => (by cases member), List.nodup_nil, fun _ member => (by cases member), List.nodup_nil,
    fun _ member => (by cases member)⟩, fun _ member => (by cases member)⟩

-- An item that only drops rows keeps the identities.
theorem identified_of_rows (cert : Option String) (store after : Store K) (identified : Identified store)
    (committed : Committed cert store after) (rows : ∀ row ∈ after.cbsds, row ∈ store.cbsds) : Identified after :=
  ⟨committed_linked cert store after identified.linked committed, fun row member => identified.named row (rows row member)⟩

theorem grant_item_committed (cert : Option String) (item : GrantItem K) (pending : List FrequencyRange) (store : Store K) :
    Committed cert store (grantItem item.checks cert item.req pending item.grantId item.readings.read store).1 ∧
      (grantItem item.checks cert item.req pending item.grantId item.readings.read store).1.cbsds = store.cbsds := by
  have loaded : queryCbsd [] store item.req.cbsdId = store.findCbsd item.req.cbsdId := by
    rw [queryCbsd]
    exact Option.map_id' (x := store.findCbsd item.req.cbsdId)
  rw [grantItem]
  split
  · exact ⟨.nothing rfl, rfl⟩
  · split
    · exact ⟨.nothing rfl, rfl⟩
    · split
      · exact ⟨.nothing rfl, rfl⟩
      · rename_i proposal _
        split
        · rw [← loaded]
          refine ⟨create_committed item.checks cert item.req [] pending proposal item.grantId item.readings store
            fun _ member => absurd member List.not_mem_nil, ?_⟩
          exact (create_rows item.checks cert item.req _ pending proposal item.grantId item.readings.read store).2
        · exact ⟨.nothing rfl, rfl⟩

theorem serve_identified (call : ServiceCall K) (store : Store K) (identified : Identified store) :
    Identified (serve call store) := by
  cases call with
  | register env cert request readings => exact registered_identified _ cert _ store identified readings
  | grant cert item pending =>
      obtain ⟨committed, rows⟩ := grant_item_committed cert item pending store
      exact identified_of_rows cert store _ identified committed fun row member => rows ▸ member
  | heartbeat cert item =>
      have rows := (heartbeat_rows item.checks cert item.readings.read item.req store).2
      exact identified_of_rows cert store _ identified (heartbeat_committed item.checks cert item.readings item.req store)
        fun row member => rows ▸ member
  | relinquish cert item =>
      have rows := (relinquishment_rows cert item.readings.read item.cbsdId item.grantId store).2
      exact identified_of_rows cert store _ identified
        (relinquishment_committed cert item.readings item.cbsdId item.grantId store) fun row member => rows ▸ member
  | deregister cert item =>
      exact identified_of_rows cert store _ identified (deregistration_committed cert item.readings item.cbsdId store)
        (deregistration_rows cert item.readings.read item.cbsdId store).2
  | cpasApply decisions readings =>
      obtain ⟨next, rows⟩ := apply_decisions_cbsds readings.read decisions 0 store
      have inherits := apply_decisions_inherits 0 0 readings.read decisions 0 store
      exact ⟨inherits_linked 0 0 store _ inherits next rows identified.linked, fun row member => identified.named row (rows ▸ member)⟩

theorem serve_all_identified (calls : List (ServiceCall K)) (store : Store K) (identified : Identified store) :
    Identified (serveAll calls store) := by
  induction calls generalizing store with
  | nil => exact identified
  | cons call rest ih => exact ih (serve call store) (serve_identified call store identified)

end Runs

section Agreement

variable (env : RegistrationEnv K) (certificateHash : Option String) (readings : Readings) (request : Json K) (store : Store K)

-- The row found by an id is the only one with that id.
theorem find_linked (linked : Linked store) (row : Cbsd K) (member : row ∈ store.cbsds) : store.findCbsd row.cbsdId = some row := by
  cases found : store.findCbsd row.cbsdId with
  | none =>
      have absent := List.find?_eq_none.mp found row member
      simp at absent
  | some other =>
      obtain ⟨inStore, name⟩ := find_cbsd_stored store row.cbsdId other found
      rw [linked_name_eq store linked other row inStore member name]

theorem mem_put_cbsd (fresh row : Cbsd K) (member : row ∈ (store.putCbsd fresh).cbsds) : row = fresh ∨ row ∈ store.cbsds := by
  obtain ⟨old, oldMember, same⟩ := List.mem_map.mp member
  by_cases here : old.id = fresh.id
  · rw [if_pos here] at same
    exact .inl same.symm
  · rw [if_neg here] at same
    exact .inr (same ▸ oldMember)

theorem put_cbsd_mem (existing fresh : Cbsd K) (member : existing ∈ store.cbsds) (pk : fresh.id = existing.id) :
    fresh ∈ (store.putCbsd fresh).cbsds := List.mem_map.mpr ⟨existing, member, if_pos pk.symm⟩

theorem identity_kept_iff (identified : Identified store) :
    IdentityKept env certificateHash readings.read request store ↔ OwnIdentity env certificateHash request store := by
  have afterLinked : Linked (registerCbsd env certificateHash readings.read request store).1 :=
    (registered_identified _ certificateHash _ store identified readings).linked
  have done := registration_cases ((checkRegistration env request).map env.registrationOf) certificateHash readings.read
    (requestOf request) store
  rw [← registerCbsd] at done
  constructor
  · intro kept merged checked row member sameId owner allowed
    have isRow : store.findCbsd (requestedId (requestOf request)) = some row := by
      rw [← sameId, ← identified.named row member]
      exact find_linked store identified.linked row member
    have accepted : (registerCbsd env certificateHash readings.read request store).2 =
        ⟨success, some (requestedId (requestOf request)), none⟩ := by
      have found : store.findCbsd (makeCbsdId (requestOf request).fccId (requestOf request).cbsdSerialNumber) = some row := isRow
      simp [registerCbsd, registrationItem, checked, Except.map, found, owner, allowed, requestedId]
    obtain ⟨⟨held, isHeld, pair⟩, _⟩ := kept accepted
    rcases done with ⟨_, refused⟩ | ⟨added, unknown, _⟩ | ⟨existing, _, _, isExisting, _, _, result, _⟩
    · rw [accepted] at refused
      cases refused
    · rw [isRow] at unknown
      cases unknown
    · cases isRow.symm.trans isExisting
      obtain ⟨inAfter, name⟩ := find_cbsd_stored _ _ held isHeld
      rw [result] at inAfter
      rcases mem_put_cbsd store _ held inAfter with rewritten | before
      · rw [rewritten] at pair
        exact pair
      · have rowName := (find_cbsd_stored store _ row isRow).2
        rw [linked_name_eq store identified.linked held row before member (name.trans rowName.symm)] at pair
        exact pair
  · intro own accepted
    rcases done with ⟨_, refused⟩ | ⟨added, unknown, name, pair, result⟩ |
        ⟨existing, merged, isMerged, isExisting, owner, allowed, result, _⟩
    · rw [accepted] at refused
      cases refused
    · rw [result] at afterLinked ⊢
      have inAfter : { added with id := store.nextCbsdPk } ∈ (store.addCbsd added).cbsds :=
        List.mem_append_right _ (List.mem_singleton_self _)
      have sameName : ({ added with id := store.nextCbsdPk } : Cbsd K).cbsdId = requestedId (requestOf request) := name
      have found := find_linked (store.addCbsd added) afterLinked { added with id := store.nextCbsdPk } inAfter
      rw [sameName] at found
      exact ⟨⟨_, found, pair⟩, fun other member _ => ⟨List.mem_append_left _ member, fun _ _ => Iff.rfl⟩⟩
    · obtain ⟨checked, isChecked, _⟩ := Collect.map_ok _ _ merged isMerged
      obtain ⟨member, name⟩ := find_cbsd_stored store _ existing isExisting
      have pair := own checked isChecked existing member (by rw [← identified.named existing member, name]) owner allowed
      rw [result] at afterLinked ⊢
      have inAfter := put_cbsd_mem store existing (reregisteredRow existing (requestOf request) merged certificateHash) member rfl
      have sameName : (reregisteredRow existing (requestOf request) merged certificateHash).cbsdId = requestedId (requestOf request) :=
        name
      have found := find_linked (terminateGrants readings.read (requestedId (requestOf request))
        (store.putCbsd (reregisteredRow existing (requestOf request) merged certificateHash))) afterLinked _ inAfter
      rw [sameName] at found
      refine ⟨⟨_, found, pair⟩, fun other inStore apart => ?_⟩
      refine effect_untouched existing store _ other identified.linked member inStore (fun same => apart (same ▸ pair)) ?_
      rw [← name]
      refine .rewritten (reregisteredRow existing (requestOf request) merged certificateHash) _ rfl rfl ?_ rfl
      intro grant
      split
      · exact advances_refl grant
      · exact terminate_row_advances readings.read existing.cbsdId grant

-- Ids without a slash in the fccId are split in one way only.
theorem make_cbsd_id_injective (fccId serial otherFccId otherSerial : String) (whole : '/' ∉ fccId.toList)
    (otherWhole : '/' ∉ otherFccId.toList) (same : makeCbsdId fccId serial = makeCbsdId otherFccId otherSerial) :
    fccId = otherFccId ∧ serial = otherSerial := by
  have chars : fccId.toList ++ '/' :: serial.toList = otherFccId.toList ++ '/' :: otherSerial.toList := by
    have texts := congrArg String.toList same
    simpa [makeCbsdId] using texts
  obtain ⟨front, back⟩ := PyText.cut_unique '/' _ _ _ _ whole otherWhole chars
  exact ⟨String.ext front, String.ext back⟩

theorem own_identity_of_whole (whole : '/' ∉ (requestOf request).fccId.toList)
    (rows : ∀ row ∈ store.cbsds, '/' ∉ row.fccId.toList) : OwnIdentity env certificateHash request store :=
  fun _ _ row member sameId _ _ => make_cbsd_id_injective _ _ _ _ (rows row member) whole sameId

-- For every run of the services: each accepted registration keeps the identities exactly when no other device's row has
-- its id and lets it pass.
theorem identity_kept_run_iff (calls : List (ServiceCall K)) :
    (∀ done env cert request readings rest, calls = done ++ .register env cert request readings :: rest →
        IdentityKept env cert readings.read request (serveAll done Store.empty)) ↔
      ∀ done env cert request readings rest, calls = done ++ ServiceCall.register env cert request readings :: rest →
        OwnIdentity env cert request (serveAll done Store.empty) := by
  have each : ∀ (done : List (ServiceCall K)) env cert request (readings : Readings),
      IdentityKept env cert readings.read request (serveAll done Store.empty) ↔
        OwnIdentity env cert request (serveAll done Store.empty) := fun done env cert request readings =>
    identity_kept_iff env cert readings request _ (serve_all_identified done Store.empty empty_identified)
  constructor
  · intro kept done env cert request readings rest split
    exact (each done env cert request readings).mp (kept done env cert request readings rest split)
  · intro own done env cert request readings rest split
    exact (each done env cert request readings).mpr (own done env cert request readings rest split)

end Agreement

-- Two catalogued FCC ids of which one goes on with the slash of the id.
def slashEnv : RegistrationEnv Rat where
  readers := ⟨fun _ => none, fun _ => none, fun _ => none, fun _ => 0, fun _ => ""⟩
  blacklisted := fun _ _ => false
  verifyRequestCpi := fun _ => .ok none
  conditionals := fun _ _ => .object []
  fccMaxEirp := fun _ => some 47
  userKnown := fun _ => true
  catAOutdoorHaatExceeds := fun _ => false
  quietZoneBlocks := fun _ _ => false
  registrationOf := fun _ => registeredAt 0

def indoorInstallation : Json Rat :=
  .object [("latitude", .int 40), ("longitude", .int (-100)), ("height", .int 3), ("heightType", .text "AGL"),
    ("indoorDeployment", .bool true)]

def indoorRequest (fccId serial : String) : Json Rat :=
  .object [("fccId", .text fccId), ("cbsdSerialNumber", .text serial), ("userId", .text "user"), ("cbsdCategory", .text "A"),
    ("airInterface", .object [("radioTechnology", .text "E_UTRA")]), ("installationParam", indoorInstallation)]

def registerIndoor (fccId serial : String) : ServiceCall Rat := .register slashEnv none (indoorRequest fccId serial) (readingsAt 0)

theorem devices_share_row :
    ¬ ∀ (done : List (ServiceCall Rat)) (request : Json Rat),
      IdentityKept slashEnv none (readingsAt 0).read request (serveAll done Store.empty) := by
  intro claim
  have accepted : (registerCbsd slashEnv none (readingsAt 0).read (indoorRequest "fcc" "a/1")
      (serveAll [registerIndoor "fcc/a" "1"] Store.empty)).2 = ⟨success, some "fcc/a/1", none⟩ := by decide +kernel
  obtain ⟨⟨row, found, pair⟩, _⟩ := claim [registerIndoor "fcc/a" "1"] (indoorRequest "fcc" "a/1") accepted
  have isRow : ((registerCbsd slashEnv none (readingsAt 0).read (indoorRequest "fcc" "a/1")
      (serveAll [registerIndoor "fcc/a" "1"] Store.empty)).1.findCbsd "fcc/a/1").map (·.fccId) = some "fcc/a" := by decide +kernel
  have isFcc := (congrArg (Option.map (·.fccId)) found).symm.trans isRow
  rw [Option.map_some, pair.1] at isFcc
  exact absurd isFcc (by decide +kernel)

end SasCore.Registry
