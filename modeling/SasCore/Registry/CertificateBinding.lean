import SasCore.Registry.GrantSession
import SasCore.Registry.Ownership
import Mathlib.Logic.Function.Basic

set_option autoImplicit false
set_option linter.unusedSectionVars false

namespace SasCore.Registry

variable {K : Type} [Field K] [LinearOrder K]

inductive Service where
  | registration | grant | heartbeat | relinquishment | deregistration
deriving DecidableEq, Repr

-- A database session serves one request. Its identity map holds the CBSD objects it has loaded since
-- its last commit.
structure ItemSession (K : Type) where
  identityMap : List (Cbsd K)
  phase : GrantPhase K

def ItemSession.fresh : ItemSession K := ⟨[], .idle⟩

structure Sas (K : Type) where
  store : Store K
  sessions : Nat → ItemSession K

def Sas.start : Sas K := ⟨Store.empty, fun _ => ItemSession.fresh⟩

-- A process_grant item in its accesses; the items of the other services are one section under the
-- CBSD lock, from lock_cbsd_row to the commit.
-- `load` is any other query of the grant checks that returns a CBSD object.
inductive ItemStep (K : Type) where
  | begin (req : GrantRequest K)
  | load (cbsdId : String)
  | check
  | create (pending : List FrequencyRange) (grantId : String) (readings : Readings)
  | heartbeat (checks : HeartbeatChecks K) (req : HeartbeatRequest) (readings : Readings)
  | relinquish (cbsdId grantId : String) (readings : Readings)
  | deregister (cbsdId : String) (readings : Readings)
  | register (validated : Except Nat (Registration K)) (req : RegistrationRequest) (readings : Readings)

def ItemStep.service : ItemStep K → Service
  | .begin _ => .grant
  | .load _ => .grant
  | .check => .grant
  | .create .. => .grant
  | .heartbeat .. => .heartbeat
  | .relinquish .. => .relinquishment
  | .deregister .. => .deregistration
  | .register .. => .registration

inductive SasStep (K : Type) where
  | item (who : Nat) (step : ItemStep K)
  | cpasApply (decisions : List (CpasDecision K)) (readings : Readings)

-- A query that finds a row whose object is loaded returns the object with its old attributes.
def throughMap (identityMap : List (Cbsd K)) (row : Cbsd K) : Cbsd K :=
  (identityMap.find? fun copy => copy.id = row.id).getD row

def queryCbsd (identityMap : List (Cbsd K)) (store : Store K) (cbsdId : String) : Option (Cbsd K) :=
  (store.findCbsd cbsdId).map (throughMap identityMap)

def seenBy (identityMap : List (Cbsd K)) (store : Store K) : Store K :=
  { store with cbsds := store.cbsds.map (throughMap identityMap) }

def remember (copy : Cbsd K) (identityMap : List (Cbsd K)) : List (Cbsd K) :=
  if identityMap.any fun held => held.id = copy.id then identityMap else copy :: identityMap

section Step

variable (checks : GrantChecks K) (certificateHash : Option String)

def beginGrant (req : GrantRequest K) (session : ItemSession K) (store : Store K) : ItemSession K :=
  if req.cbsdId = "" then session
  else
    match queryCbsd session.identityMap store req.cbsdId with
    | none => session
    | some copy =>
        match screenRequest checks certificateHash req copy with
        | .error _ => ⟨remember copy session.identityMap, .idle⟩
        | .ok proposal => ⟨remember copy session.identityMap, .checking req proposal locationChecks⟩

def loadCopy (cbsdId : String) (session : ItemSession K) (store : Store K) : ItemSession K :=
  match queryCbsd session.identityMap store cbsdId with
  | none => session
  | some copy => { session with identityMap := remember copy session.identityMap }

def checkGrant (req : GrantRequest K) (proposal : Proposal K) (check : LocationCheck) (rest : List LocationCheck)
    (session : ItemSession K) (store : Store K) : ItemSession K :=
  match queryCbsd session.identityMap store req.cbsdId with
  | none => { session with phase := .checking req proposal rest }
  | some copy =>
      if locationBlocks checks store copy proposal check then { session with phase := .idle }
      else { session with phase := .checking req proposal rest }

-- The tables an item leaves and the session after it. A commit expires the identity map.
def itemStep (session : ItemSession K) (store : Store K) (step : ItemStep K) : Store K × ItemSession K :=
  match step with
  | .begin req =>
      match session.phase with
      | .idle => (store, beginGrant checks certificateHash req session store)
      | _ => (store, session)
  | .load cbsdId => (store, loadCopy cbsdId session store)
  | .check =>
      match session.phase with
      | .checking req proposal (check :: rest) => (store, checkGrant checks req proposal check rest session store)
      | _ => (store, session)
  | .create pending grantId readings =>
      match session.phase with
      | .checking req proposal [] =>
          ((lockedCreate checks certificateHash req (queryCbsd session.identityMap store req.cbsdId) pending proposal
            grantId readings.read store).1, .fresh)
      | _ => (store, session)
  | .heartbeat own req readings =>
      ((heartbeatItem own certificateHash readings.read req (seenBy session.identityMap store)).1, .fresh)
  | .relinquish cbsdId grantId readings =>
      ((relinquishmentItem certificateHash readings.read cbsdId grantId (seenBy session.identityMap store)).1, .fresh)
  | .deregister cbsdId readings =>
      ((deregistrationItem certificateHash readings.read cbsdId (seenBy session.identityMap store)).1, .fresh)
  | .register validated req readings =>
      ((registrationItem validated certificateHash readings.read req (seenBy session.identityMap store)).1, .fresh)

end Step

-- What one committed item does: nothing, something on behalf of a stored CBSD whose certificate passes,
-- or a first registration.
inductive Committed (certificateHash : Option String) (store after : Store K) : Prop where
  | nothing (result : after = store)
  | served (cbsd : Cbsd K) (member : cbsd ∈ store.cbsds) (owner : cbsdCertificateMismatch cbsd certificateHash = false)
      (effect : ItemEffect cbsd store after)
  | registered (row : Cbsd K) (unknown : store.findCbsd row.cbsdId = none) (result : after = store.addCbsd row)

theorem seen_by_nothing (store : Store K) : seenBy [] store = store := by
  have same : store.cbsds.map (throughMap []) = store.cbsds := List.map_id _
  rw [seenBy, same]

theorem heartbeat_committed (own : HeartbeatChecks K) (certificateHash : Option String) (readings : Readings)
    (req : HeartbeatRequest) (store : Store K) :
    Committed certificateHash store (heartbeatItem own certificateHash readings.read req store).1 := by
  rw [heartbeatItem]
  split
  · exact .nothing rfl
  · split
    · exact .nothing rfl
    · rename_i cbsd found
      obtain ⟨member, name⟩ := find_cbsd_stored store req.cbsdId cbsd found
      split
      · exact .nothing rfl
      · rename_i owner
        split
        · exact .nothing rfl
        · rename_i grant grantFound
          obtain ⟨grantMember, grantOwner⟩ := find_grant_stored store req.grantId req.cbsdId grant grantFound
          have keeps := heartbeat_grant_keeps own readings.read req cbsd grant readings.finish readings.finish (readings.bounded 3)
          exact .served cbsd member (Bool.eq_false_of_not_eq_true owner)
            (.grantChanged grant _ grantMember (grantOwner.trans name.symm) keeps.advances rfl)

theorem relinquishment_committed (certificateHash : Option String) (readings : Readings) (cbsdId grantId : String)
    (store : Store K) : Committed certificateHash store (relinquishmentItem certificateHash readings.read cbsdId grantId store).1 := by
  rw [relinquishmentItem]
  split
  · exact .nothing rfl
  · split
    · exact .nothing rfl
    · rename_i cbsd found
      obtain ⟨member, name⟩ := find_cbsd_stored store cbsdId cbsd found
      split
      · exact .nothing rfl
      · rename_i owner
        split
        · exact .nothing rfl
        · rename_i grant grantFound
          obtain ⟨grantMember, grantOwner⟩ := find_grant_stored store grantId cbsdId grant grantFound
          split
          · exact .nothing rfl
          · dsimp only
            split
            · have keeps := keeps_event grant .relinquish (idPayload cbsdId grantId) (readings.read 0) 0 0
                (fun kind => by cases kind)
              exact .served cbsd member (Bool.eq_false_of_not_eq_true owner)
                (.grantChanged grant _ grantMember (grantOwner.trans name.symm) keeps.advances rfl)
            · exact .nothing rfl

theorem terminate_row_advances (clock : Clock) (cbsdId : String) (grant : Grant K) :
    grant.Advances (terminateRow clock cbsdId grant) := (terminate_row_keeps 0 0 clock cbsdId grant).advances

theorem deregistration_committed (certificateHash : Option String) (readings : Readings) (cbsdId : String)
    (store : Store K) : Committed certificateHash store (deregistrationItem certificateHash readings.read cbsdId store).1 := by
  rw [deregistrationItem]
  split
  · exact .nothing rfl
  · split
    · exact .nothing rfl
    · rename_i cbsd found
      obtain ⟨member, name⟩ := find_cbsd_stored store cbsdId cbsd found
      split
      · exact .nothing rfl
      · rename_i owner
        dsimp only
        split
        · rw [← name]
          exact .served cbsd member (Bool.eq_false_of_not_eq_true owner)
            (.removed _ (terminate_row_advances readings.read cbsd.cbsdId) rfl)
        · exact .nothing rfl

theorem registration_committed (validated : Except Nat (Registration K)) (certificateHash : Option String)
    (readings : Readings) (req : RegistrationRequest) (store : Store K) :
    Committed certificateHash store (registrationItem validated certificateHash readings.read req store).1 := by
  cases validated with
  | error code => exact .nothing rfl
  | ok merged =>
      simp only [registrationItem]
      split
      · rename_i existing found
        obtain ⟨member, name⟩ := find_cbsd_stored store _ existing found
        split
        · exact .nothing rfl
        · rename_i owner
          split
          · rw [← name]
            refine .served existing member (Bool.eq_false_of_not_eq_true owner)
              (.rewritten (reregisteredRow existing req merged certificateHash) _ rfl rfl ?_ rfl)
            intro grant
            split
            · exact advances_refl grant
            · exact terminate_row_advances readings.read existing.cbsdId grant
          · exact .nothing rfl
      · rename_i unknown
        split
        · exact .nothing rfl
        · split
          · exact .nothing rfl
          · exact .registered _ unknown rfl

-- A loaded copy that lets the session pass belongs to a row that does so too. Keys are never reused.
def CopiesSound (certificateHash : Option String) (store : Store K) (identityMap : List (Cbsd K)) : Prop :=
  ∀ copy ∈ identityMap, copy.id < store.nextCbsdPk ∧ ∀ row ∈ store.cbsds, row.id = copy.id →
    cbsdCertificateMismatch copy certificateHash = false → cbsdCertificateMismatch row certificateHash = false

theorem through_map_cases (identityMap : List (Cbsd K)) (row : Cbsd K) :
    throughMap identityMap row = row ∨ throughMap identityMap row ∈ identityMap ∧ (throughMap identityMap row).id = row.id := by
  rw [throughMap]
  cases held : identityMap.find? fun copy => copy.id = row.id with
  | none => exact Or.inl rfl
  | some copy => exact Or.inr ⟨List.mem_of_find?_eq_some held, by simpa using List.find?_some held⟩

theorem query_sound (certificateHash : Option String) (store : Store K) (identityMap : List (Cbsd K)) (cbsdId : String)
    (copy : Cbsd K) (sound : CopiesSound certificateHash store identityMap)
    (found : queryCbsd identityMap store cbsdId = some copy) :
    ∃ row ∈ store.cbsds, row.cbsdId = cbsdId ∧ copy.id = row.id ∧
      (cbsdCertificateMismatch copy certificateHash = false → cbsdCertificateMismatch row certificateHash = false) := by
  obtain ⟨row, rowFound, isCopy⟩ := Option.map_eq_some_iff.mp found
  obtain ⟨member, name⟩ := find_cbsd_stored store cbsdId row rowFound
  refine ⟨row, member, name, ?_⟩
  rcases through_map_cases identityMap row with current | ⟨held, sameKey⟩
  · rw [← isCopy, current]
    exact ⟨rfl, id⟩
  · rw [isCopy] at held sameKey
    exact ⟨sameKey, (sound copy held).2 row member sameKey.symm⟩

theorem create_committed (checks : GrantChecks K) (certificateHash : Option String) (req : GrantRequest K)
    (identityMap : List (Cbsd K)) (pending : List FrequencyRange) (proposal : Proposal K) (grantId : String)
    (readings : Readings) (store : Store K) (sound : CopiesSound certificateHash store identityMap) :
    Committed certificateHash store (lockedCreate checks certificateHash req (queryCbsd identityMap store req.cbsdId)
      pending proposal grantId readings.read store).1 := by
  cases found : queryCbsd identityMap store req.cbsdId with
  | none => exact .nothing rfl
  | some copy =>
      obtain ⟨row, member, name, sameKey, passes⟩ := query_sound certificateHash store identityMap req.cbsdId copy sound found
      simp only [lockedCreate]
      split
      · exact .nothing rfl
      · rename_i owner
        split
        · exact .nothing rfl
        · split
          · exact .nothing rfl
          · split
            · exact .nothing rfl
            · exact .served row member (passes (Bool.eq_false_of_not_eq_true owner))
                (.grantAdded _ name.symm sameKey rfl)

section Run

variable (checks : Nat → GrantChecks K) (certificateHash : Nat → Option String) (service : Nat → Service)

def sasItem (sas : Sas K) (who : Nat) (step : ItemStep K) : Sas K :=
  if step.service = service who then
    let moved := itemStep (checks who) (certificateHash who) (sas.sessions who) sas.store step
    ⟨moved.1, Function.update sas.sessions who moved.2⟩
  else sas

def sasStep (sas : Sas K) (step : SasStep K) : Sas K :=
  match step with
  | .item who step => sasItem checks certificateHash service sas who step
  | .cpasApply decisions readings => { sas with store := (applyCpasDecisions readings.read decisions 0 sas.store).1 }

def sasRun (steps : List (SasStep K)) (sas : Sas K) : Sas K := steps.foldl (sasStep checks certificateHash service) sas

-- A registration that may rewrite a CBSD row does not bind it to a certificate that would turn away a
-- session whose loaded copy of the row still lets it pass.
def BindsHarmlessly (sas : Sas K) (step : SasStep K) : Prop :=
  match step with
  | .item who (.register _ req _) =>
      ∀ existing, sas.store.findCbsd (makeCbsdId req.fccId req.cbsdSerialNumber) = some existing →
        cbsdCertificateMismatch existing (certificateHash who) = false → ∀ hash, certificateHash who = some hash →
          ∀ other, ∀ copy ∈ (sas.sessions other).identityMap, copy.id = existing.id →
            cbsdCertificateMismatch copy (certificateHash other) = false →
              cbsdCertificateMismatch { existing with certificateHash := some hash } (certificateHash other) = false
  | _ => True

def RunBindsHarmlessly : Sas K → List (SasStep K) → Prop
  | _, [] => True
  | sas, step :: rest =>
      BindsHarmlessly certificateHash sas step ∧ RunBindsHarmlessly (sasStep checks certificateHash service sas step) rest

structure SasSound (sas : Sas K) : Prop where
  linked : Linked sas.store
  copies : ∀ who, CopiesSound (certificateHash who) sas.store (sas.sessions who).identityMap
  idle : ∀ who, service who ≠ .grant → (sas.sessions who).identityMap = []

theorem start_sound : SasSound certificateHash service (Sas.start : Sas K) :=
  ⟨⟨List.nodup_nil, fun _ member => (by cases member), List.nodup_nil, fun _ member => (by cases member), List.nodup_nil,
    fun _ member => (by cases member)⟩, fun _ _ member => (by cases member), fun _ _ => rfl⟩

-- The identity map of a session of another service is empty whenever it takes a lock.
theorem item_sees_store (sas : Sas K) (who : Nat) (step : ItemStep K) (sound : SasSound certificateHash service sas)
    (runs : step.service = service who) (other : step.service ≠ .grant) :
    seenBy (sas.sessions who).identityMap sas.store = sas.store := by
  rw [runs] at other
  rw [sound.idle who other, seen_by_nothing]

theorem item_committed (sas : Sas K) (who : Nat) (step : ItemStep K) (sound : SasSound certificateHash service sas)
    (runs : step.service = service who) :
    Committed (certificateHash who) sas.store
      (itemStep (checks who) (certificateHash who) (sas.sessions who) sas.store step).1 := by
  have seen := item_sees_store certificateHash service sas who step sound runs
  cases step with
  | begin req =>
      simp only [itemStep]
      split
      · exact .nothing rfl
      · exact .nothing rfl
  | load cbsdId => exact .nothing rfl
  | check =>
      simp only [itemStep]
      split
      · exact .nothing rfl
      · exact .nothing rfl
  | create pending grantId readings =>
      simp only [itemStep]
      split
      · exact create_committed (checks who) _ _ _ pending _ grantId readings sas.store (sound.copies who)
      · exact .nothing rfl
  | heartbeat own req readings =>
      rw [itemStep, seen (fun same => by cases same)]
      exact heartbeat_committed own _ readings req sas.store
  | relinquish cbsdId grantId readings =>
      rw [itemStep, seen (fun same => by cases same)]
      exact relinquishment_committed _ readings cbsdId grantId sas.store
  | deregister cbsdId readings =>
      rw [itemStep, seen (fun same => by cases same)]
      exact deregistration_committed _ readings cbsdId sas.store
  | register validated req readings =>
      rw [itemStep, seen (fun same => by cases same)]
      exact registration_committed validated _ readings req sas.store

theorem committed_linked (cert : Option String) (store after : Store K) (linked : Linked store)
    (committed : Committed cert store after) : Linked after := by
  cases committed with
  | nothing result =>
      rw [result]
      exact linked
  | served cbsd member owner effect => exact effect_linked cbsd store after linked member effect
  | registered row unknown result =>
      rw [result]
      exact add_cbsd_linked store row linked unknown

theorem committed_untouched (cert : Option String) (store after : Store K) (linked : Linked store)
    (committed : Committed cert store after) (other : Cbsd K) (inStore : other ∈ store.cbsds)
    (foreign : cbsdCertificateMismatch other cert = true) : Untouched other store after := by
  cases committed with
  | nothing result =>
      rw [result]
      exact ⟨inStore, fun _ _ => Iff.rfl⟩
  | served cbsd member owner effect =>
      refine effect_untouched cbsd store after other linked member inStore ?_ effect
      intro same
      rw [same] at foreign
      exact Bool.false_ne_true (owner.symm.trans foreign)
  | registered row unknown result =>
      rw [result]
      exact ⟨List.mem_append_left _ inStore, fun _ _ => Iff.rfl⟩

-- Apart from a registration, an item leaves no CBSD row that was not there.
theorem heartbeat_rows (own : HeartbeatChecks K) (cert : Option String) (clock : Clock) (req : HeartbeatRequest)
    (store : Store K) :
    let after := (heartbeatItem own cert clock req store).1
    after.nextCbsdPk = store.nextCbsdPk ∧ after.cbsds = store.cbsds := by
  simp only [heartbeatItem]
  split
  · exact ⟨rfl, rfl⟩
  · split
    · exact ⟨rfl, rfl⟩
    · split
      · exact ⟨rfl, rfl⟩
      · split <;> exact ⟨rfl, rfl⟩

theorem relinquishment_rows (cert : Option String) (clock : Clock) (cbsdId grantId : String) (store : Store K) :
    let after := (relinquishmentItem cert clock cbsdId grantId store).1
    after.nextCbsdPk = store.nextCbsdPk ∧ after.cbsds = store.cbsds := by
  simp only [relinquishmentItem]
  split
  · exact ⟨rfl, rfl⟩
  · split
    · exact ⟨rfl, rfl⟩
    · split
      · exact ⟨rfl, rfl⟩
      · split
        · exact ⟨rfl, rfl⟩
        · split
          · exact ⟨rfl, rfl⟩
          · split <;> exact ⟨rfl, rfl⟩

theorem deregistration_rows (cert : Option String) (clock : Clock) (cbsdId : String) (store : Store K) :
    let after := (deregistrationItem cert clock cbsdId store).1
    after.nextCbsdPk = store.nextCbsdPk ∧ ∀ row ∈ after.cbsds, row ∈ store.cbsds := by
  simp only [deregistrationItem]
  split
  · exact ⟨rfl, fun _ member => member⟩
  · split
    · exact ⟨rfl, fun _ member => member⟩
    · split
      · exact ⟨rfl, fun _ member => member⟩
      · split
        · exact ⟨rfl, fun _ member => List.mem_of_mem_filter member⟩
        · exact ⟨rfl, fun _ member => member⟩

theorem create_rows (own : GrantChecks K) (cert : Option String) (req : GrantRequest K) (loaded : Option (Cbsd K))
    (pending : List FrequencyRange) (proposal : Proposal K) (grantId : String) (clock : Clock) (store : Store K) :
    let after := (lockedCreate own cert req loaded pending proposal grantId clock store).1
    after.nextCbsdPk = store.nextCbsdPk ∧ after.cbsds = store.cbsds := by
  rcases locked_create_cases own cert req loaded pending proposal grantId clock store with refused | ⟨_, _, _, added⟩
  · rw [refused]
    exact ⟨rfl, rfl⟩
  · rw [added]
    exact ⟨rfl, rfl⟩

theorem mismatch_of_hash (a b : Cbsd K) (cert : Option String) (same : a.certificateHash = b.certificateHash) :
    cbsdCertificateMismatch a cert = cbsdCertificateMismatch b cert := by
  rw [cbsdCertificateMismatch, cbsdCertificateMismatch, same]

theorem registration_rows (validated : Except Nat (Registration K)) (cert : Option String) (clock : Clock)
    (req : RegistrationRequest) (store : Store K) :
    let after := (registrationItem validated cert clock req store).1
    store.nextCbsdPk ≤ after.nextCbsdPk ∧ ∀ row ∈ after.cbsds, row ∈ store.cbsds ∨ store.nextCbsdPk ≤ row.id ∨
      ∃ existing, store.findCbsd (makeCbsdId req.fccId req.cbsdSerialNumber) = some existing ∧
        cbsdCertificateMismatch existing cert = false ∧ row.id = existing.id ∧
        row.certificateHash = cert.orElse fun _ => existing.certificateHash := by
  cases validated with
  | error code => exact ⟨le_refl _, fun _ member => Or.inl member⟩
  | ok merged =>
      simp only [registrationItem]
      split
      · rename_i existing found
        split
        · exact ⟨le_refl _, fun _ member => Or.inl member⟩
        · rename_i owner
          split
          · refine ⟨le_refl _, fun row member => ?_⟩
            obtain ⟨old, oldMember, same⟩ := List.mem_map.mp member
            by_cases here : old.id = (reregisteredRow existing req merged cert).id
            · rw [if_pos here] at same
              rw [← same]
              exact Or.inr (Or.inr ⟨existing, found, Bool.eq_false_of_not_eq_true owner, rfl, rfl⟩)
            · rw [if_neg here] at same
              exact Or.inl (same ▸ oldMember)
          · exact ⟨le_refl _, fun _ member => Or.inl member⟩
      · split
        · exact ⟨le_refl _, fun _ member => Or.inl member⟩
        · split
          · exact ⟨le_refl _, fun _ member => Or.inl member⟩
          · refine ⟨Nat.le_succ _, fun row member => ?_⟩
            rcases List.mem_append.mp member with before | new
            · exact Or.inl before
            · rw [List.mem_singleton.mp new]
              exact Or.inr (Or.inl (le_refl _))

theorem copies_kept (cert : Option String) (store after : Store K) (copies : List (Cbsd K))
    (sound : CopiesSound cert store copies) (next : store.nextCbsdPk ≤ after.nextCbsdPk)
    (rows : ∀ row ∈ after.cbsds, row ∈ store.cbsds ∨ store.nextCbsdPk ≤ row.id ∨
      ∀ copy ∈ copies, row.id = copy.id → cbsdCertificateMismatch copy cert = false →
        cbsdCertificateMismatch row cert = false) : CopiesSound cert after copies := by
  intro copy held
  obtain ⟨old, passes⟩ := sound copy held
  refine ⟨lt_of_lt_of_le old next, fun row member same => ?_⟩
  rcases rows row member with before | new | bound
  · exact passes row before same
  · omega
  · exact bound copy held same

-- What an item leaves of the CBSD rows fits every set of copies that its registration fits.
theorem item_copies (sas : Sas K) (who : Nat) (step : ItemStep K) (sound : SasSound certificateHash service sas)
    (runs : step.service = service who) (cert : Option String) (copies : List (Cbsd K))
    (copiesSound : CopiesSound cert sas.store copies)
    (harmless : ∀ validated req readings, step = .register validated req readings →
      ∀ existing, sas.store.findCbsd (makeCbsdId req.fccId req.cbsdSerialNumber) = some existing →
        cbsdCertificateMismatch existing (certificateHash who) = false → ∀ hash, certificateHash who = some hash →
          ∀ copy ∈ copies, copy.id = existing.id → cbsdCertificateMismatch copy cert = false →
            cbsdCertificateMismatch { existing with certificateHash := some hash } cert = false) :
    CopiesSound cert (itemStep (checks who) (certificateHash who) (sas.sessions who) sas.store step).1 copies := by
  have seen := item_sees_store certificateHash service sas who step sound runs
  have unchanged : ∀ after : Store K, after.nextCbsdPk = sas.store.nextCbsdPk ∧ after.cbsds = sas.store.cbsds →
      CopiesSound cert after copies := by
    intro after same
    refine copies_kept cert sas.store after copies copiesSound (le_of_eq same.1.symm) fun row member => ?_
    rw [same.2] at member
    exact Or.inl member
  cases step with
  | begin req =>
      simp only [itemStep]
      split <;> exact copiesSound
  | load cbsdId => exact copiesSound
  | check =>
      simp only [itemStep]
      split <;> exact copiesSound
  | create pending grantId readings =>
      simp only [itemStep]
      split
      · exact unchanged _ (create_rows (checks who) _ _ _ pending _ grantId readings.read sas.store)
      · exact copiesSound
  | heartbeat own req readings =>
      rw [itemStep, seen (fun same => by cases same)]
      exact unchanged _ (heartbeat_rows own _ readings.read req sas.store)
  | relinquish cbsdId grantId readings =>
      rw [itemStep, seen (fun same => by cases same)]
      exact unchanged _ (relinquishment_rows _ readings.read cbsdId grantId sas.store)
  | deregister cbsdId readings =>
      rw [itemStep, seen (fun same => by cases same)]
      obtain ⟨next, rows⟩ := deregistration_rows (certificateHash who) readings.read cbsdId sas.store
      exact copies_kept cert sas.store _ copies copiesSound (le_of_eq next.symm) fun row member => Or.inl (rows row member)
  | register validated req readings =>
      rw [itemStep, seen (fun same => by cases same)]
      obtain ⟨next, rows⟩ := registration_rows validated (certificateHash who) readings.read req sas.store
      refine copies_kept cert sas.store _ copies copiesSound next fun row member => ?_
      rcases rows row member with before | new | ⟨existing, found, owner, sameKey, hash⟩
      · exact Or.inl before
      · exact Or.inr (Or.inl new)
      · refine Or.inr (Or.inr fun copy held same passes => ?_)
        obtain ⟨inStore, _⟩ := find_cbsd_stored sas.store _ existing found
        have copyKey : copy.id = existing.id := same.symm.trans sameKey
        cases presented : certificateHash who with
        | none =>
            rw [presented] at hash
            rw [mismatch_of_hash row existing cert hash]
            exact (copiesSound copy held).2 existing inStore copyKey.symm passes
        | some bound =>
            rw [presented] at hash
            rw [mismatch_of_hash row { existing with certificateHash := some bound } cert hash]
            exact harmless validated req readings rfl existing found owner bound presented copy held copyKey passes

theorem remember_sound (cert : Option String) (store : Store K) (copies : List (Cbsd K)) (linked : Linked store)
    (sound : CopiesSound cert store copies) (cbsdId : String) (copy : Cbsd K)
    (found : queryCbsd copies store cbsdId = some copy) : CopiesSound cert store (remember copy copies) := by
  rw [remember]
  split
  · exact sound
  · intro held member
    rcases List.mem_cons.mp member with new | before
    · rw [new]
      obtain ⟨row, rowMember, _, sameKey, passes⟩ := query_sound cert store copies cbsdId copy sound found
      refine ⟨sameKey ▸ linked.cbsdFresh row rowMember, fun other otherMember same => ?_⟩
      rw [linked_row_eq store linked other row otherMember rowMember (same.trans sameKey)]
      exact passes
    · exact sound held before

theorem fresh_copies (cert : Option String) (store : Store K) :
    CopiesSound cert store (ItemSession.fresh : ItemSession K).identityMap := fun _ member => by cases member

-- The copies a session holds after its item, beside the store before it.
theorem session_copies (own : GrantChecks K) (cert : Option String) (session : ItemSession K) (store : Store K)
    (linked : Linked store) (sound : CopiesSound cert store session.identityMap) (step : ItemStep K) :
    CopiesSound cert store (itemStep own cert session store step).2.identityMap := by
  cases step with
  | begin req =>
      simp only [itemStep]
      split
      · simp only [beginGrant]
        split
        · exact sound
        · split
          · exact sound
          · rename_i copy found
            split
            · exact remember_sound cert store _ linked sound req.cbsdId copy found
            · exact remember_sound cert store _ linked sound req.cbsdId copy found
      · exact sound
  | load cbsdId =>
      simp only [itemStep, loadCopy]
      split
      · exact sound
      · rename_i copy found
        exact remember_sound cert store _ linked sound cbsdId copy found
  | check =>
      simp only [itemStep]
      split
      · simp only [checkGrant]
        split
        · exact sound
        · split <;> exact sound
      · exact sound
  | create pending grantId readings =>
      simp only [itemStep]
      split
      · exact fresh_copies cert store
      · exact sound
  | heartbeat _ req readings => exact fresh_copies cert store
  | relinquish cbsdId grantId readings => exact fresh_copies cert store
  | deregister cbsdId readings => exact fresh_copies cert store
  | register validated req readings => exact fresh_copies cert store

theorem session_empty (own : GrantChecks K) (cert : Option String) (session : ItemSession K) (store : Store K)
    (step : ItemStep K) (other : step.service ≠ .grant) : (itemStep own cert session store step).2.identityMap = [] := by
  cases step with
  | begin req => exact absurd rfl other
  | load cbsdId => exact absurd rfl other
  | check => exact absurd rfl other
  | create pending grantId readings => exact absurd rfl other
  | heartbeat _ req readings => rfl
  | relinquish cbsdId grantId readings => rfl
  | deregister cbsdId readings => rfl
  | register validated req readings => rfl

theorem sas_item_sound (sas : Sas K) (who : Nat) (step : ItemStep K) (sound : SasSound certificateHash service sas)
    (harmless : BindsHarmlessly certificateHash sas (.item who step)) :
    SasSound certificateHash service (sasItem checks certificateHash service sas who step) := by
  rw [sasItem]
  split
  · rename_i runs
    have committed := item_committed checks certificateHash service sas who step sound runs
    have own := session_copies (checks who) (certificateHash who) (sas.sessions who) sas.store sound.linked
      (sound.copies who) step
    refine ⟨committed_linked _ sas.store _ sound.linked committed, fun other => ?_, fun other notGrant => ?_⟩
    · by_cases same : other = who
      · subst same
        simp only [Function.update_self]
        refine item_copies checks certificateHash service sas other step sound runs _ _ own ?_
        intro validated req readings isRegister _ _ _ _ _ copy held
        rw [isRegister] at held
        cases held
      · simp only [Function.update_of_ne same]
        refine item_copies checks certificateHash service sas who step sound runs _ _ (sound.copies other) ?_
        intro validated req readings isRegister existing found owner hash presented copy held
        subst isRegister
        exact harmless existing found owner hash presented other copy held
    · by_cases same : other = who
      · subst same
        simp only [Function.update_self]
        exact session_empty _ _ _ _ step (runs ▸ notGrant)
      · simp only [Function.update_of_ne same]
        exact sound.idle other notGrant
  · exact sound

theorem apply_decisions_cbsds (clock : Clock) (decisions : List (CpasDecision K)) (n : Nat) (store : Store K) :
    let after := (applyCpasDecisions clock decisions n store).1
    after.nextCbsdPk = store.nextCbsdPk ∧ after.cbsds = store.cbsds := by
  induction decisions generalizing n store with
  | nil => exact ⟨rfl, rfl⟩
  | cons decision rest ih =>
      obtain ⟨next, rows⟩ := ih (n + 1) (applyDecision decision (clock n) store).1
      have first : (applyDecision decision (clock n) store).1.nextCbsdPk = store.nextCbsdPk ∧
          (applyDecision decision (clock n) store).1.cbsds = store.cbsds := by
        rw [applyDecision]
        split
        · exact ⟨rfl, rfl⟩
        · split
          · exact ⟨rfl, rfl⟩
          · split <;> exact ⟨rfl, rfl⟩
      exact ⟨next.trans first.1, rows.trans first.2⟩

theorem inherits_linked (now finish : Int) (store after : Store K) (inherits : Inherits now finish store after)
    (next : after.nextCbsdPk = store.nextCbsdPk) (rows : after.cbsds = store.cbsds) (linked : Linked store) :
    Linked after := by
  refine ⟨rows ▸ linked.cbsdKeys, ?_, rows ▸ linked.names, ?_, linked.grantKeys.sublist inherits.keys, ?_⟩
  · rw [next, rows]
    exact linked.cbsdFresh
  · intro fresh member
    obtain ⟨old, oldMember, keeps⟩ := inherits.rows fresh member
    rw [rows]
    exact advances_owned store.cbsds old fresh keeps.advances (linked.owners old oldMember)
  · intro fresh member
    obtain ⟨old, oldMember, keeps⟩ := inherits.rows fresh member
    rw [inherits.next, keeps.advances.id]
    exact linked.grantFresh old oldMember

theorem sas_step_sound (sas : Sas K) (step : SasStep K) (sound : SasSound certificateHash service sas)
    (harmless : BindsHarmlessly certificateHash sas step) :
    SasSound certificateHash service (sasStep checks certificateHash service sas step) := by
  cases step with
  | item who step => exact sas_item_sound checks certificateHash service sas who step sound harmless
  | cpasApply decisions readings =>
      obtain ⟨next, rows⟩ := apply_decisions_cbsds readings.read decisions 0 sas.store
      have inherits := apply_decisions_inherits 0 0 readings.read decisions 0 sas.store
      refine ⟨inherits_linked 0 0 sas.store _ inherits next rows sound.linked, fun who => ?_, sound.idle⟩
      refine copies_kept _ sas.store _ _ (sound.copies who) (le_of_eq next.symm) fun row member => Or.inl ?_
      exact rows ▸ member

theorem sas_run_sound (steps : List (SasStep K)) (sas : Sas K) (sound : SasSound certificateHash service sas)
    (harmless : RunBindsHarmlessly checks certificateHash service sas steps) :
    SasSound certificateHash service (sasRun checks certificateHash service steps sas) := by
  induction steps generalizing sas with
  | nil => exact sound
  | cons step rest ih =>
      have next := sas_step_sound checks certificateHash service sas step sound harmless.1
      exact ih (sasStep checks certificateHash service sas step) next harmless.2

-- The item of a session leaves alone what belongs to a CBSD bound to another certificate.
def ForeignUntouched (sas : Sas K) (who : Nat) (step : ItemStep K) : Prop :=
  ∀ row ∈ sas.store.cbsds, cbsdCertificateMismatch row (certificateHash who) = true →
    Untouched row sas.store (sasItem checks certificateHash service sas who step).store

theorem foreign_untouched_of_sound (sas : Sas K) (who : Nat) (step : ItemStep K)
    (sound : SasSound certificateHash service sas) :
    ForeignUntouched checks certificateHash service sas who step := by
  intro row member foreign
  rw [sasItem]
  split
  · rename_i runs
    have committed := item_committed checks certificateHash service sas who step sound runs
    exact committed_untouched _ sas.store _ sound.linked committed row member foreign
  · exact ⟨member, fun _ _ => Iff.rfl⟩

theorem foreign_untouched_when_harmless (steps : List (SasStep K)) (who : Nat) (step : ItemStep K)
    (harmless : RunBindsHarmlessly checks certificateHash service Sas.start steps) :
    ForeignUntouched checks certificateHash service (sasRun checks certificateHash service steps Sas.start) who step :=
  foreign_untouched_of_sound checks certificateHash service _ who step
    (sas_run_sound checks certificateHash service steps Sas.start (start_sound certificateHash service) harmless)

end Run

-- Session 0 registers the CBSD, session 1 asks for a grant with "aa", session 2 registers the CBSD again and
-- session 3 deregisters with "cc".
def sampleCertificate (registered bound : Option String) (who : Nat) : Option String :=
  if who = 3 then some "cc" else if who = 0 then registered else if who = 2 then bound else some "aa"

def sampleService (who : Nat) : Service :=
  if who = 3 then .deregistration else if who = 1 then .grant else .registration

def registerAs (who : Nat) : SasStep Rat :=
  .item who (.register (.ok (registeredAt 0)) ⟨"fcc", "sn", "user"⟩ (readingsAt 0))

def bindingRun : List (SasStep Rat) :=
  [registerAs 0, .item 1 (.begin sampleRequest)] ++ List.replicate 6 (.item 1 .check) ++ [registerAs 2]

def sasAfter (registered bound : Option String) : Sas Rat :=
  sasRun (fun _ => openGrantChecks) (sampleCertificate registered bound) sampleService bindingRun Sas.start

def createSample : ItemStep Rat := .create [] "grant/1" (readingsAt 9)

theorem rebound_cbsd_granted :
    ¬ ∀ (steps : List (SasStep Rat)) (who : Nat) (step : ItemStep Rat),
      ForeignUntouched (fun _ => openGrantChecks) (sampleCertificate none (some "bb")) sampleService
        (sasRun (fun _ => openGrantChecks) (sampleCertificate none (some "bb")) sampleService steps Sas.start) who step := by
  intro claim
  have inserted : ∃ row ∈ (sasAfter none (some "bb")).store.cbsds, cbsdCertificateMismatch row (some "aa") = true ∧
      ∃ grant ∈ (sasItem (fun _ => openGrantChecks) (sampleCertificate none (some "bb")) sampleService
        (sasAfter none (some "bb")) 1 createSample).store.grants,
        grant.cbsdId = row.cbsdId ∧ grant ∉ (sasAfter none (some "bb")).store.grants := by
    decide +kernel
  obtain ⟨row, member, foreign, grant, inAfter, own, absent⟩ := inserted
  exact absent (((claim bindingRun 1 createSample row member foreign).2 grant (Or.inl own)).mp inAfter)

theorem foreign_untouched_when_harmless_sample :
    ForeignUntouched (fun _ => openGrantChecks) (sampleCertificate (some "aa") (some "AA")) sampleService
      (sasAfter (some "aa") (some "AA")) 3 (.deregister "fcc/sn" (readingsAt 9)) := by
  have passes : ∀ (row : Cbsd Rat) (who other : Nat), other ≠ 3 → who = 0 ∨ who = 2 →
      ∀ hash, sampleCertificate (some "aa") (some "AA") who = some hash →
        cbsdCertificateMismatch { row with certificateHash := some hash }
          (sampleCertificate (some "aa") (some "AA") other) = false := by
    intro row who other different isRegistration hash presented
    have isHash : hash = "aa" ∨ hash = "AA" := by
      rcases isRegistration with first | second
      · rw [first] at presented
        exact Or.inl (Option.some.inj presented).symm
      · rw [second] at presented
        exact Or.inr (Option.some.inj presented).symm
    have isOther : sampleCertificate (some "aa") (some "AA") other = some "aa" ∨
        sampleCertificate (some "aa") (some "AA") other = some "AA" := by
      rw [sampleCertificate, if_neg different]
      split
      · exact Or.inl rfl
      · split
        · exact Or.inr rfl
        · exact Or.inl rfl
    simp only [cbsdCertificateMismatch]
    rcases isHash with rfl | rfl <;> rcases isOther with own | own <;> rw [own] <;> decide +kernel
  have harmless : ∀ (sas : Sas Rat) (who : Nat), who = 0 ∨ who = 2 → (sas.sessions 3).identityMap = [] →
      BindsHarmlessly (sampleCertificate (some "aa") (some "AA")) sas (registerAs who) := by
    intro sas who isRegistration empty existing found owner hash presented other copy held same ok
    by_cases isThird : other = 3
    · subst isThird
      rw [empty] at held
      cases held
    · exact passes existing who other isThird isRegistration hash presented
  exact foreign_untouched_when_harmless (fun _ => openGrantChecks) (sampleCertificate (some "aa") (some "AA"))
    sampleService bindingRun 3 (.deregister "fcc/sn" (readingsAt 9))
    ⟨harmless _ 0 (Or.inl rfl) rfl, trivial, trivial, trivial, trivial, trivial, trivial, trivial,
      harmless _ 2 (Or.inr rfl) rfl, trivial⟩

end SasCore.Registry
