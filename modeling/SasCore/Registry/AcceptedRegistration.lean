import SasCore.Registry.CbsdIdentity

set_option autoImplicit false
set_option linter.unusedSectionVars false

namespace SasCore.Registry

variable {K : Type} [Field K] [LinearOrder K] (env : RegistrationEnv K)

-- What a registration has passed when it comes to the CBSD lock.
structure Accepted (request merged installation : Json K) : Prop where
  named : missingRegistrationFields (requestOf request) = false
  allowed : env.blacklisted (requestOf request).fccId (requestOf request).cbsdSerialNumber = false
  signed : ∃ payload, env.verifyRequestCpi request = .ok payload ∧
    mergeRegistration request (env.conditionals (requestOf request).fccId (requestOf request).cbsdSerialNumber) payload = .ok merged
  installed : installationOf merged = .ok installation
  valid : validateParams env request merged installation = .ok none
  complete : hasPendingParams merged installation = false
  quiet : env.quietZoneBlocks installation (merged.field "cbsdCategory") = false

theorem check_registration_accepted (request merged : Json K) (ran : checkRegistration env request = .ok merged) :
    ∃ installation, Accepted env request merged installation := by
  rw [checkRegistration] at ran
  cases named : missingRegistrationFields (requestOf request) with
  | true =>
      rw [named, if_pos rfl] at ran
      cases ran
  | false =>
      rw [named, if_neg Bool.false_ne_true] at ran
      cases allowed : env.blacklisted (requestOf request).fccId (requestOf request).cbsdSerialNumber with
      | true =>
          rw [allowed, if_pos rfl] at ran
          cases ran
      | false =>
          rw [allowed, if_neg Bool.false_ne_true] at ran
          obtain ⟨payload, verified, merging⟩ := Collect.bind_ok _ _ _ ran
          obtain ⟨found, isMerged, installing⟩ := Collect.bind_ok _ _ _ merging
          obtain ⟨installation, installed, validating⟩ := Collect.bind_ok _ _ _ installing
          obtain ⟨verdict, validated, ending⟩ := Collect.bind_ok _ _ _ validating
          cases verdict with
          | some code => cases ending
          | none =>
              dsimp only at ending
              cases complete : hasPendingParams found installation with
              | true =>
                  rw [complete, if_pos rfl] at ending
                  cases ending
              | false =>
                  rw [complete, if_neg Bool.false_ne_true] at ending
                  cases quiet : env.quietZoneBlocks installation (found.field "cbsdCategory") with
                  | true =>
                      rw [quiet, if_pos rfl] at ending
                      cases ending
                  | false =>
                      rw [quiet, if_neg Bool.false_ne_true] at ending
                      cases ending
                      exact ⟨installation, named, allowed, ⟨payload, verified, isMerged⟩, installed, validated, complete, quiet⟩

theorem refused_else (refuses : Bool) (code : Nat) (next : Except Nat (Option Nat))
    (passed : (if refuses then .ok (some code) else next) = .ok none) : refuses = false ∧ next = .ok none := by
  cases refuses with
  | true => cases passed
  | false => exact ⟨rfl, passed⟩

theorem valid_outdoor (request merged installation : Json K) (valid : validateParams env request merged installation = .ok none) :
    invalidOutdoor env (merged.field "cbsdCategory") installation = false := by
  obtain ⟨_, known⟩ := refused_else _ _ _ valid
  split at known
  · cases known
  · obtain ⟨badMeas, _, ranged⟩ := Collect.bind_ok _ _ _ known
    obtain ⟨_, powered⟩ := refused_else _ _ _ ranged
    obtain ⟨badEirp, _, ending⟩ := Collect.bind_ok _ _ _ powered
    obtain ⟨passed, _⟩ := refused_else _ _ _ ending
    simp only [Bool.or_eq_false_iff] at passed
    exact passed.1.1.2

theorem valid_clear (request merged installation : Json K) (valid : validateParams env request merged installation = .ok none) :
    invalidClearInstallation request (merged.field "cbsdCategory") = false := by
  obtain ⟨_, known⟩ := refused_else _ _ _ valid
  split at known
  · cases known
  · obtain ⟨badMeas, _, ranged⟩ := Collect.bind_ok _ _ _ known
    obtain ⟨_, powered⟩ := refused_else _ _ _ ranged
    obtain ⟨badEirp, _, ending⟩ := Collect.bind_ok _ _ _ powered
    obtain ⟨passed, _⟩ := refused_else _ _ _ ending
    simp only [Bool.or_eq_false_iff] at passed
    exact passed.2

section Rows

-- The registration of a row is one that this call has accepted for the id of the row.
def RegisteredBy (call : ServiceCall K) (row : Cbsd K) : Prop :=
  ∃ env cert request readings merged, call = .register env cert request readings ∧
    checkRegistration env request = .ok merged ∧ row.cbsdId = requestedId (requestOf request) ∧
    row.registration = env.registrationOf merged

theorem registered_row (certificateHash : Option String) (clock : Clock) (request : Json K) (store : Store K) (row : Cbsd K)
    (member : row ∈ (registerCbsd env certificateHash clock request store).1.cbsds) :
    row ∈ store.cbsds ∨ ∃ merged, checkRegistration env request = .ok merged ∧
      row.cbsdId = requestedId (requestOf request) ∧ row.registration = env.registrationOf merged := by
  rw [registerCbsd] at member
  cases checked : checkRegistration env request with
  | error code =>
      rw [checked] at member
      exact .inl member
  | ok merged =>
      rw [checked] at member
      simp only [Except.map, registrationItem] at member
      cases found : store.findCbsd (makeCbsdId (requestOf request).fccId (requestOf request).cbsdSerialNumber) with
      | none =>
          simp only [found] at member
          split at member
          · exact .inl member
          · split at member
            · exact .inl member
            · rcases List.mem_append.mp member with before | new
              · exact .inl before
              · rw [List.mem_singleton.mp new]
                exact .inr ⟨merged, rfl, rfl, rfl⟩
      | some existing =>
          simp only [found] at member
          split at member
          · exact .inl member
          · split at member
            · rcases mem_put_cbsd store _ row member with rewritten | before
              · rw [rewritten]
                exact .inr ⟨merged, rfl, (find_cbsd_stored store _ existing found).2, rfl⟩
              · exact .inl before
            · exact .inl member

theorem served_row (call : ServiceCall K) (store : Store K) (row : Cbsd K) (member : row ∈ (serve call store).cbsds) :
    row ∈ store.cbsds ∨ RegisteredBy call row := by
  cases call with
  | register env cert request readings =>
      rcases registered_row env cert readings.read request store row member with before | ⟨merged, checked, name, stored⟩
      · exact .inl before
      · exact .inr ⟨env, cert, request, readings, merged, rfl, checked, name, stored⟩
  | grant cert item pending =>
      have rows := (grant_item_committed cert item pending store).2
      exact .inl (rows ▸ member)
  | heartbeat cert item =>
      have rows := (heartbeat_rows item.checks cert item.readings.read item.req store).2
      exact .inl (rows ▸ member)
  | relinquish cert item =>
      have rows := (relinquishment_rows cert item.readings.read item.cbsdId item.grantId store).2
      exact .inl (rows ▸ member)
  | deregister cert item => exact .inl ((deregistration_rows cert item.readings.read item.cbsdId store).2 row member)
  | cpasApply decisions readings =>
      obtain ⟨_, rows⟩ := apply_decisions_cbsds readings.read decisions 0 store
      exact .inl (rows ▸ member)

theorem served_rows (calls : List (ServiceCall K)) (store : Store K) (row : Cbsd K)
    (member : row ∈ (serveAll calls store).cbsds) : row ∈ store.cbsds ∨ ∃ call ∈ calls, RegisteredBy call row := by
  induction calls generalizing store with
  | nil => exact .inl member
  | cons call rest ih =>
      rcases ih (serve call store) member with before | ⟨later, inRest, registered⟩
      · rcases served_row call store row before with earlier | registered
        · exact .inl earlier
        · exact .inr ⟨call, List.mem_cons_self, registered⟩
      · exact .inr ⟨later, List.mem_cons_of_mem _ inRest, registered⟩

end Rows

end SasCore.Registry
