import SasCore.Dpa.Aggregate
import SasCore.Registry.GrantSession

set_option autoImplicit false
set_option linter.unusedSectionVars false

namespace SasCore.Dpa

open Registry

variable {K : Type} [Field K] [LinearOrder K]

-- Sessions that work through process_grant items over one store. `seen` is the store a session
-- read in its last DPA check.
structure Sessions (K : Type) where
  store : Store K
  loaded : Nat → Option (Cbsd K)
  phase : Nat → GrantPhase K
  seen : Nat → Store K

def Sessions.start (store : Store K) : Sessions K := ⟨store, fun _ => none, fun _ => .idle, fun _ => store⟩

inductive RequestStep (K : Type) where
  | begin (req : GrantRequest K)
  | check
  | create (pending : List FrequencyRange) (grantId : String) (readings : Readings)

def RequestStep.toSession : RequestStep K → SessionStep K
  | .begin req => .begin req
  | .check => .check
  | .create pending grantId readings => .create pending grantId readings

section Run

variable (backends : DpaBackends K) (channels : List (ProtectedDpaChannel K)) (checks : Nat → GrantChecks K)
  (certificateHash : Nat → Option String)

-- The checks of a session, with the DPA check that process_grant calls.
def dpaChecks (who : Nat) : GrantChecks K := { checks who with dpa := proposedGrantViolatesDpa backends channels }

def readsDpa (phase : GrantPhase K) (step : RequestStep K) : Bool :=
  match step, phase with
  | .check, .checking _ _ (.dpa :: _) => true
  | _, _ => false

def sessionWorld (sessions : Sessions K) (who : Nat) : GrantWorld K :=
  ⟨sessions.store, sessions.loaded who, sessions.phase who⟩

def worldAfter (sessions : Sessions K) (who : Nat) (step : RequestStep K) : GrantWorld K :=
  sessionStep (dpaChecks backends channels checks who) (certificateHash who) (sessionWorld sessions who) step.toSession

def requestStep (sessions : Sessions K) (who : Nat) (step : RequestStep K) : Sessions K :=
  let world := worldAfter backends channels checks certificateHash sessions who step
  { store := world.store
    loaded := Function.update sessions.loaded who world.loaded
    phase := Function.update sessions.phase who world.phase
    seen := if readsDpa (sessions.phase who) step then Function.update sessions.seen who sessions.store else sessions.seen }

def requestRun (steps : List (Nat × RequestStep K)) (sessions : Sessions K) : Sessions K :=
  steps.foldl (fun state step => requestStep backends channels checks certificateHash state step.1 step.2) sessions

-- What a session knows between two steps: its copy is the stored row, and the DPA check is still to
-- come or passed on the store it saw.
def SessionChecked (ownChecks : GrantChecks K) (store seen : Store K) (loaded : Option (Cbsd K)) (phase : GrantPhase K) :
    Prop :=
  (∀ copy ∈ loaded, copy ∈ store.cbsds) ∧
    match phase with
    | .idle => True
    | .checking req proposal remaining =>
        ∃ copy, loaded = some copy ∧ store.findCbsd req.cbsdId = some copy ∧
          (.dpa ∈ remaining ∨ locationBlocks ownChecks seen copy proposal .dpa = false)

theorem load_current (loaded : Option (Cbsd K)) (store : Store K) (cbsdId : String)
    (keys : (store.cbsds.map (·.id)).Nodup) (stored : ∀ copy ∈ loaded, copy ∈ store.cbsds) :
    loadCbsd loaded store cbsdId = store.findCbsd cbsdId := by
  rw [loadCbsd]
  cases found : store.findCbsd cbsdId with
  | none => rfl
  | some row =>
      cases loaded with
      | none => rfl
      | some copy =>
          simp only [Option.map_some]
          split
          · rename_i sameKey
            rw [List.inj_on_of_nodup_map keys (stored copy rfl) (List.mem_of_find?_eq_some found) sameKey]
          · rfl

theorem begin_checked (ownChecks : GrantChecks K) (cert : Option String) (seen : Store K) (req : GrantRequest K)
    (world : GrantWorld K) (keys : (world.store.cbsds.map (·.id)).Nodup) (idle : world.phase = .idle)
    (checked : SessionChecked ownChecks world.store seen world.loaded world.phase) :
    SessionChecked ownChecks (beginItem ownChecks cert req world).store seen (beginItem ownChecks cert req world).loaded
      (beginItem ownChecks cert req world).phase := by
  have current := load_current world.loaded world.store req.cbsdId keys checked.1
  rw [beginItem]
  split
  · exact checked
  · split
    · exact ⟨fun copy absent => (by cases absent), (by rw [idle]; trivial)⟩
    · rename_i copy loadedCopy
      rw [current] at loadedCopy
      have stored : ∀ c ∈ some copy, c ∈ world.store.cbsds := by
        intro c same
        cases same
        exact List.mem_of_find?_eq_some loadedCopy
      split
      · exact ⟨stored, (by rw [idle]; trivial)⟩
      · exact ⟨stored, copy, rfl, loadedCopy, Or.inl (by decide)⟩

theorem check_checked (ownChecks : GrantChecks K) (cert : Option String) (seen : Store K) (world : GrantWorld K)
    (checked : SessionChecked ownChecks world.store seen world.loaded world.phase) :
    SessionChecked ownChecks (sessionStep ownChecks cert world .check).store
      (if readsDpa world.phase .check then world.store else seen) (sessionStep ownChecks cert world .check).loaded
      (sessionStep ownChecks cert world .check).phase := by
  cases phase : world.phase with
  | idle =>
      simp only [sessionStep, phase]
      exact ⟨checked.1, trivial⟩
  | checking req proposal remaining =>
      obtain ⟨stored, rest⟩ := checked
      simp only [phase] at rest
      obtain ⟨copy, loadedCopy, found, progress⟩ := rest
      cases remaining with
      | nil =>
          simp only [sessionStep, phase]
          exact ⟨stored, copy, loadedCopy, found, progress⟩
      | cons check others =>
          simp only [sessionStep, phase, loadedCopy]
          split
          · exact ⟨fun c same => stored c (loadedCopy ▸ same), trivial⟩
          · rename_i notBlocked
            refine ⟨fun c same => stored c (loadedCopy ▸ same), copy, rfl, found, ?_⟩
            by_cases isDpa : check = .dpa
            · rw [isDpa] at notBlocked ⊢
              exact Or.inr (Bool.eq_false_of_not_eq_true notBlocked)
            · have unread : readsDpa (.checking req proposal (check :: others)) .check = false := by
                cases check <;> first | rfl | exact absurd rfl isDpa
              rw [unread]
              rcases progress with toCome | passed
              · exact Or.inl ((List.mem_cons.mp toCome).resolve_left fun here => isDpa here.symm)
              · exact Or.inr passed

-- The store of a step: unchanged, or one grant longer past the locked checks.
theorem world_store_cases (ownChecks : GrantChecks K) (cert : Option String) (world : GrantWorld K)
    (step : RequestStep K) :
    (sessionStep ownChecks cert world step.toSession).store = world.store ∨
      ∃ req proposal pending grantId readings cbsd, step = .create pending grantId readings ∧
        world.phase = .checking req proposal [] ∧ loadCbsd world.loaded world.store req.cbsdId = some cbsd ∧
        hasFreqConflict (world.store.activeGrants req.cbsdId) proposal.range.low proposal.range.high pending = false ∧
        (sessionStep ownChecks cert world step.toSession).store =
          world.store.addGrant (newGrant ownChecks req cbsd proposal grantId readings.read) := by
  cases phase : world.phase with
  | idle =>
      apply Or.inl
      cases step with
      | begin req =>
          simp only [RequestStep.toSession, sessionStep, phase, beginItem]
          split
          · rfl
          · split
            · rfl
            · split <;> rfl
      | check => simp only [RequestStep.toSession, sessionStep, phase]
      | create pending grantId readings => simp only [RequestStep.toSession, sessionStep, phase]
  | checking req proposal remaining =>
      cases step with
      | begin other => exact Or.inl (by simp only [RequestStep.toSession, sessionStep, phase])
      | check =>
          apply Or.inl
          cases remaining with
          | nil => simp only [RequestStep.toSession, sessionStep, phase]
          | cons check others =>
              simp only [RequestStep.toSession, sessionStep, phase]
              split
              · rfl
              · split <;> rfl
      | create pending grantId readings =>
          cases remaining with
          | cons check others => exact Or.inl (by simp only [RequestStep.toSession, sessionStep, phase])
          | nil =>
              rcases locked_create_cases ownChecks cert req (loadCbsd world.loaded world.store req.cbsdId) pending proposal
                  grantId readings.read world.store with refused | ⟨cbsd, loadedCopy, noConflict, added⟩
              · exact Or.inl (by simp only [RequestStep.toSession, sessionStep, phase, createIn, refused])
              · exact Or.inr ⟨req, proposal, pending, grantId, readings, cbsd, rfl, rfl, loadedCopy, noConflict,
                  (by simp only [RequestStep.toSession, sessionStep, phase, createIn, added])⟩

theorem world_cbsds (ownChecks : GrantChecks K) (cert : Option String) (world : GrantWorld K) (step : RequestStep K) :
    (sessionStep ownChecks cert world step.toSession).store.cbsds = world.store.cbsds := by
  rcases world_store_cases ownChecks cert world step with same | ⟨_, _, _, _, _, _, _, _, _, _, added⟩
  · rw [same]
  · rw [added]
    rfl

theorem step_checked (ownChecks : GrantChecks K) (cert : Option String) (seen : Store K) (world : GrantWorld K)
    (step : RequestStep K) (keys : (world.store.cbsds.map (·.id)).Nodup)
    (checked : SessionChecked ownChecks world.store seen world.loaded world.phase) :
    SessionChecked ownChecks (sessionStep ownChecks cert world step.toSession).store
      (if readsDpa world.phase step then world.store else seen) (sessionStep ownChecks cert world step.toSession).loaded
      (sessionStep ownChecks cert world step.toSession).phase := by
  cases step with
  | check => exact check_checked ownChecks cert seen world checked
  | begin req =>
      cases phase : world.phase with
      | idle =>
          have begun := begin_checked ownChecks cert seen req world keys phase checked
          simpa only [RequestStep.toSession, sessionStep, phase, readsDpa, Bool.false_eq_true, if_false] using begun
      | checking other proposal remaining =>
          rw [phase] at checked
          simpa only [RequestStep.toSession, sessionStep, phase, readsDpa, Bool.false_eq_true, if_false] using checked
  | create pending grantId readings =>
      cases phase : world.phase with
      | idle =>
          rw [phase] at checked
          simpa only [RequestStep.toSession, sessionStep, phase, readsDpa, Bool.false_eq_true, if_false] using checked
      | checking req proposal remaining =>
          cases remaining with
          | nil =>
              simp only [RequestStep.toSession, sessionStep, phase]
              exact ⟨fun copy absent => (by cases absent), trivial⟩
          | cons check others =>
              rw [phase] at checked
              simpa only [RequestStep.toSession, sessionStep, phase, readsDpa, Bool.false_eq_true, if_false] using checked

-- Another session's step changes no CBSD row.
theorem others_checked (ownChecks : GrantChecks K) (store after seen : Store K) (loaded : Option (Cbsd K))
    (phase : GrantPhase K) (cbsdsSame : after.cbsds = store.cbsds)
    (checked : SessionChecked ownChecks store seen loaded phase) : SessionChecked ownChecks after seen loaded phase := by
  have findSame : ∀ cbsdId, after.findCbsd cbsdId = store.findCbsd cbsdId := fun cbsdId => by
    rw [Store.findCbsd, Store.findCbsd, cbsdsSame]
  simp only [SessionChecked, cbsdsSame, findSame]
  exact checked

end Run

end SasCore.Dpa
