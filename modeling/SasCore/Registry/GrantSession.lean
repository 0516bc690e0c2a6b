import SasCore.Registry.LifecycleSafety

set_option autoImplicit false
set_option linter.unusedSectionVars false

namespace SasCore.Registry

variable {K : Type} [Field K] [LinearOrder K]

inductive GrantPhase (K : Type) where
  | idle
  | checking (req : GrantRequest K) (proposal : Proposal K) (remaining : List LocationCheck)
deriving DecidableEq, Repr

-- One session working through process_grant items, and the store it shares with the others.
-- `loaded` is the CBSD object its identity map holds.
structure GrantWorld (K : Type) where
  store : Store K
  loaded : Option (Cbsd K)
  phase : GrantPhase K

inductive SessionStep (K : Type) where
  | begin (req : GrantRequest K)
  | check
  | create (pending : List FrequencyRange) (grantId : String) (readings : Readings)
  | reregister (validated : Except Nat (Registration K)) (certificateHash : Option String) (req : RegistrationRequest)
      (readings : Readings)

-- A query that finds a row whose object is loaded returns the object as it was loaded.
def loadCbsd (loaded : Option (Cbsd K)) (store : Store K) (cbsdId : String) : Option (Cbsd K) :=
  (store.findCbsd cbsdId).map fun row =>
    match loaded with
    | some copy => if copy.id = row.id then copy else row
    | none => row

section Session

variable (checks : GrantChecks K) (certificateHash : Option String)

def beginItem (req : GrantRequest K) (world : GrantWorld K) : GrantWorld K :=
  if req.cbsdId = "" then world
  else
    match loadCbsd world.loaded world.store req.cbsdId with
    | none => { world with loaded := none }
    | some copy =>
        match screenRequest checks certificateHash req copy with
        | .error _ => { world with loaded := some copy }
        | .ok proposal => { world with loaded := some copy, phase := .checking req proposal locationChecks }

def createIn (req : GrantRequest K) (proposal : Proposal K) (pending : List FrequencyRange) (grantId : String)
    (readings : Readings) (world : GrantWorld K) : Store K :=
  (lockedCreate checks certificateHash req (loadCbsd world.loaded world.store req.cbsdId) pending proposal grantId
    readings.read world.store).1

-- A refused item leaves the object loaded; the commit of the locked section expires it.
def sessionStep (world : GrantWorld K) (step : SessionStep K) : GrantWorld K :=
  match step, world.phase with
  | .begin req, .idle => beginItem checks certificateHash req world
  | .check, .checking req proposal (check :: rest) =>
      match world.loaded with
      | none => { world with phase := .idle }
      | some copy =>
          if locationBlocks checks world.store copy proposal check then { world with phase := .idle }
          else { world with phase := .checking req proposal rest }
  | .create pending grantId readings, .checking req proposal [] =>
      { store := createIn checks certificateHash req proposal pending grantId readings world
        loaded := none
        phase := .idle }
  | .reregister validated cert req readings, _ =>
      { world with store := (registrationItem validated cert readings.read req world.store).1 }
  | _, _ => world

def sessionRun (steps : List (SessionStep K)) (world : GrantWorld K) : GrantWorld K :=
  steps.foldl (sessionStep checks certificateHash) world

def StoredRowPasses (store : Store K) (cbsdId : String) (proposal : Proposal K) : Prop :=
  ∃ row, store.findCbsd cbsdId = some row ∧ locationAllows checks store row proposal = true

instance (store : Store K) (cbsdId : String) (proposal : Proposal K) :
    Decidable (StoredRowPasses checks store cbsdId proposal) :=
  decidable_of_iff ((store.findCbsd cbsdId).any (locationAllows checks store · proposal) = true)
    (Option.any_eq_true _ _)

-- If the session inserts a grant now, the location checks pass for the registration stored now.
def InsertChecked (world : GrantWorld K) : Prop :=
  ∀ req proposal, world.phase = .checking req proposal [] → ∀ pending grantId readings,
    (createIn checks certificateHash req proposal pending grantId readings world).grants ≠ world.store.grants →
      StoredRowPasses checks world.store req.cbsdId proposal

-- A re-registration that commits between the load and the insert stores a registration that passes
-- for the requested range, and so does one an item finds behind an object loaded before it.
def StepHarmless (world : GrantWorld K) (step : SessionStep K) : Prop :=
  match step, world.phase with
  | .reregister validated cert req readings, .checking request proposal _ =>
      (registrationItem validated cert readings.read req world.store).1 = world.store ∨
        StoredRowPasses checks (registrationItem validated cert readings.read req world.store).1 request.cbsdId proposal
  | .begin req, .idle =>
      loadCbsd world.loaded world.store req.cbsdId = world.store.findCbsd req.cbsdId ∨
        ∀ copy ∈ loadCbsd world.loaded world.store req.cbsdId,
          ∀ proposal ∈ (screenRequest checks certificateHash req copy).toOption,
          StoredRowPasses checks world.store req.cbsdId proposal
  | _, _ => True

instance (world : GrantWorld K) (step : SessionStep K) : Decidable (StepHarmless checks certificateHash world step) :=
  match step, world with
  | .begin _, ⟨_, _, .idle⟩ => inferInstanceAs (Decidable (_ ∨ _))
  | .begin _, ⟨_, _, .checking ..⟩ => .isTrue trivial
  | .check, ⟨_, _, _⟩ => .isTrue trivial
  | .create .., ⟨_, _, _⟩ => .isTrue trivial
  | .reregister .., ⟨_, _, .idle⟩ => .isTrue trivial
  | .reregister .., ⟨_, _, .checking ..⟩ => inferInstanceAs (Decidable (_ ∨ _))

def RunHarmless : GrantWorld K → List (SessionStep K) → Prop
  | _, [] => True
  | world, step :: rest =>
      StepHarmless checks certificateHash world step ∧ RunHarmless (sessionStep checks certificateHash world step) rest

instance decidableRunHarmless : (world : GrantWorld K) → (steps : List (SessionStep K)) →
    Decidable (RunHarmless checks certificateHash world steps)
  | _, [] => .isTrue trivial
  | world, step :: rest =>
      match decidableRunHarmless (sessionStep checks certificateHash world step) rest with
      | .isTrue harmless => decidable_of_iff (StepHarmless checks certificateHash world step)
          ⟨fun here => ⟨here, harmless⟩, And.left⟩
      | .isFalse harmful => .isFalse fun both => harmful both.2

-- Either the object is current and the checks done so far passed for it, or the stored row passes them all.
def SessionSound (world : GrantWorld K) : Prop :=
  match world.phase with
  | .idle => True
  | .checking req proposal remaining =>
      (world.loaded = world.store.findCbsd req.cbsdId ∧ ∃ row done, world.store.findCbsd req.cbsdId = some row ∧
        locationChecks = done ++ remaining ∧ ∀ c ∈ done, locationBlocks checks world.store row proposal c = false) ∨
      StoredRowPasses checks world.store req.cbsdId proposal

theorem begin_sound (req : GrantRequest K) (world : GrantWorld K) (idle : world.phase = .idle)
    (harmless : StepHarmless checks certificateHash world (.begin req)) :
    SessionSound checks (beginItem checks certificateHash req world) := by
  simp only [StepHarmless, idle] at harmless
  unfold beginItem
  split
  · simp only [SessionSound, idle]
  · split
    · simp only [SessionSound, idle]
    · rename_i copy found
      split
      · simp only [SessionSound, idle]
      · rename_i proposal screened
        simp only [SessionSound]
        rcases harmless with current | passes
        · rw [current] at found
          exact Or.inl ⟨found.symm, copy, [], found, rfl, fun c none => by cases none⟩
        · exact Or.inr (passes copy found proposal (by rw [screened]; rfl))

theorem check_sound (req : GrantRequest K) (proposal : Proposal K) (check : LocationCheck) (rest : List LocationCheck)
    (world : GrantWorld K) (phase : world.phase = .checking req proposal (check :: rest))
    (sound : SessionSound checks world) :
    SessionSound checks (sessionStep checks certificateHash world .check) := by
  simp only [SessionSound, phase] at sound
  simp only [sessionStep, phase]
  split
  · simp only [SessionSound]
  · rename_i copy loadedEq
    split
    · simp only [SessionSound]
    · rename_i notBlocked
      simp only [SessionSound]
      rcases sound with ⟨current, row, done, found, split, passed⟩ | passes
      · have same : copy = row := by
          rw [loadedEq, found] at current
          exact Option.some.inj current
        refine Or.inl ⟨current, row, done ++ [check], found, by rw [split, List.append_assoc]; rfl, ?_⟩
        intro c member
        rcases List.mem_append.mp member with before | here
        · exact passed c before
        · rw [List.mem_singleton.mp here, ← same]
          exact Bool.eq_false_of_not_eq_true notBlocked
      · exact Or.inr passes

theorem session_step_sound (world : GrantWorld K) (step : SessionStep K) (sound : SessionSound checks world)
    (harmless : StepHarmless checks certificateHash world step) :
    SessionSound checks (sessionStep checks certificateHash world step) := by
  cases phase : world.phase with
  | idle =>
      cases step with
      | begin req =>
          simp only [sessionStep, phase]
          exact begin_sound checks certificateHash req world phase harmless
      | check => simp only [sessionStep, phase, SessionSound]
      | create pending grantId readings => simp only [sessionStep, phase, SessionSound]
      | reregister validated cert req readings => simp only [sessionStep, phase, SessionSound]
  | checking request proposal remaining =>
      cases step with
      | begin req =>
          simp only [sessionStep, phase]
          exact sound
      | check =>
          cases remaining with
          | nil =>
              simp only [sessionStep, phase]
              exact sound
          | cons check rest => exact check_sound checks certificateHash request proposal check rest world phase sound
      | create pending grantId readings =>
          cases remaining with
          | nil => simp only [sessionStep, phase, SessionSound]
          | cons check rest =>
              simp only [sessionStep, phase]
              exact sound
      | reregister validated cert req readings =>
          simp only [StepHarmless, phase] at harmless
          simp only [SessionSound, phase] at sound
          simp only [sessionStep, SessionSound, phase]
          rcases harmless with refused | passes
          · rw [refused]
            exact sound
          · exact Or.inr passes

theorem session_run_sound (steps : List (SessionStep K)) (world : GrantWorld K) (sound : SessionSound checks world)
    (harmless : RunHarmless checks certificateHash world steps) :
    SessionSound checks (sessionRun checks certificateHash steps world) := by
  induction steps generalizing world with
  | nil => exact sound
  | cons step rest ih =>
      exact ih (sessionStep checks certificateHash world step)
        (session_step_sound checks certificateHash world step sound harmless.1) harmless.2

theorem insert_checked_of_sound (world : GrantWorld K) (sound : SessionSound checks world) :
    InsertChecked checks certificateHash world := by
  intro req proposal phase pending grantId readings _
  simp only [SessionSound, phase] at sound
  rcases sound with ⟨_, row, done, found, split, passed⟩ | passes
  · refine ⟨row, found, ?_⟩
    rw [List.append_nil] at split
    rw [locationAllows, List.all_eq_true, split]
    intro c member
    rw [passed c member]
    rfl
  · exact passes

theorem inserts_checked_when_harmless (store : Store K) (steps : List (SessionStep K))
    (harmless : RunHarmless checks certificateHash ⟨store, none, .idle⟩ steps) :
    InsertChecked checks certificateHash (sessionRun checks certificateHash steps ⟨store, none, .idle⟩) :=
  insert_checked_of_sound checks certificateHash _
    (session_run_sound checks certificateHash steps _ trivial harmless)

end Session

-- An exclusion zone covers the latitudes from 1 up. The CBSD is registered at latitude 0, passes the
-- checks there, and has moved when the grant is inserted.
def zoneChecks : GrantChecks Rat :=
  { openGrantChecks with exclusionZone := fun lat _ _ _ => .ok (decide (1 ≤ lat)) }

def registeredAt (lat : Rat) : Registration Rat :=
  ⟨some "A", some ⟨some lat, some 0, some 3, none, none, none, none, none, none, none⟩, []⟩

def storeAt (lat : Rat) : Store Rat :=
  (registrationItem (.ok (registeredAt lat)) none (fun _ => 0) ⟨"fcc", "sn", "user"⟩ Store.empty).1

def moveTo (lat : Rat) : SessionStep Rat := .reregister (.ok (registeredAt lat)) none ⟨"fcc", "sn", "user"⟩ (readingsAt 5)

def movedRun (lat : Rat) : List (SessionStep Rat) := .begin sampleRequest :: List.replicate 6 .check ++ [moveTo lat]

def movedWorld (lat : Rat) : GrantWorld Rat := sessionRun zoneChecks none (movedRun lat) ⟨storeAt 0, none, .idle⟩

def sampleProposal : Proposal Rat := ⟨⟨3550000000, 3560000000, by decide⟩, 10, ⟨.gaa, none, none⟩⟩

theorem moved_insert_unchecked :
    ¬ ∀ (store : Store Rat) (steps : List (SessionStep Rat)),
      InsertChecked zoneChecks none (sessionRun zoneChecks none steps ⟨store, none, .idle⟩) := by
  intro claim
  have phase : (movedWorld 1).phase = .checking sampleRequest sampleProposal [] := by decide +kernel
  have inserts : (createIn zoneChecks none sampleRequest sampleProposal [] "grant/1" (readingsAt 9)
      (movedWorld 1)).grants ≠ (movedWorld 1).store.grants := by decide +kernel
  obtain ⟨row, found, passes⟩ :=
    claim (storeAt 0) (movedRun 1) sampleRequest sampleProposal phase [] "grant/1" (readingsAt 9) inserts
  have refused : ∀ r ∈ (movedWorld 1).store.findCbsd sampleRequest.cbsdId,
      locationAllows zoneChecks (movedWorld 1).store r sampleProposal = false := by decide +kernel
  exact Bool.false_ne_true ((refused row found).symm.trans passes)

theorem inserts_checked_when_harmless_sample :
    InsertChecked zoneChecks none (sessionRun zoneChecks none (movedRun 0) ⟨storeAt 0, none, .idle⟩) :=
  inserts_checked_when_harmless zoneChecks none (storeAt 0) (movedRun 0) (by decide +kernel)

end SasCore.Registry
