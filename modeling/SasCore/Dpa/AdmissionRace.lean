import SasCore.Dpa.Interleaving

set_option autoImplicit false
set_option linter.unusedSectionVars false

namespace SasCore.Dpa

open Registry

variable {K : Type} [Field K] [LinearOrder K]

section Race

variable (backends : DpaBackends K) (channels : List (ProtectedDpaChannel K)) (checks : Nat → GrantChecks K)
  (certificateHash : Nat → Option String)

-- A channel that will count the new grant let the request through to its aggregate, and still counts
-- the grants it counted then.
def ChannelFresh (store seen : Store K) (cbsd : Cbsd K) (stored : DpaGrantRf K) (channel : ProtectedDpaChannel K) : Prop :=
  rfInsideProtectedNeighborhood backends stored channel = some false ∨
    cbsdInsideProtectedNeighborhood backends cbsd channel ≠ some false ∧
      countedGrants backends store channel = countedGrants backends seen channel

instance (store seen : Store K) (cbsd : Cbsd K) (stored : DpaGrantRf K) (channel : ProtectedDpaChannel K) :
    Decidable (ChannelFresh backends store seen cbsd stored channel) := inferInstanceAs (Decidable (_ ∨ _ ∧ _))

def InsertFresh (ownChecks : GrantChecks K) (store seen : Store K) (loaded : Option (Cbsd K)) (phase : GrantPhase K)
    (step : RequestStep K) : Prop :=
  match step, phase with
  | .create _ grantId readings, .checking req proposal [] =>
      ∀ cbsd ∈ loaded, ∀ stored ∈ dpaGrantRfFromCbsdGrant cbsd
          (newGrant ownChecks req cbsd proposal grantId readings.read),
        ∀ channel ∈ channels, overlapsChannel proposal.range.low proposal.range.high channel = true →
          ChannelFresh backends store seen cbsd stored channel
  | _, _ => True

instance (ownChecks : GrantChecks K) (store seen : Store K) (loaded : Option (Cbsd K)) (phase : GrantPhase K)
    (step : RequestStep K) : Decidable (InsertFresh backends channels ownChecks store seen loaded phase step) :=
  match step, phase with
  | .create .., .checking _ _ [] =>
      inferInstanceAs (Decidable (∀ cbsd ∈ loaded, ∀ stored ∈ dpaGrantRfFromCbsdGrant cbsd _, ∀ channel ∈ channels, _ → _))
  | .create .., .checking _ _ (_ :: _) => .isTrue trivial
  | .create .., .idle => .isTrue trivial
  | .begin _, _ => .isTrue trivial
  | .check, _ => .isTrue trivial

def RunFresh : Sessions K → List (Nat × RequestStep K) → Prop
  | _, [] => True
  | sessions, step :: rest =>
      InsertFresh backends channels (dpaChecks backends channels checks step.1) sessions.store (sessions.seen step.1)
          (sessions.loaded step.1) (sessions.phase step.1) step.2 ∧
        RunFresh (requestStep backends channels checks certificateHash sessions step.1 step.2) rest

instance decidableRunFresh : (sessions : Sessions K) → (steps : List (Nat × RequestStep K)) →
    Decidable (RunFresh backends channels checks certificateHash sessions steps)
  | _, [] => .isTrue trivial
  | sessions, step :: rest =>
      match decidableRunFresh (requestStep backends channels checks certificateHash sessions step.1 step.2) rest with
      | .isTrue fresh => decidable_of_iff (InsertFresh backends channels (dpaChecks backends channels checks step.1)
          sessions.store (sessions.seen step.1) (sessions.loaded step.1) (sessions.phase step.1) step.2)
          ⟨fun here => ⟨here, fresh⟩, And.left⟩
      | .isFalse stale => .isFalse fun both => stale both.2

-- For a height given above ground and a category that both tests read, only the counted grants matter.
theorem channel_fresh_of_agl (store seen : Store K) (cbsd : Cbsd K) (grant : Grant K) (stored : DpaGrantRf K)
    (channel : ProtectedDpaChannel K) (isStored : dpaGrantRfFromCbsdGrant cbsd grant = some stored)
    (agl : ∀ place ∈ installedAt cbsd, PyText.stripUpper (heightTypeOf place.1) = ['A', 'G', 'L'])
    (named : (textOr cbsd.registration.cbsdCategory cbsd.cbsdCategory).getD "" ≠ "")
    (same : countedGrants backends store channel = countedGrants backends seen channel) :
    ChannelFresh backends store seen cbsd stored channel := by
  by_cases outside : rfInsideProtectedNeighborhood backends stored channel = some false
  · exact Or.inl outside
  · refine Or.inr ⟨?_, same⟩
    rw [neighborhood_tests_agree backends cbsd grant stored channel isStored agl named]
    exact outside

structure SessionsSound (sessions : Sessions K) : Prop where
  keys : (sessions.store.cbsds.map (·.id)).Nodup
  within : AllWithin backends channels sessions.store
  checked : ∀ who, SessionChecked (dpaChecks backends channels checks who) sessions.store (sessions.seen who)
    (sessions.loaded who) (sessions.phase who)

-- A passed DPA check, read back for one channel.
theorem passed_channel (ownChecks : GrantChecks K) (seen : Store K) (cbsd : Cbsd K) (proposal : Proposal K)
    (proposed : DpaGrantRf K)
    (isProposed : proposedRf cbsd proposal.range.low proposal.range.high proposal.maxEirp = some proposed)
    (passed : locationBlocks { ownChecks with dpa := proposedGrantViolatesDpa backends channels } seen cbsd proposal .dpa =
      false)
    (channel : ProtectedDpaChannel K) (member : channel ∈ channels)
    (overlaps : overlapsChannel proposal.range.low proposal.range.high channel = true) :
    channelViolated backends (collectActiveDpaGrants seen) cbsd proposed channel = false := by
  obtain ⟨⟨inst, lat, lon, height⟩, installed, _⟩ := Option.map_eq_some_iff.mp isProposed
  have located := installed_located cbsd inst lat lon height installed
  have concerned : channel ∈ channels.filter (overlapsChannel proposal.range.low proposal.range.high) :=
    List.mem_filter.mpr ⟨member, overlaps⟩
  have nonempty : (channels.filter (overlapsChannel proposal.range.low proposal.range.high)).isEmpty = false :=
    List.isEmpty_eq_false_iff.mpr (List.ne_nil_of_mem concerned)
  simp only [locationBlocks, located, Option.any_some, proposedGrantViolatesDpa, nonempty, isProposed,
    Bool.false_eq_true, if_false] at passed
  exact Bool.eq_false_of_not_eq_true (List.any_eq_false.mp passed channel concerned)

-- The row that the locked section adds, as the next evaluation will collect it.
theorem new_grant_rf (ownChecks : GrantChecks K) (store : Store K) (req : GrantRequest K) (cbsd : Cbsd K)
    (proposal : Proposal K) (grantId : String) (clock : Clock) (found : store.findCbsd req.cbsdId = some cbsd) :
    rowRf store (newGrant ownChecks req cbsd proposal grantId clock) =
      dpaGrantRfFromCbsdGrant cbsd (newGrant ownChecks req cbsd proposal grantId clock) := by
  have counts : countsForDpa (newGrant ownChecks req cbsd proposal grantId clock) = true := rfl
  have owner : store.findCbsd (newGrant ownChecks req cbsd proposal grantId clock).cbsdId = some cbsd := found
  rw [rowRf, if_pos counts, owner]
  rfl

-- The check drops the transmitters that share CBSD and spectrum with the proposal. Past the conflict
-- check there are none.
theorem nothing_dropped (store : Store K) (cbsdId : String) (low high : Int) (pending : List FrequencyRange)
    (noConflict : hasFreqConflict (store.activeGrants cbsdId) low high pending = false)
    (channel : ProtectedDpaChannel K) :
    ((countedGrants backends store channel).filter fun g => !(g.cbsdId == cbsdId && (g.lowHz < high && g.highHz > low))) =
      countedGrants backends store channel := by
  rw [List.filter_eq_self]
  intro rf member
  obtain ⟨row, rowMember, live, owner, lowEq, highEq⟩ :=
    collected_row store rf (counted_collected backends store channel rf member)
  cases sameCbsd : rf.cbsdId == cbsdId with
  | false => rfl
  | true =>
      have apart := no_conflict_apart store cbsdId low high pending noConflict row rowMember
        (owner.trans (eq_of_beq sameCbsd)) live
      rw [lowEq, highEq, overlapsHz] at apart
      rw [Bool.true_and]
      exact congrArg (!·) apart

-- The aggregate that the check accepted, as an aggregate over the store at the insert.
theorem checked_with_proposed (ownChecks : GrantChecks K) (store seen : Store K) (cbsd : Cbsd K) (proposal : Proposal K)
    (proposed : DpaGrantRf K) (pending : List FrequencyRange)
    (isProposed : proposedRf cbsd proposal.range.low proposal.range.high proposal.maxEirp = some proposed)
    (passed : locationBlocks { ownChecks with dpa := proposedGrantViolatesDpa backends channels } seen cbsd proposal .dpa =
      false)
    (noConflict : hasFreqConflict (store.activeGrants cbsd.cbsdId) proposal.range.low proposal.range.high pending = false)
    (channel : ProtectedDpaChannel K) (member : channel ∈ channels)
    (overlaps : overlapsChannel proposal.range.low proposal.range.high channel = true)
    (asked : cbsdInsideProtectedNeighborhood backends cbsd channel ≠ some false)
    (unchanged : countedGrants backends store channel = countedGrants backends seen channel) :
    (evaluateProtectedChannel backends channel (countedGrants backends store channel ++ [proposed])
      defaultDpaMarginDb).ok = true := by
  have violated := passed_channel backends channels ownChecks seen cbsd proposal proposed isProposed passed channel member
    overlaps
  have labels : proposed.cbsdId = cbsd.cbsdId ∧ proposed.lowHz = proposal.range.low ∧
      proposed.highHz = proposal.range.high := by
    obtain ⟨place, _, same⟩ := Option.map_eq_some_iff.mp isProposed
    rw [← same]
    exact ⟨rfl, rfl, rfl⟩
  have counted : (countedGrants backends store channel ++ [proposed]).filter
        (fun g => overlapsChannel g.lowHz g.highHz channel) =
      ((filterGrantsInNeighborhood backends channel (collectActiveDpaGrants seen)).filter (fun g =>
        !(g.cbsdId == proposed.cbsdId && (g.lowHz < proposed.highHz && g.highHz > proposed.lowHz))) ++
          [proposed]).filter fun g => overlapsChannel g.lowHz g.highHz channel := by
    rw [labels.1, labels.2.1, labels.2.2, List.filter_append, List.filter_append, List.filter_comm, ← countedGrants,
      ← unchanged, nothing_dropped backends store cbsd.cbsdId _ _ pending noConflict channel]
    congr 1
    rw [countedGrants, List.filter_filter]
    simp only [Bool.and_self]
  rw [evaluate_overlapping backends channel _ _ _ counted]
  rw [channelViolated] at violated
  cases inside : cbsdInsideProtectedNeighborhood backends cbsd channel with
  | none => simp only [inside, Bool.true_eq_false] at violated
  | some answer =>
      cases answer with
      | false => exact absurd inside asked
      | true =>
          simp only [inside, Bool.not_eq_false'] at violated
          exact violated

theorem insert_within (byPlace : PathLossByPlace backends) (ownChecks : GrantChecks K) (store seen : Store K)
    (req : GrantRequest K) (cbsd : Cbsd K) (proposal : Proposal K) (pending : List FrequencyRange) (grantId : String)
    (clock : Clock) (found : store.findCbsd req.cbsdId = some cbsd)
    (passed : locationBlocks { ownChecks with dpa := proposedGrantViolatesDpa backends channels } seen cbsd proposal .dpa =
      false)
    (noConflict : hasFreqConflict (store.activeGrants req.cbsdId) proposal.range.low proposal.range.high pending = false)
    (fresh : ∀ stored ∈ dpaGrantRfFromCbsdGrant cbsd (newGrant ownChecks req cbsd proposal grantId clock),
      ∀ channel ∈ channels, overlapsChannel proposal.range.low proposal.range.high channel = true →
        ChannelFresh backends store seen cbsd stored channel)
    (channel : ProtectedDpaChannel K) (member : channel ∈ channels) (within : channelWithin backends store channel = true) :
    channelWithin backends (store.addGrant (newGrant ownChecks req cbsd proposal grantId clock)) channel = true := by
  rw [channel_within_counted] at within
  rw [channel_within_counted, counted_add_grant, new_grant_rf ownChecks store req cbsd proposal grantId clock found]
  cases isStored : dpaGrantRfFromCbsdGrant cbsd (newGrant ownChecks req cbsd proposal grantId clock) with
  | none => simpa only [Option.toList_none, List.filter_nil, List.append_nil] using within
  | some stored =>
      obtain ⟨proposed, isProposed, relabelled⟩ := stored_rf_relabels cbsd _ stored isStored
      have range : proposed.lowHz = proposal.range.low ∧ proposed.highHz = proposal.range.high := by
        obtain ⟨place, _, same⟩ := Option.map_eq_some_iff.mp isProposed
        rw [← same]
        exact ⟨rfl, rfl⟩
      have storedRange : proposed.lowHz = stored.lowHz ∧ proposed.highHz = stored.highHz := by
        rw [relabelled]
        exact ⟨rfl, rfl⟩
      rw [Option.toList_some]
      by_cases outside : rfInsideProtectedNeighborhood backends stored channel = some false
      · simpa [outside] using within
      · by_cases overlaps : overlapsChannel stored.lowHz stored.highHz channel = true
        · have proposalOverlaps : overlapsChannel proposal.range.low proposal.range.high channel = true := by
            rw [← range.1, ← range.2, storedRange.1, storedRange.2]
            exact overlaps
          have fits := (fresh stored isStored channel member proposalOverlaps).resolve_left outside
          have named := find_cbsd_named store req.cbsdId cbsd found
          rw [← named] at noConflict
          have admitted := checked_with_proposed backends channels ownChecks store seen cbsd proposal proposed pending
            isProposed passed noConflict channel member proposalOverlaps fits.1 fits.2
          have samePower := relabel_power backends byPlace channel proposed stored.grantId stored.cbsdCategory
          rw [← relabelled] at samePower
          have appended : (([stored].filter fun rf => rfInsideProtectedNeighborhood backends rf channel != some false).filter
              fun rf => overlapsChannel rf.lowHz rf.highHz channel) = [stored] := by
            simp [outside, overlaps]
          rw [appended, evaluate_relabel backends channel _ proposed stored _ ⟨storedRange.1.symm, storedRange.2.symm⟩
            samePower]
          exact admitted
        · simpa [outside, overlaps] using within

theorem request_step_sound (byPlace : PathLossByPlace backends) (sessions : Sessions K) (who : Nat) (step : RequestStep K)
    (sound : SessionsSound backends channels checks sessions)
    (fresh : InsertFresh backends channels (dpaChecks backends channels checks who) sessions.store (sessions.seen who)
      (sessions.loaded who) (sessions.phase who) step) :
    SessionsSound backends channels checks (requestStep backends channels checks certificateHash sessions who step) := by
  have cbsdsSame := world_cbsds (dpaChecks backends channels checks who) (certificateHash who)
    (sessionWorld sessions who) step
  refine ⟨?_, ?_, ?_⟩
  · simp only [requestStep, worldAfter, cbsdsSame]
    exact sound.keys
  · rcases world_store_cases (dpaChecks backends channels checks who) (certificateHash who) (sessionWorld sessions who) step
      with same | ⟨req, proposal, pending, grantId, readings, cbsd, isCreate, phase, loadedCopy, noConflict, added⟩
    · simp only [requestStep, worldAfter, same]
      exact sound.within
    · intro channel member
      simp only [requestStep, worldAfter, added]
      have phaseEq : sessions.phase who = .checking req proposal [] := phase
      have own := sound.checked who
      rw [phaseEq] at own
      obtain ⟨stored, copy, loadedEq, found, progress⟩ := own
      have current := load_current (sessions.loaded who) sessions.store req.cbsdId sound.keys stored
      have isCopy : cbsd = copy := by
        have both : some cbsd = some copy := loadedCopy.symm.trans (current.trans found)
        exact Option.some.inj both
      have passed := progress.resolve_left (fun none => by cases none)
      simp only [isCreate, InsertFresh, phaseEq] at fresh
      rw [isCopy]
      exact insert_within backends channels byPlace (dpaChecks backends channels checks who) sessions.store
        (sessions.seen who) req copy proposal pending grantId readings.read found passed noConflict
        (fresh copy loadedEq) channel member (sound.within channel member)
  · intro other
    by_cases own : other = who
    · rw [own]
      have checked := step_checked (dpaChecks backends channels checks who) (certificateHash who) (sessions.seen who)
        (sessionWorld sessions who) step sound.keys (sound.checked who)
      simp only [requestStep, Function.update_self]
      have seenEq : (if readsDpa (sessions.phase who) step then Function.update sessions.seen who sessions.store
          else sessions.seen) who = if readsDpa (sessions.phase who) step then sessions.store else sessions.seen who := by
        split
        · exact Function.update_self _ _ _
        · rfl
      rw [seenEq]
      exact checked
    · simp only [requestStep, Function.update_of_ne own]
      have seenEq : (if readsDpa (sessions.phase who) step then Function.update sessions.seen who sessions.store
          else sessions.seen) other = sessions.seen other := by
        split
        · exact Function.update_of_ne own _ _
        · rfl
      rw [seenEq]
      exact others_checked _ _ _ _ _ _ cbsdsSame (sound.checked other)

theorem request_run_sound (byPlace : PathLossByPlace backends) (steps : List (Nat × RequestStep K))
    (sessions : Sessions K) (sound : SessionsSound backends channels checks sessions)
    (fresh : RunFresh backends channels checks certificateHash sessions steps) :
    SessionsSound backends channels checks (requestRun backends channels checks certificateHash steps sessions) := by
  induction steps generalizing sessions with
  | nil => exact sound
  | cons step rest ih =>
      exact ih _ (request_step_sound backends channels checks certificateHash byPlace sessions step.1 step.2 sound fresh.1)
        fresh.2

theorem dpa_kept_when_fresh (byPlace : PathLossByPlace backends) (store : Store K)
    (keys : (store.cbsds.map (·.id)).Nodup) (steps : List (Nat × RequestStep K))
    (within : AllWithin backends channels store)
    (fresh : RunFresh backends channels checks certificateHash (Sessions.start store) steps) :
    AllWithin backends channels (requestRun backends channels checks certificateHash steps (Sessions.start store)).store :=
  (request_run_sound backends channels checks certificateHash byPlace steps (Sessions.start store)
    ⟨keys, within, fun _ => ⟨fun _ absent => (by cases absent), trivial⟩⟩ fresh).within

end Race

-- Requests of different sessions are for different CBSDs.
def begunBy (steps : List (Nat × RequestStep K)) : List (Nat × String) :=
  steps.filterMap fun step =>
    match step.2 with
    | .begin req => some (step.1, req.cbsdId)
    | _ => none

def DifferentCbsds (steps : List (Nat × RequestStep K)) : Prop :=
  ∀ a ∈ begunBy steps, ∀ b ∈ begunBy steps, a.1 ≠ b.1 → a.2 ≠ b.2

-- math.log10 of 10, of the double 2.0, and of 1. The other arguments do not occur.
def sampleLog10 (x : Rat) : Rat := if x = 10 then 1 else if x = 2 then 5422874305198591 / 18014398509481984 else 0

-- Every transmitter stands in the channel's neighbourhood and arrives with EIRP - 20 dBm.
def sampleBackends : DpaBackends Rat where
  log10 := sampleLog10
  pow10 := fun x => if x = 0 then 1 else 0
  withinBuffer := fun _ _ _ _ => true
  elevation := fun _ _ => none
  pathLoss := fun _ _ _ _ => some 20

def sampleChannel : ProtectedDpaChannel Rat where
  dpaId := "dpa"
  lowHz := 3550000000
  highHz := 3560000000
  reason := .active
  geometry := some (.point [0, 0])
  neighborhoodKm := [("catA_Outdoor_6m_NeighborhoodDistanceKm", 1)]
  thresholdDbmPer10mhz := 0
  refHeightM := 50

def twoCbsds : Store Rat :=
  (registrationItem (.ok (registeredAt 0)) none (fun _ => 0) ⟨"fcc", "a", "user"⟩
    (registrationItem (.ok (registeredAt 0)) none (fun _ => 0) ⟨"fcc", "b", "user"⟩ Store.empty).1).1

def requestOf (cbsdId : String) : GrantRequest Rat := { sampleRequest with cbsdId := cbsdId }

def checkRequest (who : Nat) (cbsdId : String) : List (Nat × RequestStep Rat) :=
  (who, .begin (requestOf cbsdId)) :: List.replicate 6 (who, .check)

def insertRequest (who : Nat) (grantId : String) : Nat × RequestStep Rat := (who, .create [] grantId (readingsAt 9))

-- Both requests are checked against an empty channel, then both are inserted.
def racingSteps : List (Nat × RequestStep Rat) :=
  checkRequest 0 "fcc/a" ++ checkRequest 1 "fcc/b" ++ [insertRequest 0 "grant/a", insertRequest 1 "grant/b"]

theorem racing_requests_exceed :
    ¬ ∀ (store : Store Rat) (steps : List (Nat × RequestStep Rat)), DifferentCbsds steps →
      AllWithin sampleBackends [sampleChannel] store →
      AllWithin sampleBackends [sampleChannel] (requestRun sampleBackends [sampleChannel] (fun _ => openGrantChecks)
        (fun _ => none) steps (Sessions.start store)).store := by
  intro claim
  have different : DifferentCbsds racingSteps := by
    unfold DifferentCbsds
    decide +kernel
  have after := claim twoCbsds racingSteps different (by decide +kernel)
  exact absurd after (by decide +kernel)

def serialSteps : List (Nat × RequestStep Rat) :=
  checkRequest 0 "fcc/a" ++ [insertRequest 0 "grant/a"] ++ checkRequest 1 "fcc/b" ++ [insertRequest 1 "grant/b"]

theorem dpa_kept_when_fresh_serial :
    AllWithin sampleBackends [sampleChannel] (requestRun sampleBackends [sampleChannel] (fun _ => openGrantChecks)
      (fun _ => none) serialSteps (Sessions.start twoCbsds)).store :=
  dpa_kept_when_fresh sampleBackends [sampleChannel] (fun _ => openGrantChecks) (fun _ => none)
    (fun _ _ _ => rfl) twoCbsds (by decide +kernel) serialSteps (by decide +kernel) (by decide +kernel)

end SasCore.Dpa
