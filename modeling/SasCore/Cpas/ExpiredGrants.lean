import SasCore.Cpas.GrantAdmission
import SasCore.Fad.Records
import SasCore.Lib.Outcomes
import SasCore.Registry.LifecycleSafety

set_option autoImplicit false
set_option linter.unusedSectionVars false

-- A database with and without its expired grants.
namespace SasCore.Cpas

open Registry

variable {K : Type} [Field K] [LinearOrder K]

-- A database with the texts of the JSON columns that a dump reads. The primary keys of grants are distinct.
structure ActivityState (K : Type) where
  db : Database K
  cbsdJson : Nat → String
  grantJson : Nat → String
  distinct : (db.store.grants.map (·.id)).Nodup

namespace ActivityState

def fadTables (state : ActivityState K) : Fad.FadTables K where
  cbsds := state.db.store.cbsds.map fun cbsd => (cbsd, state.cbsdJson cbsd.id)
  grants := state.db.store.grants.map fun grant => (grant, state.grantJson grant.id)
  zones := []
  escSensors := []

end ActivityState

section Reduced

variable (now : Int)

def expired (grant : Grant K) : Bool := grant.grantExpireTime ≤ now

def reducedStore (store : Store K) : Store K := { store with grants := store.grants.filter fun grant => !expired now grant }

theorem reduced_distinct (store : Store K) (distinct : (store.grants.map (·.id)).Nodup) :
    ((reducedStore now store).grants.map (·.id)).Nodup := (List.filter_sublist.map _).nodup distinct

def ActivityState.reduced (state : ActivityState K) : ActivityState K where
  db := { state.db with store := reducedStore now state.db.store }
  cbsdJson := state.cbsdJson
  grantJson := state.grantJson
  distinct := reduced_distinct now state.db.store state.distinct

end Reduced

-- The grants that a full activity dump exports.
def dumpedGrants (tables : Fad.FadTables K) : List (Grant K × String) :=
  (tables.cbsds.filter fun row => row.1.lifecycleState = some .registered).flatMap fun row => Fad.exportedGrants tables row.1

section Dump

variable (settings : Fad.FadSettings K) (tables : Fad.FadTables K)

theorem record_grants (row : Cbsd K × String) (record : Json K) (built : Fad.buildCbsdRecord settings tables row = .ok record) :
    (Fad.exportedGrants tables row.1).mapM (Fad.buildGrantRecord settings) = .ok (record.field "grants").items := by
  rw [Fad.buildCbsdRecord] at built
  split at built
  · cases built
  · obtain ⟨grants, all, same⟩ := Collect.map_ok _ _ record built
    rw [all, ← same]
    rfl

-- The grants of the records of a dump are the records of the exported grants.
theorem dumped_records (records : List (Json K)) (built : Fad.buildCbsdRecords settings tables = .ok records) :
    (dumpedGrants tables).mapM (Fad.buildGrantRecord settings) = .ok (records.flatMap fun record => (record.field "grants").items) := by
  have each : ∀ (rows : List (Cbsd K × String)) (records : List (Json K)),
      rows.mapM (Fad.buildCbsdRecord settings tables) = .ok records →
      (rows.flatMap fun row => Fad.exportedGrants tables row.1).mapM (Fad.buildGrantRecord settings) =
        .ok (records.flatMap fun record => (record.field "grants").items) := by
    intro rows
    induction rows with
    | nil =>
        intro records all
        cases all
        rfl
    | cons row rest ih =>
        intro records all
        have listed := Collect.all_ok _ _ records all
        cases records with
        | nil => cases listed
        | cons record others =>
            rw [List.map_cons, List.map_cons, List.cons.injEq] at listed
            have later : rest.mapM (Fad.buildCbsdRecord settings tables) = .ok others := by
              rw [← Outcomes.turn_map]
              exact (Outcomes.turn_ok_iff _ _).mpr listed.2
            rw [List.flatMap_cons, List.mapM_append, record_grants settings tables row record listed.1, ih others later]
            rfl
  exact each _ records built

end Dump

section Inert

variable (env : GrantAdmissionEnv K) (now : Int) (state : ActivityState K)

-- The same responses, and the same grants created.
def GrantedAlike : Prop :=
  ∀ certificateHash (items : List (GrantItem K)),
    let full := processGrant certificateHash (items.map (admissionItem env state.db)) state.db.store
    let reduced := processGrant certificateHash (items.map (admissionItem env state.db)) (state.reduced now).db.store
    full.1 = reduced.1 ∧ ∃ created, full.2.grants = state.db.store.grants ++ created ∧
      reduced.2.grants = (state.reduced now).db.store.grants ++ created

def FrozenAlike : Prop :=
  ∀ frozen, frozen ∈ (freezeCpasSnapshot now state.db).localGrants ↔ frozen ∈ (freezeCpasSnapshot now (state.reduced now).db).localGrants

def DumpedAlike : Prop := ∀ row, row ∈ dumpedGrants state.fadTables ↔ row ∈ dumpedGrants (state.reduced now).fadTables

-- Expired grants make no difference.
structure ExpiredInert : Prop where
  granted : GrantedAlike env now state
  frozen : FrozenAlike now state
  dumped : DumpedAlike now state

-- A grant that is terminated, or that no CBSD of its id and no registered CBSD of its key stands for.
def Unseen (store : Store K) (grant : Grant K) : Prop :=
  grant.terminated = true ∨ store.findCbsd grant.cbsdId = none ∧
    ∀ cbsd ∈ store.cbsds, cbsd.lifecycleState = some .registered → cbsd.id ≠ grant.cbsdPk

end Inert

section Selection

variable (now : Int) (store : Store K) (unseen : ∀ grant ∈ store.grants, expired now grant = true → Unseen store grant)

include unseen

-- What never takes up an unseen grant selects the same with and without the expired ones.
theorem reduced_filter (selected : Grant K → Bool)
    (skips : ∀ grant, Unseen store grant → selected grant = false) :
    (reducedStore now store).grants.filter selected = store.grants.filter selected := by
  rw [reducedStore, List.filter_filter]
  refine List.filter_congr fun grant member => ?_
  cases isExpired : expired now grant with
  | false => rw [Bool.not_false, Bool.and_true]
  | true => rw [skips grant (unseen grant member isExpired), Bool.false_and]

theorem reduced_collected {β : Type} (selected : Grant K → Option β) (skips : ∀ grant, Unseen store grant → selected grant = none) :
    (reducedStore now store).grants.filterMap selected = store.grants.filterMap selected := by
  have kept : ∀ grants : List (Grant K),
      grants.filterMap selected = (grants.filter fun grant => (selected grant).isSome).filterMap selected := by
    intro grants
    rw [List.filterMap_filter]
    refine List.filterMap_congr fun grant _ => ?_
    cases found : selected grant <;> simp
  rw [kept, reduced_filter now store unseen (fun grant => (selected grant).isSome)
    (fun grant isUnseen => by rw [skips grant isUnseen]; rfl), ← kept]

end Selection

-- Two stores that a batch has reached from a store with and without its expired grants.
structure Trimmed (now : Int) (store full reduced : Store K) (created : List (Grant K)) : Prop where
  fullGrants : full.grants = store.grants ++ created
  reducedGrants : reduced.grants = (reducedStore now store).grants ++ created
  fullCbsds : full.cbsds = store.cbsds
  reducedCbsds : reduced.cbsds = store.cbsds
  keys : reduced.nextGrantPk = full.nextGrantPk

section Batch

variable (env : GrantAdmissionEnv K) (now : Int) (store full reduced : Store K) (created : List (Grant K))

theorem trimmed_start : Trimmed now store store (reducedStore now store) [] :=
  ⟨(List.append_nil _).symm, (List.append_nil _).symm, rfl, rfl, rfl⟩

variable (unseen : ∀ grant ∈ store.grants, expired now grant = true → Unseen store grant)
  (trimmed : Trimmed now store full reduced created)

include trimmed

theorem trimmed_find (cbsdId : String) : reduced.findCbsd cbsdId = full.findCbsd cbsdId := by
  rw [Store.findCbsd, Store.findCbsd, trimmed.fullCbsds, trimmed.reducedCbsds]

theorem full_find (cbsdId : String) : full.findCbsd cbsdId = store.findCbsd cbsdId := by
  rw [Store.findCbsd, Store.findCbsd, trimmed.fullCbsds]

theorem trimmed_add (row : Grant K) :
    Trimmed now store (full.addGrant row) (reduced.addGrant row) (created ++ [{ row with id := full.nextGrantPk }]) where
  fullGrants := by rw [Store.addGrant, trimmed.fullGrants, List.append_assoc]
  reducedGrants := by rw [Store.addGrant, trimmed.reducedGrants, trimmed.keys, List.append_assoc]
  fullCbsds := trimmed.fullCbsds
  reducedCbsds := trimmed.reducedCbsds
  keys := by rw [Store.addGrant, Store.addGrant, trimmed.keys]

include unseen

theorem active_alike (cbsdId : String) (cbsd : Cbsd K) (found : full.findCbsd cbsdId = some cbsd) :
    reduced.activeGrants cbsdId = full.activeGrants cbsdId := by
  rw [full_find now store full reduced created trimmed] at found
  have skips : ∀ grant, Unseen store grant → (grant.cbsdId = cbsdId && !grant.terminated) = false := by
    intro grant isUnseen
    rcases isUnseen with ended | ⟨absent, _⟩
    · rw [ended, Bool.not_true, Bool.and_false]
    · by_cases same : grant.cbsdId = cbsdId
      · rw [same, found] at absent
        cases absent
      · simp [same]
  rw [Store.activeGrants, Store.activeGrants, trimmed.fullGrants, trimmed.reducedGrants, List.filter_append, List.filter_append,
    reduced_filter now store unseen _ skips]

theorem dpa_alike : Dpa.collectActiveDpaGrants reduced = Dpa.collectActiveDpaGrants full := by
  have rows : Dpa.rowRf reduced = Dpa.rowRf full := by
    funext grant
    rw [Dpa.rowRf, Dpa.rowRf, trimmed_find now store full reduced created trimmed]
  have skips : ∀ grant, Unseen store grant → Dpa.rowRf full grant = none := by
    intro grant isUnseen
    rw [Dpa.rowRf, full_find now store full reduced created trimmed]
    rcases isUnseen with ended | ⟨absent, _⟩
    · simp [Dpa.countsForDpa, ended]
    · simp [absent]
  rw [Dpa.collectActiveDpaGrants, Dpa.collectActiveDpaGrants, rows, trimmed.fullGrants, trimmed.reducedGrants,
    List.filterMap_append, List.filterMap_append, reduced_collected now store unseen _ skips]

theorem local_alike : collectLocalAuthorizedGrants reduced = collectLocalAuthorizedGrants full := by
  have rows : localRf reduced = localRf full := by
    funext grant
    rw [localRf, localRf, trimmed_find now store full reduced created trimmed]
  have skips : ∀ grant, Unseen store grant → (if !grant.terminated then localRf full grant else none) = none := by
    intro grant isUnseen
    rw [localRf, full_find now store full reduced created trimmed]
    rcases isUnseen with ended | ⟨absent, _⟩
    · rw [ended]
      rfl
    · rw [absent]
      simp
  rw [collectLocalAuthorizedGrants, collectLocalAuthorizedGrants, rows, List.filterMap_filter, List.filterMap_filter,
    trimmed.fullGrants, trimmed.reducedGrants, List.filterMap_append, List.filterMap_append,
    reduced_collected now store unseen _ skips]

theorem iap_alike (db : Database K) (cbsd : Cbsd K) (lowHz highHz : Int) (maxEirp : K) :
    proposedGrantViolatesIap env { db with store := reduced } cbsd lowHz highHz maxEirp =
      proposedGrantViolatesIap env { db with store := full } cbsd lowHz highHz maxEirp := by
  have coherent : coherentGenerationAvailable { db with store := reduced } = coherentGenerationAvailable { db with store := full } := rfl
  simp only [proposedGrantViolatesIap, coherent, local_alike now store full reduced created unseen trimmed]

theorem location_alike (db : Database K) (checks : GrantChecks K) (cbsd : Cbsd K) (proposal : Proposal K) :
    locationAllows (admissionChecks env db checks) reduced cbsd proposal =
      locationAllows (admissionChecks env db checks) full cbsd proposal := by
  have dpa : ∀ lowHz highHz maxEirp, Dpa.proposedGrantViolatesDpa env.backends env.channels reduced cbsd lowHz highHz maxEirp =
      Dpa.proposedGrantViolatesDpa env.backends env.channels full cbsd lowHz highHz maxEirp := by
    intro lowHz highHz maxEirp
    simp only [Dpa.proposedGrantViolatesDpa, dpa_alike now store full reduced created unseen trimmed]
  simp only [locationAllows, locationChecks, List.all_cons, List.all_nil, locationBlocks, admissionChecks, dpa]

-- Two outcomes of one call, with the same response and stores that stay alike.
def OutcomesAlike (first second : Store K × GrantResponse) : Prop :=
  first.2 = second.2 ∧ ∃ more, Trimmed now store first.1 second.1 (created ++ more)

omit unseen in
theorem refused_alike (response : GrantResponse) : OutcomesAlike now store created (full, response) (reduced, response) :=
  ⟨rfl, [], by rwa [List.append_nil]⟩

theorem locked_alike (db : Database K) (checks : GrantChecks K) (certificateHash : Option String) (req : GrantRequest K)
    (pending : List FrequencyRange) (proposal : Proposal K) (grantId : String) (clock : Clock) (cbsd : Cbsd K)
    (found : full.findCbsd req.cbsdId = some cbsd) :
    OutcomesAlike now store created
      (lockedCreate (admissionChecks env db checks) certificateHash req (some cbsd) pending proposal grantId clock full)
      (lockedCreate (admissionChecks env db checks) certificateHash req (some cbsd) pending proposal grantId clock reduced) := by
  have refused := refused_alike now store full reduced created trimmed
  have iap : (admissionChecks env db checks).iap reduced = (admissionChecks env db checks).iap full := by
    funext row lowHz highHz maxEirp
    exact iap_alike env now store full reduced created unseen trimmed db row lowHz highHz maxEirp
  simp only [lockedCreate, active_alike now store full reduced created unseen trimmed req.cbsdId cbsd found, iap]
  split
  · exact refused _
  · split
    · exact refused _
    · split
      · exact refused _
      · split
        · exact refused _
        · exact ⟨rfl, _, trimmed_add now store full reduced created trimmed _⟩

theorem item_alike (db : Database K) (checks : GrantChecks K) (certificateHash : Option String) (req : GrantRequest K)
    (pending : List FrequencyRange) (grantId : String) (clock : Clock) :
    OutcomesAlike now store created
      (grantItem (admissionChecks env db checks) certificateHash req pending grantId clock full)
      (grantItem (admissionChecks env db checks) certificateHash req pending grantId clock reduced) := by
  have refused := refused_alike now store full reduced created trimmed
  simp only [grantItem, trimmed_find now store full reduced created trimmed,
    location_alike env now store full reduced created unseen trimmed]
  split
  · exact refused _
  · cases found : full.findCbsd req.cbsdId with
    | none => exact refused _
    | some cbsd =>
        dsimp only
        split
        · exact refused _
        · split
          · exact locked_alike env now store full reduced created unseen trimmed db checks certificateHash req pending _ grantId clock
              cbsd found
          · exact refused _

-- A batch: the same responses, and the stores stay alike.
theorem batch_alike (db : Database K) (certificateHash : Option String) (items : List (GrantItem K)) (pending : Pending) :
    let visit := grantBatchItem certificateHash
    let after := Sweep.sweep visit (items.map (admissionItem env db)) (full, pending)
    let trimmedAfter := Sweep.sweep visit (items.map (admissionItem env db)) (reduced, pending)
    after.1 = trimmedAfter.1 ∧ ∃ more, Trimmed now store after.2.1 trimmedAfter.2.1 (created ++ more) := by
  induction items generalizing full reduced created pending with
  | nil => exact ⟨rfl, [], by rwa [List.append_nil]⟩
  | cons item rest ih =>
      obtain ⟨response, more, stays⟩ := item_alike env now store full reduced created unseen trimmed db item.checks certificateHash
        item.req (pending item.req.cbsdId) item.grantId item.readings.read
      obtain ⟨others, later, alike⟩ := ih _ _ _ stays (rememberRange item.req (grantItem (admissionChecks env db item.checks)
        certificateHash item.req (pending item.req.cbsdId) item.grantId item.readings.read full).2 pending)
      rw [List.append_assoc] at alike
      simp only [List.map_cons, Sweep.sweep, grantBatchItem, admissionItem] at others alike ⊢
      rw [response] at others alike ⊢
      exact ⟨congrArg (_ :: ·) others, more ++ later, alike⟩

end Batch

section Freeze

variable (now : Int) (state : ActivityState K)

theorem frozen_skips (db : Database K) (grant : Grant K) (isUnseen : Unseen db.store grant) :
    (if !grant.terminated then frozenOf db grant else none) = none := by
  rcases isUnseen with ended | ⟨absent, _⟩
  · rw [ended]
    rfl
  · rw [frozenOf, absent]
    simp

theorem frozen_alike (unseen : ∀ grant ∈ state.db.store.grants, expired now grant = true → Unseen state.db.store grant) :
    FrozenAlike now state := by
  intro frozen
  have rows : frozenOf (state.reduced now).db = frozenOf state.db := rfl
  have same : (freezeCpasSnapshot now (state.reduced now).db).localGrants = (freezeCpasSnapshot now state.db).localGrants := by
    simp only [freezeCpasSnapshot, rows, List.filterMap_filter]
    exact reduced_collected now state.db.store unseen _ (frozen_skips state.db)
  rw [same]

-- The grants of a dump: those alive under a registered CBSD.
theorem mem_dumped (row : Grant K × String) : row ∈ dumpedGrants state.fadTables ↔
    ∃ grant ∈ state.db.store.grants, row = (grant, state.grantJson grant.id) ∧ grant.terminated = false ∧
      ∃ cbsd ∈ state.db.store.cbsds, cbsd.lifecycleState = some .registered ∧ grant.cbsdPk = cbsd.id := by
  simp only [dumpedGrants, List.mem_flatMap, List.mem_filter, Fad.exportedGrants, ActivityState.fadTables, List.mem_map,
    Bool.and_eq_true, decide_eq_true_iff, Bool.not_eq_true']
  constructor
  · rintro ⟨_, ⟨⟨cbsd, inCbsds, rfl⟩, registered⟩, ⟨grant, inGrants, rfl⟩, owned, live⟩
    exact ⟨grant, inGrants, rfl, live, cbsd, inCbsds, registered, owned⟩
  · rintro ⟨grant, inGrants, rfl, live, cbsd, inCbsds, registered, owned⟩
    exact ⟨_, ⟨⟨cbsd, inCbsds, rfl⟩, registered⟩, ⟨grant, inGrants, rfl⟩, owned, live⟩

theorem mem_reduced (store : Store K) (grant : Grant K) :
    grant ∈ (reducedStore now store).grants ↔ grant ∈ store.grants ∧ expired now grant = false := by
  rw [reducedStore, List.mem_filter, Bool.not_eq_true']

theorem dumped_alike (unseen : ∀ grant ∈ state.db.store.grants, expired now grant = true → Unseen state.db.store grant) :
    DumpedAlike now state := by
  intro row
  rw [mem_dumped, mem_dumped]
  constructor
  · rintro ⟨grant, inGrants, same, live, cbsd, inCbsds, registered, owned⟩
    have valid : expired now grant = false := by
      by_contra isExpired
      rcases unseen grant inGrants (by simpa using isExpired) with ended | ⟨_, unregistered⟩
      · rw [live] at ended
        cases ended
      · exact unregistered cbsd inCbsds registered owned.symm
    exact ⟨grant, (mem_reduced now state.db.store grant).mpr ⟨inGrants, valid⟩, same, live, cbsd, inCbsds, registered, owned⟩
  · rintro ⟨grant, inReduced, same, live, cbsd, inCbsds, registered, owned⟩
    exact ⟨grant, ((mem_reduced now state.db.store grant).mp inReduced).1, same, live, cbsd, inCbsds, registered, owned⟩

theorem granted_alike (env : GrantAdmissionEnv K)
    (unseen : ∀ grant ∈ state.db.store.grants, expired now grant = true → Unseen state.db.store grant) :
    GrantedAlike env now state := by
  intro certificateHash items
  obtain ⟨same, created, trimmed⟩ := batch_alike env now state.db.store state.db.store (reducedStore now state.db.store) []
    unseen (trimmed_start now state.db.store) state.db certificateHash items fun _ => []
  exact ⟨same, created, trimmed.fullGrants, trimmed.reducedGrants⟩

-- An expired grant that a freeze or a dump takes up is missing from the other side.
theorem alike_unseen (frozen : FrozenAlike now state) (dumped : DumpedAlike now state) (grant : Grant K)
    (member : grant ∈ state.db.store.grants) (isExpired : expired now grant = true) : Unseen state.db.store grant := by
  cases live : grant.terminated with
  | true => exact .inl live
  | false =>
      refine .inr ⟨?_, ?_⟩
      · cases owner : state.db.store.findCbsd grant.cbsdId with
        | none => rfl
        | some cbsd =>
            have inFreeze : frozenLocalGrantFromOrm grant cbsd ∈ (freezeCpasSnapshot now state.db).localGrants := by
              refine List.mem_filterMap.mpr ⟨grant, List.mem_filter.mpr ⟨member, by rw [live]; rfl⟩, ?_⟩
              rw [frozenOf, owner]
              rfl
            obtain ⟨other, inReduced, isFrozen⟩ := List.mem_filterMap.mp ((frozen _).mp inFreeze)
            obtain ⟨otherMember, otherValid⟩ := (mem_reduced now state.db.store other).mp (List.mem_filter.mp inReduced).1
            obtain ⟨otherCbsd, _, equal⟩ := Option.map_eq_some_iff.mp isFrozen
            have samePk : other.id = grant.id := congrArg FrozenLocalGrantRf.grantPk equal
            have same := List.inj_on_of_nodup_map state.distinct otherMember member samePk
            rw [same, isExpired] at otherValid
            cases otherValid
      · intro cbsd inCbsds registered owns
        have inDump : (grant, state.grantJson grant.id) ∈ dumpedGrants state.fadTables :=
          (mem_dumped state _).mpr ⟨grant, member, rfl, live, cbsd, inCbsds, registered, owns.symm⟩
        obtain ⟨other, inReduced, same, _⟩ := (mem_dumped (state.reduced now) _).mp ((dumped _).mp inDump)
        obtain ⟨_, otherValid⟩ := (mem_reduced now state.db.store other).mp inReduced
        have sameGrant : grant = other := congrArg Prod.fst same
        rw [← sameGrant, isExpired] at otherValid
        cases otherValid

end Freeze

-- Expired grants make no difference exactly where each is terminated or has no CBSD to stand for.
theorem expired_inert_iff (env : GrantAdmissionEnv K) (now : Int) (state : ActivityState K) :
    ExpiredInert env now state ↔ ∀ grant ∈ state.db.store.grants, expired now grant = true → Unseen state.db.store grant := by
  constructor
  · intro inert grant member isExpired
    exact alike_unseen now state inert.frozen inert.dumped grant member isExpired
  · intro unseen
    exact ⟨granted_alike now state env unseen, frozen_alike now state unseen, dumped_alike now state unseen⟩

def quietAdmission : GrantAdmissionEnv Rat where
  iapEnabled := true
  resolvedPoints := fun _ => some []
  peerGrants := some []
  coupling := fun _ => none
  model := Iap.stepModel
  arith := Rounding.binary64
  backends := plainBackends
  channels := []

def ownerCbsd : Cbsd Rat := ⟨0, "f/s", "f", "user", "s", none, none, some .registered, ⟨none, none, []⟩⟩

-- It expired at 100 and was never heard of again.
def silentGrant : Grant Rat :=
  ⟨0, "g", 0, "f/s", .gaa, 3550000000, 3560000000, some 10, 100, 60, none, true, false, false, some .authorized,
    ⟨⟨0, 0, 0, 0⟩, none⟩⟩

def silentState : ActivityState Rat where
  db := { (Database.empty : Database Rat) with store := ⟨[ownerCbsd], [silentGrant], 1, 1⟩ }
  cbsdJson := fun _ => "{}"
  grantJson := fun _ => "{}"
  distinct := by simp

def sameRange : GrantItem Rat :=
  ⟨openGrantChecks, ⟨"f/s", some ⟨.given 10, some (.given 3550000000, .given 3560000000)⟩⟩, "g2", readingsAt 200⟩

-- The grant that is over still turns down a request for its range.
theorem silent_grant_conflicts : ¬ ExpiredInert quietAdmission 200 silentState := by
  intro inert
  have responses := congrArg (List.map GrantResponse.responseCode) (inert.granted none [sameRange]).1
  revert responses
  decide +kernel

end SasCore.Cpas
