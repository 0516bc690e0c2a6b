import SasCore.Federal.Sync
import SasCore.Injection.KeyMap
import SasCore.Lib.Collect

set_option autoImplicit false
set_option linter.unusedSectionVars false

namespace SasCore.Federal

open Injection Dpa Orm
open Cpas (SyncKey bumpedGenerations)
open Registry (SyncStamp)

variable {K : Type} [Field K] [LinearOrder K] (env : SyncEnv K)

-- A write that leaves the commit to its caller.
inductive StoreOp (K : Type) where
  | inject (writer : Writer) (body : Json K)
  | replacePals (payload : Json K)
  | sync (databaseType : DatabaseType) (body : ByteArray)

def runOp (tables : Tables K) : StoreOp K → Except String (Tables K)
  | .inject writer body => (write env.feeds.injection writer body tables).map (·.1)
  | .replacePals payload => replacePalRecords env.feeds payload tables
  | .sync databaseType body => applyBody env databaseType body tables

def runOps : List (StoreOp K) → Tables K → Except String (Tables K)
  | [], tables => .ok tables
  | op :: rest, tables =>
      match runOp env tables op with
      | .error error => .error error
      | .ok written => runOps rest written

-- The writes of a transaction are committed together, or rolled back when one raises.
def transact (committed : Tables K) (ops : List (StoreOp K)) : Tables K :=
  match runOps env ops committed with
  | .error _ => committed
  | .ok written => written.flush

def transactAll (committed : Tables K) (transactions : List (List (StoreOp K))) : Tables K :=
  transactions.foldl (transact env) committed

-- What a write does to the two maps of counters: whether it flushes before its bumps, and what it bumps.
structure Touch where
  flushes : Bool
  feed : Option SyncKey
  counter : Option Counter
deriving DecidableEq, Repr

def touch : StoreOp K → Touch
  | .inject writer body =>
      match planned env.feeds.injection writer body with
      | .ok (some (kind, record)) =>
          ⟨tagged kind ((naturalKey env.feeds.injection kind record).getD ""), Injection.feedOf kind, some (counterOf kind)⟩
      | _ => ⟨false, none, none⟩
  | .replacePals _ => ⟨false, none, some .pal⟩
  | .sync .pal _ => ⟨false, none, some .pal⟩
  | .sync .cpi _ => ⟨false, none, some .cpi⟩
  | .sync .exclusionZone _ => ⟨false, some .exz, none⟩
  | .sync .scheduledDpa _ => ⟨true, some .dpa, none⟩
  | .sync .fss _ => ⟨true, some .fss, none⟩
  | .sync .gwbl _ => ⟨false, some .gwbl, none⟩

def accesses {V : Type} (flushes : Bool) (change : Option (V → V)) : List (Access V) :=
  (if flushes then [.flush] else []) ++ change.toList.map .rewrite

def generationAccesses (op : StoreOp K) : List (Access (List (String × Nat))) :=
  accesses (touch env op).flushes ((touch env op).counter.map fun counter => bumpedGenerations counter.text)

def federalAccesses (op : StoreOp K) : List (Access SyncStamp) :=
  accesses (touch env op).flushes ((touch env op).feed.map fun feed stamp => bumpStamp stamp feed)

-- No map is bumped twice without a flush between the bumps.
def spacedBumps (ops : List (StoreOp K)) : Bool :=
  spaced false (ops.flatMap (generationAccesses env)) && spaced false (ops.flatMap (federalAccesses env))

def generationOf (tables : Tables K) (counter : Counter) : Nat :=
  (PyDict.lookup (getInjectionGenerations tables) counter.text).getD 0

-- The writes that are committed, none when the transaction is rolled back.
def committedOps (committed : Tables K) (ops : List (StoreOp K)) : List (StoreOp K) :=
  match runOps env ops committed with
  | .error _ => []
  | .ok _ => ops

structure Advanced (written : List (StoreOp K)) (earlier later : Tables K) : Prop where
  generations : ∀ counter, generationOf earlier counter ≤ generationOf later counter
  federal : ∀ feed, stampOf (getSyncMeta earlier) feed ≤ stampOf (getSyncMeta later) feed
  counted : ∀ op ∈ written, ∀ counter ∈ (touch env op).counter, generationOf earlier counter < generationOf later counter
  synced : ∀ op ∈ written, ∀ feed ∈ (touch env op).feed, stampOf (getSyncMeta earlier) feed < stampOf (getSyncMeta later) feed

section Touches

theorem flush_flush {V : Type} (table : Table V) : table.flush.flush = table.flush := congrArg Table.stored (settled_flush table)

-- The maps of two states, up to a flush.
def SameMaps (before after : Tables K) : Prop :=
  after.generations.flush = before.generations.flush ∧ after.federal.flush = before.federal.flush

theorem upsert_maps (kind : Kind) (payload : Json K) (key : Option String) (tables : Tables K) :
    (upsert env.feeds.injection kind payload key tables).generations = tables.generations ∧
      (upsert env.feeds.injection kind payload key tables).federal = tables.federal := by
  cases key <;> exact ⟨rfl, rfl⟩

theorem store_accesses (tables : Tables K) (kind : Kind) (record : Json K) :
    let flushes := tagged kind ((naturalKey env.feeds.injection kind record).getD "")
    let stored := store env.feeds.injection tables (kind, record)
    stored.generations = (accesses flushes (some (bumpedGenerations (counterOf kind).text))).foldl (access []) tables.generations ∧
      stored.federal =
        (accesses flushes ((Injection.feedOf kind).map fun feed stamp => bumpStamp stamp feed)).foldl (access noSync) tables.federal := by
  intro flushes stored
  obtain ⟨generations, federal⟩ := upsert_maps env kind record (naturalKey env.feeds.injection kind record) tables
  have bumped : ∀ tables : Tables K, (bumpFeed (Injection.feedOf kind) tables).generations = tables.generations := by
    intro tables
    cases Injection.feedOf kind <;> rfl
  have synced : ∀ tables : Tables K, (bumpFeed (Injection.feedOf kind) tables).federal =
      (((Injection.feedOf kind).map fun feed stamp => bumpStamp stamp feed).toList.map Access.rewrite).foldl (access noSync)
        tables.federal := by
    intro tables
    cases Injection.feedOf kind <;> rfl
  have taggedMaps : ∀ tables : Tables K,
      (tag kind (naturalKey env.feeds.injection kind record) tables).generations =
          (if flushes then tables.generations.flush else tables.generations) ∧
        (tag kind (naturalKey env.feeds.injection kind record) tables).federal =
          (if flushes then tables.federal.flush else tables.federal) := by
    intro tables
    by_cases marked : flushes = true
    · simp only [tag, flushes] at marked ⊢
      rw [if_pos marked, if_pos marked, if_pos marked]
      exact ⟨rfl, rfl⟩
    · simp only [tag, flushes] at marked ⊢
      rw [if_neg marked, if_neg marked, if_neg marked]
      exact ⟨rfl, rfl⟩
  constructor
  · have step : stored.generations =
        (bumpFeed (Injection.feedOf kind) (tag kind (naturalKey env.feeds.injection kind record)
          (upsert env.feeds.injection kind record (naturalKey env.feeds.injection kind record) tables))).generations.rewrite []
            (bumpedGenerations (counterOf kind).text) := rfl
    rw [step, bumped, (taggedMaps _).1, generations, accesses]
    cases flushes <;> rfl
  · have step : stored.federal =
        (bumpFeed (Injection.feedOf kind) (tag kind (naturalKey env.feeds.injection kind record)
          (upsert env.feeds.injection kind record (naturalKey env.feeds.injection kind record) tables))).federal := rfl
    rw [step, synced, (taggedMaps _).2, federal, accesses]
    cases flushes <;> rfl

-- Adding rows to a kind leaves the maps.
theorem added_maps (kind : Kind) (rows : List (Json K)) (tables : Tables K) :
    let after := rows.foldl (fun held record => held.setRecords kind (·.add (some record))) tables
    after.generations = tables.generations ∧ after.federal = tables.federal := by
  induction rows generalizing tables with
  | nil => exact ⟨rfl, rfl⟩
  | cons row rest ih => exact ih _

theorem pals_maps (records : List (Json K)) (held written : Tables K × List String)
    (done : upsertPals env.feeds records held = .ok written) :
    written.1.generations = held.1.generations ∧ written.1.federal = held.1.federal := by
  induction records generalizing held with
  | nil =>
      cases done
      exact ⟨rfl, rfl⟩
  | cons record rest ih =>
      rw [upsertPals] at done
      by_cases shaped : (!record.isObject) = true
      · rw [if_pos shaped] at done
        exact ih held done
      · rw [if_neg shaped] at done
        cases found : palRow env.feeds record with
        | error error =>
            rw [found] at done
            cases done
        | ok row =>
            rw [found] at done
            cases row with
            | none => exact ih held done
            | some row => exact ih (upsertPalRow row held.1, held.2 ++ [row.palId]) done

theorem replace_pals_accesses (payload : Json K) (tables written : Tables K)
    (done : replacePalRecords env.feeds payload tables = .ok written) :
    written.generations = tables.generations.rewrite [] (bumpedGenerations Counter.pal.text) ∧ written.federal = tables.federal := by
  rw [replacePalRecords] at done
  split at done
  · cases done
  · cases upserted : upsertPals env.feeds (palRecords payload) (tables, []) with
    | error error =>
        rw [upserted] at done
        cases done
    | ok result =>
        obtain ⟨generations, federal⟩ := pals_maps env _ _ _ upserted
        rw [upserted] at done
        simp only at done
        split at done
        · cases done
          exact ⟨congrArg (Table.rewrite [] _) generations, federal⟩
        · cases done

theorem upsert_site_maps (record : Json K) (held : Tables K × List (String × FssSource)) :
    SameMaps held.1 (upsertSite env.feeds record held).1 := by
  rw [upsertSite, upsertFssPayload]
  cases fssRecordId env.feeds.readers record with
  | none => exact ⟨flush_flush _, flush_flush _⟩
  | some id => exact ⟨flush_flush _, flush_flush _⟩

theorem sites_maps (sites : List (Json K)) (held written : Tables K × List (String × FssSource))
    (done : upsertSites env.feeds sites held = .ok written) : SameMaps held.1 written.1 := by
  induction sites generalizing held with
  | nil =>
      cases done
      exact ⟨rfl, rfl⟩
  | cons site rest ih =>
      rw [upsertSites] at done
      split at done
      · cases done
      · exact ih held done
      · rename_i record _
        obtain ⟨generations, federal⟩ := upsert_site_maps env record held
        obtain ⟨later, last⟩ := ih _ done
        exact ⟨later.trans generations, last.trans federal⟩

theorem delete_fss_maps (tables : Tables K) : SameMaps tables (deleteFederalSyncFssRows env.feeds.readers tables) := by
  rw [deleteFederalSyncFssRows]
  split
  · exact ⟨rfl, rfl⟩
  · exact ⟨flush_flush _, flush_flush _⟩

theorem replace_fss_accesses (payload : Json K) (tables written : Tables K)
    (done : replaceFssFromFederalPayload env.feeds payload tables = .ok written) :
    written.generations = tables.generations.flush ∧
      written.federal = tables.federal.flush.rewrite noSync fun stamp => bumpStamp stamp .fss := by
  rw [replaceFssFromFederalPayload] at done
  cases upserted : upsertSites env.feeds (fssSites payload) (deleteFederalSyncFssRows env.feeds.readers tables,
      loadFssProvenanceMap (deleteFederalSyncFssRows env.feeds.readers tables)) with
  | error error =>
      rw [upserted] at done
      cases done
  | ok result =>
      rw [upserted] at done
      cases done
      obtain ⟨generations, federal⟩ := sites_maps env _ _ _ upserted
      obtain ⟨deleted, gone⟩ := delete_fss_maps env tables
      exact ⟨generations.trans deleted, congrArg (Table.rewrite noSync fun stamp => bumpStamp stamp .fss) (federal.trans gone)⟩

theorem replace_gwbl_accesses (body : ByteArray) (tables written : Tables K)
    (done : replaceGwblFromZip env.feeds body tables = .ok written) :
    written.generations = tables.generations ∧
      written.federal = tables.federal.rewrite noSync fun stamp => bumpStamp stamp .gwbl := by
  rw [replaceGwblFromZip] at done
  cases parsed : parseGwblZip env.feeds body with
  | error error =>
      rw [parsed] at done
      cases done
  | ok records =>
      rw [parsed] at done
      cases done
      obtain ⟨generations, federal⟩ := added_maps .gwbl records (tables.setRecords .gwbl (·.clear))
      exact ⟨generations, congrArg (Table.rewrite noSync fun stamp => bumpStamp stamp .gwbl) federal⟩

theorem exclusion_zones_accesses (body : ByteArray) (tables written : Tables K)
    (done : applyExclusionZoneKml env.feeds body tables = .ok written) :
    written.generations = tables.generations ∧
      written.federal = tables.federal.rewrite noSync fun stamp => bumpStamp stamp .exz := by
  rw [applyExclusionZoneKml] at done
  split at done
  · cases done
  · cases done
    rename_i root _
    obtain ⟨generations, federal⟩ := added_maps .exclusionZone (zoneRecords env.feeds root) (tables.setRecords .exclusionZone (·.clear))
    exact ⟨generations, congrArg (Table.rewrite noSync fun stamp => bumpStamp stamp .exz) federal⟩

-- The maps are those of an earlier state, flushed.
def FlushedMaps (before after : Tables K) : Prop :=
  after.generations = before.generations.flush ∧ after.federal = before.federal.flush

theorem upsert_activation_maps (now : Int) (dpaId : String) (channel : Int × Int) (movelist : List String) (source : Option String)
    (tables : Tables K) : FlushedMaps tables (upsertActivation now dpaId channel movelist source tables) := by
  rw [upsertActivation]
  split
  · exact ⟨rfl, rfl⟩
  · exact ⟨flush_flush _, flush_flush _⟩

theorem upserts_maps {α : Type} (upsert : Tables K → α → Tables K) (flushes : ∀ tables entry, FlushedMaps tables (upsert tables entry))
    (entries : List α) (tables held : Tables K) (flushed : FlushedMaps tables held) :
    FlushedMaps tables (entries.foldl upsert held) := by
  induction entries generalizing held with
  | nil => exact flushed
  | cons entry rest ih =>
      obtain ⟨generations, federal⟩ := flushes held entry
      apply ih
      constructor
      · rw [generations, flushed.1, flush_flush]
      · rw [federal, flushed.2, flush_flush]

theorem refreshed_maps (channels : List (String × Int × Int)) (tables held written : Tables K) (flushed : FlushedMaps tables held)
    (done : refreshOrFailClosedMovelists env.dpa channels held = .ok written) : FlushedMaps tables written := by
  rw [refreshOrFailClosedMovelists, refreshActivationMovelists] at done
  cases pending : pendingMovelists env.dpa held with
  | ok entries =>
      rw [pending] at done
      cases done
      exact upserts_maps _ (fun tables entry => upsert_activation_maps _ _ _ _ _ tables) entries tables held flushed
  | error fault =>
      rw [pending] at done
      cases fault with
      | other => cases done
      | evaluation =>
          cases found : env.dpa.activeGrants with
          | error error =>
              rw [found] at done
              cases done
          | ok grants =>
              rw [found] at done
              cases done
              exact upserts_maps _ (fun tables entry => upsert_activation_maps _ _ _ _ _ tables) channels tables held flushed

-- A scheduled document names at least one channel.
theorem json_channels (text : String) (tables stored : Tables K) (channels : List (String × Int × Int))
    (done : applyScheduledDpaJson env.dpa text tables = .ok (stored, channels)) : stored = tables ∧ channels ≠ [] := by
  rw [applyScheduledDpaJson] at done
  split at done
  · cases done
  · split at done
    · cases done
    · cases done
    · rename_i activations filled _
      obtain ⟨found, all, same⟩ := Collect.map_ok _ _ _ done
      cases same
      refine ⟨rfl, fun empty => ?_⟩
      have none : activations.map (scheduledChannel env.dpa tables) = [] := by
        rw [Collect.all_ok _ _ _ all, empty]
        rfl
      exact filled (List.map_eq_nil_iff.mp none)

theorem kml_channels (text : String) (tables stored : Tables K) (channels : List (String × Int × Int))
    (done : applyScheduledDpaKml env.dpa text tables = .ok (stored, channels)) :
    (stored.generations = tables.generations ∧ stored.federal = tables.federal) ∧ channels ≠ [] := by
  rw [applyScheduledDpaKml] at done
  split at done
  · cases done
  · split at done
    · cases done
    · rename_i filled
      obtain ⟨lists, all, same⟩ := Collect.map_ok _ _ _ done
      cases same
      refine ⟨⟨rfl, rfl⟩, fun empty => ?_⟩
      obtain ⟨definition, member⟩ := List.exists_mem_of_ne_nil _ filled
      obtain ⟨listed, inLists, found⟩ := Collect.ok_result _ _ _ all definition member
      have gone := List.flatten_eq_nil_iff.mp empty listed inLists
      rw [definitionChannels, gone] at found
      split at found
      · cases found
      · rename_i _ filled
        injection found with none
        exact filled (List.map_eq_nil_iff.mp none)

theorem activated_maps (channels : List (String × Int × Int)) (filled : channels ≠ []) (tables : Tables K) :
    FlushedMaps tables (activateScheduled env.dpa channels tables) := by
  cases channels with
  | nil => exact absurd rfl filled
  | cons channel rest =>
      exact upserts_maps _ (fun tables entry => upsert_activation_maps _ _ _ _ _ tables) rest tables _
        (upsert_activation_maps _ _ _ _ _ tables)

theorem scheduled_accesses (body : ByteArray) (tables written : Tables K)
    (done : applyScheduledDpa env.dpa body tables = .ok written) :
    written.generations = tables.generations.flush ∧
      written.federal = tables.federal.flush.rewrite noSync fun stamp => bumpStamp stamp .dpa := by
  rw [applyScheduledDpa] at done
  split at done
  · cases done
  · rename_i text _
    have known : ∀ stored channels, (if scheduledDpaLooksLikeKml text.toList then applyScheduledDpaKml env.dpa text tables
        else applyScheduledDpaJson env.dpa text tables) = .ok (stored, channels) →
        (stored.generations = tables.generations ∧ stored.federal = tables.federal) ∧ channels ≠ [] := by
      intro stored channels read
      split at read
      · exact kml_channels env text tables stored channels read
      · obtain ⟨same, filled⟩ := json_channels env text tables stored channels read
        rw [same]
        exact ⟨⟨rfl, rfl⟩, filled⟩
    split at done
    · cases done
    · rename_i stored channels read
      obtain ⟨⟨generations, federal⟩, filled⟩ := known stored channels read
      obtain ⟨refreshed, found, bumped⟩ := Collect.map_ok _ _ _ done
      obtain ⟨flushed, last⟩ := refreshed_maps env channels _ _ _ (activated_maps env channels filled (dropScheduled stored)) found
      rw [← bumped]
      constructor
      · exact flushed.trans (congrArg Table.flush generations)
      · exact congrArg (Table.rewrite noSync fun stamp => bumpStamp stamp .dpa) (last.trans (congrArg Table.flush federal))

theorem cpi_accesses (body : ByteArray) (tables written : Tables K) (done : applyBody env .cpi body tables = .ok written) :
    written.generations = tables.generations.rewrite [] (bumpedGenerations Counter.cpi.text) ∧ written.federal = tables.federal := by
  obtain ⟨_, _, same⟩ := Collect.map_ok _ _ _ done
  rw [← same]
  exact ⟨rfl, rfl⟩

theorem run_op_accesses (op : StoreOp K) (tables written : Tables K) (done : runOp env tables op = .ok written) :
    written.generations = (generationAccesses env op).foldl (access []) tables.generations ∧
      written.federal = (federalAccesses env op).foldl (access noSync) tables.federal := by
  cases op with
  | inject writer body =>
      have plan := write_planned env.feeds.injection writer body tables
      rw [runOp] at done
      rw [done] at plan
      rw [generationAccesses, federalAccesses, touch]
      cases found : planned env.feeds.injection writer body with
      | error error =>
          rw [found] at plan
          cases plan
      | ok record =>
          rw [found] at plan
          injection plan with same
          rw [same]
          cases record with
          | none => exact ⟨rfl, rfl⟩
          | some record => exact store_accesses env tables record.1 record.2
  | replacePals payload => exact replace_pals_accesses env payload tables written done
  | sync databaseType body =>
      cases databaseType with
      | pal =>
          rw [runOp, applyBody] at done
          split at done
          · cases done
          · exact replace_pals_accesses env _ tables written done
      | cpi => exact cpi_accesses env body tables written done
      | exclusionZone => exact exclusion_zones_accesses env body tables written done
      | scheduledDpa => exact scheduled_accesses env body tables written done
      | fss =>
          rw [runOp, applyBody] at done
          split at done
          · cases done
          · exact replace_fss_accesses env _ tables written done
      | gwbl => exact replace_gwbl_accesses env body tables written done

theorem run_ops_accesses (ops : List (StoreOp K)) (tables written : Tables K) (done : runOps env ops tables = .ok written) :
    written.generations = (ops.flatMap (generationAccesses env)).foldl (access []) tables.generations ∧
      written.federal = (ops.flatMap (federalAccesses env)).foldl (access noSync) tables.federal := by
  induction ops generalizing tables with
  | nil =>
      cases done
      exact ⟨rfl, rfl⟩
  | cons op rest ih =>
      rw [runOps] at done
      cases first : runOp env tables op with
      | error error =>
          rw [first] at done
          cases done
      | ok midway =>
          rw [first] at done
          obtain ⟨generations, federal⟩ := run_op_accesses env op tables midway first
          obtain ⟨later, last⟩ := ih midway done
          rw [List.flatMap_cons, List.flatMap_cons, List.foldl_append, List.foldl_append, ← generations, ← federal]
          exact ⟨later, last⟩

end Touches

section Values

-- A counter grows by the number of its bumps.
theorem generations_bumped (counters : List Counter) (generations : List (String × Nat)) (counter : Counter) :
    (PyDict.lookup (counters.foldl (fun held bumped => bumpedGenerations bumped.text held) generations) counter.text).getD 0 =
      (PyDict.lookup generations counter.text).getD 0 + counters.count counter := by
  induction counters generalizing generations with
  | nil => rfl
  | cons bumped rest ih =>
      have apart : ¬ "schemaVersion" = counter.text := by cases counter <;> decide
      have names : bumped.text = counter.text ↔ bumped = counter := by cases bumped <;> cases counter <;> decide
      rw [List.foldl_cons, ih, bumpedGenerations, PyDict.lookup_set, if_neg apart, PyDict.lookup_set, List.count_cons]
      by_cases here : bumped = counter
      · rw [if_pos (names.mpr here), here]
        simp
        omega
      · rw [if_neg (fun same => here (names.mp same))]
        simp [here]

theorem stamps_bumped (feeds : List SyncKey) (stamp : SyncStamp) (feed : SyncKey) :
    stampOf (feeds.foldl bumpStamp stamp) feed = stampOf stamp feed + feeds.count feed := by
  induction feeds generalizing stamp with
  | nil => rfl
  | cons bumped rest ih =>
      rw [List.foldl_cons, ih, stamp_bumped, List.count_cons]
      by_cases here : bumped = feed
      · simp [here]
        omega
      · simp [here]

theorem changes_accesses {V α : Type} (ops : List (StoreOp K)) (flushes : StoreOp K → Bool) (bumped : StoreOp K → Option α)
    (change : α → V → V) :
    changes (ops.flatMap fun op => accesses (flushes op) ((bumped op).map change)) = (ops.filterMap bumped).map change := by
  induction ops with
  | nil => rfl
  | cons op rest ih =>
      have first : changes (accesses (flushes op) ((bumped op).map change)) = ((bumped op).map change).toList := by
        cases flushes op <;> cases bumped op <;> rfl
      rw [List.flatMap_cons, changes_append, first, ih, List.filterMap_cons]
      cases bumped op <;> rfl

-- A committed transaction raises every counter by the number of its bumps.
theorem committed_counters (committed written : Tables K) (ops : List (StoreOp K)) (apart : spacedBumps env ops = true)
    (done : runOps env ops committed.flush = .ok written) :
    (∀ counter, generationOf written.flush counter =
      generationOf committed.flush counter + (ops.filterMap fun op => (touch env op).counter).count counter) ∧
    ∀ feed, stampOf (getSyncMeta written.flush) feed =
      stampOf (getSyncMeta committed.flush) feed + (ops.filterMap fun op => (touch env op).feed).count feed := by
  obtain ⟨generations, federal⟩ := run_ops_accesses env ops committed.flush written done
  rw [spacedBumps, Bool.and_eq_true] at apart
  constructor
  · intro counter
    have run : getInjectionGenerations written.flush =
        (ops.filterMap fun op => (touch env op).counter).foldl (fun held bumped => bumpedGenerations bumped.text held)
          (getInjectionGenerations committed.flush) := by
      have listed : changes (ops.flatMap (generationAccesses env)) = _ := changes_accesses ops _ _ _
      rw [getInjectionGenerations, Tables.flush_generations, generations, Tables.flush_generations,
        accesses_committed [] _ _ apart.1, listed, List.foldl_map]
      rfl
    rw [generationOf, run, generations_bumped]
    rfl
  · intro feed
    have run : getSyncMeta written.flush =
        (ops.filterMap fun op => (touch env op).feed).foldl bumpStamp (getSyncMeta committed.flush) := by
      have listed : changes (ops.flatMap (federalAccesses env)) = _ := changes_accesses ops _ _ _
      rw [getSyncMeta, Tables.flush_federal, federal, Tables.flush_federal, accesses_committed noSync _ _ apart.2, listed,
        List.foldl_map]
      rfl
    rw [run, stamps_bumped]

theorem transact_advances (committed : Tables K) (ops : List (StoreOp K)) (apart : spacedBumps env ops = true) :
    Advanced env (committedOps env committed.flush ops) committed.flush (transact env committed.flush ops) := by
  rw [committedOps, transact]
  cases done : runOps env ops committed.flush with
  | error error =>
      refine ⟨fun _ => Nat.le_refl _, fun _ => Nat.le_refl _, ?_, ?_⟩
      · intro op member
        cases member
      · intro op member
        cases member
  | ok written =>
      obtain ⟨counters, stamps⟩ := committed_counters env committed written ops apart done
      refine ⟨fun counter => ?_, fun feed => ?_, fun op member counter own => ?_, fun op member feed own => ?_⟩
      · rw [counters counter]
        exact Nat.le_add_right _ _
      · rw [stamps feed]
        exact Nat.le_add_right _ _
      · have bumped : 0 < (ops.filterMap fun op => (touch env op).counter).count counter :=
          List.count_pos_iff.mpr (List.mem_filterMap.mpr ⟨op, member, own⟩)
        rw [counters counter]
        omega
      · have bumped : 0 < (ops.filterMap fun op => (touch env op).feed).count feed :=
          List.count_pos_iff.mpr (List.mem_filterMap.mpr ⟨op, member, own⟩)
        rw [stamps feed]
        omega

end Values

section Runs

-- Between two transactions everything is committed.
theorem transact_committed (start : Tables K) (transactions : List (List (StoreOp K))) :
    ∃ committed : Tables K, transactAll env start.flush transactions = committed.flush := by
  induction transactions using List.reverseRecOn with
  | nil => exact ⟨start, rfl⟩
  | append_singleton before ops ih =>
      rw [transactAll, List.foldl_append, List.foldl_cons, List.foldl_nil]
      obtain ⟨committed, reached⟩ := ih
      rw [transactAll] at reached
      rw [reached, transact]
      cases runOps env ops committed.flush with
      | error error => exact ⟨committed, rfl⟩
      | ok written => exact ⟨written, rfl⟩

theorem counters_never_back (start : Tables K) (transactions : List (List (StoreOp K)))
    (apart : ∀ ops ∈ transactions, spacedBumps env ops = true) (before : List (List (StoreOp K))) (ops : List (StoreOp K))
    (after : List (List (StoreOp K))) (split : transactions = before ++ ops :: after) :
    let earlier := transactAll env start.flush before
    Advanced env (committedOps env earlier ops) earlier (transactAll env start.flush (before ++ [ops])) := by
  intro earlier
  obtain ⟨committed, reached⟩ := transact_committed env start before
  have later : transactAll env start.flush (before ++ [ops]) = transact env earlier ops := List.foldl_concat _ _ _ _
  have isFlushed : earlier = committed.flush := reached
  rw [later, isFlushed]
  exact transact_advances env committed ops (apart ops (by rw [split]; exact List.mem_append_right _ List.mem_cons_self))

theorem tables_flush_flush (tables : Tables K) : tables.flush.flush = tables.flush := by
  simp only [Tables.flush, flush_flush]

theorem write_items_run (writer : Writer) (items : List (Json K)) (written : Tables K × Nat) :
    (writeItems env.feeds.injection writer items written).map (·.1) = runOps env (items.map (.inject writer)) written.1 := by
  induction items generalizing written with
  | nil => rfl
  | cons item rest ih =>
      rw [writeItems, List.map_cons, runOps, runOp]
      cases write env.feeds.injection writer item written.1 with
      | error error => rfl
      | ok result => exact ih (result.1, if result.2 then written.2 + 1 else written.2)

-- A batch is the transaction of its items, or nothing.
theorem batch_transacts (writer : Writer) (validator : Json K → Bool) (items : List (Json K)) (committed : Tables K) :
    (upsertBatch env.feeds.injection writer validator items committed.flush).1 =
      if items.all validator then transact env committed.flush (items.map (.inject writer)) else committed.flush := by
  have run := write_items_run env writer items (committed.flush, 0)
  rw [upsertBatch, transact, ← run]
  cases items with
  | nil => exact (tables_flush_flush committed).symm
  | cons item rest =>
      by_cases valid : (item :: rest).all validator = true
      · rw [if_pos valid, valid]
        cases writeItems env.feeds.injection writer (item :: rest) (committed.flush, 0) <;> rfl
      · rw [if_neg valid, if_neg (by simp), if_pos (by rw [eq_false_of_ne_true valid]; rfl)]

theorem single_transacts (writer : Writer) (body : Json K) (committed : Tables K) :
    single env.feeds.injection writer body committed = transact env committed [.inject writer body] := by
  rw [single, transact, runOps, runOp]
  cases write env.feeds.injection writer body committed <;> rfl

theorem one_op_spaced (op : StoreOp K) : spacedBumps env [op] = true := by
  have alone : ∀ {V : Type} (flushes : Bool) (change : Option (V → V)), spaced false (accesses flushes change ++ []) = true := by
    intro V flushes change
    cases flushes <;> cases change <;> rfl
  rw [spacedBumps, Bool.and_eq_true]
  exact ⟨alone _ _, alone _ _⟩

theorem no_op_transacts (committed : Tables K) : transact env committed.flush [] = committed.flush := tables_flush_flush committed

theorem sync_database_applied (databaseType : DatabaseType) (url : String) (checksum : Json K) (tables written : Tables K)
    (done : syncDatabase env databaseType url checksum tables = .ok written) :
    ∃ body, applyBody env databaseType body tables = .ok written := by
  rw [syncDatabase] at done
  split at done
  · cases done
  · split at done
    · cases done
    · exact ⟨_, done⟩

-- A database URL is a transaction of its own.
theorem sync_row_transacts (state : SyncState K) (row : Option (Json K)) (committed : Tables K) (reached : state.tables = committed.flush) :
    ∃ ops, spacedBumps env ops = true ∧ (syncRow env state row).tables = transact env state.tables ops := by
  have nothing : ∃ ops, spacedBumps env ops = true ∧ state.tables = transact env state.tables ops := by
    refine ⟨[], rfl, ?_⟩
    rw [reached, no_op_transacts]
  unfold syncRow
  split
  · exact nothing
  · cases row with
    | none => exact nothing
    | some row =>
        by_cases shaped : row.isObject = true
        · simp only [shaped, if_true]
          unfold syncUrl
          simp only
          split
          · split
            · exact nothing
            · split
              · exact nothing
              · split
                · exact nothing
                · rename_i databaseType _ _ written done
                  obtain ⟨body, applied⟩ := sync_database_applied env _ _ _ _ _ done
                  refine ⟨[.sync databaseType body], one_op_spaced env _, ?_⟩
                  rw [transact, runOps, runOp, applied]
                  rfl
          · exact nothing
        · simp only [shaped]
          exact nothing

theorem sync_transacts (start : Tables K) (rows : List (Option (Json K))) (state : SyncState K) (reached : state.tables = start.flush) :
    ∃ transactions, (∀ ops ∈ transactions, spacedBumps env ops = true) ∧
      (syncRows env rows state).tables = transactAll env start.flush transactions := by
  induction rows generalizing start state with
  | nil => exact ⟨[], (fun _ member => by cases member), reached⟩
  | cons row rest ih =>
      obtain ⟨ops, apart, same⟩ := sync_row_transacts env state row start reached
      obtain ⟨committed, isFlushed⟩ := transact_committed env start [ops]
      have step : (syncRow env state row).tables = committed.flush := by
        rw [same, reached]
        exact isFlushed
      obtain ⟨transactions, others, run⟩ := ih committed _ step
      refine ⟨ops :: transactions, ?_, ?_⟩
      · rw [List.forall_mem_cons]
        exact ⟨apart, others⟩
      · rw [transactAll, List.foldl_cons, ← reached, ← same, step]
        exact run

def sasAdminItem : Json Rat := .object [("record", .object [("id", .text "sas-1")])]

def escZoneAt (id : String) : Json Rat := .object [("id", .text id)]

theorem counters_never_back_sample :
    let env := syncSampleEnv ByteArray.empty
    let earlier := transactAll env Tables.empty.flush [[.inject .sasAdmin sasAdminItem]]
    Advanced env (committedOps env earlier [.inject .escZone (escZoneAt "esc-1"), .sync .gwbl ByteArray.empty]) earlier
      (transactAll env Tables.empty.flush ([[.inject .sasAdmin sasAdminItem]] ++
        [[.inject .escZone (escZoneAt "esc-1"), .sync .gwbl ByteArray.empty]])) :=
  counters_never_back (syncSampleEnv ByteArray.empty) Tables.empty
    [[.inject .sasAdmin sasAdminItem], [.inject .escZone (escZoneAt "esc-1"), .sync .gwbl ByteArray.empty]]
    (by decide +kernel) [[.inject .sasAdmin sasAdminItem]] [.inject .escZone (escZoneAt "esc-1"), .sync .gwbl ByteArray.empty] [] rfl

-- The second item of the batch reads the map that the first one has deleted.
theorem batch_resets_counters :
    let env := (syncSampleEnv ByteArray.empty).feeds.injection
    let earlier := single env .sasAdmin sasAdminItem Tables.empty
    let later := (upsertBatch env .escZone (·.isObject) [escZoneAt "esc-1", escZoneAt "esc-2"] earlier).1
    generationOf earlier .sasAdmin = 1 ∧ generationOf later .sasAdmin = 0 := by
  decide +kernel

end Runs

end SasCore.Federal
