import SasCore.Federal.Sites
import SasCore.Federal.FssGwbl
import SasCore.Federal.ExclusionZones
import SasCore.Injection.KeyMap
import SasCore.Lib.Collect

set_option autoImplicit false
set_option linter.unusedSectionVars false

namespace SasCore.Federal

open Injection Orm

variable {K : Type} [Field K] [LinearOrder K] (env : FeedEnv K)

inductive IncumbentStep (K : Type) where
  | injectFss (body : Json K)
  | injectWisp (body : Json K)
  | injectExclusionZone (body : Json K)
  | syncFss (payload : Json K)
  | syncGwbl (body : ByteArray)
  | syncExclusionZones (body : ByteArray)

-- What a step commits; one that raises leaves the tables.
def incumbentStep (committed : Tables K) : IncumbentStep K → Tables K
  | .injectFss body => single env.injection .fss body committed
  | .injectWisp body => single env.injection .wisp body committed
  | .injectExclusionZone body => (persistExclusionZone env body committed).toOption.getD committed
  | .syncFss payload => ((replaceFssFromFederalPayload env payload committed).map (·.flush)).toOption.getD committed
  | .syncGwbl body => ((replaceGwblFromZip env body committed).map (·.flush)).toOption.getD committed
  | .syncExclusionZones body => ((applyExclusionZoneKml env body committed).map (·.flush)).toOption.getD committed

def incumbentRun (committed : Tables K) (steps : List (IncumbentStep K)) : Tables K := steps.foldl (incumbentStep env) committed

-- The id under which the admission of grants knows the points of an FSS record.
def iapFssId (payload : Json K) : String :=
  let record := if (payload.field "record").isObject then payload.field "record" else payload
  let id := String.ofList (PyText.strip ((orValue (record.field "id") (.text "fss")).toText env.readers).toList)
  if id = "" then "fss" else id

-- The id of a record, whose text is not empty and has no white space around it.
structure HasId (body : Json K) (id : String) : Prop where
  given : ((body.field "record").field "id").isNull = false
  text : ((body.field "record").field "id").toText env.readers = id
  bare : PyText.strip id.toList = id.toList
  filled : id ≠ ""

def keepsFss (id : String) : IncumbentStep K → Prop
  | .injectFss body => naturalKey env.injection .fss body ≠ some id
  | .syncFss payload => ∀ record ∈ siteRecords env (fssSites payload), fssRecordId env.readers record ≠ some id
  | _ => True

def keepsUnnamed (body : Json K) : IncumbentStep K → Prop
  | .injectFss other => naturalKey env.injection .fss other = none ∨
      naturalKey env.injection .fss other ≠ naturalKey env.injection .fss body
  | _ => True

def keepsGwbl (key : Option String) : IncumbentStep K → Prop
  | .injectWisp body => ∀ point, planned env.injection .wisp body = .ok (some (.gwbl, point)) → naturalKey env.injection .gwbl point ≠ key
  | .syncGwbl _ => False
  | _ => True

def keepsZones : IncumbentStep K → Prop
  | .syncExclusionZones _ => False
  | _ => True

section Provenance

-- No entry of the map says that the id came with a federal feed.
def NotFederal (id : String) (mapping : List (String × FssSource)) : Prop :=
  ∀ entry ∈ mapping, entry.1 = id → entry.2 ≠ .federalDbSync

theorem not_federal_set (id key : String) (source : FssSource) (mapping : List (String × FssSource))
    (kept : key = id → source ≠ .federalDbSync) (before : NotFederal id mapping) : NotFederal id (PyDict.set key source mapping) := by
  intro entry member isId
  rcases PyDict.mem_set key source mapping entry member with isNew | old
  · rw [isNew] at isId ⊢
    exact kept isId
  · exact before entry old isId

theorem not_federal_sets (id : String) (entries mapping : List (String × FssSource)) (each : NotFederal id entries)
    (before : NotFederal id mapping) :
    NotFederal id (entries.foldl (fun dict entry => PyDict.set entry.1 entry.2 dict) mapping) := by
  induction entries generalizing mapping with
  | nil => exact before
  | cons entry rest ih =>
      apply ih
      · exact fun other member => each other (List.mem_cons_of_mem entry member)
      · exact not_federal_set id entry.1 entry.2 mapping (each entry List.mem_cons_self) before

theorem not_federal_rows (id : String) (rows : List (List (String × FssSource))) (each : ∀ row ∈ rows, NotFederal id row)
    (mapping : List (String × FssSource)) (before : NotFederal id mapping) :
    NotFederal id (rows.foldl (fun merged row => row.foldl (fun dict entry => PyDict.set entry.1 entry.2 dict) merged) mapping) := by
  induction rows generalizing mapping with
  | nil => exact before
  | cons row rest ih =>
      apply ih
      · exact fun other member => each other (List.mem_cons_of_mem row member)
      · exact not_federal_sets id row mapping (each row List.mem_cons_self) before

-- No stored map tags the id, and none waits for a flush.
structure Untagged (id : String) (tables : Tables K) : Prop where
  committed : tables.provenance.flush = tables.provenance
  rows : ∀ row ∈ tables.provenance.settled, NotFederal id row

theorem untagged_map (id : String) (tables : Tables K) (untagged : Untagged id tables) : NotFederal id (loadFssProvenanceMap tables) := by
  apply not_federal_rows
  · have all : tables.provenance.all = tables.provenance.settled := by
      rw [← untagged.committed, all_flush, settled_flush]
    rw [all]
    exact untagged.rows
  · intro entry member
    cases member

theorem untagged_flush (id : String) (tables : Tables K) (untagged : Untagged id tables) : Untagged id tables.flush := by
  refine ⟨congrArg Table.stored (settled_flush tables.provenance), fun row member => untagged.rows row ?_⟩
  rw [← settled_flush tables.provenance]
  exact member

theorem untagged_persist (id : String) (mapping : List (String × FssSource)) (tables : Tables K)
    (committed : tables.provenance.flush = tables.provenance) (kept : NotFederal id mapping) :
    Untagged id (persistFssProvenanceMap mapping tables) := by
  have clean : tables.provenance.Clean := by
    rw [← committed]
    exact flush_clean _
  have flushed : tables.provenance.pending = [] := by
    rw [← committed]
    rfl
  refine ⟨congrArg Table.stored (settled_flush _), fun row member => ?_⟩
  rw [persistFssProvenanceMap, Tables.flush_provenance, settled_flush] at member
  by_cases empty : mapping.isEmpty = true
  · rw [if_pos empty, settled_doom, flushed, List.append_nil, List.mem_filter] at member
    cases member.2
  · rw [if_neg empty] at member
    rcases (mem_settled_supersede tables.provenance mapping (fun _ => true) clean flushed row).mp member with isNew | ⟨_, missed⟩
    · rw [isNew]
      exact kept
    · cases missed

theorem untagged_federal (id : String) (tables : Tables K) (untagged : Untagged id tables) :
    isFederalSyncFss (some id) tables = false := by
  simp only [isFederalSyncFss]
  split
  · rfl
  · rw [decide_eq_false_iff_not]
    intro found
    rw [PyDict.lookup, Option.map_eq_some_iff] at found
    obtain ⟨entry, first, isFederal⟩ := found
    have isId : entry.1 = id := by simpa using List.find?_some first
    exact untagged_map id tables untagged entry (List.mem_of_find?_eq_some first) isId isFederal

end Provenance

section Fss

theorem untagged_clear (id : String) (tables : Tables K) (untagged : Untagged id tables) :
    Untagged id (deleteFederalSyncFssRows env.readers tables) := by
  rw [deleteFederalSyncFssRows]
  simp only
  split
  · exact untagged
  · apply untagged_persist
    · exact untagged.committed
    · intro entry member
      exact untagged_map id tables untagged entry (List.mem_of_mem_filter member)

theorem upsert_site_map (id : String) (record : Json K) (apart : fssRecordId env.readers record ≠ some id)
    (held : Tables K × List (String × FssSource)) (committed : held.1.provenance.flush = held.1.provenance)
    (before : NotFederal id held.2) :
    (upsertSite env record held).1.provenance = held.1.provenance ∧ NotFederal id (upsertSite env record held).2 := by
  rw [upsertSite, upsertFssPayload]
  cases own : fssRecordId env.readers record with
  | none => exact ⟨committed, before⟩
  | some other =>
      refine ⟨committed, not_federal_set id other .federalDbSync held.2 (fun same => ?_) before⟩
      rw [own, same] at apart
      exact absurd rfl apart

theorem upsert_sites_map (id : String) (records : List (Json K)) (apart : ∀ record ∈ records, fssRecordId env.readers record ≠ some id)
    (held : Tables K × List (String × FssSource)) (committed : held.1.provenance.flush = held.1.provenance)
    (before : NotFederal id held.2) :
    (records.foldl (fun held record => upsertSite env record held) held).1.provenance = held.1.provenance ∧
      NotFederal id (records.foldl (fun held record => upsertSite env record held) held).2 := by
  induction records generalizing held with
  | nil => exact ⟨rfl, before⟩
  | cons record rest ih =>
      obtain ⟨same, after⟩ := upsert_site_map env id record (apart record List.mem_cons_self) held committed before
      obtain ⟨later, last⟩ := ih (fun other member => apart other (List.mem_cons_of_mem record member)) _ (same ▸ committed) after
      exact ⟨later.trans same, last⟩

theorem untagged_replace (id : String) (payload : Json K) (before after : Tables K) (untagged : Untagged id before)
    (apart : ∀ record ∈ siteRecords env (fssSites payload), fssRecordId env.readers record ≠ some id)
    (replaced : replaceFssFromFederalPayload env payload before = .ok after) : Untagged id after := by
  have cleared := untagged_clear env id before untagged
  rw [replaceFssFromFederalPayload] at replaced
  obtain ⟨held, done, written⟩ := Collect.map_ok _ _ after replaced
  rw [← written]
  obtain ⟨same, last⟩ := upsert_sites_map env id _ apart
    (deleteFederalSyncFssRows env.readers before, loadFssProvenanceMap (deleteFederalSyncFssRows env.readers before))
    cleared.committed (untagged_map id _ cleared)
  rw [← upsert_sites_run env _ _ held done] at same last
  have persisted := untagged_persist id held.2 held.1 (same ▸ cleared.committed) last
  exact ⟨persisted.committed, persisted.rows⟩

theorem replace_other (kind : Kind) (apart : kind ≠ .fss) (payload : Json K) (before after : Tables K)
    (replaced : replaceFssFromFederalPayload env payload before = .ok after) :
    (after.records kind).settled = (before.records kind).settled := by
  have upserts : ∀ (records : List (Json K)) (held : Tables K × List (String × FssSource)),
      ((records.foldl (fun held record => upsertSite env record held) held).1.records kind).settled =
        (held.1.records kind).settled := by
    intro records
    induction records with
    | nil => exact fun _ => rfl
    | cons record rest ih =>
        intro held
        rw [List.foldl_cons, ih, upsertSite, upsertFssPayload]
        cases fssRecordId env.readers record with
        | none =>
            simp only [Tables.flush_records, settled_flush]
            rw [Tables.set_records_other .fss kind _ _ apart]
        | some id =>
            simp only [Tables.flush_records, settled_flush]
            rw [Tables.set_records_other .fss kind _ _ apart]
  have cleared : ((deleteFederalSyncFssRows env.readers before).records kind).settled = (before.records kind).settled := by
    rw [deleteFederalSyncFssRows]
    simp only
    split
    · rfl
    · rw [persistFssProvenanceMap]
      simp only [Tables.flush_records, settled_flush]
      rw [Tables.set_records_other .fss kind _ _ apart]
  rw [replaceFssFromFederalPayload] at replaced
  obtain ⟨held, done, written⟩ := Collect.map_ok _ _ after replaced
  rw [← written, ← cleared, ← upserts (siteRecords env (fssSites payload))
    (deleteFederalSyncFssRows env.readers before, loadFssProvenanceMap (deleteFederalSyncFssRows env.readers before)),
    ← upsert_sites_run env _ _ held done]
  exact settled_flush (held.1.records kind)

end Fss

section Rows

-- A row of a kind, in a state with nothing of that kind left to flush.
structure RowPresent (kind : Kind) (row : Option (Json K)) (tables : Tables K) : Prop where
  committed : (tables.records kind).flush = tables.records kind
  stored : row ∈ (tables.records kind).settled

theorem present_settled (kind : Kind) (row : Option (Json K)) (before after : Tables K)
    (same : (after.records kind).settled = (before.records kind).settled) (present : RowPresent kind row before) :
    RowPresent kind row after.flush := by
  refine ⟨congrArg Table.stored (settled_flush _), ?_⟩
  rw [Tables.flush_records, settled_flush, same]
  exact present.stored

theorem present_clean (kind : Kind) (row : Option (Json K)) (tables : Tables K) (present : RowPresent kind row tables) :
    (tables.records kind).Clean := by
  rw [← present.committed]
  exact flush_clean _

theorem store_settled (tables : Tables K) (record : Kind × Json K) (kind : Kind) :
    ((store env.injection tables record).records kind).settled =
      ((upsert env.injection record.1 record.2 (naturalKey env.injection record.1 record.2) tables).records kind).settled := by
  rw [store_records]
  simp only
  split
  · exact settled_flush _
  · rfl

-- A record of another key leaves the row.
theorem upsert_present (kind : Kind) (row : Option (Json K)) (tables : Tables K) (record : Kind × Json K)
    (present : RowPresent kind row tables)
    (apart : record.1 = kind → naturalKey env.injection kind record.2 = none ∨
      naturalKey env.injection kind record.2 ≠ storedKey env.injection kind row) :
    row ∈ ((upsert env.injection record.1 record.2 (naturalKey env.injection record.1 record.2) tables).records kind).settled := by
  obtain ⟨own, payload⟩ := record
  by_cases here : kind = own
  · subst here
    simp only
    cases found : naturalKey env.injection kind payload with
    | none =>
        rw [upsert_keyless, settled_add]
        exact List.mem_append_left _ present.stored
    | some key =>
        rw [upsert_own]
        apply settled_put_keeps _ _ _ _ (present_clean kind row tables present) row present.stored
        rcases apart rfl with keyless | different
        · rw [found] at keyless
          cases keyless
        · rw [found] at different
          exact decide_eq_false fun same => different same.symm
  · rw [upsert_other env.injection own kind here]
    exact present.stored

theorem single_present (writer : Writer) (body : Json K) (kind : Kind) (row : Option (Json K)) (tables : Tables K)
    (present : RowPresent kind row tables)
    (apart : ∀ payload, planned env.injection writer body = .ok (some (kind, payload)) →
      naturalKey env.injection kind payload = none ∨ naturalKey env.injection kind payload ≠ storedKey env.injection kind row) :
    RowPresent kind row (single env.injection writer body tables) := by
  rw [single_planned]
  cases plan : planned env.injection writer body with
  | error error => exact present
  | ok stored =>
      cases stored with
      | none => exact present_settled kind row tables tables rfl present
      | some record =>
          refine ⟨congrArg Table.stored (settled_flush _), ?_⟩
          simp only [Tables.flush_records, settled_flush]
          rw [storeIf, Option.map_some, Option.getD_some, store_settled]
          apply upsert_present env kind row tables record present
          rintro rfl
          exact apart record.2 plan

theorem adds_other (own kind : Kind) (apart : kind ≠ own) (records : List (Json K)) (tables : Tables K) :
    ((records.foldl (fun held record => held.setRecords own (·.add (some record))) tables).records kind) = tables.records kind := by
  induction records generalizing tables with
  | nil => rfl
  | cons record rest ih =>
      rw [List.foldl_cons, ih]
      exact Tables.set_records_other own kind _ tables apart

theorem gwbl_other (kind : Kind) (apart : kind ≠ .gwbl) (body : ByteArray) (before after : Tables K)
    (replaced : replaceGwblFromZip env body before = .ok after) : after.records kind = before.records kind := by
  obtain ⟨records, _, written⟩ := Collect.map_ok _ _ after replaced
  have unchanged : (bumpSyncMeta .gwbl (records.foldl (fun held record => held.setRecords .gwbl (·.add (some record)))
      (before.setRecords .gwbl (·.clear)))).records kind = before.records kind :=
    (adds_other .gwbl kind apart records _).trans (Tables.set_records_other .gwbl kind _ before apart)
  rw [← written]
  exact unchanged

theorem zones_other (kind : Kind) (apart : kind ≠ .exclusionZone) (body : ByteArray) (before after : Tables K)
    (replaced : applyExclusionZoneKml env body before = .ok after) : after.records kind = before.records kind := by
  rw [applyExclusionZoneKml] at replaced
  split at replaced
  · cases replaced
  · rename_i root _
    cases replaced
    exact (adds_other .exclusionZone kind apart (zoneRecords env root) _).trans
      (Tables.set_records_other .exclusionZone kind _ before apart)

end Rows

section Steps

theorem fss_only (body : Json K) (record : Kind × Json K) (plan : planned env.injection .fss body = .ok (some record)) :
    record = (.fss, body) := by
  simp only [planned] at plan
  split at plan
  · cases plan
  · split at plan
    · cases plan
    · split at plan
      · cases plan
        rfl
      · cases plan

theorem wisp_kinds (body : Json K) (record : Kind × Json K) (plan : planned env.injection .wisp body = .ok (some record)) :
    record.1 = .wisp ∨ record.1 = .gwbl := by
  simp only [planned] at plan
  split at plan
  · cases plan
  · split at plan
    · cases plan
    · cases plan
      exact .inl rfl
    · split at plan
      · cases plan
      · rename_i point _
        cases point with
        | none => cases plan
        | some point =>
            cases plan
            exact .inr rfl

-- A step that is no sync of the kind and re-injects nothing under its key leaves a row of the kind.
theorem step_present (kind : Kind) (row : Option (Json K)) (step : IncumbentStep K) (tables : Tables K)
    (present : RowPresent kind row tables)
    (fss : ∀ body, step = .injectFss body → kind = .fss → naturalKey env.injection .fss body = none ∨
      naturalKey env.injection .fss body ≠ storedKey env.injection kind row)
    (wisp : ∀ body payload, step = .injectWisp body → planned env.injection .wisp body = .ok (some (kind, payload)) →
      naturalKey env.injection kind payload = none ∨
        naturalKey env.injection kind payload ≠ storedKey env.injection kind row)
    (noFss : ∀ payload, step = .syncFss payload → kind ≠ .fss) (noGwbl : ∀ body, step = .syncGwbl body → kind ≠ .gwbl)
    (noZones : ∀ body, step = .syncExclusionZones body → kind ≠ .exclusionZone) :
    RowPresent kind row (incumbentStep env tables step) := by
  cases step with
  | injectFss body =>
      apply single_present env .fss body kind row tables present
      intro payload plan
      cases fss_only env body (kind, payload) plan
      exact fss body rfl rfl
  | injectWisp body => exact single_present env .wisp body kind row tables present fun payload => wisp body payload rfl
  | injectExclusionZone body =>
      rw [incumbentStep]
      cases done : persistExclusionZone env body tables with
      | error error => exact present
      | ok after =>
          obtain ⟨_, _, written⟩ := Collect.map_ok _ _ after done
          simp only [Except.toOption, Option.getD_some]
          rw [← written]
          by_cases here : kind = .exclusionZone
          · refine ⟨congrArg Table.stored (settled_flush _), ?_⟩
            rw [here, Tables.flush_records, settled_flush, Tables.set_records_same, settled_add]
            exact List.mem_append_left _ (here ▸ present.stored)
          · apply present_settled kind row tables _ _ present
            rw [Tables.set_records_other .exclusionZone kind _ tables here]
  | syncFss payload =>
      rw [incumbentStep]
      cases done : replaceFssFromFederalPayload env payload tables with
      | error error => exact present
      | ok after => exact present_settled kind row tables after (replace_other env kind (noFss payload rfl) payload tables after done) present
  | syncGwbl body =>
      rw [incumbentStep]
      cases done : replaceGwblFromZip env body tables with
      | error error => exact present
      | ok after =>
          have same := gwbl_other env kind (noGwbl body rfl) body tables after done
          exact present_settled kind row tables after (congrArg Table.settled same) present
  | syncExclusionZones body =>
      rw [incumbentStep]
      cases done : applyExclusionZoneKml env body tables with
      | error error => exact present
      | ok after =>
          have same := zones_other env kind (noZones body rfl) body tables after done
          exact present_settled kind row tables after (congrArg Table.settled same) present

end Steps

section Tags

theorem untagged_set (id key : String) (tables : Tables K) (untagged : Untagged id tables) :
    Untagged id (setFssProvenance key .adminInjected tables) := by
  apply untagged_persist
  · exact untagged.committed
  · apply not_federal_set
    · intro _ same
      cases same
    · exact untagged_map id tables untagged

theorem untagged_store (id : String) (record : Kind × Json K) (tables : Tables K) (untagged : Untagged id tables) :
    Untagged id (store env.injection tables record) := by
  have upserted : (upsert env.injection record.1 record.2 (naturalKey env.injection record.1 record.2) tables).provenance =
      tables.provenance := by
    cases naturalKey env.injection record.1 record.2 <;> rfl
  have before : Untagged id (upsert env.injection record.1 record.2 (naturalKey env.injection record.1 record.2) tables) :=
    ⟨upserted ▸ untagged.committed, upserted ▸ untagged.rows⟩
  have marked : Untagged id (tag record.1 (naturalKey env.injection record.1 record.2)
      (upsert env.injection record.1 record.2 (naturalKey env.injection record.1 record.2) tables)) := by
    rw [tag]
    split
    · exact untagged_set id _ _ before
    · exact before
  have bumps : ∀ (feed : Option Cpas.SyncKey) (counter : Counter) (others : Tables K),
      (bumpInjectionGeneration counter (bumpFeed feed others)).provenance = others.provenance := by
    intro feed counter others
    cases feed <;> rfl
  refine ⟨?_, fun row member => ?_⟩
  · rw [store, bumps]
    exact marked.committed
  · rw [store, bumps] at member
    exact marked.rows row member

theorem untagged_single (id : String) (writer : Writer) (body : Json K) (tables : Tables K) (untagged : Untagged id tables) :
    Untagged id (single env.injection writer body tables) := by
  rw [single_planned]
  cases planned env.injection writer body with
  | error error => exact untagged
  | ok stored =>
      apply untagged_flush
      cases stored with
      | none => exact untagged
      | some record => exact untagged_store env id record tables untagged

theorem adds_provenance (own : Kind) (records : List (Json K)) (tables : Tables K) :
    (records.foldl (fun held record => held.setRecords own (·.add (some record))) tables).provenance = tables.provenance := by
  induction records generalizing tables with
  | nil => rfl
  | cons record rest ih => exact ih _

theorem untagged_same (id : String) (before after : Tables K) (same : after.provenance = before.provenance)
    (untagged : Untagged id before) : Untagged id after.flush :=
  untagged_flush id after ⟨same ▸ untagged.committed, same ▸ untagged.rows⟩

theorem step_untagged (id : String) (step : IncumbentStep K) (tables : Tables K) (untagged : Untagged id tables)
    (keeps : keepsFss env id step) : Untagged id (incumbentStep env tables step) := by
  cases step with
  | injectFss body => exact untagged_single env id .fss body tables untagged
  | injectWisp body => exact untagged_single env id .wisp body tables untagged
  | injectExclusionZone body =>
      rw [incumbentStep]
      cases done : persistExclusionZone env body tables with
      | error error => exact untagged
      | ok after =>
          obtain ⟨_, _, written⟩ := Collect.map_ok _ _ after done
          simp only [Except.toOption, Option.getD_some]
          rw [← written]
          exact untagged_same id tables (tables.setRecords .exclusionZone _) rfl untagged
  | syncFss payload =>
      rw [incumbentStep]
      cases done : replaceFssFromFederalPayload env payload tables with
      | error error => exact untagged
      | ok after => exact untagged_flush id after (untagged_replace env id payload tables after untagged keeps done)
  | syncGwbl body =>
      rw [incumbentStep]
      cases done : replaceGwblFromZip env body tables with
      | error error => exact untagged
      | ok after =>
          obtain ⟨records, _, written⟩ := Collect.map_ok _ _ after done
          rw [← written]
          exact untagged_same id tables (bumpSyncMeta .gwbl (records.foldl _ (tables.setRecords .gwbl _)))
            (adds_provenance .gwbl records _) untagged
  | syncExclusionZones body =>
      rw [incumbentStep]
      cases done : applyExclusionZoneKml env body tables with
      | error error => exact untagged
      | ok after =>
          rw [applyExclusionZoneKml] at done
          split at done
          · cases done
          · rename_i root _
            cases done
            exact untagged_same id tables (bumpSyncMeta .exz ((zoneRecords env root).foldl _ (tables.setRecords .exclusionZone _)))
              (adds_provenance .exclusionZone _ _) untagged

end Tags

section Ids

variable {env}

theorem HasId.record {body : Json K} {id : String} (has : HasId env body id) :
    ∃ fields, body.field "record" = .object fields ∧ (Json.object fields).truthy = true := by
  have given := has.given
  cases shape : body.field "record" with
  | object fields =>
      refine ⟨fields, rfl, ?_⟩
      cases fields with
      | nil =>
          rw [shape] at given
          cases given
      | cons entry rest => rfl
  | _ =>
      rw [shape] at given
      cases given

theorem HasId.natural_key {body : Json K} {id : String} (has : HasId env body id) : naturalKey env.injection .fss body = some id := by
  obtain ⟨fields, shape, filled⟩ := has.record
  have given := has.given
  have text : ((body.field "record").field "id").toText env.injection.settings.readers = id := has.text
  rw [shape] at given text
  simp only [naturalKey, recordNaturalKey, shape, filled, given, text]
  rfl

theorem HasId.object {body : Json K} {id : String} (has : HasId env body id) : body.isObject = true := by
  obtain ⟨fields, shape, _⟩ := has.record
  cases body with
  | object held => rfl
  | _ => cases shape

theorem HasId.record_id {body : Json K} {id : String} (has : HasId env body id) : fssRecordId env.readers body = some id := by
  obtain ⟨fields, shape, _⟩ := has.record
  have given := has.given
  have text := has.text
  rw [shape] at given text
  have shaped := has.object
  have filled : id.toList ≠ [] := by simpa using has.filled
  have record : (Json.object fields).isObject = true := rfl
  simp [fssRecordId, shaped, shape, record, text, has.bare, given, filled]

theorem HasId.iap_id {body : Json K} {id : String} (has : HasId env body id)
    (counts : ((body.field "record").field "id").truthy = true) : iapFssId env body = id := by
  obtain ⟨fields, shape, _⟩ := has.record
  have text := has.text
  rw [shape] at counts text
  simp [iapFssId, shape, Json.isObject, orValue, counts, text, has.bare, has.filled]

end Ids

section Incumbents

variable {env}

theorem stored_natural_key (kind : Kind) (payload : Json K) (shaped : payload.isObject = true) :
    storedKey env.injection kind (some payload) = naturalKey env.injection kind payload := stored_key env.injection kind payload shaped

-- The row a writer stores is there after its commit.
theorem injected_present (writer : Writer) (body payload : Json K) (kind : Kind)
    (plan : planned env.injection writer body = .ok (some (kind, payload))) (tables : Tables K) :
    RowPresent kind (some payload) (single env.injection writer body tables.flush) := by
  rw [single_planned, plan]
  refine ⟨congrArg Table.stored (settled_flush _), ?_⟩
  simp only [Tables.flush_records, settled_flush]
  rw [storeIf, Option.map_some, Option.getD_some, store_settled]
  simp only
  cases naturalKey env.injection kind payload with
  | none =>
      rw [upsert_keyless, settled_add]
      exact List.mem_append_right _ (List.mem_singleton_self _)
  | some key =>
      rw [upsert_own]
      exact settled_put_own _ _ _ (flush_clean (tables.records kind))

theorem zone_present (body : Json K) (before after : Tables K) (done : persistExclusionZone env body before.flush = .ok after)
    (shaped : body.isObject = true) : RowPresent .exclusionZone (some body) after := by
  rw [persistExclusionZone, if_pos shaped] at done
  obtain ⟨_, _, written⟩ := Collect.map_ok _ _ after done
  rw [← written]
  refine ⟨congrArg Table.stored (settled_flush _), ?_⟩
  rw [Tables.flush_records, settled_flush, Tables.set_records_same, settled_add]
  exact List.mem_append_right _ (List.mem_singleton_self _)

theorem load_distinct (rows : List (List (String × FssSource))) (mapping : List (String × FssSource))
    (distinct : (mapping.map (·.1)).Nodup) :
    ((rows.foldl (fun merged row => row.foldl (fun dict entry => PyDict.set entry.1 entry.2 dict) merged) mapping).map (·.1)).Nodup := by
  have inner : ∀ (row dict : List (String × FssSource)), (dict.map (·.1)).Nodup →
      ((row.foldl (fun dict entry => PyDict.set entry.1 entry.2 dict) dict).map (·.1)).Nodup := by
    intro row
    induction row with
    | nil => exact fun _ before => before
    | cons entry rest ih => exact fun dict before => ih _ (PyDict.set_keys entry.1 entry.2 dict before).1
  induction rows generalizing mapping with
  | nil => exact distinct
  | cons row rest ih => exact ih _ (inner row mapping distinct)

-- Tagging a record as injected leaves no entry that calls it federal.
theorem tagged_not_federal (id : String) (tables : Tables K) :
    NotFederal id (PyDict.set id .adminInjected (loadFssProvenanceMap tables)) := by
  have distinct := (PyDict.set_keys id .adminInjected (loadFssProvenanceMap tables) (load_distinct _ [] List.nodup_nil)).1
  intro entry member isId
  have found := PyDict.lookup_mem _ distinct entry.1 entry.2 member
  rw [isId, PyDict.lookup_set, if_pos rfl] at found
  rw [← Option.some.inj found]
  intro absurdity
  cases absurdity

theorem injected_untagged (body : Json K) (id : String) (has : HasId env body id)
    (plan : planned env.injection .fss body = .ok (some (.fss, body))) (tables : Tables K) :
    Untagged id (single env.injection .fss body tables.flush) := by
  have marked : tagged .fss id = true := by simp [tagged, has.filled]
  rw [single_planned, plan]
  apply untagged_flush
  have stored : Untagged id (setFssProvenance id .adminInjected (upsert env.injection .fss body (some id) tables.flush)) := by
    apply untagged_persist
    · exact congrArg Table.stored (settled_flush tables.provenance)
    · exact tagged_not_federal id _
  have written : (storeIf env.injection tables.flush (some (.fss, body))).provenance =
      (setFssProvenance id .adminInjected (upsert env.injection .fss body (some id) tables.flush)).provenance := by
    simp only [storeIf, Option.map_some, Option.getD_some, store, has.natural_key, tag, marked]
    rfl
  exact ⟨written ▸ stored.committed, written ▸ stored.rows⟩

-- A stored FSS record stays through a step that does not re-inject its key, unless a feed replaces or deletes it.
theorem fss_step (body : Json K) (shaped : body.isObject = true) (step : IncumbentStep K) (tables : Tables K)
    (present : RowPresent .fss (some body) tables)
    (injected : ∀ other, step = .injectFss other → naturalKey env.injection .fss other = none ∨
      naturalKey env.injection .fss other ≠ naturalKey env.injection .fss body)
    (fed : ∀ payload, step = .syncFss payload → federalTagged env tables (some body) = false ∧
      ∀ record ∈ siteRecords env (fssSites payload), replaces env record (some body) = false) :
    RowPresent .fss (some body) (incumbentStep env tables step) := by
  have general : (∀ payload, step ≠ .syncFss payload) → RowPresent .fss (some body) (incumbentStep env tables step) := by
    intro notFeed
    apply step_present env .fss (some body) step tables present
    · intro other same _
      rw [stored_natural_key .fss body shaped]
      exact injected other same
    · intro other payload _ plan
      rcases wisp_kinds env other _ plan with wrong | wrong <;> cases wrong
    · intro payload same
      exact absurd same (notFeed payload)
    · exact fun _ _ absurdity => by cases absurdity
    · exact fun _ _ absurdity => by cases absurdity
  cases step with
  | syncFss payload =>
      rw [incumbentStep]
      cases done : replaceFssFromFederalPayload env payload tables with
      | error error => exact present
      | ok after =>
          obtain ⟨untagged, apart⟩ := fed payload rfl
          have stays : some body ∈ fssRows after :=
            (replaced_rows env payload tables after present.committed done (some body)).mpr (.inr ⟨present.stored, untagged, apart⟩)
          rw [← rows_flush] at stays
          exact ⟨congrArg Table.stored (settled_flush _), stays⟩
  | injectFss other => exact general fun payload absurdity => by cases absurdity
  | injectWisp other => exact general fun payload absurdity => by cases absurdity
  | injectExclusionZone other => exact general fun payload absurdity => by cases absurdity
  | syncGwbl other => exact general fun payload absurdity => by cases absurdity
  | syncExclusionZones other => exact general fun payload absurdity => by cases absurdity

theorem fss_step_named (body : Json K) (id : String) (has : HasId env body id) (step : IncumbentStep K) (tables : Tables K)
    (present : RowPresent .fss (some body) tables) (untagged : Untagged id tables) (keeps : keepsFss env id step) :
    RowPresent .fss (some body) (incumbentStep env tables step) := by
  apply fss_step body has.object step tables present
  · intro other same
    rw [has.natural_key]
    rw [same] at keeps
    exact .inr keeps
  · intro payload same
    rw [same] at keeps
    refine ⟨?_, fun record member => ?_⟩
    · have free : (federalIds (loadFssProvenanceMap tables)).contains id = false := by
        rw [← Bool.not_eq_true, List.contains_iff_mem, federalIds, List.mem_map]
        rintro ⟨entry, member, isId⟩
        rw [List.mem_filter] at member
        exact untagged_map id tables untagged entry member.1 isId (of_decide_eq_true member.2)
      rw [federalTagged, storedFssId, Option.bind_some, has.record_id, Option.any_some]
      exact free
    · rw [replaces]
      cases found : fssRecordId env.readers record with
      | none => rfl
      | some other =>
          have different := keeps record member
          rw [found] at different
          rw [storedFssId, Option.bind_some, has.record_id]
          exact decide_eq_false fun same => different same.symm

-- A record whose id is missing or blank is no feed's.
theorem fss_step_unnamed (body : Json K) (shaped : body.isObject = true) (unnamed : fssRecordId env.readers body = none)
    (step : IncumbentStep K) (tables : Tables K) (present : RowPresent .fss (some body) tables)
    (keeps : keepsUnnamed env body step) : RowPresent .fss (some body) (incumbentStep env tables step) := by
  apply fss_step body shaped step tables present
  · intro other same
    rw [same] at keeps
    exact keeps
  · intro payload _
    have bare : storedFssId env.readers (some body) = none := unnamed
    refine ⟨by rw [federalTagged, bare]; rfl, fun record _ => ?_⟩
    rw [replaces, bare]
    split
    · rfl
    · exact decide_eq_false fun absurdity => by cases absurdity

theorem fss_run (body : Json K) (id : String) (has : HasId env body id) (steps : List (IncumbentStep K)) (tables : Tables K)
    (present : RowPresent .fss (some body) tables) (untagged : Untagged id tables) (keeps : ∀ step ∈ steps, keepsFss env id step) :
    RowPresent .fss (some body) (incumbentRun env tables steps) ∧ Untagged id (incumbentRun env tables steps) := by
  induction steps generalizing tables with
  | nil => exact ⟨present, untagged⟩
  | cons step rest ih =>
      have here := keeps step List.mem_cons_self
      exact ih _ (fss_step_named body id has step tables present untagged here) (step_untagged env id step tables untagged here)
        fun other member => keeps other (List.mem_cons_of_mem step member)

theorem unnamed_run (body : Json K) (shaped : body.isObject = true) (unnamed : fssRecordId env.readers body = none)
    (steps : List (IncumbentStep K)) (tables : Tables K) (present : RowPresent .fss (some body) tables)
    (keeps : ∀ step ∈ steps, keepsUnnamed env body step) : RowPresent .fss (some body) (incumbentRun env tables steps) := by
  induction steps generalizing tables with
  | nil => exact present
  | cons step rest ih =>
      exact ih _ (fss_step_unnamed body shaped unnamed step tables present (keeps step List.mem_cons_self))
        fun other member => keeps other (List.mem_cons_of_mem step member)

theorem gwbl_run (point : Json K) (shaped : point.isObject = true) (steps : List (IncumbentStep K)) (tables : Tables K)
    (present : RowPresent .gwbl (some point) tables)
    (keeps : ∀ step ∈ steps, keepsGwbl env (naturalKey env.injection .gwbl point) step) :
    RowPresent .gwbl (some point) (incumbentRun env tables steps) := by
  induction steps generalizing tables with
  | nil => exact present
  | cons step rest ih =>
      have here := keeps step List.mem_cons_self
      refine ih _ ?_ fun other member => keeps other (List.mem_cons_of_mem step member)
      apply step_present env .gwbl (some point) step tables present
      · intro body _ absurdity
        cases absurdity
      · intro body payload same plan
        rw [same] at here
        rw [stored_natural_key .gwbl point shaped]
        exact .inr (here payload plan)
      · exact fun _ _ absurdity => by cases absurdity
      · intro body same
        rw [same] at here
        exact here.elim
      · exact fun _ _ absurdity => by cases absurdity

theorem zone_run (body : Json K) (steps : List (IncumbentStep K)) (tables : Tables K)
    (present : RowPresent .exclusionZone (some body) tables) (keeps : ∀ step ∈ steps, keepsZones step) :
    RowPresent .exclusionZone (some body) (incumbentRun env tables steps) := by
  induction steps generalizing tables with
  | nil => exact present
  | cons step rest ih =>
      have here := keeps step List.mem_cons_self
      refine ih _ ?_ fun other member => keeps other (List.mem_cons_of_mem step member)
      apply step_present env .exclusionZone (some body) step tables present
      · intro other _ absurdity
        cases absurdity
      · intro other payload _ plan
        rcases wisp_kinds env other _ plan with wrong | wrong <;> cases wrong
      · exact fun _ _ absurdity => by cases absurdity
      · exact fun _ _ absurdity => by cases absurdity
      · intro other same
        rw [same] at here
        exact here.elim

end Incumbents

section Claims

theorem injected_incumbents_stay (before : Tables K) (steps : List (IncumbentStep K)) :
    (∀ body id, planned env.injection .fss body = .ok (some (.fss, body)) → HasId env body id →
      (∀ step ∈ steps, keepsFss env id step) →
        let reached := incumbentRun env (incumbentStep env before.flush (.injectFss body)) steps
        some body ∈ fssRows reached ∧
          (((body.field "record").field "id").truthy = true → isFederalSyncFss (some (iapFssId env body)) reached = false)) ∧
      (∀ body, planned env.injection .fss body = .ok (some (.fss, body)) → fssRecordId env.readers body = none →
        (∀ step ∈ steps, keepsUnnamed env body step) →
          some body ∈ fssRows (incumbentRun env (incumbentStep env before.flush (.injectFss body)) steps)) ∧
      (∀ body point, planned env.injection .wisp body = .ok (some (.gwbl, point)) →
        (∀ step ∈ steps, keepsGwbl env (naturalKey env.injection .gwbl point) step) →
          some point ∈ ((incumbentRun env (incumbentStep env before.flush (.injectWisp body)) steps).records .gwbl).settled) ∧
      ∀ body after, body.isObject = true → persistExclusionZone env body before.flush = .ok after →
        (∀ step ∈ steps, keepsZones step) →
          some body ∈ ((incumbentRun env (incumbentStep env before.flush (.injectExclusionZone body)) steps).records
            .exclusionZone).settled := by
  refine ⟨fun body id plan has keeps => ?_, fun body plan unnamed keeps => ?_, fun body point plan keeps => ?_,
    fun body after shaped done keeps => ?_⟩
  · have present := injected_present .fss body body .fss plan before
    have untagged := injected_untagged body id has plan before
    obtain ⟨stays, free⟩ := fss_run body id has steps _ present untagged keeps
    refine ⟨stays.stored, fun counts => ?_⟩
    rw [has.iap_id counts]
    exact untagged_federal id _ free
  · have shaped := planned_object env.injection .fss body (.fss, body) plan
    exact (unnamed_run body shaped unnamed steps _ (injected_present .fss body body .fss plan before) keeps).stored
  · have shaped := planned_object env.injection .wisp body (.gwbl, point) plan
    exact (gwbl_run point shaped steps _ (injected_present .wisp body point .gwbl plan before) keeps).stored
  · have present := zone_present body before after done shaped
    have stepped : incumbentStep env before.flush (.injectExclusionZone body) = after := by rw [incumbentStep, done]; rfl
    rw [stepped]
    exact (zone_run body steps after present keeps).stored

end Claims

def injectedFss (id : String) (latitude : Int) : Json Rat :=
  .object [("record", .object [("id", .text id), ("type", .text "FSS"), ("deploymentParam", .array [.object
    [("installationParam", .object [("latitude", .int latitude), ("longitude", .int (-100))]),
      ("operationParam", .object [("operationFrequencyRange",
        .object [("lowFrequency", .int 3600000000), ("highFrequency", .int 4200000000)])])]])])]

theorem injected_plan (id : String) (latitude : Int) (complete : fssHasRequiredFields siteEnv.injection (injectedFss id latitude) = some true) :
    planned siteEnv.injection .fss (injectedFss id latitude) = .ok (some (.fss, injectedFss id latitude)) := by
  rw [planned, complete]
  rfl

theorem injected_incumbents_stay_sample :
    some (injectedFss "A" 40) ∈ fssRows (incumbentRun siteEnv
      (incumbentStep siteEnv Tables.empty.flush (.injectFss (injectedFss "A" 40)))
      [.syncFss (feedOf [siteAt [("call_sign", .text "B")] 45])]) := by
  have plan := injected_plan "A" 40 (by decide +kernel)
  have has : HasId siteEnv (injectedFss "A" 40) "A" := ⟨rfl, rfl, by decide +kernel, by decide⟩
  have keeps : ∀ step ∈ [IncumbentStep.syncFss (feedOf [siteAt [("call_sign", .text "B")] 45])], keepsFss siteEnv "A" step := by
    intro step member
    rw [List.mem_singleton.mp member, keepsFss]
    decide +kernel
  exact ((injected_incumbents_stay siteEnv .empty _).1 (injectedFss "A" 40) "A" plan has keeps).1

-- A federal site of the same call sign takes the place of the injected record.
theorem injected_fss_overridden :
    planned siteEnv.injection .fss (injectedFss "A" 40) = .ok (some (.fss, injectedFss "A" 40)) ∧
      some (injectedFss "A" 40) ∉ fssRows (incumbentRun siteEnv
        (incumbentStep siteEnv Tables.empty.flush (.injectFss (injectedFss "A" 40)))
        [.syncFss (feedOf [siteAt [("call_sign", .text "A")] 45])]) := by
  refine ⟨injected_plan "A" 40 (by decide +kernel), fun member => ?_⟩
  have lost : ¬ StoresStation siteEnv (incumbentRun siteEnv
      (incumbentStep siteEnv Tables.empty.flush (.injectFss (injectedFss "A" 40)))
      [.syncFss (feedOf [siteAt [("call_sign", .text "A")] 45])]) ⟨40, -100, 3600000000, 4200000000⟩ := by
    decide +kernel
  exact lost ⟨some (injectedFss "A" 40), member, rfl⟩

end SasCore.Federal
