import SasCore.Injection.Service

set_option autoImplicit false

namespace SasCore.Injection

open Fad Orm

variable {K : Type} [Field K] [LinearOrder K] (env : InjectionEnv K)

-- The record a writer stores for a body, without the tables it goes to.
def planned (writer : Writer) (body : Json K) : Except String (Option (Kind × Json K)) :=
  match writer with
  | .zone =>
      match body, body.field "record" with
      | .object fields, .object held =>
          (rewriteZoneId env.settings ((Json.object held).field "id") "0").map fun zoneId =>
            let record := Json.object (PyDict.set "id" (.text zoneId) held)
            if zoneRecordAcceptable record then some (.zone, .object (PyDict.set "record" record fields)) else none
      | _, _ => (rewriteZoneId env.settings (.null : Json K) "0").map fun _ => none
  | .fss =>
      if !body.isObject then .ok none
      else
        match fssHasRequiredFields env body with
        | none => .error "AttributeError"
        | some complete => .ok (if complete then some (.fss, body) else none)
  | .wisp =>
      if !body.isObject then .ok none
      else
        match wispHasRequiredFields env body with
        | none => .error "AttributeError"
        | some true => .ok (some (.wisp, body))
        | some false =>
            match gwblPointFromWispBody env body with
            | none => .error "AttributeError"
            | some point => .ok (point.map fun record => (.gwbl, record))
  | .databaseUrl =>
      let dbType := env.upper (String.ofList ((body.field "type").strippedText env.settings.readers))
      let url := String.ofList ((body.field "url").strippedText env.settings.readers)
      if !body.isObject || (dbType ∉ allowedDatabaseTypes || !isValidHttpUrl env url) then .ok none
      else .ok (some (.databaseUrl, databaseUrlPayload env dbType url body))
  | .escZone =>
      let named := (body.field "id").truthy || ((body.field "record").isObject && ((body.field "record").field "id").truthy) ||
        (body.field "zoneId").truthy || (body.field "escZoneId").truthy
      .ok (if !body.isObject || !body.truthy || !named then none else some (.escZone, body))
  | .clusterList =>
      let named := ["userId", "ppaId", "palId", "cbsdIds", "cbsdReferenceId"].any fun key => (body.field key).truthy
      .ok (if !body.isObject || !body.truthy || !named then none else some (.clusterList, body))
  | .sasAdmin =>
      let record := body.field "record"
      .ok (if !body.isObject || !record.isObject || !(record.field "id").truthy then none
        else some (.sasAdmin, .object [("record", record), ("schemaVersion", .int 1)]))

def counterOf : Kind → Counter
  | .zone => .zone
  | .fss => .fss
  | .wisp => .wisp
  | .gwbl => .gwbl
  | .databaseUrl => .databaseUrl
  | .escZone => .escZone
  | .clusterList => .clusterList
  | _ => .sasAdmin

def feedOf : Kind → Option Cpas.SyncKey
  | .fss => some .fss
  | .gwbl => some .gwbl
  | _ => none

def bumpFeed (feed : Option Cpas.SyncKey) (tables : Tables K) : Tables K :=
  match feed with
  | none => tables
  | some feed => bumpSyncMeta feed tables

-- An FSS record with an id is tagged, and the tag is flushed.
def tagged (kind : Kind) (key : String) : Bool := kind = .fss && key != ""

def tag (kind : Kind) (key : Option String) (tables : Tables K) : Tables K :=
  if tagged kind (key.getD "") then setFssProvenance (key.getD "") .adminInjected tables else tables

def store (tables : Tables K) (record : Kind × Json K) : Tables K :=
  let key := naturalKey env record.1 record.2
  bumpInjectionGeneration (counterOf record.1)
    (bumpFeed (feedOf record.1) (tag record.1 key (upsert env record.1 record.2 key tables)))

def storeIf (tables : Tables K) (record : Option (Kind × Json K)) : Tables K := (record.map (store env tables)).getD tables

theorem zone_key (fields held : List (String × Json K)) (zoneId : String) :
    naturalKey env .zone (.object (PyDict.set "record" (.object (PyDict.set "id" (.text zoneId) held)) fields)) = some zoneId := by
  have record : (Json.object (PyDict.set "record" (Json.object (PyDict.set "id" (.text zoneId) held)) fields)).field "record" =
      Json.object (PyDict.set "id" (.text zoneId) held) := by
    rw [Json.field, PyDict.lookup_set, if_pos rfl]
    rfl
  have id : (Json.object (PyDict.set "id" (.text zoneId) held)).field "id" = .text zoneId := by
    rw [Json.field, PyDict.lookup_set, if_pos rfl]
    rfl
  have filled : (Json.object (PyDict.set "id" (Json.text zoneId) held)).truthy = true := by
    cases held with
    | nil => rfl
    | cons entry rest =>
        rw [PyDict.set]
        by_cases here : entry.1 = "id" <;> simp [here, Json.truthy]
  simp only [naturalKey, recordNaturalKey, record, id, filled]
  rfl

-- A writer stores what it planned, and fails where the plan does.
theorem write_planned (writer : Writer) (body : Json K) (tables : Tables K) :
    (write env writer body tables).map (·.1) = (planned env writer body).map (storeIf env tables) := by
  cases writer with
  | zone =>
      simp only [write, planned, persistZoneData]
      cases body with
      | object fields =>
          cases record : (Json.object fields).field "record" with
          | object held =>
              simp only
              cases rewriteZoneId env.settings ((Json.object held).field "id") "0" with
              | error error => rfl
              | ok zoneId =>
                  by_cases fits : zoneRecordAcceptable (Json.object (PyDict.set "id" (Json.text zoneId) held)) = true
                  · simp only [fits, if_true, Except.map, storeIf, store, Option.map_some, Option.getD_some, zone_key]
                    rfl
                  · simp only [fits, Except.map]
                    rfl
          | _ => cases rewriteZoneId env.settings (Json.null : Json K) "0" <;> rfl
      | _ => cases rewriteZoneId env.settings (Json.null : Json K) "0" <;> rfl
  | fss =>
      simp only [write, planned, upsertFssRecord]
      by_cases shaped : body.isObject = true
      · cases fssHasRequiredFields env body with
        | none => simp only [shaped]; rfl
        | some complete =>
            cases complete with
            | false => simp only [shaped]; rfl
            | true =>
                by_cases blank : (naturalKey env Kind.fss body).getD "" = ""
                · simp [shaped, blank, Except.map, storeIf, store, tag, tagged, bumpFeed, feedOf, counterOf]
                · simp [shaped, blank, Except.map, storeIf, store, tag, tagged, bumpFeed, feedOf, counterOf]
      · simp only [shaped]
        rfl
  | wisp =>
      simp only [write, planned, upsertWispRecord]
      by_cases shaped : body.isObject = true
      · cases wispHasRequiredFields env body with
        | none => simp only [shaped]; rfl
        | some zoned =>
            cases zoned with
            | true => simp only [shaped]; rfl
            | false =>
                cases gwblPointFromWispBody env body with
                | none => simp only [shaped]; rfl
                | some point => cases point <;> simp only [shaped] <;> rfl
      · simp only [shaped]
        rfl
  | databaseUrl =>
      simp only [write, planned, persistDatabaseUrl]
      by_cases shaped : body.isObject = true
      · by_cases refused : (decide (env.upper (String.ofList ((body.field "type").strippedText env.settings.readers)) ∉ allowedDatabaseTypes) ||
            !isValidHttpUrl env (String.ofList ((body.field "url").strippedText env.settings.readers))) = true
        · simp only [shaped, refused]
          rfl
        · simp only [shaped, refused]
          rfl
      · simp only [shaped]
        rfl
  | escZone =>
      simp only [write, planned, persistEscZone]
      split <;> rfl
  | clusterList =>
      simp only [write, planned, persistClusterList]
      split <;> rfl
  | sasAdmin =>
      simp only [write, planned, persistSasAdmin]
      split <;> rfl

theorem gwbl_point_shape (body record : Json K) (point : gwblPointFromWispBody env body = some (some record)) :
    ∃ id fields, record = .object (("id", .text id) :: fields) := by
  unfold gwblPointFromWispBody at point
  simp only at point
  split at point
  · cases point
  split at point
  · cases point
  split at point
  · cases point
  split at point
  · cases point
  split at point
  · cases point
  obtain ⟨ok, _, converted⟩ := Option.map_eq_some_iff.mp point
  split at converted
  · cases converted
    exact ⟨_, _, rfl⟩
  · cases converted

theorem planned_object (writer : Writer) (body : Json K) (record : Kind × Json K)
    (plan : planned env writer body = .ok (some record)) : record.2.isObject = true := by
  cases writer with
  | zone =>
      simp only [planned] at plan
      split at plan
      · cases found : rewriteZoneId env.settings ((Json.object _).field "id") "0" with
        | error error => rw [found] at plan; cases plan
        | ok zoneId =>
            rw [found] at plan
            simp only [Except.map, Except.ok.injEq] at plan
            split at plan
            · cases plan
              rfl
            · cases plan
      · cases found : rewriteZoneId env.settings (Json.null : Json K) "0" with
        | error error => rw [found] at plan; cases plan
        | ok zoneId => rw [found] at plan; cases plan
  | fss =>
      simp only [planned] at plan
      split at plan
      · cases plan
      · rename_i shaped
        split at plan
        · cases plan
        · split at plan
          · cases plan
            simpa using shaped
          · cases plan
  | wisp =>
      simp only [planned] at plan
      split at plan
      · cases plan
      · rename_i shaped
        split at plan
        · cases plan
        · cases plan
          simpa using shaped
        · split at plan
          · cases plan
          · rename_i point isPoint
            cases point with
            | none => cases plan
            | some record =>
                cases plan
                obtain ⟨id, fields, shape⟩ := gwbl_point_shape env body record isPoint
                simp only
                rw [shape]
                rfl
  | databaseUrl =>
      simp only [planned] at plan
      split at plan
      · cases plan
      · cases plan
        rfl
  | escZone =>
      simp only [planned, Except.ok.injEq] at plan
      split at plan
      · cases plan
      · rename_i refused
        cases plan
        simp only [Bool.or_eq_true, not_or] at refused
        simpa using refused.1.1
  | clusterList =>
      simp only [planned, Except.ok.injEq] at plan
      split at plan
      · cases plan
      · rename_i refused
        cases plan
        simp only [Bool.or_eq_true, not_or] at refused
        simpa using refused.1.1
  | sasAdmin =>
      simp only [planned, Except.ok.injEq] at plan
      split at plan
      · cases plan
      · cases plan
        rfl

section Batches

def plannedItems (writer : Writer) : List (Json K) → Except String (List (Kind × Json K))
  | [] => .ok []
  | item :: rest =>
      match planned env writer item with
      | .error error => .error error
      | .ok record => (plannedItems writer rest).map (record.toList ++ ·)

theorem planned_items_objects (writer : Writer) (items : List (Json K)) (records : List (Kind × Json K))
    (plan : plannedItems env writer items = .ok records) : ∀ record ∈ records, record.2.isObject = true := by
  induction items generalizing records with
  | nil =>
      cases plan
      intro record member
      cases member
  | cons item rest ih =>
      rw [plannedItems] at plan
      cases first : planned env writer item with
      | error error => rw [first] at plan; cases plan
      | ok stored =>
          rw [first] at plan
          cases later : plannedItems env writer rest with
          | error error => rw [later] at plan; cases plan
          | ok others =>
              rw [later] at plan
              cases plan
              intro record member
              rcases List.mem_append.mp member with here | there
              · exact planned_object env writer item record (by rw [first, Option.mem_toList.mp here])
              · exact ih others later record there

theorem write_items_planned (writer : Writer) (items : List (Json K)) (written : Tables K × Nat) :
    (writeItems env writer items written).map (·.1) =
      (plannedItems env writer items).map fun records => records.foldl (store env) written.1 := by
  induction items generalizing written with
  | nil => rfl
  | cons item rest ih =>
      have first := write_planned env writer item written.1
      rw [writeItems, plannedItems]
      cases plan : planned env writer item with
      | error error =>
          rw [plan] at first
          cases wrote : write env writer item written.1 with
          | error other =>
              rw [wrote] at first
              cases first
              rfl
          | ok result => rw [wrote] at first; cases first
      | ok record =>
          rw [plan] at first
          cases wrote : write env writer item written.1 with
          | error other => rw [wrote] at first; cases first
          | ok result =>
              rw [wrote] at first
              have same : result.1 = storeIf env written.1 record := by injection first
              simp only
              rw [ih, same]
              cases plannedItems env writer rest with
              | error error => rfl
              | ok others => cases record <;> rfl

theorem single_planned (writer : Writer) (body : Json K) (tables : Tables K) :
    single env writer body tables =
      match planned env writer body with
      | .error _ => tables
      | .ok record => (storeIf env tables record).flush := by
  have plan := write_planned env writer body tables
  rw [single]
  cases wrote : write env writer body tables with
  | error error =>
      rw [wrote] at plan
      cases stored : planned env writer body with
      | error other => rfl
      | ok record => rw [stored] at plan; cases plan
  | ok result =>
      rw [wrote] at plan
      cases stored : planned env writer body with
      | error other => rw [stored] at plan; cases plan
      | ok record =>
          rw [stored] at plan
          have same : result.1 = storeIf env tables record := by injection plan
          simp only [same]

end Batches

section Stored

theorem store_records (tables : Tables K) (record : Kind × Json K) (kind : Kind) :
    (store env tables record).records kind =
      (let after := (upsert env record.1 record.2 (naturalKey env record.1 record.2) tables).records kind
      if tagged record.1 ((naturalKey env record.1 record.2).getD "") then after.flush else after) := by
  have bumps : ∀ (feed : Option Cpas.SyncKey) (counter : Counter) (others : Tables K),
      (bumpInjectionGeneration counter (bumpFeed feed others)).records kind = others.records kind := by
    intro feed counter others
    cases feed <;> rfl
  rw [store, bumps, tag]
  by_cases marked : tagged record.1 ((naturalKey env record.1 record.2).getD "") = true
  · rw [if_pos marked]
    simp only [marked, if_true]
    rfl
  · rw [if_neg marked]
    simp only [marked, Bool.false_eq_true, if_false]

theorem upsert_other (kind other : Kind) (apart : other ≠ kind) (payload : Json K) (key : Option String) (tables : Tables K) :
    (upsert env kind payload key tables).records other = tables.records other := by
  cases key with
  | none => exact Tables.set_records_other kind other _ tables apart
  | some key => exact Tables.set_records_other kind other _ tables apart

theorem upsert_own (kind : Kind) (payload : Json K) (key : String) (tables : Tables K) :
    (upsert env kind payload (some key) tables).records kind =
      (tables.records kind).put (hasKey (storedKey env kind) key) (fun _ => some payload) (some payload) :=
  Tables.set_records_same kind _ tables

theorem upsert_keyless (kind : Kind) (payload : Json K) (tables : Tables K) :
    (upsert env kind payload none tables).records kind = (tables.records kind).add (some payload) :=
  Tables.set_records_same kind _ tables

theorem stored_key (kind : Kind) (payload : Json K) (shaped : payload.isObject = true) :
    storedKey env kind (some payload) = naturalKey env kind payload := if_pos shaped

end Stored

end SasCore.Injection
