import SasCore.Fad.Identifiers
import SasCore.Injection.Ledger
import SasCore.Lib.Upserts

set_option autoImplicit false
set_option linter.unusedSectionVars false

namespace SasCore.Injection

open Fad Orm

variable {K : Type} [Field K] [LinearOrder K]

-- The tables of the injection routes, with the rows of esc_sensors beside the records.
structure AdminTables (K : Type) where
  injected : Tables K
  escSensors : Orm.Table EscSensor

def AdminTables.empty : AdminTables K := ⟨Tables.empty, Table.stored []⟩

section Routes

variable (env : InjectionEnv K) (dumps : Json K → String)

def bumpEscSensorGeneration (tables : Tables K) : Tables K :=
  { tables with generations := tables.generations.rewrite [] (Cpas.bumpedGenerations "esc_sensor") }

def escSensorRow (record : Json K) (given : Option String) : EscSensor :=
  let recordId := rewriteEscSensorId env.settings.sasAdminId given
  ⟨recordId, dumps (record.put "id" (.text recordId)), env.settings.sasAdminId, given, rfl⟩

def upsertEscSensor (row : EscSensor) (sensors : Orm.Table EscSensor) : Orm.Table EscSensor :=
  sensors.put (fun held => held.recordId = row.recordId) (fun held => { held with dataJson := row.dataJson }) row

def sensorRecord (body : Json K) : Json K := orValue (body.field "record") body

-- The tables that are committed, and what the route raises.
def injectEscSensor (body : Json K) (tables : AdminTables K) : AdminTables K × Except String Unit :=
  if !body.isObject then (tables, .error "AttributeError")
  else if !(sensorRecord body).isObject then (tables, .ok ())
  else
    match givenId ((sensorRecord body).field "id") with
    | .error error => (tables, .error error)
    | .ok given =>
        let row := escSensorRow env dumps (sensorRecord body) given
        (⟨(bumpEscSensorGeneration tables.injected).flush, (upsertEscSensor row tables.escSensors).flush⟩, .ok ())

inductive InjectPost (K : Type) where
  | zone (body : Json K)
  | escSensor (body : Json K)

def injectOne (tables : AdminTables K) : InjectPost K → AdminTables K
  | .zone body => { tables with injected := single env .zone body tables.injected }
  | .escSensor body => (injectEscSensor env dumps body tables).1

def injectAll (posts : List (InjectPost K)) (tables : AdminTables K) : AdminTables K :=
  posts.foldl (injectOne env dumps) tables

end Routes

section Accepted

variable (env : InjectionEnv K) (dumps : Json K → String) (posts : List (InjectPost K))

def zoneIdOf (body : Json K) : Json K := (body.field "record").field "id"

def sensorIdOf (body : Json K) : Json K := (sensorRecord body).field "id"

def zoneAccepted (body : Json K) : Bool :=
  (body.field "record").isObject && zoneRecordAcceptable (body.field "record") && idTaken (zoneIdOf body)

def sensorAccepted (body : Json K) : Bool := body.isObject && (sensorRecord body).isObject && idTaken (sensorIdOf body)

def zoneBody : InjectPost K → Option (Json K)
  | .zone body => if zoneAccepted body then some body else none
  | .escSensor _ => none

def sensorBody : InjectPost K → Option (Json K)
  | .zone _ => none
  | .escSensor body => if sensorAccepted body then some body else none

-- The record of a body as it is stored.
def storedZone (body : Json K) : Json K :=
  match rewriteZoneId env.settings (zoneIdOf body) "0" with
  | .ok zoneId => body.put "record" ((body.field "record").put "id" (.text zoneId))
  | .error _ => body

def storedSensor (body : Json K) : EscSensor :=
  escSensorRow env dumps (sensorRecord body)
    (match givenId (sensorIdOf body) with
    | .ok given => given
    | .error _ => none)

def zoneRows : List (Option (Json K)) := (posts.filterMap zoneBody).map fun body => some (storedZone env body)

def sensorRows : List EscSensor := (posts.filterMap sensorBody).map (storedSensor env dumps)

-- In whatever order the bodies come, each accepted one has a row of its own.
def RecordsKept : Prop :=
  ∀ order, order.Perm posts →
    ((injectAll env dumps order .empty).injected.records .zone).settled.Perm (zoneRows env posts) ∧
      (injectAll env dumps order .empty).escSensors.settled.Perm (sensorRows env dumps posts)

def IdsDistinct : Prop :=
  ((posts.filterMap zoneBody).map zoneIdOf).Nodup ∧ ((posts.filterMap sensorBody).map sensorIdOf).Nodup

def NoneAlike : Prop :=
  (posts.filterMap zoneBody).Pairwise (fun first second => ¬ ZonesAlike (zoneIdOf first) (zoneIdOf second)) ∧
    (posts.filterMap sensorBody).Pairwise fun first second => ¬ SensorsAlike (sensorIdOf first) (sensorIdOf second)

end Accepted

section Zones

variable (env : InjectionEnv K) (dumps : Json K → String)

theorem zone_body_accepted (posts : List (InjectPost K)) : ∀ body ∈ posts.filterMap zoneBody, zoneAccepted body = true := by
  intro body member
  obtain ⟨post, _, isBody⟩ := List.mem_filterMap.mp member
  cases post with
  | zone other =>
      by_cases accepted : zoneAccepted other = true
      · rw [zoneBody, if_pos accepted] at isBody
        exact Option.some.inj isBody ▸ accepted
      · rw [zoneBody, if_neg accepted] at isBody
        cases isBody
  | escSensor other => cases isBody

theorem zone_accepted_shape (body : Json K) (accepted : zoneAccepted body = true) :
    ∃ fields held, body = .object fields ∧ body.field "record" = .object held ∧ idTaken (zoneIdOf body) = true ∧
      zoneRecordAcceptable (.object held) = true := by
  simp only [zoneAccepted, Bool.and_eq_true] at accepted
  obtain ⟨⟨shaped, acceptable⟩, taken⟩ := accepted
  cases body with
  | object fields =>
      cases record : (Json.object fields).field "record" with
      | object held => exact ⟨fields, held, rfl, rfl, taken, record ▸ acceptable⟩
      | _ => simp [record, Json.isObject] at shaped
  | _ => simp [Json.field, Json.isObject] at shaped

theorem acceptable_set_id (zoneId : String) (held : List (String × Json K)) :
    zoneRecordAcceptable (Json.object (PyDict.set "id" (.text zoneId) held)) = zoneRecordAcceptable (.object held) := by
  have kept : ∀ key, "id" ≠ key → (Json.object (PyDict.set "id" (Json.text zoneId) held)).has key = (Json.object held).has key := by
    intro key apart
    rw [Json.has, PyDict.lookup_set, if_neg apart]
    rfl
  rw [zoneRecordAcceptable, zoneRecordAcceptable, kept _ (by decide), kept _ (by decide), kept _ (by decide)]

-- What is stored for an accepted body, under the id it was given.
theorem stored_zone (body : Json K) (accepted : zoneAccepted body = true) :
    ∃ zoneId, rewriteZoneId env.settings (zoneIdOf body) "0" = .ok zoneId ∧
      naturalKey env .zone (storedZone env body) = some zoneId ∧
      storedKey env .zone (some (storedZone env body)) = some zoneId ∧
      planned env .zone body = .ok (some (.zone, storedZone env body)) := by
  obtain ⟨fields, held, isBody, record, taken, acceptable⟩ := zone_accepted_shape body accepted
  obtain ⟨name, named⟩ := zone_named (zoneIdOf body) taken
  have written := zone_written env.settings (zoneIdOf body) name named
  have shape : storedZone env body = .object (PyDict.set "record" (.object (PyDict.set "id"
      (.text ("zone/ppa/" ++ env.settings.sasAdminId ++ "/" ++ name)) held)) fields) := by
    rw [storedZone, written, record, isBody]
    rfl
  have natural : naturalKey env .zone (storedZone env body) = some ("zone/ppa/" ++ env.settings.sasAdminId ++ "/" ++ name) := by
    rw [shape]
    exact zone_key env fields held _
  have isDict : (storedZone env body).isObject = true := by
    rw [shape]
    rfl
  refine ⟨_, written, natural, ?_, ?_⟩
  · rw [storedKey, Option.bind_some, if_pos isDict]
    exact natural
  · rw [shape]
    rw [zoneIdOf, record] at written
    rw [isBody] at record
    simp only [isBody, planned, record, written, Except.map, acceptable_set_id, acceptable, if_true]

theorem unplanned_zone (body : Json K) (refused : ¬ zoneAccepted body = true) :
    ∀ record, planned env .zone body ≠ .ok (some record) := by
  intro record plan
  simp only [planned] at plan
  split at plan
  · rename_i fields held isRecord
    cases rewritten : rewriteZoneId env.settings ((Json.object held).field "id") "0" with
    | error error =>
        rw [rewritten] at plan
        cases plan
    | ok zoneId =>
        have taken := zone_taken env.settings _ "0" zoneId rewritten
        rw [rewritten] at plan
        simp only [Except.map, acceptable_set_id] at plan
        have unacceptable : ¬ zoneRecordAcceptable (Json.object held) = true := by
          intro acceptable
          refine refused ?_
          simp [zoneAccepted, zoneIdOf, isRecord, acceptable, taken, Json.isObject]
        rw [if_neg unacceptable] at plan
        cases plan
  · cases rewritten : rewriteZoneId env.settings (Json.null : Json K) "0" with
    | error error =>
        rw [rewritten] at plan
        cases plan
    | ok zoneId =>
        rw [rewritten] at plan
        cases plan

-- A body that is accepted is put under its key, another one leaves the zones alone.
theorem single_zone (body : Json K) (tables : Tables K) (committed : (tables.records .zone).flush = tables.records .zone) :
    (single env .zone body tables).records .zone =
      if zoneAccepted body then upsertOne (storedKey env .zone) (tables.records .zone) (some (storedZone env body))
      else tables.records .zone := by
  rw [single_planned]
  by_cases accepted : zoneAccepted body = true
  · obtain ⟨zoneId, _, natural, own, plan⟩ := stored_zone env body accepted
    have untagged : ¬ tagged .zone ((naturalKey env .zone (storedZone env body)).getD "") = true := by simp [tagged]
    have effect := store_records env tables (.zone, storedZone env body) .zone
    rw [if_neg untagged, natural, upsert, Tables.set_records_same] at effect
    rw [plan, if_pos accepted, upsertOne, own]
    simp only [storeIf, Option.map_some, Option.getD_some, Tables.flush_records, effect]
    rfl
  · have plan := unplanned_zone env body accepted
    rw [if_neg accepted]
    cases found : planned env .zone body with
    | error error => rfl
    | ok record =>
        cases record with
        | none => exact committed
        | some record => exact absurd found (plan record)

end Zones

section Sensors

variable (env : InjectionEnv K) (dumps : Json K → String)

def sensorKey (row : EscSensor) : Option String := some row.recordId

theorem sensor_body_accepted (posts : List (InjectPost K)) : ∀ body ∈ posts.filterMap sensorBody, sensorAccepted body = true := by
  intro body member
  obtain ⟨post, _, isBody⟩ := List.mem_filterMap.mp member
  cases post with
  | zone other => cases isBody
  | escSensor other =>
      by_cases accepted : sensorAccepted other = true
      · rw [sensorBody, if_pos accepted] at isBody
        exact Option.some.inj isBody ▸ accepted
      · rw [sensorBody, if_neg accepted] at isBody
        cases isBody

theorem given_taken (id : Json K) (taken : idTaken id = true) : ∃ given, givenId id = .ok given := by
  obtain ⟨name, named⟩ := sensor_named id taken
  have written := sensor_written "" id name named
  cases found : givenId id with
  | error error =>
      rw [escSensorId, found] at written
      cases written
  | ok given => exact ⟨given, rfl⟩

theorem untaken_given (id : Json K) (refused : ¬ idTaken id = true) : ∃ error, givenId id = .error error := by
  cases found : givenId id with
  | error error => exact ⟨error, rfl⟩
  | ok given =>
      refine absurd (sensor_taken "" id (rewriteEscSensorId "" given) ?_) refused
      rw [escSensorId, found]
      rfl

theorem upsert_sensor (row : EscSensor) (sensors : Orm.Table EscSensor) :
    (upsertEscSensor row sensors).flush = upsertOne sensorKey sensors row := by
  have change : ∀ held : EscSensor, hasKey sensorKey row.recordId held = true → { held with dataJson := row.dataJson } = row := by
    intro held found
    have same : held.recordId = row.recordId := by simpa [hasKey, sensorKey] using found
    cases held
    cases row
    cases same
    rfl
  have keys : (fun held : EscSensor => decide (held.recordId = row.recordId)) = hasKey sensorKey row.recordId := by
    funext held
    simp [hasKey, sensorKey]
  rw [upsertEscSensor, keys, put_congr sensors (hasKey sensorKey row.recordId) _ (fun _ => row) row change]
  rfl

theorem inject_sensor (body : Json K) (tables : AdminTables K) :
    (injectEscSensor env dumps body tables).1.escSensors =
      if sensorAccepted body then upsertOne sensorKey tables.escSensors (storedSensor env dumps body) else tables.escSensors := by
  rw [injectEscSensor]
  by_cases isDict : body.isObject = true
  · by_cases shaped : (sensorRecord body).isObject = true
    · by_cases taken : idTaken (sensorIdOf body) = true
      · obtain ⟨given, isGiven⟩ := given_taken _ taken
        have accepted : sensorAccepted body = true := by simp [sensorAccepted, isDict, shaped, taken]
        rw [if_pos accepted, storedSensor, isGiven]
        rw [sensorIdOf] at isGiven
        simp only [isDict, shaped, isGiven, Bool.not_true, Bool.false_eq_true, if_false]
        exact upsert_sensor _ tables.escSensors
      · obtain ⟨error, isError⟩ := untaken_given _ taken
        have refused : ¬ sensorAccepted body = true := by simp [sensorAccepted, taken]
        rw [if_neg refused]
        rw [sensorIdOf] at isError
        simp only [isDict, shaped, isError, Bool.not_true, Bool.false_eq_true, if_false]
    · simp [sensorAccepted, isDict, shaped]
  · simp [sensorAccepted, isDict]

-- An injected sensor ends with a commit, and leaves the records as they are.
theorem inject_sensor_records (body : Json K) (tables : AdminTables K) (kind : Kind)
    (committed : (tables.injected.records kind).flush = tables.injected.records kind) :
    (injectEscSensor env dumps body tables).1.injected.records kind = tables.injected.records kind := by
  rw [injectEscSensor]
  split
  · rfl
  · split
    · rfl
    · split
      · rfl
      · exact committed

end Sensors

section Runs

variable (env : InjectionEnv K) (dumps : Json K → String)

theorem upsert_one_committed {V : Type} (key : V → Option String) (table : Orm.Table V) (value : V) (committed : table.flush = table) :
    (upsertOne key table value).flush = upsertOne key table value := by
  rw [upsertOne]
  split
  · rw [Table.flush, settled_flush]
    rfl
  · exact committed

-- The two tables after any run are those of the accepted bodies, each upserted in its turn.
theorem inject_run (posts : List (InjectPost K)) (tables : AdminTables K)
    (committed : (tables.injected.records .zone).flush = tables.injected.records .zone) :
    (injectAll env dumps posts tables).injected.records .zone =
        (zoneRows env posts).foldl (upsertOne (storedKey env .zone)) (tables.injected.records .zone) ∧
      (injectAll env dumps posts tables).escSensors = (sensorRows env dumps posts).foldl (upsertOne sensorKey) tables.escSensors := by
  induction posts generalizing tables with
  | nil => exact ⟨rfl, rfl⟩
  | cons post rest ih =>
      cases post with
      | zone body =>
          have step := single_zone env body tables.injected committed
          by_cases accepted : zoneAccepted body = true
          · have first : zoneBody (InjectPost.zone body) = some body := if_pos accepted
            rw [if_pos accepted] at step
            have after : ((injectOne env dumps tables (.zone body)).injected.records .zone).flush =
                (injectOne env dumps tables (.zone body)).injected.records .zone := by
              rw [injectOne, step]
              exact upsert_one_committed _ _ _ committed
            obtain ⟨zones, sensors⟩ := ih (injectOne env dumps tables (.zone body)) after
            refine ⟨?_, sensors⟩
            rw [zoneRows, List.filterMap_cons_some first, List.map_cons, List.foldl_cons, ← step]
            exact zones
          · have first : zoneBody (InjectPost.zone body) = none := if_neg accepted
            rw [if_neg accepted] at step
            have after : ((injectOne env dumps tables (.zone body)).injected.records .zone).flush =
                (injectOne env dumps tables (.zone body)).injected.records .zone := by
              rw [injectOne, step]
              exact committed
            obtain ⟨zones, sensors⟩ := ih (injectOne env dumps tables (.zone body)) after
            refine ⟨?_, sensors⟩
            rw [zoneRows, List.filterMap_cons_none first, ← step]
            exact zones
      | escSensor body =>
          have step := inject_sensor env dumps body tables
          have kept := inject_sensor_records env dumps body tables .zone committed
          have after : ((injectOne env dumps tables (.escSensor body)).injected.records .zone).flush =
              (injectOne env dumps tables (.escSensor body)).injected.records .zone := by
            rw [injectOne, kept]
            exact committed
          obtain ⟨zones, sensors⟩ := ih (injectOne env dumps tables (.escSensor body)) after
          by_cases accepted : sensorAccepted body = true
          · have first : sensorBody (InjectPost.escSensor body) = some body := if_pos accepted
            rw [if_pos accepted] at step
            refine ⟨?_, ?_⟩
            · rw [← kept]
              exact zones
            · rw [sensorRows, List.filterMap_cons_some first, List.map_cons, List.foldl_cons, ← step]
              exact sensors
          · have first : sensorBody (InjectPost.escSensor body) = none := if_neg accepted
            rw [if_neg accepted] at step
            refine ⟨?_, ?_⟩
            · rw [← kept]
              exact zones
            · rw [sensorRows, List.filterMap_cons_none first, ← step]
              exact sensors

theorem inject_all_tables (posts : List (InjectPost K)) :
    (injectAll env dumps posts .empty).injected.records .zone = upsertAll (storedKey env .zone) (zoneRows env posts) ∧
      (injectAll env dumps posts .empty).escSensors = upsertAll sensorKey (sensorRows env dumps posts) :=
  inject_run env dumps posts .empty rfl

end Runs

section Kept

variable (env : InjectionEnv K) (dumps : Json K → String) (posts : List (InjectPost K))

theorem zone_rows_keyed : ∀ row ∈ zoneRows env posts, (storedKey env .zone row).isSome = true := by
  intro row member
  obtain ⟨body, inBodies, same⟩ := List.mem_map.mp member
  obtain ⟨zoneId, _, _, own, _⟩ := stored_zone env body (zone_body_accepted posts body inBodies)
  rw [← same, own]
  rfl

theorem zone_keys_distinct_iff :
    ((zoneRows env posts).map (storedKey env .zone)).Nodup ↔
      (posts.filterMap zoneBody).Pairwise fun first second => ¬ ZonesAlike (zoneIdOf first) (zoneIdOf second) := by
  rw [zoneRows, List.map_map, List.Nodup, List.pairwise_map]
  refine List.Pairwise.iff_of_mem fun {first second} inFirst inSecond => not_congr ?_
  have accepted := zone_body_accepted posts first inFirst
  have otherAccepted := zone_body_accepted posts second inSecond
  obtain ⟨zoneId, written, _, own, _⟩ := stored_zone env first accepted
  obtain ⟨other, otherWritten, _, otherOwn, _⟩ := stored_zone env second otherAccepted
  rw [← zones_collide_iff env.settings _ _ (zone_taken env.settings _ "0" zoneId written)
    (zone_taken env.settings _ "0" other otherWritten), written, otherWritten, Function.comp_apply, Function.comp_apply, own,
    otherOwn, Option.some_inj, Except.ok.injEq]

theorem sensor_keys_distinct_iff :
    ((sensorRows env dumps posts).map sensorKey).Nodup ↔
      (posts.filterMap sensorBody).Pairwise fun first second => ¬ SensorsAlike (sensorIdOf first) (sensorIdOf second) := by
  have key : ∀ body ∈ posts.filterMap sensorBody, idTaken (sensorIdOf body) = true ∧
      ∃ written, escSensorId env.settings.sasAdminId (sensorIdOf body) = .ok written ∧
        sensorKey (storedSensor env dumps body) = some written := by
    intro body member
    have accepted := sensor_body_accepted posts body member
    simp only [sensorAccepted, Bool.and_eq_true] at accepted
    obtain ⟨given, isGiven⟩ := given_taken _ accepted.2
    refine ⟨accepted.2, rewriteEscSensorId env.settings.sasAdminId given, ?_, ?_⟩
    · rw [escSensorId, isGiven]
      rfl
    · rw [storedSensor, isGiven]
      rfl
  rw [sensorRows, List.map_map, List.Nodup, List.pairwise_map]
  refine List.Pairwise.iff_of_mem fun {first second} inFirst inSecond => not_congr ?_
  obtain ⟨taken, written, isWritten, own⟩ := key first inFirst
  obtain ⟨otherTaken, other, otherWritten, otherOwn⟩ := key second inSecond
  rw [← sensors_collide_iff env.settings.sasAdminId _ _ taken otherTaken, isWritten, otherWritten, Function.comp_apply,
    Function.comp_apply, own, otherOwn, Option.some_inj, Except.ok.injEq]

theorem rows_order (order : List (InjectPost K)) (reordered : order.Perm posts) :
    (zoneRows env order).Perm (zoneRows env posts) ∧ (sensorRows env dumps order).Perm (sensorRows env dumps posts) :=
  ⟨(reordered.filterMap zoneBody).map _, (reordered.filterMap sensorBody).map _⟩

theorem records_kept_iff : RecordsKept env dumps posts ↔ NoneAlike posts := by
  have keyed : ∀ row ∈ sensorRows env dumps posts, (sensorKey row).isSome = true := fun _ _ => rfl
  rw [NoneAlike, ← zone_keys_distinct_iff env posts, ← sensor_keys_distinct_iff env dumps posts]
  constructor
  · intro kept
    obtain ⟨zones, sensors⟩ := kept posts (List.Perm.refl posts)
    obtain ⟨zoneTable, sensorTable⟩ := inject_all_tables env dumps posts
    rw [zoneTable] at zones
    rw [sensorTable] at sensors
    exact ⟨(upserts_kept_iff _ _ (zone_rows_keyed env posts)).mp zones, (upserts_kept_iff _ _ keyed).mp sensors⟩
  · rintro ⟨zones, sensors⟩ order reordered
    obtain ⟨zoneTable, sensorTable⟩ := inject_all_tables env dumps order
    obtain ⟨sameZones, sameSensors⟩ := rows_order env dumps posts order reordered
    have orderKeyed : ∀ row ∈ sensorRows env dumps order, (sensorKey row).isSome = true := fun _ _ => rfl
    have orderZones := (sameZones.map (storedKey env .zone)).nodup_iff.mpr zones
    have orderSensors := (sameSensors.map sensorKey).nodup_iff.mpr sensors
    rw [zoneTable, sensorTable]
    exact ⟨((upserts_kept_iff _ _ (zone_rows_keyed env order)).mpr orderZones).trans sameZones,
      ((upserts_kept_iff _ _ orderKeyed).mpr orderSensors).trans sameSensors⟩

-- For any bodies in any order: each accepted record keeps a row of its own exactly when no two of the ids are alike, two
-- ids are rewritten to one exactly when they are alike, and a second rewriting changes nothing exactly when the admin's
-- id has no slash.
theorem rewriting_apart_iff :
    (RecordsKept env dumps posts ↔ NoneAlike posts) ∧
      (∀ first second : Json K, idTaken first = true → idTaken second = true →
        (rewriteZoneId env.settings first "0" = rewriteZoneId env.settings second "0" ↔ ZonesAlike first second) ∧
          (escSensorId env.settings.sasAdminId first = escSensorId env.settings.sasAdminId second ↔ SensorsAlike first second)) ∧
      (Idempotent env.settings ↔ '/' ∉ env.settings.sasAdminId.toList) :=
  ⟨records_kept_iff env dumps posts,
    fun first second taken otherTaken => ⟨zones_collide_iff env.settings first second taken otherTaken,
      sensors_collide_iff env.settings.sasAdminId first second taken otherTaken⟩,
    idempotent_iff env.settings⟩

end Kept

-- Two zones whose ids are of another kind.
def foreignZone (name : String) : Json Rat := .object [("record", .object [("id", .text name), ("zone", .object [])])]

theorem zone_overwritten :
    ¬ ∀ posts : List (InjectPost Rat), IdsDistinct posts → RecordsKept plainEnv (fun _ => "") posts := by
  intro claim
  let posts := [InjectPost.zone (foreignZone "ntia-1"), InjectPost.zone (foreignZone "ntia-2")]
  have ids : (posts.filterMap zoneBody).map zoneIdOf = [Json.text "ntia-1", Json.text "ntia-2"] := rfl
  have sensors : posts.filterMap sensorBody = [] := rfl
  have distinct : IdsDistinct posts := by
    rw [IdsDistinct, ids, sensors]
    simp
  obtain ⟨zones, _⟩ := claim posts distinct posts (List.Perm.refl posts)
  exact absurd zones.length_eq (by decide +kernel)

end SasCore.Injection
