import SasCore.Fad.Records
import SasCore.Lib.Collect
import SasCore.Lib.JsonRoundTrip

set_option autoImplicit false
set_option linter.unusedSectionVars false

namespace SasCore.Fad

open Registry JsonText

variable {K : Type}

section Ids

theorem solid_kept (text : List Char) (c : Char) (member : c ∈ text) (solid : PyText.isSpace c = false) :
    c ∈ text.dropWhile PyText.isSpace := by
  induction text with
  | nil => cases member
  | cons head rest ih =>
      by_cases blank : PyText.isSpace head = true
      · rw [List.dropWhile_cons_of_pos blank]
        rcases List.mem_cons.mp member with here | later
        · rw [here, blank] at solid
          cases solid
        · exact ih later
      · rw [List.dropWhile_cons_of_neg blank]
        exact member

theorem strip_solid (text : List Char) (c : Char) (member : c ∈ text) (solid : PyText.isSpace c = false) :
    PyText.strip text ≠ [] := by
  have first := solid_kept text c member solid
  have second := solid_kept _ c (List.mem_reverse.mpr first) solid
  exact List.ne_nil_of_mem (List.mem_reverse.mpr second)

theorem rewritten_esc_id (adminId : String) (given : Option String) :
    ∃ tail, rewriteEscSensorId adminId given = "esc_sensor/" ++ tail := by
  have whole : ∀ tail, ∃ rest, "esc_sensor/" ++ adminId ++ "/" ++ tail = "esc_sensor/" ++ rest := fun tail =>
    ⟨adminId ++ "/" ++ tail, by rw [String.append_assoc, String.append_assoc, String.append_assoc]⟩
  unfold rewriteEscSensorId
  dsimp only
  split
  · exact whole "0"
  · split
    · exact whole "0"
    · split
      · split
        · exact whole _
        · exact whole _
      · split
        · exact whole _
        · exact whole _
      · exact whole _

variable [Field K] [DecidableEq K] (settings : FadSettings K)

theorem rewritten_zone_id (zoneId : Json K) (fallbackSuffix : String) (written : String)
    (rewritten : rewriteZoneId settings zoneId fallbackSuffix = .ok written) : ∃ tail, written = "zone/ppa/" ++ tail := by
  have whole : ∀ tail, ∃ rest, "zone/ppa/" ++ settings.sasAdminId ++ "/" ++ tail = "zone/ppa/" ++ rest := fun tail =>
    ⟨settings.sasAdminId ++ "/" ++ tail, by rw [String.append_assoc, String.append_assoc, String.append_assoc]⟩
  unfold rewriteZoneId at rewritten
  dsimp only at rewritten
  split at rewritten
  · cases rewritten
    exact whole fallbackSuffix
  · split at rewritten
    · split at rewritten
      · split at rewritten
        · cases rewritten
          exact whole _
        · cases rewritten
          exact whole _
      · cases rewritten
        exact whole _
    · cases rewritten

-- A record as the dump carries it: an object that reads back, under an id that is not blank.
structure RecordFine (record : Json K) : Prop where
  isObject : record.isObject = true
  plain : Plain record
  named : ∃ written, record.field "id" = .text written ∧ (Json.text written : Json K).strippedText settings.readers ≠ []

theorem stripped_text (written : String) (c : Char) (member : c ∈ written.toList) (solid : PyText.isSpace c = false) :
    (Json.text written : Json K).strippedText settings.readers ≠ [] := by
  have some : (Json.text written : Json K).truthy = true := by
    have notEmpty : written ≠ "" := by
      intro empty
      rw [empty] at member
      cases member
    simpa [Json.truthy] using notEmpty
  rw [Json.strippedText, if_pos some]
  exact strip_solid written.toList c member solid

theorem prefixed_solid (start tail : String) (c : Char) (member : c ∈ start.toList) (solid : PyText.isSpace c = false) :
    (Json.text (start ++ tail) : Json K).strippedText settings.readers ≠ [] :=
  stripped_text settings (start ++ tail) c (by rw [String.toList_append]; exact List.mem_append_left _ member) solid

end Ids

section Built

variable [Field K] [DecidableEq K] (settings : FadSettings K)

theorem picked_plain (reg : Json K) (plain : Plain reg) (picked : List (String × Json K))
    (read : pickedFields reg = .ok picked) :
    (picked.map (·.1)).Nodup ∧ ∀ entry ∈ picked, Plain entry.2 := by
  rw [pickedFields] at read
  split at read
  · cases read
    have keys := Collect.keys_sublist (fun key => if (reg.field key).isNull then none else some (key, reg.field key))
      (fun key => key) (fun entry : String × Json K => entry.1) (by
        intro key entry found
        split at found
        · cases found
        · cases found
          rfl) registrationFields
    refine ⟨(keys.nodup (by rw [List.map_id']; decide)), fun entry member => ?_⟩
    obtain ⟨key, _, found⟩ := List.mem_filterMap.mp member
    split at found
    · cases found
    · cases found
      exact plain_of_field reg plain key
  · split at read
    · cases read
    · split at read
      · cases read
      · cases read
        exact ⟨List.nodup_nil, fun entry member => by cases member⟩

theorem beamwidth_plain (inst : Json K) (plain : Plain inst) : Plain (withBeamwidth inst) := by
  unfold withBeamwidth
  split
  · split
    · exact set_object_plain "antennaBeamwidth" (.int 360) _ plain trivial
    · exact plain
  · exact plain

theorem registration_plain (reg built : Json K) (plain : Plain reg) (read : buildRegistration reg = .ok built) :
    Plain built := by
  rw [buildRegistration] at read
  cases picked : pickedFields reg with
  | error error =>
      rw [picked] at read
      cases read
  | ok fields =>
      rw [picked] at read
      cases read
      obtain ⟨keys, each⟩ := picked_plain reg plain fields picked
      have same : (fields.map fun entry => if entry.1 = "installationParam" then (entry.1, withBeamwidth entry.2) else entry).map
          (·.1) = fields.map (·.1) := by
        rw [List.map_map]
        refine List.map_congr_left fun entry _ => ?_
        dsimp only [Function.comp_apply]
        split <;> rfl
      refine ⟨by rw [same]; exact keys, plain_fields_of _ fun entry member => ?_⟩
      obtain ⟨before, beforeMember, isEntry⟩ := List.mem_map.mp member
      rw [← isEntry]
      split
      · exact beamwidth_plain before.2 (each before beforeMember)
      · exact each before beforeMember

theorem loaded_or_plain (text : String) : Plain (loadedOr settings text) := by
  rw [loadedOr]
  cases loaded : loads settings.floats text with
  | none => exact ⟨List.nodup_nil, trivial⟩
  | some value => exact loads_plain settings.floats text value loaded

theorem operation_param_plain (grant : Grant K) (grantJson : String) (op : Json K)
    (read : operationParamFromGrant settings grant grantJson = .ok op) : Plain op := by
  have plain := loaded_or_plain settings grantJson
  rw [operationParamFromGrant] at read
  dsimp only at read
  split at read
  · cases read
  · split at read
    · cases read
      exact plain_of_field _ plain "operationParam"
    · cases read
      refine ⟨by simp, ?_, ⟨by simp, trivial, trivial, trivial⟩, trivial⟩
      cases grant.maxEirp with
      | none => trivial
      | some power => trivial

theorem grant_record_plain (row : Grant K × String) (record : Json K) (built : buildGrantRecord settings row = .ok record) :
    Plain record := by
  rw [buildGrantRecord] at built
  cases read : operationParamFromGrant settings row.1 row.2 with
  | error error =>
      rw [read] at built
      cases built
  | ok op =>
      rw [read] at built
      cases built
      have plain := operation_param_plain settings row.1 row.2 op read
      exact ⟨by simp, trivial, trivial, trivial, plain, plain, trivial, trivial⟩

theorem cbsd_record_fine (tables : FadTables K) (row : Cbsd K × String) (record : Json K)
    (built : buildCbsdRecord settings tables row = .ok record) : RecordFine settings record := by
  rw [buildCbsdRecord] at built
  split at built
  · cases built
  · rename_i registration isRegistration
    cases read : (exportedGrants tables row.1).mapM (buildGrantRecord settings) with
    | error error =>
        rw [read] at built
        cases built
    | ok grants =>
        rw [read] at built
        cases built
        have grantsPlain : PlainItems grants := plain_items_of grants fun grant member => by
          obtain ⟨source, _, found⟩ := Collect.ok_source _ _ grants read grant member
          exact grant_record_plain settings source grant found
        have regPlain := registration_plain _ registration (loaded_or_plain settings row.2) isRegistration
        refine ⟨rfl, ⟨by simp, trivial, regPlain, grantsPlain, trivial⟩, _, rfl, ?_⟩
        exact prefixed_solid settings "cbsd/" _ 'c' (by decide) (by decide)

theorem set_id_field (written : String) (record : List (String × Json K)) :
    (Json.object (PyDict.set "id" (.text written) record)).field "id" = .text written := by
  rw [Json.field, PyDict.lookup_set, if_pos rfl]
  rfl

theorem references_kept (tables : FadTables K) (record fields : List (String × Json K)) (plain : Plain (.object record))
    (read : withReferenceIds settings tables record = .ok fields) :
    Plain (.object fields) ∧ (Json.object fields).field "id" = (Json.object record).field "id" := by
  rw [withReferenceIds] at read
  split at read
  · rename_i info isInfo
    cases refs : referenceIds settings tables ((PyDict.lookup info "cbsdReferenceId").getD .null) with
    | error error =>
        rw [refs] at read
        cases read
    | ok items =>
        rw [refs] at read
        cases read
        have infoPlain : Plain (.object info) := isInfo ▸ plain_field record plain.2 "ppaInfo"
        have texts : ∀ item ∈ items, Plain item := by
          rw [referenceIds] at refs
          split at refs
          · cases refs
          · cases refs
            intro item member
            obtain ⟨_, _, same⟩ := List.mem_map.mp member
            rw [← same]
            trivial
        refine ⟨set_object_plain "ppaInfo" _ record plain (set_object_plain "cbsdReferenceId" _ info infoPlain
          (plain_items_of items texts)), ?_⟩
        have apart : ¬ "ppaInfo" = "id" := by decide
        rw [Json.field, Json.field, PyDict.lookup_set, if_neg apart]
  · cases read
    exact ⟨plain, rfl⟩

theorem zone_record_fine (tables : FadTables K) (row : Nat × String) (record : Json K)
    (built : buildZoneRecord settings tables row = .ok (some record)) : RecordFine settings record := by
  rw [buildZoneRecord] at built
  split at built
  · cases built
  · rename_i payload loaded
    have plain := loads_plain settings.floats _ payload loaded
    split at built
    · cases built
    · dsimp only at built
      split at built
      · rename_i held isHeld
        have heldPlain : Plain (.object held) := by
          rw [← isHeld]
          split
          · exact plain_of_field payload plain "record"
          · exact plain
        split at built
        · cases built
        · split at built
          · cases built
          · rename_i zoneId isZone
            cases read : withReferenceIds settings tables (PyDict.set "id" (.text zoneId) held) with
            | error error =>
                rw [read] at built
                cases built
            | ok fields =>
                rw [read] at built
                cases built
                have named : Plain (.object (PyDict.set "id" (.text zoneId) held)) :=
                  set_object_plain "id" (.text zoneId) held heldPlain trivial
                have kept := references_kept settings tables _ fields named read
                obtain ⟨tail, same⟩ := rewritten_zone_id settings _ _ zoneId isZone
                refine ⟨rfl, kept.1, zoneId, kept.2.trans (set_id_field zoneId held), ?_⟩
                rw [same]
                exact prefixed_solid settings "zone/ppa/" tail 'z' (by decide) (by decide)
      · cases built

theorem esc_record_fine (row : EscSensor) (record : Json K) (built : buildEscRecord settings row = some record) :
    RecordFine settings record := by
  rw [buildEscRecord] at built
  split at built
  · rename_i held loaded
    cases built
    have plain := loads_plain settings.floats _ (.object held) loaded
    obtain ⟨adminId, given, same⟩ := row.rewritten
    obtain ⟨tail, isPrefixed⟩ := rewritten_esc_id adminId given
    refine ⟨rfl, set_object_plain "id" _ held plain trivial, row.recordId, set_id_field row.recordId held, ?_⟩
    rw [same, isPrefixed]
    exact prefixed_solid settings "esc_sensor/" tail 'e' (by decide) (by decide)
  · cases built

theorem built_records_fine (tables : FadTables K) (recordType : String) (records : List (Json K))
    (built : buildRecords settings tables recordType = .ok records) : ∀ record ∈ records, RecordFine settings record := by
  intro record member
  rw [buildRecords] at built
  split at built
  · obtain ⟨row, _, found⟩ := Collect.ok_source _ _ records built record member
    exact cbsd_record_fine settings tables row record found
  · split at built
    · cases all : tables.zones.mapM (buildZoneRecord settings tables) with
      | error error =>
          rw [buildZoneRecords, all] at built
          cases built
      | ok results =>
          rw [buildZoneRecords, all] at built
          cases built
          obtain ⟨result, resultMember, same⟩ := List.mem_filterMap.mp member
          obtain ⟨row, _, found⟩ := Collect.ok_source _ _ results all result resultMember
          rw [show result = some record from same] at found
          exact zone_record_fine settings tables row record found
    · split at built
      · cases built
        obtain ⟨row, _, found⟩ := List.mem_filterMap.mp member
        exact esc_record_fine settings row record found
      · cases built
        cases member

end Built

end SasCore.Fad
