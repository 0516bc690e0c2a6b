import SasCore.Iap.FrozenPoints
import SasCore.Iap.SortedRecords
import SasCore.Lib.StableSort

set_option autoImplicit false
set_option linter.unusedSectionVars false

-- What a freeze captures, read back kind by kind.
namespace SasCore.Iap

open Federal Injection JsonText Spectrum

variable {K : Type} [Field K] [LinearOrder K]

section Order

variable {α : Type}

def idBefore (first second : String × α) : Bool := decide (first.1 ≤ second.1)

theorem record_trans (a b c : ProtectionRecord) (ab : recordBefore a b = true) (bc : recordBefore b c = true) :
    recordBefore a c = true := by
  rw [recordBefore, decide_eq_true_iff] at ab bc ⊢
  exact ab.trans bc

theorem record_total (a b : ProtectionRecord) : (recordBefore a b || recordBefore b a) = true := by
  rw [Bool.or_eq_true, recordBefore, recordBefore, decide_eq_true_iff, decide_eq_true_iff]
  exact le_total _ _

theorem id_trans (a b c : String × α) (ab : idBefore a b = true) (bc : idBefore b c = true) : idBefore a c = true := by
  rw [idBefore, decide_eq_true_iff] at ab bc ⊢
  exact ab.trans bc

theorem id_total (a b : String × α) : (idBefore a b || idBefore b a) = true := by
  rw [Bool.or_eq_true, idBefore, idBefore, decide_eq_true_iff, decide_eq_true_iff]
  exact le_total _ _

def row (kind : String) (text : α → String) (entry : String × α) : ProtectionRecord := ⟨kind, entry.1, text entry.2⟩

-- Rows of one kind are in the order of their ids.
theorem rows_sorted (kind : String) (text : α → String) (named : List (String × α)) :
    (named.map (row kind text)).mergeSort recordBefore = (named.mergeSort idBefore).map (row kind text) := by
  refine (List.map_mergeSort fun a _ b _ => ?_).symm
  rw [idBefore, recordBefore, decide_eq_decide, row, row, Prod.Lex.toLex_le_toLex]
  simp

end Order

section Loading

variable (floats : FloatText K)

theorem braces_twice (text : String) : orBraces (orBraces text) = orBraces text := by
  by_cases empty : text = ""
  · rw [empty]
    rfl
  · rw [orBraces, orBraces, if_neg empty, if_neg empty]

theorem loaded_plain (text : String) (data : Json K) (loaded : loadDict floats text = some data) :
    Plain data ∧ data.isObject = true := by
  obtain ⟨read, isDict⟩ := Option.filter_eq_some_iff.mp loaded
  exact ⟨loads_plain floats _ data read, isDict⟩

theorem read_dumped (lawful : floats.Lawful) (value : Json K) (plain : Plain value) :
    loads floats (orBraces (dumps floats value)) = some value := by
  have back := loads_dumps floats lawful value plain
  have there : dumps floats value ≠ "" := by
    intro empty
    rw [empty] at back
    cases back
  rw [orBraces, if_neg there, back]

theorem read_sorted (lawful : floats.Lawful) (value : Json K) (plain : Plain value) :
    loads floats (orBraces (sortedDumps floats value)) = some (sortKeys value) :=
  read_dumped floats lawful (sortKeys value) (plain_sorted value plain)

theorem load_sorted (lawful : floats.Lawful) (value : Json K) (plain : Plain value) (isDict : value.isObject = true) :
    loadDict floats (sortedDumps floats value) = some (sortKeys value) := by
  rw [loadDict, read_sorted floats lawful value plain, Option.filter_some, is_object_sorted, isDict, if_pos rfl]

end Loading

section Reading

variable (floats : FloatText K) (kind : String) (records : List ProtectionRecord)

theorem frozen_rows {α : Type} (text : α → String) (named : List (String × α))
    (held : (records.filter fun record => record.kind = kind) = named.map (row kind text)) :
    frozenPayloads floats kind (records.mergeSort recordBefore) = (named.mergeSort idBefore).filterMap fun entry =>
      (loadDict floats (text entry.2)).map fun data => (entry.1, data) := by
  rw [frozenPayloads, StableSort.filter_sort recordBefore record_trans record_total, held, rows_sorted, List.filterMap_map]
  rfl

-- Captured payloads come back with their keys sorted.
theorem frozen_payloads (lawful : floats.Lawful) (named : List (String × Json K))
    (each : ∀ entry ∈ named, Plain entry.2 ∧ entry.2.isObject = true)
    (held : (records.filter fun record => record.kind = kind) = named.map (row kind (sortedDumps floats))) :
    frozenPayloads floats kind (records.mergeSort recordBefore) =
      (named.mergeSort idBefore).map fun entry => (entry.1, sortKeys entry.2) := by
  rw [frozen_rows floats kind records (sortedDumps floats) named held, ← List.filterMap_eq_map]
  refine List.filterMap_congr fun entry member => ?_
  obtain ⟨plain, isDict⟩ := each entry (List.mem_mergeSort.mp member)
  rw [load_sorted floats lawful entry.2 plain isDict]
  rfl

end Reading

section Kinds

variable (env : FeedEnv K) (readers : PyReaders K) (tables : EntityTables K) (pals : List (Json K))
  (exclusions : List ProtectionRecord)

-- The rows of a freeze before they are sorted.
def capturedRows : List ProtectionRecord :=
  let load := loadInjected (jsonFloats env)
  captureKind env readers "fss" (load tables.fss) ++ captureKind env readers "wisp" (load tables.wisp) ++
    captureKind env readers "zone" (load tables.zones) ++ captureKind env readers "gwbl" (load tables.gwbl) ++
    capturePals env readers pals ++ exclusions ++ [captureEscConnectivityForFreeze env tables] ++
    captureScheduled env (load tables.scheduledDpas) ++ captureActivations env readers (load tables.activeDpas) ++
    captureSensors tables.escSensors

theorem select_part (kind other : String) (part : List ProtectionRecord) (each : ∀ record ∈ part, record.kind = other) :
    (part.filter fun record => record.kind = kind) = if other = kind then part else [] := by
  by_cases same : other = kind
  · rw [if_pos same, List.filter_eq_self]
    intro record member
    rw [each record member, same, decide_eq_true_iff]
  · rw [if_neg same, List.filter_eq_nil_iff]
    intro record member
    rw [each record member, decide_eq_true_iff]
    exact same

theorem mapped_kind {α : Type} (kind : String) (f : α → ProtectionRecord) (items : List α) (each : ∀ item, (f item).kind = kind) :
    ∀ record ∈ items.map f, record.kind = kind := by
  intro record member
  obtain ⟨item, _, same⟩ := List.mem_map.mp member
  exact same ▸ each item

theorem exclusion_kind (kind label : String) (texts : List String) (records : List ProtectionRecord)
    (captured : exclusionRecords env kind label texts = .ok records) : ∀ record ∈ records, record.kind = kind := by
  intro record member
  obtain ⟨entry, _, built⟩ := Collect.ok_source _ _ records captured record member
  split at built
  · cases built
  · cases built
    rfl

theorem exclusion_kinds (captured : captureExclusionZoneRecordsForFreeze env tables = .ok exclusions) :
    ∀ record ∈ exclusions, record.kind = "exclusion_zone" ∨ record.kind = "ntia_exclusion_zones" := by
  intro record member
  rw [captureExclusionZoneRecordsForFreeze] at captured
  cases injected : exclusionRecords env "exclusion_zone" "exz" tables.exclusionZones with
  | error error => rw [injected] at captured; cases captured
  | ok zones =>
      rw [injected] at captured
      dsimp only [Except.bind] at captured
      have zoneKind := exclusion_kind env "exclusion_zone" "exz" _ zones injected
      split at captured
      · cases captured
        exact .inl (zoneKind record member)
      · split at captured
        · cases captured
        · obtain ⟨ntia, isNtia, same⟩ := Collect.map_ok _ _ _ captured
          rw [← same] at member
          rcases List.mem_append.mp member with first | second
          · exact .inl (zoneKind record first)
          · exact .inr (exclusion_kind env "ntia_exclusion_zones" "ntia" _ ntia isNtia record second)

theorem select_rows (kind : String) (captured : captureExclusionZoneRecordsForFreeze env tables = .ok exclusions)
    (zones : "exclusion_zone" ≠ kind) (ntia : "ntia_exclusion_zones" ≠ kind) :
    ((capturedRows env readers tables pals exclusions).filter fun record => record.kind = kind) =
      (if "fss" = kind then captureKind env readers "fss" (loadInjected (jsonFloats env) tables.fss) else []) ++
      (if "wisp" = kind then captureKind env readers "wisp" (loadInjected (jsonFloats env) tables.wisp) else []) ++
      (if "zone" = kind then captureKind env readers "zone" (loadInjected (jsonFloats env) tables.zones) else []) ++
      (if "gwbl" = kind then captureKind env readers "gwbl" (loadInjected (jsonFloats env) tables.gwbl) else []) ++
      (if "pal" = kind then capturePals env readers pals else []) ++ [] ++
      (if "esc_state" = kind then [captureEscConnectivityForFreeze env tables] else []) ++
      (if "scheduled_dpa" = kind then captureScheduled env (loadInjected (jsonFloats env) tables.scheduledDpas) else []) ++
      (if "dpa_activation" = kind then captureActivations env readers (loadInjected (jsonFloats env) tables.activeDpas) else []) ++
      (if "esc_sensor" = kind then captureSensors tables.escSensors else []) := by
  have none : (exclusions.filter fun record => record.kind = kind) = [] := by
    rw [List.filter_eq_nil_iff]
    intro record member
    rw [decide_eq_true_iff]
    rcases exclusion_kinds env tables exclusions captured record member with first | second
    · exact first ▸ zones
    · exact second ▸ ntia
  have state : ∀ record ∈ [captureEscConnectivityForFreeze env tables], record.kind = "esc_state" := by
    intro record member
    rw [List.mem_singleton.mp member]
    rfl
  rw [capturedRows]
  simp only [List.filter_append]
  rw [none, select_part kind "esc_state" _ state,
    select_part kind "fss" (captureKind env readers "fss" _) (mapped_kind _ _ _ fun _ => rfl),
    select_part kind "wisp" (captureKind env readers "wisp" _) (mapped_kind _ _ _ fun _ => rfl),
    select_part kind "zone" (captureKind env readers "zone" _) (mapped_kind _ _ _ fun _ => rfl),
    select_part kind "gwbl" (captureKind env readers "gwbl" _) (mapped_kind _ _ _ fun _ => rfl),
    select_part kind "pal" (capturePals env readers pals) (mapped_kind _ _ _ fun _ => rfl),
    select_part kind "scheduled_dpa" (captureScheduled env _) (mapped_kind _ _ _ fun _ => rfl),
    select_part kind "dpa_activation" (captureActivations env readers _) (mapped_kind _ _ _ fun _ => rfl),
    select_part kind "esc_sensor" (captureSensors tables.escSensors) (mapped_kind _ _ _ fun _ => rfl)]

end Kinds

section Entities

variable (env : FeedEnv K) (readers : PyReaders K)

def namedPayloads (kind : String) (payloads : List (Json K)) : List (String × Json K) :=
  payloads.zipIdx.map fun entry => (capturedId readers kind entry.2 entry.1, entry.1)

def namedPals (pals : List (Json K)) : List (String × Json K) :=
  pals.zipIdx.map fun entry => (capturedPalId readers entry.2 entry.1, entry.1)

-- The payloads in the order in which the snapshot lists their kind.
def capturedOrder (kind : String) (payloads : List (Json K)) : List (Json K) :=
  ((namedPayloads readers kind payloads).mergeSort idBefore).map (·.2)

def capturedPals (pals : List (Json K)) : List (Json K) := ((namedPals readers pals).mergeSort idBefore).map (·.2)

theorem zip_payloads {α β : Type} (items : List α) (name : α × Nat → β) :
    (items.zipIdx.map fun entry => (name entry, entry.1)).map (·.2) = items := by
  rw [List.map_map]
  exact List.zipIdx_map_fst 0 items

theorem captured_perm (kind : String) (payloads : List (Json K)) : (capturedOrder readers kind payloads).Perm payloads := by
  have sorted := (List.mergeSort_perm (namedPayloads readers kind payloads) idBefore).map (·.2)
  rwa [namedPayloads, zip_payloads] at sorted

theorem named_payload (kind : String) (payloads : List (Json K)) (entry : String × Json K)
    (member : entry ∈ namedPayloads readers kind payloads) : entry.2 ∈ payloads := by
  have listed := List.mem_map_of_mem (f := fun entry : String × Json K => entry.2) member
  rwa [namedPayloads, zip_payloads] at listed

theorem named_pal (pals : List (Json K)) (entry : String × Json K) (member : entry ∈ namedPals readers pals) : entry.2 ∈ pals := by
  have listed := List.mem_map_of_mem (f := fun entry : String × Json K => entry.2) member
  rwa [namedPals, zip_payloads] at listed

theorem capture_named (kind : String) (payloads : List (Json K)) : captureKind env readers kind payloads =
    (namedPayloads readers kind payloads).map (row kind (sortedDumps (jsonFloats env))) := by
  rw [namedPayloads, List.map_map]
  rfl

theorem capture_named_pals (pals : List (Json K)) : capturePals env readers pals =
    (namedPals readers pals).map (row "pal" (sortedDumps (jsonFloats env))) := by
  rw [namedPals, List.map_map]
  rfl

theorem load_injected_plain (texts : List String) (payload : Json K) (member : payload ∈ loadInjected (jsonFloats env) texts) :
    Plain payload ∧ payload.isObject = true := by
  obtain ⟨text, _, loaded⟩ := List.mem_filterMap.mp member
  exact loaded_plain _ text payload loaded

variable (lawful : (jsonFloats env).Lawful) (tables : EntityTables K) (pals : List (Json K)) (exclusions : List ProtectionRecord)
  (plainPals : ∀ pal ∈ pals, Plain pal ∧ pal.isObject = true)
  (captured : captureExclusionZoneRecordsForFreeze env tables = .ok exclusions)

include lawful in
theorem frozen_captured (kind : String) (texts : List String) (records : List ProtectionRecord)
    (held : (records.filter fun record => record.kind = kind) =
      captureKind env readers kind (loadInjected (jsonFloats env) texts)) :
    (frozenPayloads (jsonFloats env) kind (records.mergeSort recordBefore)).map (·.2) =
      (capturedOrder readers kind (loadInjected (jsonFloats env) texts)).map sortKeys := by
  rw [capture_named] at held
  rw [frozen_payloads (jsonFloats env) kind records lawful _
    (fun entry member => load_injected_plain env texts entry.2 (named_payload readers kind _ entry member)) held,
    List.map_map, capturedOrder, List.map_map]
  rfl

include lawful plainPals captured in
theorem frozen_entities :
    frozenEntities (jsonFloats env) ((capturedRows env readers tables pals exclusions).mergeSort recordBefore) =
      { fss := (capturedOrder readers "fss" (loadInjected (jsonFloats env) tables.fss)).map sortKeys
        wisp := (capturedOrder readers "wisp" (loadInjected (jsonFloats env) tables.wisp)).map sortKeys
        zones := (capturedOrder readers "zone" (loadInjected (jsonFloats env) tables.zones)).map sortKeys
        escRecords := loadSensors (jsonFloats env) (tables.escSensors.mergeSort idBefore)
        pals := (capturedPals readers pals).map sortKeys } := by
  have select := fun kind => select_rows env readers tables pals exclusions kind captured
  have palRows : (frozenPayloads (jsonFloats env) "pal" ((capturedRows env readers tables pals exclusions).mergeSort
      recordBefore)).map (·.2) = (capturedPals readers pals).map sortKeys := by
    rw [frozen_payloads (jsonFloats env) "pal" _ lawful (namedPals readers pals)
      (fun entry member => plainPals entry.2 (named_pal readers pals entry member))
      (by rw [select "pal" (by decide) (by decide), ← capture_named_pals]; simp), List.map_map, capturedPals, List.map_map]
    rfl
  have sensors : frozenPayloads (jsonFloats env) "esc_sensor" ((capturedRows env readers tables pals exclusions).mergeSort
      recordBefore) = loadSensors (jsonFloats env) (tables.escSensors.mergeSort idBefore) := by
    rw [frozen_rows (jsonFloats env) "esc_sensor" _ orBraces tables.escSensors
      (by rw [select "esc_sensor" (by decide) (by decide)]; simp [captureSensors, row]), loadSensors]
    refine List.filterMap_congr fun entry _ => ?_
    rw [loadDict, braces_twice, loadDict]
  rw [frozenEntities, palRows, sensors,
    frozen_captured env readers lawful "fss" tables.fss _ (by rw [select "fss" (by decide) (by decide)]; simp),
    frozen_captured env readers lawful "wisp" tables.wisp _ (by rw [select "wisp" (by decide) (by decide)]; simp),
    frozen_captured env readers lawful "zone" tables.zones _ (by rw [select "zone" (by decide) (by decide)]; simp)]

end Entities

section Captured

variable (env : FeedEnv K) (source : PointSource K) (tables : EntityTables K)

theorem resolved_known : resolveEscConnectivity (jsonFloats env) tables ≠ .unknown := by
  rw [resolveEscConnectivity]
  intro unknown
  cases absent : escFlag (jsonFloats env) "absent" tables.escAbsent with
  | none => rw [absent] at unknown; cases unknown
  | some isAbsent =>
      rw [absent] at unknown
      cases isAbsent with
      | true => cases unknown
      | false =>
          dsimp only at unknown
          cases lost : escFlag (jsonFloats env) "disconnected" tables.escDisconnected with
          | none => rw [lost] at unknown; cases unknown
          | some isLost => rw [lost] at unknown; cases isLost <;> cases unknown

def escPayload (state : EscConnectivityState) : Json K :=
  .object [("state", .text state.value), ("disconnected", .bool (state = .disconnected)), ("absent", .bool (state = .absent))]

theorem esc_payload_plain (state : EscConnectivityState) : Plain (escPayload state : Json K) :=
  ⟨by simp, trivial, trivial, trivial, trivial⟩

theorem state_parsed (state : EscConnectivityState) :
    parseFrozenEscConnectivity source (sortKeys (escPayload state)) = .ok state := by
  have named : (escPayload state : Json K).field "state" = .text state.value := rfl
  rw [parseFrozenEscConnectivity, is_object_sorted, field_sorted _ (esc_payload_plain state), named]
  cases state <;> simp [escPayload, Json.isObject, sortKeys, Json.isNull, Json.toText, EscConnectivityState.value]

-- The state that a freeze captures is one that building accepts.
theorem state_accepted (lawful : (jsonFloats env).Lawful) (pals : List (Json K)) (exclusions : List ProtectionRecord)
    (captured : captureExclusionZoneRecordsForFreeze env tables = .ok exclusions)
    (valid : resolveEscConnectivity (jsonFloats env) tables ≠ .invalid) :
    assertFrozenEscConnectivity (jsonFloats env) source
      ((capturedRows env source.readers tables pals exclusions).mergeSort recordBefore) = .ok () := by
  have only : ((capturedRows env source.readers tables pals exclusions).mergeSort recordBefore).find?
      (fun record => record.kind = "esc_state") = some (captureEscConnectivityForFreeze env tables) := by
    rw [← List.head?_filter, StableSort.filter_sort recordBefore record_trans record_total,
      select_rows env source.readers tables pals exclusions "esc_state" captured (by decide) (by decide)]
    simp
  have known := resolved_known env tables
  have dataJson : (captureEscConnectivityForFreeze env tables).dataJson =
      sortedDumps (jsonFloats env) (escPayload (resolveEscConnectivity (jsonFloats env) tables)) := rfl
  have read := read_sorted (jsonFloats env) lawful _ (esc_payload_plain (resolveEscConnectivity (jsonFloats env) tables))
  rw [assertFrozenEscConnectivity, only]
  dsimp only
  rw [dataJson, read]
  dsimp only
  rw [state_parsed]
  exact if_neg fun refused => refused.elim valid known

end Captured

end SasCore.Iap
