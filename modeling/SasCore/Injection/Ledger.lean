import SasCore.Injection.KeyMap
import Mathlib.Algebra.Order.Field.Rat

set_option autoImplicit false
set_option linter.unusedSectionVars false

namespace SasCore.Injection

open Fad Orm

variable {K : Type} [Field K] [LinearOrder K] (env : InjectionEnv K)

inductive Request (K : Type) where
  | single (writer : Writer) (body : Json K)
  | batch (writer : Writer) (validator : Json K → Bool) (items : List (Json K))

def serve (committed : Tables K) : Request K → Tables K
  | .single writer body => single env writer body committed
  | .batch writer validator items => (upsertBatch env writer validator items committed).1

def serveAll (committed : Tables K) (requests : List (Request K)) : Tables K := requests.foldl (serve env) committed

-- The records a request stores, none when it is refused.
def recordsOf : Request K → List (Kind × Json K)
  | .single writer body =>
      match planned env writer body with
      | .error _ => []
      | .ok record => record.toList
  | .batch writer validator items =>
      if !items.all validator then []
      else
        match plannedItems env writer items with
        | .error _ => []
        | .ok records => records

def rowsUnder (kind : Kind) (key : Option String) (tables : Tables K) : List (Option (Json K)) :=
  under (storedKey env kind) key (tables.records kind).settled

-- A map from the kinds and the keys to payloads, beside the records that have no key.
def recordOne (kind : Kind) (key : Option String) (held : List (Option (Json K))) (record : Kind × Json K) :
    List (Option (Json K)) :=
  if record.1 = kind ∧ naturalKey env kind record.2 = key then
    (if key.isSome then [some record.2] else held ++ [some record.2])
  else held

-- The payload written last under a key.
def lastUnder (kind : Kind) (key : Option String) (records : List (Kind × Json K)) : Option (Json K) :=
  ((records.filter fun record => record.1 = kind ∧ naturalKey env kind record.2 = key).getLast?).map (·.2)

structure IsMap (tables : Tables K) : Prop where
  committed : ∀ kind, (tables.records kind).flush = tables.records kind
  single : ∀ kind key, (rowsUnder env kind (some key) tables).length ≤ 1

-- No record of a batch has the key of one that waits for a flush.
def clashFree (stored : Kind → String → Bool) (waiting : List (Kind × String)) : List (Kind × Option String) → Bool
  | [] => true
  | (_, none) :: rest => clashFree stored waiting rest
  | (kind, some key) :: rest =>
      let later := if stored kind key then waiting else (kind, key) :: waiting
      !waiting.contains (kind, key) &&
        (if tagged kind key then clashFree (fun other name => stored other name || later.contains (other, name)) [] rest
          else clashFree stored later rest)

def keysOf (records : List (Kind × Json K)) : List (Kind × Option String) :=
  records.map fun record => (record.1, naturalKey env record.1 record.2)

def keyStored (tables : Tables K) (kind : Kind) (key : String) : Bool :=
  (tables.records kind).all.any (hasKey (storedKey env kind) key)

def Separate (tables : Tables K) (request : Request K) : Prop :=
  clashFree (keyStored env tables) [] (keysOf env (recordsOf env request)) = true

instance (tables : Tables K) (request : Request K) : Decidable (Separate env tables request) :=
  inferInstanceAs (Decidable (_ = true))

def SeparateRun : Tables K → List (Request K) → Prop
  | _, [] => True
  | tables, request :: rest => Separate env tables request ∧ SeparateRun (serve env tables request) rest

section Effect

theorem last_under_append (kind : Kind) (key : Option String) (records : List (Kind × Json K)) (record : Kind × Json K) :
    lastUnder env kind key (records ++ [record]) =
      if record.1 = kind ∧ naturalKey env kind record.2 = key then some record.2 else lastUnder env kind key records := by
  by_cases here : record.1 = kind ∧ naturalKey env kind record.2 = key
  · simp [lastUnder, List.filter_append, here]
  · simp [lastUnder, List.filter_append, here]

theorem last_under (kind : Kind) (key : String) (records : List (Kind × Json K)) (held : List (Option (Json K))) :
    records.foldl (recordOne env kind (some key)) held =
      match lastUnder env kind (some key) records with
      | some payload => [some payload]
      | none => held := by
  induction records using List.reverseRecOn with
  | nil => rfl
  | append_singleton before record ih =>
      rw [List.foldl_append, List.foldl_cons, List.foldl_nil, ih, recordOne, last_under_append]
      by_cases here : record.1 = kind ∧ naturalKey env kind record.2 = some key
      · rw [if_pos here, if_pos here]
        rfl
      · rw [if_neg here, if_neg here]

theorem keyless_under (kind : Kind) (records : List (Kind × Json K)) (held : List (Option (Json K))) :
    records.foldl (recordOne env kind none) held =
      held ++ (records.filter fun record => record.1 = kind ∧ naturalKey env kind record.2 = none).map fun record =>
        some record.2 := by
  induction records generalizing held with
  | nil => simp
  | cons record rest ih =>
      rw [List.foldl_cons, ih, recordOne]
      by_cases here : record.1 = kind ∧ naturalKey env kind record.2 = none
      · simp [here]
      · simp [here]

end Effect

section Steps

-- Where a batch stands between two of its items.
def Midway (stored : Kind → String → Bool) (waiting : List (Kind × String)) (tables : Tables K) : Prop :=
  ∀ kind, Keyed (storedKey env kind) (fun key => stored kind key = true) (fun key => (kind, key) ∈ waiting) (tables.records kind)

def allowed (waiting : List (Kind × String)) (kind : Kind) (key : Option String) : Bool :=
  match key with
  | none => true
  | some key => !waiting.contains (kind, key)

def waitingAfter (stored : Kind → String → Bool) (waiting : List (Kind × String)) (kind : Kind) (key : Option String) :
    List (Kind × String) :=
  match key with
  | none => waiting
  | some key => if stored kind key then waiting else (kind, key) :: waiting

variable {env}

theorem upsert_midway (stored : Kind → String → Bool) (waiting : List (Kind × String)) (tables : Tables K) (kind : Kind)
    (payload : Json K) (shaped : payload.isObject = true) (midway : Midway env stored waiting tables)
    (free : allowed waiting kind (naturalKey env kind payload) = true) :
    Midway env stored (waitingAfter stored waiting kind (naturalKey env kind payload))
      (upsert env kind payload (naturalKey env kind payload) tables) := by
  have own := stored_key env kind payload shaped
  intro other
  by_cases here : other = kind
  · subst here
    cases found : naturalKey env other payload with
    | none =>
        rw [upsert_keyless]
        exact (midway other).add (some payload) (own.trans found)
    | some key =>
        rw [found] at free
        have absent : ¬ (other, key) ∈ waiting := by simpa [allowed] using free
        rw [upsert_own]
        apply ((midway other).put key (some payload) (own.trans found) absent).congr
        · exact fun _ => Iff.rfl
        · intro name
          simp only [waitingAfter]
          by_cases present : stored other key = true
          · simp [present]
          · simp [present, or_comm]
  · rw [upsert_other env kind other here]
    apply (midway other).congr
    · exact fun _ => Iff.rfl
    · intro name
      cases naturalKey env kind payload with
      | none => exact Iff.rfl
      | some key =>
          simp only [waitingAfter]
          by_cases present : stored kind key = true
          · simp [present]
          · simp [present, here]

theorem upsert_rows (stored : Kind → String → Bool) (waiting : List (Kind × String)) (tables : Tables K) (kind : Kind)
    (payload : Json K) (shaped : payload.isObject = true) (midway : Midway env stored waiting tables)
    (free : allowed waiting kind (naturalKey env kind payload) = true) (other : Kind) (asked : Option String) :
    rowsUnder env other asked (upsert env kind payload (naturalKey env kind payload) tables) =
      recordOne env other asked (rowsUnder env other asked tables) (kind, payload) := by
  have own := stored_key env kind payload shaped
  rw [recordOne]
  by_cases here : other = kind
  · subst here
    cases found : naturalKey env other payload with
    | none =>
        rw [rowsUnder, upsert_keyless, settled_add, under_append, under_cons, own, found]
        cases asked with
        | none => simp [under, rowsUnder]
        | some key => simp [under, rowsUnder]
    | some key =>
        rw [found] at free own
        have absent : ¬ (other, key) ∈ waiting := by simpa [allowed] using free
        have keyed := midway other
        rw [rowsUnder, upsert_own]
        by_cases same : asked = some key
        · have flushed : ∀ row ∈ (tables.records other).pending, storedKey env other row ≠ some key := by
            intro row member isKey
            exact absent ((keyed.awaited key).mpr (List.mem_map.mpr ⟨row, member, isKey⟩))
          rw [same, put_under _ _ key _ keyed.clean own (keyed.single key) flushed, if_pos ⟨rfl, rfl⟩]
          rfl
        · rw [put_under_other _ _ key _ keyed.clean own asked same, if_neg (fun both => same both.2.symm)]
          rfl
  · rw [rowsUnder, upsert_other env kind other here, if_neg (fun both => here both.1.symm)]
    rfl

theorem flush_midway (stored : Kind → String → Bool) (waiting : List (Kind × String)) (tables after : Tables K)
    (flushed : ∀ kind, after.records kind = (tables.records kind).flush) (midway : Midway env stored waiting tables) :
    Midway env (fun kind key => stored kind key || waiting.contains (kind, key)) [] after := by
  intro kind
  rw [flushed kind]
  apply (midway kind).flush.congr
  · intro key
    simp
  · simp

theorem flush_rows (kind : Kind) (asked : Option String) (tables after : Tables K)
    (flushed : ∀ kind, after.records kind = (tables.records kind).flush) :
    rowsUnder env kind asked after = rowsUnder env kind asked tables := by
  rw [rowsUnder, flushed kind, settled_flush]
  rfl

-- The keys after one record, as queries see them and as they wait.
theorem store_step (stored : Kind → String → Bool) (waiting : List (Kind × String)) (tables : Tables K) (record : Kind × Json K)
    (shaped : record.2.isObject = true) (midway : Midway env stored waiting tables)
    (rest : List (Kind × Option String)) (free : clashFree stored waiting ((record.1, naturalKey env record.1 record.2) :: rest) = true) :
    ∃ known awaited, Midway env known awaited (store env tables record) ∧ clashFree known awaited rest = true ∧
      ∀ kind asked, rowsUnder env kind asked (store env tables record) =
        recordOne env kind asked (rowsUnder env kind asked tables) record := by
  obtain ⟨kind, payload⟩ := record
  have admitted : allowed waiting kind (naturalKey env kind payload) = true := by
    cases found : naturalKey env kind payload with
    | none => rfl
    | some key =>
        rw [found, clashFree, Bool.and_eq_true] at free
        exact free.1
  have after := upsert_midway stored waiting tables kind payload shaped midway admitted
  have rows := upsert_rows stored waiting tables kind payload shaped midway admitted
  have effect := store_records env tables (kind, payload)
  by_cases marked : tagged kind ((naturalKey env kind payload).getD "") = true
  · have flushed : ∀ other, (store env tables (kind, payload)).records other =
        ((upsert env kind payload (naturalKey env kind payload) tables).records other).flush := by
      intro other
      rw [effect other]
      exact if_pos marked
    refine ⟨_, _, flush_midway _ _ _ _ flushed after, ?_, fun other asked => ?_⟩
    · cases found : naturalKey env kind payload with
      | none =>
          rw [found] at marked
          simp [tagged] at marked
      | some key =>
          rw [found, Option.getD_some] at marked
          rw [found, clashFree, Bool.and_eq_true, if_pos marked] at free
          exact free.2
    · rw [flush_rows other asked _ _ flushed]
      exact rows other asked
  · have kept : ∀ other, (store env tables (kind, payload)).records other =
        (upsert env kind payload (naturalKey env kind payload) tables).records other := by
      intro other
      rw [effect other]
      exact if_neg marked
    refine ⟨stored, waitingAfter stored waiting kind (naturalKey env kind payload), ?_, ?_, fun other asked => ?_⟩
    · intro other
      rw [kept other]
      exact after other
    · cases found : naturalKey env kind payload with
      | none =>
          rw [found, clashFree] at free
          exact free
      | some key =>
          rw [found, Option.getD_some] at marked
          rw [found, clashFree, Bool.and_eq_true, if_neg marked] at free
          exact free.2
    · rw [rowsUnder, kept other]
      exact rows other asked

theorem store_run (records : List (Kind × Json K)) (shaped : ∀ record ∈ records, record.2.isObject = true)
    (stored : Kind → String → Bool) (waiting : List (Kind × String)) (tables : Tables K) (midway : Midway env stored waiting tables)
    (free : clashFree stored waiting (keysOf env records) = true) :
    (∃ known awaited, Midway env known awaited (records.foldl (store env) tables)) ∧
      ∀ kind asked, rowsUnder env kind asked (records.foldl (store env) tables) =
        records.foldl (recordOne env kind asked) (rowsUnder env kind asked tables) := by
  induction records generalizing stored waiting tables with
  | nil => exact ⟨⟨stored, waiting, midway⟩, fun _ _ => rfl⟩
  | cons record rest ih =>
      obtain ⟨known, awaited, after, freeRest, rows⟩ :=
        store_step stored waiting tables record (shaped record List.mem_cons_self) midway (keysOf env rest) free
      obtain ⟨reached, later⟩ :=
        ih (fun other member => shaped other (List.mem_cons_of_mem record member)) known awaited _ after freeRest
      refine ⟨reached, fun kind asked => ?_⟩
      rw [List.foldl_cons, List.foldl_cons, later, rows]

theorem map_midway (tables : Tables K) (isMap : IsMap env tables) : Midway env (keyStored env tables) [] tables := by
  intro kind
  have pending : (tables.records kind).pending = [] := by
    rw [← isMap.committed kind]
    rfl
  refine ⟨?_, isMap.single kind, fun key => ?_, fun key => ?_⟩
  · rw [← isMap.committed kind]
    exact flush_clean _
  · rw [keyStored, List.any_eq_true, List.mem_map]
    simp [hasKey]
  · rw [pending]
    simp

end Steps

section Requests

theorem records_objects (request : Request K) : ∀ record ∈ recordsOf env request, record.2.isObject = true := by
  cases request with
  | single writer body =>
      intro record member
      rw [recordsOf] at member
      cases plan : planned env writer body with
      | error error => rw [plan] at member; cases member
      | ok stored =>
          rw [plan] at member
          exact planned_object env writer body record (by rw [plan, Option.mem_toList.mp member])
  | batch writer validator items =>
      intro record member
      rw [recordsOf] at member
      split at member
      · cases member
      · cases plan : plannedItems env writer items with
        | error error => rw [plan] at member; cases member
        | ok records =>
            rw [plan] at member
            exact planned_items_objects env writer items records plan record member

-- A request stores its records and commits, or leaves the tables.
theorem serve_records (tables : Tables K) (committed : ∀ kind, (tables.records kind).flush = tables.records kind)
    (request : Request K) (kind : Kind) :
    (serve env tables request).records kind = (((recordsOf env request).foldl (store env) tables).records kind).flush := by
  cases request with
  | single writer body =>
      rw [serve, single_planned, recordsOf]
      cases planned env writer body with
      | error error => exact (committed kind).symm
      | ok record => cases record <;> rfl
  | batch writer validator items =>
      have plan := write_items_planned env writer items (tables, 0)
      rw [serve, upsertBatch, recordsOf]
      by_cases empty : items.isEmpty = true
      · rw [if_pos empty, List.isEmpty_iff.mp empty]
        exact (committed kind).symm
      · rw [if_neg empty]
        by_cases refused : (!items.all validator) = true
        · rw [if_pos refused, if_pos refused]
          exact (committed kind).symm
        · rw [if_neg refused, if_neg refused]
          cases wrote : writeItems env writer items (tables, 0) with
          | error error =>
              rw [wrote] at plan
              cases stored : plannedItems env writer items with
              | error other => exact (committed kind).symm
              | ok records => rw [stored] at plan; cases plan
          | ok result =>
              rw [wrote] at plan
              cases stored : plannedItems env writer items with
              | error other => rw [stored] at plan; cases plan
              | ok records =>
                  rw [stored] at plan
                  have same : result.1 = records.foldl (store env) tables := by injection plan
                  simp only
                  rw [same]
                  rfl

theorem serve_map (tables : Tables K) (isMap : IsMap env tables) (request : Request K) (separate : Separate env tables request) :
    IsMap env (serve env tables request) ∧ ∀ kind asked, rowsUnder env kind asked (serve env tables request) =
      (recordsOf env request).foldl (recordOne env kind asked) (rowsUnder env kind asked tables) := by
  have flushed := serve_records env tables isMap.committed request
  obtain ⟨⟨known, awaited, midway⟩, rows⟩ :=
    store_run (recordsOf env request) (records_objects env request) _ [] tables (map_midway tables isMap) separate
  refine ⟨⟨fun kind => ?_, fun kind key => ?_⟩, fun kind asked => ?_⟩
  · rw [flushed kind, Table.flush, settled_flush]
    rfl
  · rw [flush_rows kind (some key) _ _ flushed]
    exact (midway kind).single key
  · rw [flush_rows kind asked _ _ flushed]
    exact rows kind asked

theorem serve_all_map (tables : Tables K) (isMap : IsMap env tables) (requests : List (Request K))
    (separate : SeparateRun env tables requests) :
    IsMap env (serveAll env tables requests) ∧ ∀ kind asked, rowsUnder env kind asked (serveAll env tables requests) =
      (requests.flatMap (recordsOf env)).foldl (recordOne env kind asked) (rowsUnder env kind asked tables) := by
  induction requests generalizing tables with
  | nil => exact ⟨isMap, fun _ _ => rfl⟩
  | cons request rest ih =>
      obtain ⟨after, rows⟩ := serve_map env tables isMap request separate.1
      obtain ⟨last, later⟩ := ih (serve env tables request) after separate.2
      refine ⟨last, fun kind asked => ?_⟩
      rw [List.flatMap_cons, List.foldl_append, ← rows kind asked]
      exact later kind asked

end Requests

section Map

theorem empty_map : IsMap env (Tables.empty : Tables K) := by
  refine ⟨fun _ => rfl, fun kind key => ?_⟩
  exact Nat.zero_le 1

theorem injection_store_map (tables : Tables K) (isMap : IsMap env tables) (requests : List (Request K))
    (separate : SeparateRun env tables requests) :
    (∀ kind key, (rowsUnder env kind (some key) (serveAll env tables requests)).length ≤ 1) ∧
      (∀ kind key, rowsUnder env kind (some key) (serveAll env tables requests) =
        match lastUnder env kind (some key) (requests.flatMap (recordsOf env)) with
        | some payload => [some payload]
        | none => rowsUnder env kind (some key) tables) ∧
      (∀ kind, rowsUnder env kind none (serveAll env tables requests) =
        rowsUnder env kind none tables ++
          ((requests.flatMap (recordsOf env)).filter fun record => record.1 = kind ∧ naturalKey env kind record.2 = none).map
            fun record => some record.2) ∧
      ∀ writer validator items, items.all validator = false →
        serve env (serveAll env tables requests) (.batch writer validator items) = serveAll env tables requests := by
  obtain ⟨reached, rows⟩ := serve_all_map env tables isMap requests separate
  refine ⟨reached.single, fun kind key => ?_, fun kind => ?_, fun writer validator items refused => ?_⟩
  · rw [rows]
    exact last_under env kind key _ _
  · rw [rows]
    exact keyless_under env kind _ _
  · rw [serve, upsertBatch, refused]
    cases items with
    | nil => rfl
    | cons item rest => rfl

def plainEnv : InjectionEnv Rat where
  settings := ⟨"admin", "https://peer", "v1.3", ⟨fun _ => [], fun _ => none⟩, fun _ => "", fun _ => none,
    fun value => value.floor, fun _ => "", fun _ => ""⟩
  upper text := String.ofList (PyText.upper text.toList)
  sortedDumps _ := ""
  urlparse _ := none

def escZoneItem (height : Int) : Json Rat := .object [("id", .text "esc-1"), ("height", .int height)]

def twoRequests : List (Request Rat) := [.single .escZone (escZoneItem 1), .batch .escZone (·.isObject) [escZoneItem 2]]

theorem injection_store_map_sample : (rowsUnder plainEnv .escZone (some "esc-1") (serveAll plainEnv .empty twoRequests)).length ≤ 1 := by
  have separate : SeparateRun plainEnv .empty twoRequests := ⟨by decide +kernel, by decide +kernel, trivial⟩
  exact (injection_store_map plainEnv .empty (empty_map plainEnv) twoRequests separate).1 .escZone "esc-1"

-- The first item waits for the commit when the second looks for its key.
theorem batch_repeats_key :
    (rowsUnder plainEnv .escZone (some "esc-1")
      (serveAll plainEnv .empty [.batch .escZone (·.isObject) [escZoneItem 1, escZoneItem 2]])).length = 2 := by
  decide +kernel

end Map

end SasCore.Injection
