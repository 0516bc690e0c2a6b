import SasCore.Federal.FssGwbl
import Mathlib.Algebra.Order.Field.Rat

set_option autoImplicit false
set_option linter.unusedSectionVars false

namespace SasCore.Federal

open Injection Orm

variable {K : Type} [Field K] [LinearOrder K] (env : FeedEnv K)

def fssRows (tables : Tables K) : List (Option (Json K)) := (tables.records .fss).settled

-- The records of the sites that convert, in the order of the feed.
def siteRecords (sites : List (Json K)) : List (Json K) :=
  sites.filterMap fun site =>
    match federalFssSiteToRecord env site with
    | .ok record => record
    | .error _ => none

-- An upsert takes the place of the rows of its id.
def replaces (record : Json K) (row : Option (Json K)) : Bool :=
  match fssRecordId env.readers record with
  | none => false
  | some id => storedFssId env.readers row = some id

-- The records no later one of the feed takes the place of.
def keptRecords : List (Json K) → List (Json K)
  | [] => []
  | record :: rest =>
      if rest.any fun later => replaces env later (some record) then keptRecords rest else record :: keptRecords rest

def federalTagged (tables : Tables K) (row : Option (Json K)) : Bool :=
  (storedFssId env.readers row).any fun id => (federalIds (loadFssProvenanceMap tables)).contains id

-- A row that neither the deletion of the federal rows nor an upsert of the feed touches.
def Untouched (tables : Tables K) (records : List (Json K)) (row : Option (Json K)) : Prop :=
  row ∈ fssRows tables ∧ federalTagged env tables row = false ∧ ∀ record ∈ records, replaces env record row = false

def stationIn (row : Option (Json K)) : Option (StationSite K) := (row.bind (fssLocationAndFreq env)).join

def StoresStation (tables : Tables K) (station : StationSite K) : Prop :=
  ∃ row ∈ fssRows tables, stationIn env row = some station

instance (tables : Tables K) (station : StationSite K) : Decidable (StoresStation env tables station) :=
  inferInstanceAs (Decidable (∃ row ∈ fssRows tables, stationIn env row = some station))

section Rows

def FssCommitted (tables : Tables K) : Prop := (tables.records .fss).flush = tables.records .fss

theorem flushed_committed (tables : Tables K) : FssCommitted tables.flush :=
  congrArg Table.stored (settled_flush (tables.records .fss))

theorem rows_flush (tables : Tables K) : fssRows tables.flush = fssRows tables := settled_flush (tables.records .fss)

theorem committed_fss (tables : Tables K) (committed : FssCommitted tables) :
    (tables.records .fss).Clean ∧ (tables.records .fss).pending = [] := by
  rw [FssCommitted] at committed
  rw [← committed]
  exact ⟨flush_clean _, rfl⟩

theorem persisted_fss (mapping : List (String × FssSource)) (tables : Tables K) :
    fssRows (persistFssProvenanceMap mapping tables) = fssRows tables ∧ FssCommitted (persistFssProvenanceMap mapping tables) :=
  ⟨settled_flush (tables.records .fss), congrArg Table.stored (settled_flush (tables.records .fss))⟩

theorem upsert_site_rows (record : Json K) (held : Tables K × List (String × FssSource)) (committed : FssCommitted held.1)
    (row : Option (Json K)) :
    FssCommitted (upsertSite env record held).1 ∧
      (row ∈ fssRows (upsertSite env record held).1 ↔ row = some record ∨ (row ∈ fssRows held.1 ∧ replaces env record row = false)) := by
  obtain ⟨clean, flushed⟩ := committed_fss held.1 committed
  rw [upsertSite, upsertFssPayload, replaces]
  cases fssRecordId env.readers record with
  | none =>
      refine ⟨flushed_committed _, ?_⟩
      simp only
      rw [rows_flush, fssRows, Tables.set_records_same, settled_add, List.mem_append, List.mem_singleton, or_comm]
      simp [fssRows]
  | some id =>
      refine ⟨flushed_committed _, ?_⟩
      simp only
      rw [rows_flush, fssRows, Tables.set_records_same]
      exact mem_settled_supersede _ (some record) _ clean flushed row

-- After a run of upserts: the records that are kept, and the rows that none of them replaced.
theorem upsert_run_rows (records : List (Json K)) (held : Tables K × List (String × FssSource)) (committed : FssCommitted held.1)
    (row : Option (Json K)) :
    row ∈ fssRows (records.foldl (fun held record => upsertSite env record held) held).1 ↔
      (∃ record ∈ keptRecords env records, row = some record) ∨
        (row ∈ fssRows held.1 ∧ ∀ record ∈ records, replaces env record row = false) := by
  induction records generalizing held with
  | nil => simp [keptRecords]
  | cons record rest ih =>
      obtain ⟨stays, _⟩ := upsert_site_rows env record held committed row
      rw [List.foldl_cons, ih _ stays, (upsert_site_rows env record held committed row).2, keptRecords, List.forall_mem_cons]
      by_cases replaced : (rest.any fun later => replaces env later (some record)) = true
      · rw [if_pos replaced]
        constructor
        · rintro (isKept | ⟨isRecord | ⟨old, missed⟩, apart⟩)
          · exact .inl isKept
          · obtain ⟨later, member, hit⟩ := List.any_eq_true.mp replaced
            have missed := apart later member
            rw [isRecord, hit] at missed
            cases missed
          · exact .inr ⟨old, missed, apart⟩
        · rintro (isKept | ⟨old, missed, apart⟩)
          · exact .inl isKept
          · exact .inr ⟨.inr ⟨old, missed⟩, apart⟩
      · rw [if_neg replaced]
        have alone : ∀ later ∈ rest, replaces env later (some record) = false := by
          intro later member
          by_contra hit
          exact replaced (List.any_eq_true.mpr ⟨later, member, by simpa using hit⟩)
        constructor
        · rintro (⟨kept, member, same⟩ | ⟨isRecord | ⟨old, missed⟩, apart⟩)
          · exact .inl ⟨kept, List.mem_cons_of_mem record member, same⟩
          · exact .inl ⟨record, List.mem_cons_self, isRecord⟩
          · exact .inr ⟨old, missed, apart⟩
        · rintro (⟨kept, member, same⟩ | ⟨old, missed, apart⟩)
          · rcases List.mem_cons.mp member with isFirst | later
            · rw [isFirst] at same
              exact .inr ⟨.inl same, same ▸ alone⟩
            · exact .inl ⟨kept, later, same⟩
          · exact .inr ⟨.inr ⟨old, missed⟩, apart⟩

theorem upsert_sites_run (sites : List (Json K)) (held result : Tables K × List (String × FssSource))
    (done : upsertSites env sites held = .ok result) :
    result = (siteRecords env sites).foldl (fun held record => upsertSite env record held) held := by
  induction sites generalizing held with
  | nil =>
      cases done
      rfl
  | cons site rest ih =>
      rw [upsertSites] at done
      rw [siteRecords, List.filterMap_cons]
      cases converted : federalFssSiteToRecord env site with
      | error error =>
          rw [converted] at done
          cases done
      | ok record =>
          rw [converted] at done
          cases record with
          | none => exact ih held done
          | some record => exact ih _ done

theorem delete_federal_rows (tables : Tables K) (committed : FssCommitted tables) (row : Option (Json K)) :
    FssCommitted (deleteFederalSyncFssRows env.readers tables) ∧
      (row ∈ fssRows (deleteFederalSyncFssRows env.readers tables) ↔ row ∈ fssRows tables ∧ federalTagged env tables row = false) := by
  obtain ⟨clean, flushed⟩ := committed_fss tables committed
  rw [deleteFederalSyncFssRows, federalTagged]
  by_cases empty : (federalIds (loadFssProvenanceMap tables)).isEmpty = true
  · have nobody : federalIds (loadFssProvenanceMap tables) = [] := List.isEmpty_iff.mp empty
    simp only [nobody]
    exact ⟨committed, by simp⟩
  · simp only [empty, Bool.false_eq_true, if_false]
    obtain ⟨rows, stays⟩ := persisted_fss ((loadFssProvenanceMap tables).filter fun entry =>
      !(federalIds (loadFssProvenanceMap tables)).contains entry.1)
      (tables.setRecords .fss (·.doom fun row => (storedFssId env.readers row).any fun id =>
        (federalIds (loadFssProvenanceMap tables)).contains id))
    refine ⟨stays, ?_⟩
    rw [rows, fssRows, Tables.set_records_same, settled_doom, flushed, List.append_nil, survivors_clean _ clean, List.mem_filter,
      Bool.not_eq_true', fssRows, settled_clean _ clean, flushed, List.append_nil]

end Rows

section Feed

-- The rows a feed leaves: its kept records, and the rows it does not touch.
theorem replaced_rows (payload : Json K) (before after : Tables K) (committed : FssCommitted before)
    (replaced : replaceFssFromFederalPayload env payload before = .ok after) (row : Option (Json K)) :
    row ∈ fssRows after ↔ (∃ record ∈ keptRecords env (siteRecords env (fssSites payload)), row = some record) ∨
      Untouched env before (siteRecords env (fssSites payload)) row := by
  rw [replaceFssFromFederalPayload] at replaced
  generalize cleared : deleteFederalSyncFssRows env.readers before = tables at replaced
  obtain ⟨stays, rows⟩ := delete_federal_rows env before committed row
  rw [cleared] at stays rows
  cases done : upsertSites env (fssSites payload) (tables, loadFssProvenanceMap tables) with
  | error error =>
      rw [done] at replaced
      cases replaced
  | ok held =>
      rw [done] at replaced
      cases replaced
      have bumps : ∀ others : Tables K, fssRows (bumpSyncMeta .fss others) = fssRows others := fun _ => rfl
      rw [bumps, (persisted_fss held.2 held.1).1, upsert_sites_run env _ _ held done,
        upsert_run_rows env _ (tables, loadFssProvenanceMap tables) stays row, rows, and_assoc]
      rfl

theorem sites_stored_iff (payload : Json K) (before after : Tables K)
    (replaced : replaceFssFromFederalPayload env payload before.flush = .ok after) :
    (∀ site ∈ fssSites payload, ∀ station, stationSite env site = .ok (some station) → StoresStation env after.flush station) ↔
      ∀ site ∈ fssSites payload, ∀ station, stationSite env site = .ok (some station) →
        (∃ record ∈ keptRecords env (siteRecords env (fssSites payload)), fssLocationAndFreq env record = some (some station)) ∨
          ∃ row, Untouched env before.flush (siteRecords env (fssSites payload)) row ∧ stationIn env row = some station := by
  have rows := replaced_rows env payload before.flush after (flushed_committed before) replaced
  apply forall₄_congr
  intro site _ station _
  rw [StoresStation, rows_flush]
  constructor
  · rintro ⟨row, member, found⟩
    rcases (rows row).mp member with ⟨record, isKept, same⟩ | untouched
    · rw [same] at found
      exact .inl ⟨record, isKept, by simpa [stationIn, Option.join_eq_some_iff] using found⟩
    · exact .inr ⟨row, untouched, found⟩
  · rintro (⟨record, isKept, found⟩ | ⟨row, untouched, found⟩)
    · exact ⟨some record, (rows _).mpr (.inl ⟨record, isKept, rfl⟩), by simp [stationIn, found]⟩
    · exact ⟨row, (rows row).mpr (.inr untouched), found⟩

end Feed

def siteEnv : FeedEnv Rat where
  injection :=
    { settings := ⟨"admin", "https://peer", "v1.3", ⟨fun _ => [], fun _ => none⟩, fun _ => "", fun _ => none,
        fun value => value.floor, fun _ => "", fun _ => ""⟩
      upper := id
      sortedDumps := fun _ => ""
      urlparse := fun _ => none }
  hzOfMhz := fun text => .ok (if text = "3600" then some 3600000000 else if text = "4200" then some 4200000000 else none)
  decodeReplacing := fun _ => ""
  zipNames := fun _ => .error .badZipFile
  zipRead := fun _ _ => .error .badZipFile
  parseXml := fun _ => none
  isDecimal := Char.isDigit
  columnText := fun _ => none
  geometryUsable := fun _ => true

def siteAt (fields : List (String × Json Rat)) (latitude : Int) : Json Rat :=
  .object (fields ++ [("earth_station_latitude_decimal", .int latitude), ("earth_station_longitude_decimal", .int (-100)),
    ("lower_frequency", .text "3600"), ("upper_frequency", .text "4200")])

def feedOf (sites : List (Json Rat)) : Json Rat := .object [("result", .array sites)]

def namedSite (callSign : String) (latitude : Int) : Json Rat := siteAt [("call_sign", .text callSign)] latitude

def placedAt (latitude : Int) : StationSite Rat := ⟨latitude, -100, 3600000000, 4200000000⟩

-- A row of an earlier feed and one of the administrator, at the place of the first site below.
def earlierTables : Tables Rat :=
  { (Tables.empty : Tables Rat) with
    records := fun kind => .stored (if kind = .fss then
      [some (siteRecord siteEnv (namedSite "F9" 30) (placedAt 30)), some (siteRecord siteEnv (namedSite "A1" 40) (placedAt 40))]
      else [])
    provenance := .stored [[("F9", .federalDbSync), ("A1", .adminInjected)]] }

-- E1 comes twice, and the second site does not name itself.
def repeatedFeed : Json Rat := feedOf [namedSite "E1" 40, siteAt [] 50, namedSite "E1" 41, namedSite "E2" 45]

theorem repeated_placed (site : Json Rat) (member : site ∈ fssSites repeatedFeed) (station : StationSite Rat)
    (converts : stationSite siteEnv site = .ok (some station)) :
    station = placedAt 40 ∨ station ∈ [placedAt 50, placedAt 41, placedAt 45] := by
  have sites : fssSites repeatedFeed = [namedSite "E1" 40, siteAt [] 50, namedSite "E1" 41, namedSite "E2" 45] := rfl
  simp only [sites, List.mem_cons, List.not_mem_nil, or_false] at member
  rcases member with first | second | third | fourth
  · rw [first] at converts
    injection converts with same
    exact Or.inl (Option.some.inj same).symm
  · rw [second] at converts
    injection converts with same
    exact Or.inr (Option.some.inj same ▸ by decide +kernel)
  · rw [third] at converts
    injection converts with same
    exact Or.inr (Option.some.inj same ▸ by decide +kernel)
  · rw [fourth] at converts
    injection converts with same
    exact Or.inr (Option.some.inj same ▸ by decide +kernel)

-- The first site is overwritten: the row of the administrator still stores its station, and without that row nothing does.
theorem sites_stored_iff_sample :
    ∃ stored lost, replaceFssFromFederalPayload siteEnv repeatedFeed earlierTables.flush = .ok stored ∧
      replaceFssFromFederalPayload siteEnv repeatedFeed Tables.empty.flush = .ok lost ∧
      (∀ site ∈ fssSites repeatedFeed, ∀ station, stationSite siteEnv site = .ok (some station) →
        StoresStation siteEnv stored.flush station) ∧
      ¬ ∀ site ∈ fssSites repeatedFeed, ∀ station, stationSite siteEnv site = .ok (some station) →
        StoresStation siteEnv lost.flush station := by
  refine ⟨_, _, rfl, rfl, (sites_stored_iff siteEnv repeatedFeed earlierTables _ rfl).mpr ?_, fun all => ?_⟩
  · intro site member station converts
    rcases repeated_placed site member station converts with first | later
    · have row : some (siteRecord siteEnv (namedSite "A1" 40) (placedAt 40)) ∈ fssRows earlierTables.flush :=
        List.mem_cons_of_mem _ List.mem_cons_self
      rw [first]
      exact .inr ⟨_, ⟨row, by decide +kernel, by decide +kernel⟩, by decide +kernel⟩
    · have stored : ∀ place ∈ [placedAt 50, placedAt 41, placedAt 45],
          ∃ record ∈ keptRecords siteEnv (siteRecords siteEnv (fssSites repeatedFeed)),
            fssLocationAndFreq siteEnv record = some (some place) := by decide +kernel
      exact .inl (stored station later)
  · rcases (sites_stored_iff siteEnv repeatedFeed .empty _ rfl).mp all (namedSite "E1" 40) List.mem_cons_self (placedAt 40) rfl with
      overwritten | ⟨row, ⟨member, _⟩, _⟩
    · exact absurd overwritten (by decide +kernel)
    · cases member

-- Neither site names itself, so both are stored under the id fss.
theorem unnamed_site_lost :
    ∃ after, replaceFssFromFederalPayload siteEnv (feedOf [siteAt [] 40, siteAt [] 45]) Tables.empty.flush = .ok after ∧
      stationSite siteEnv (siteAt [] 40) = .ok (some ⟨40, -100, 3600000000, 4200000000⟩) ∧
      ¬ StoresStation siteEnv after.flush ⟨40, -100, 3600000000, 4200000000⟩ := by
  refine ⟨_, rfl, rfl, ?_⟩
  decide +kernel

end SasCore.Federal
