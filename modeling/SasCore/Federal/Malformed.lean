import SasCore.Federal.Sync
import SasCore.Lib.Collect

set_option autoImplicit false
set_option linter.unusedSectionVars false

namespace SasCore.Federal

open Injection Dpa Orm

variable {K : Type} [Field K] [LinearOrder K] (env : SyncEnv K)

-- The feeds with stored protections behind them.
inductive ProtectionFeed where
  | fss | gwbl | exclusionZone | scheduledDpa | pal
deriving DecidableEq, Repr

def ProtectionFeed.database : ProtectionFeed → DatabaseType
  | .fss => .fss
  | .gwbl => .gwbl
  | .exclusionZone => .exclusionZone
  | .scheduledDpa => .scheduledDpa
  | .pal => .pal

-- The items of an FSS payload, `none` for another shape.
def fssItems (payload : Json K) : Option (List (Json K)) :=
  match payload, payload.field "result" with
  | .object _, .array sites => some sites
  | .array sites, _ => some sites
  | _, _ => none

def converts (site : Json K) : Bool :=
  match federalFssSiteToRecord env.feeds site with
  | .ok record => site.isObject && record.isSome
  | .error _ => false

def conversionRaises (site : Json K) : Bool :=
  match federalFssSiteToRecord env.feeds site with
  | .ok _ => false
  | .error _ => true

-- An empty feed, or one with a site in it.
def fssDocument (payload : Json K) : Bool := (fssItems payload).any fun items => items.isEmpty || items.any (converts env)

def isPalRecord (record : Json K) : Bool :=
  match palRow env.feeds record with
  | .ok row => record.isObject && row.isSome
  | .error _ => false

def palRaises (record : Json K) : Bool :=
  match palRow env.feeds record with
  | .ok _ => false
  | .error _ => record.isObject

def palDocument (payload : Json K) : Bool := (palRecords payload).isEmpty || (palRecords payload).any (isPalRecord env)

def scheduledDocument (text : String) : Bool :=
  if scheduledDpaLooksLikeKml text.toList then
    (env.feeds.parseXml text).any fun root => !(definitionsFromKmlRoot env.feeds root).isEmpty
  else (env.feeds.readers.loads text).any fun payload => (scheduledActivations payload).any fun activations => !activations.isEmpty

-- The body is a document of its feed.
def wellFormed (feed : ProtectionFeed) (body : ByteArray) : Bool :=
  match feed with
  | .fss => (loadsBody env body).any (fssDocument env)
  | .gwbl =>
      match loDatText env.feeds body with
      | .ok (some _) => true
      | _ => false
  | .exclusionZone =>
      (env.feeds.parseXml (env.feeds.decodeReplacing body)).any fun root => !(root.iter (kml "Placemark")).isEmpty
  | .scheduledDpa => (String.fromUTF8? body).any (scheduledDocument env)
  | .pal => (loadsBody env body).any (palDocument env)

-- The reader of the feed raises on the body, a scheduled DPA body that is no document included.
def readerRejects (feed : ProtectionFeed) (body : ByteArray) : Bool :=
  match feed with
  | .fss => (loadsBody env body).all fun payload => (fssSites payload).any (conversionRaises env)
  | .gwbl =>
      match loDatText env.feeds body with
      | .error .other => true
      | _ => false
  | .exclusionZone => (env.feeds.parseXml (env.feeds.decodeReplacing body)).isNone
  | .scheduledDpa => true
  | .pal => (loadsBody env body).all fun payload => payload.isNull || (palRecords payload).any (palRaises env)

def checksumFails (feed : ProtectionFeed) (body : ByteArray) (checksum : Json K) : Bool :=
  match verifyChecksum env body checksum feed.database.text with
  | .error _ => true
  | .ok _ => false

section Bodies

theorem upsert_sites_raises (sites : List (Json K)) (held : Tables K × List (String × FssSource)) :
    (∃ error, upsertSites env.feeds sites held = .error error) ↔ sites.any (conversionRaises env) = true := by
  induction sites generalizing held with
  | nil => simp [upsertSites]
  | cons site rest ih =>
      rw [upsertSites, List.any_cons, conversionRaises]
      cases federalFssSiteToRecord env.feeds site with
      | error error => simp
      | ok record =>
          cases record with
          | none => simpa using ih held
          | some record => simpa using ih _

-- Records that are no PAL records are skipped, unless reading one raises.
theorem upsert_pals_skipped (records : List (Json K)) (absent : records.any (isPalRecord env) = false)
    (held : Tables K × List String) :
    upsertPals env.feeds records held = .ok held ∧ records.any (palRaises env) = false ∨
      (∃ error, upsertPals env.feeds records held = .error error) ∧ records.any (palRaises env) = true := by
  induction records with
  | nil => exact .inl ⟨rfl, rfl⟩
  | cons record rest ih =>
      rw [List.any_cons, Bool.or_eq_false_iff] at absent
      obtain ⟨isNone, others⟩ := absent
      rw [upsertPals, List.any_cons, palRaises]
      rw [isPalRecord] at isNone
      by_cases shaped : record.isObject = true
      · cases found : palRow env.feeds record with
        | error error => exact .inr (by simp [shaped])
        | ok row =>
            rw [found, shaped] at isNone
            cases row with
            | none => simpa [shaped] using ih others
            | some row => cases isNone
      · have skipped : palRow env.feeds record = .ok none := by
          have nameless : record.field "palId" = .null := by
            cases record with
            | object fields => exact absurd rfl shaped
            | _ => rfl
          rw [palRow, nameless]
          rfl
        rw [skipped]
        simpa [shaped] using ih others

theorem map_raises {α β : Type} (f : α → β) (ran : Except String α) :
    (∃ error, ran.map f = .error error) ↔ ∃ error, ran = .error error := by
  cases ran with
  | error error => simp [Except.map]
  | ok value => simp [Except.map]

theorem fss_raises (payload : Json K) (tables : Tables K) :
    (∃ error, replaceFssFromFederalPayload env.feeds payload tables = .error error) ↔
      (fssSites payload).any (conversionRaises env) = true := by
  rw [replaceFssFromFederalPayload]
  exact (map_raises _ _).trans (upsert_sites_raises env _ _)

theorem pal_raises (payload : Json K) (malformed : palDocument env payload = false) (tables : Tables K) :
    (∃ error, replacePalRecords env.feeds payload tables.flush = .error error) ↔
      (payload.isNull || (palRecords payload).any (palRaises env)) = true := by
  rw [palDocument, Bool.or_eq_false_iff] at malformed
  rw [replacePalRecords]
  by_cases null : payload.isNull = true
  · simp [null]
  · rw [if_neg null]
    rcases upsert_pals_skipped env (palRecords payload) malformed.2 (tables.flush, []) with ⟨skipped, quiet⟩ | ⟨⟨error, raised⟩, loud⟩
    · have unique : ((tables.flush.pals.pending).map (·.palId)).Nodup := List.nodup_nil
      rw [skipped]
      simp [unique, null, quiet]
    · rw [raised]
      simp [loud]

theorem gwbl_raises (body : ByteArray) (malformed : wellFormed env .gwbl body = false) (tables : Tables K) :
    (∃ error, replaceGwblFromZip env.feeds body tables = .error error) ↔ readerRejects env .gwbl body = true := by
  rw [replaceGwblFromZip, map_raises, parseGwblZip, readerRejects]
  rw [wellFormed] at malformed
  cases found : loDatText env.feeds body with
  | error fault => cases fault <;> simp
  | ok text =>
      cases text with
      | none => simp
      | some text =>
          rw [found] at malformed
          cases malformed

theorem zones_raises (body : ByteArray) (tables : Tables K) :
    (∃ error, applyExclusionZoneKml env.feeds body tables = .error error) ↔ readerRejects env .exclusionZone body = true := by
  rw [applyExclusionZoneKml, readerRejects]
  cases env.feeds.parseXml (env.feeds.decodeReplacing body) <;> simp

theorem scheduled_kml_raises (text : String) (tables : Tables K)
    (malformed : (env.dpa.feeds.parseXml text).any (fun root => !(definitionsFromKmlRoot env.dpa.feeds root).isEmpty) = false) :
    ∃ error, applyScheduledDpaKml env.dpa text tables = .error error := by
  rw [applyScheduledDpaKml]
  cases parsed : env.dpa.feeds.parseXml text with
  | none => exact ⟨_, rfl⟩
  | some root =>
      rw [parsed, Option.any_some] at malformed
      have empty : definitionsFromKmlRoot env.dpa.feeds root = [] := by simpa using malformed
      simp only [empty]
      exact ⟨_, rfl⟩

theorem scheduled_json_raises (text : String) (tables : Tables K)
    (malformed : (env.dpa.feeds.readers.loads text).any (fun payload =>
      (scheduledActivations payload).any fun activations => !activations.isEmpty) = false) :
    ∃ error, applyScheduledDpaJson env.dpa text tables = .error error := by
  rw [applyScheduledDpaJson]
  cases loaded : env.dpa.feeds.readers.loads text with
  | none => exact ⟨_, rfl⟩
  | some payload =>
      rw [loaded, Option.any_some] at malformed
      cases listed : scheduledActivations payload with
      | none =>
          simp only [listed]
          exact ⟨_, rfl⟩
      | some activations =>
          rw [listed, Option.any_some] at malformed
          have empty : activations = [] := by simpa using malformed
          simp only [listed, empty]
          exact ⟨_, rfl⟩

theorem scheduled_raises (body : ByteArray) (malformed : wellFormed env .scheduledDpa body = false) (tables : Tables K) :
    ∃ error, applyScheduledDpa env.dpa body tables = .error error := by
  rw [applyScheduledDpa]
  rw [wellFormed] at malformed
  cases decoded : String.fromUTF8? body with
  | none => exact ⟨_, rfl⟩
  | some text =>
      rw [decoded, Option.any_some, scheduledDocument] at malformed
      by_cases isKml : scheduledDpaLooksLikeKml text.toList = true
      · rw [if_pos isKml] at malformed
        obtain ⟨error, raised⟩ := scheduled_kml_raises env text tables malformed
        simp only [isKml, if_true, raised]
        exact ⟨_, rfl⟩
      · rw [if_neg isKml] at malformed
        obtain ⟨error, raised⟩ := scheduled_json_raises env text tables malformed
        simp only [if_neg isKml, raised]
        exact ⟨_, rfl⟩

-- A malformed body is refused exactly where the reader of its feed raises.
theorem malformed_apply (feed : ProtectionFeed) (body : ByteArray) (malformed : wellFormed env feed body = false) (tables : Tables K) :
    (∃ error, applyBody env feed.database body tables.flush = .error error) ↔ readerRejects env feed body = true := by
  cases feed with
  | fss =>
      simp only [ProtectionFeed.database, applyBody, readerRejects]
      cases loadsBody env body with
      | none => simp
      | some payload => exact fss_raises env payload tables.flush
  | gwbl => exact gwbl_raises env body malformed tables.flush
  | exclusionZone => exact zones_raises env body tables.flush
  | scheduledDpa => exact ⟨fun _ => rfl, fun _ => scheduled_raises env body malformed tables.flush⟩
  | pal =>
      rw [wellFormed] at malformed
      simp only [ProtectionFeed.database, applyBody, readerRejects]
      cases loaded : loadsBody env body with
      | none => simp
      | some payload =>
          rw [loaded] at malformed
          exact pal_raises env payload malformed tables

end Bodies

section Rows

-- A stored URL of the feed.
structure UrlRow (feed : ProtectionFeed) (url : String) (checksum : Json K) (row : Json K) : Prop where
  shaped : row.isObject = true
  typed : row.field "type" = .text feed.database.text
  addressed : row.field "url" = .text url
  filled : url ≠ ""
  summed : row.field "checksum" = checksum

theorem database_found (feed : ProtectionFeed) :
    (databaseTypes.find? fun databaseType => PyText.upper feed.database.text.toList = databaseType.text.toList) = some feed.database := by
  cases feed <;> decide

theorem sync_row_eq (feed : ProtectionFeed) (url : String) (checksum row : Json K) (isRow : UrlRow feed url checksum row)
    (state : SyncState K) (running : state.raised = none) :
    syncRow env state (some row) =
      match syncDatabase env feed.database url checksum state.tables with
      | .error error => recordFailure (feed.database.text ++ ":" ++ error) state
      | .ok written => { state with tables := written.flush, report := { state.report with ok := state.report.ok + 1 } } := by
  have named : orValue (row.field "type") (.text "") = .text feed.database.text := by
    rw [isRow.typed]
    cases feed <;> rfl
  have filled : (row.field "url").truthy = true := by
    rw [isRow.addressed]
    simpa [Json.truthy] using isRow.filled
  have text : (row.field "url").toText env.feeds.readers = url := by
    rw [isRow.addressed]
    rfl
  cases synced : syncDatabase env feed.database url checksum state.tables with
  | error error =>
      simp only [syncRow, running, Option.isSome_none, Bool.false_eq_true, if_false, isRow.shaped, if_true, syncUrl, named, filled,
        Bool.not_true, database_found, text, isRow.summed, synced]
  | ok written =>
      simp only [syncRow, running, Option.isSome_none, Bool.false_eq_true, if_false, isRow.shaped, if_true, syncUrl, named, filled,
        Bool.not_true, database_found, text, isRow.summed, synced]

theorem sync_url_committed (row : Json K) (state : SyncState K) (committed : ∃ tables : Tables K, state.tables = tables.flush) :
    ∃ tables : Tables K, (syncUrl env row state).tables = tables.flush := by
  unfold syncUrl
  simp only
  split
  · split
    · exact committed
    · split
      · exact committed
      · split
        · exact committed
        · exact ⟨_, rfl⟩
  · exact committed

-- Between two URLs everything is committed.
theorem sync_rows_committed (rows : List (Option (Json K))) (state : SyncState K)
    (committed : ∃ tables : Tables K, state.tables = tables.flush) :
    ∃ tables : Tables K, (syncRows env rows state).tables = tables.flush := by
  induction rows generalizing state with
  | nil => exact committed
  | cons row rest ih =>
      apply ih
      unfold syncRow
      split
      · exact committed
      · cases row with
        | none => exact committed
        | some row =>
            by_cases shaped : row.isObject = true
            · simp only [shaped, if_true]
              exact sync_url_committed env row state committed
            · simp only [shaped]
              exact committed

theorem malformed_refused_iff (committed : Tables K) (before : List (Option (Json K))) (feed : ProtectionFeed) (url : String)
    (checksum row : Json K) (isRow : UrlRow feed url checksum row) (body : ByteArray)
    (fetched : env.httpGet url (feed.database = .fss) = .ok body) (malformed : wellFormed env feed body = false)
    (running : (syncRows env before ⟨committed.flush, ⟨0, 0, []⟩, none⟩).raised = none) :
    let earlier := syncRows env before ⟨committed.flush, ⟨0, 0, []⟩, none⟩
    let later := syncRow env earlier (some row)
    (later.tables = earlier.tables ∧ later.report.failed = earlier.report.failed + 1) ↔
      (checksumFails env feed body checksum || readerRejects env feed body) = true := by
  intro earlier later
  obtain ⟨tables, isFlushed⟩ := sync_rows_committed env before ⟨committed.flush, ⟨0, 0, []⟩, none⟩ ⟨committed, rfl⟩
  have refused := malformed_apply env feed body malformed tables
  have step : later = _ := sync_row_eq env feed url checksum row isRow earlier running
  rw [step, syncDatabase, fetched, checksumFails]
  simp only
  cases verified : verifyChecksum env body checksum feed.database.text with
  | error error => simp [recordFailure]
  | ok _ =>
      have sameTables : earlier.tables = tables.flush := isFlushed
      cases applied : applyBody env feed.database body earlier.tables with
      | error error =>
          rw [sameTables] at applied
          simp [recordFailure, refused.mp ⟨error, applied⟩]
      | ok written =>
          have accepted : readerRejects env feed body = false := by
            by_contra rejected
            obtain ⟨error, raised⟩ := refused.mpr (by simpa using rejected)
            rw [sameTables, raised] at applied
            cases applied
          simp [accepted]

end Rows

def urlRow (feed : ProtectionFeed) : Json Rat :=
  .object [("type", .text feed.database.text), ("url", .text "https://feeds/federal"), ("schemaVersion", .int 1)]

theorem url_row_feed (feed : ProtectionFeed) : UrlRow feed "https://feeds/federal" .null (urlRow feed) :=
  ⟨rfl, rfl, rfl, by decide, rfl⟩

def storedPoint : Tables Rat :=
  (Tables.empty.setRecords .gwbl (·.add (some (.object [("id", .text "g"), ("latitude", .int 40), ("longitude", .int (-100))])))).flush

theorem malformed_refused_iff_sample :
    let earlier := syncRows (syncSampleEnv ByteArray.empty) [] ⟨storedPoint.flush, ⟨0, 0, []⟩, none⟩
    (syncRow (syncSampleEnv ByteArray.empty) earlier (some (urlRow .exclusionZone))).report.failed = earlier.report.failed + 1 :=
  ((malformed_refused_iff (syncSampleEnv ByteArray.empty) storedPoint [] .exclusionZone "https://feeds/federal" .null
    (urlRow .exclusionZone) (url_row_feed .exclusionZone) ByteArray.empty rfl (by decide +kernel) rfl).mpr (by decide +kernel)).2

-- A body that is no zip archive counts as synced and deletes the stored points.
theorem no_archive_deletes_points :
    wellFormed (syncSampleEnv ByteArray.empty) .gwbl ByteArray.empty = false ∧
      ((storedPoint.records .gwbl).settled).length = 1 ∧
      (let later := syncRow (syncSampleEnv ByteArray.empty) ⟨storedPoint, ⟨0, 0, []⟩, none⟩ (some (urlRow .gwbl))
      later.report = ⟨1, 0, []⟩ ∧ ((later.tables.records .gwbl).settled).length = 0) := by
  decide +kernel

end SasCore.Federal
