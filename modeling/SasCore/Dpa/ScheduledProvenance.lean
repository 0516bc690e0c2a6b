import SasCore.Dpa.ActivationKeys

set_option autoImplicit false
set_option linter.unusedSectionVars false

namespace SasCore.Dpa

open Injection Federal Cpas Orm

variable {K : Type} [Field K] [LinearOrder K]

def Active (key : String × Int × Int) (tables : Tables K) : Prop := key ∈ tables.activations.settled.map activationKey

instance (key : String × Int × Int) (tables : Tables K) : Decidable (Active key tables) :=
  inferInstanceAs (Decidable (key ∈ tables.activations.settled.map activationKey))

-- The row of the channel carries the tag of a scheduled sync.
def TaggedScheduled (key : String × Int × Int) (tables : Tables K) : Prop :=
  ∃ row ∈ tables.activations.settled, activationKey row = key ∧ row.source = some scheduledSource

instance (key : String × Int × Int) (tables : Tables K) : Decidable (TaggedScheduled key tables) :=
  inferInstanceAs (Decidable (∃ row ∈ tables.activations.settled, activationKey row = key ∧ row.source = some scheduledSource))

-- What a sync has parsed before it drops the rows of the earlier one: the tables with the catalogue it stored and
-- the channels it lists.
def scheduledChannels (env : DpaEnv K) (body : ByteArray) (tables : Tables K) :
    Option (Tables K × List (String × Int × Int)) :=
  (String.fromUTF8? body).bind fun text =>
    (if scheduledDpaLooksLikeKml text.toList then applyScheduledDpaKml env text tables
      else applyScheduledDpaJson env text tables).toOption

def Lists (env : DpaEnv K) (body : ByteArray) (tables : Tables K) (key : String × Int × Int) : Prop :=
  ∃ stored channels, scheduledChannels env body tables = some (stored, channels) ∧ key ∈ channels

-- The channels that a bulk activation inserts.
def monitoredChannels (definitions : List DpaDefinition) : List (String × Int × Int) :=
  ((definitions.filter fun definition => definition.dpaId != "").filter (·.escMonitored)).flatMap fun definition =>
    (channelize definition.freqLowHz definition.freqHighHz).map fun channel => (definition.dpaId, channel)

-- The channel a request is accepted for.
def acceptedChannel (env : DpaEnv K) (body : Json K) (committed : Tables K) : Option (String × Int × Int) :=
  (requestedChannel env body).filter fun key =>
    (getCatalogueDefinition committed key.1).any fun definition => channelInDefinition definition key.2

-- The steps after which a channel need not be active: its deactivation, a bulk deactivation, a reload.
def EndsActivation (key : String × Int × Int) (env : DpaEnv K) (step : DpaStep K) (tables : Tables K) : Prop :=
  match step with
  | .load => True
  | .bulk activate => activate = some false ∨ (activate = some true ∧ listCatalogue tables = [])
  | .deactivate body => requestedChannel env body = some key
  | _ => False

-- A sync that goes through must not find the channel tagged unless it lists it too, and a bulk activation must
-- find it in the catalogue.
def KeepsChannel (key : String × Int × Int) (env : DpaEnv K) (step : DpaStep K) (tables : Tables K) : Prop :=
  match step with
  | .scheduledSync body =>
      (Federal.applyScheduledDpa env body tables).isOk → TaggedScheduled key tables → Lists env body tables key
  | .bulk activate => activate = some true → key ∈ monitoredChannels (listCatalogue tables)
  | _ => True

-- A condition on every step of a run and the tables before it.
def EveryStep (condition : DpaEnv K → DpaStep K → Tables K → Prop) : Tables K → List (DpaEnv K × DpaStep K) → Prop
  | _, [] => True
  | tables, (env, step) :: rest => condition env step tables ∧ EveryStep condition (dpaStep env step tables) rest

section Upserts

theorem upsert_active (now : Int) (dpaId : String) (channel : Int × Int) (movelist : List String) (source : Option String)
    (tables : Tables K) (key : String × Int × Int) :
    Active key (upsertActivation now dpaId channel movelist source tables) ↔ Active key tables ∨ key = (dpaId, channel) := by
  rw [Active, Active, upsert_keys]
  by_cases known : (dpaId, channel) ∈ tables.activations.settled.map activationKey
  · rw [if_pos known]
    constructor
    · exact Or.inl
    · rintro (old | isOwn)
      · exact old
      · rw [isOwn]
        exact known
  · rw [if_neg known, List.mem_append, List.mem_singleton]

theorem upserts_active {ι : Type} (now : Int) (entries : List ι) (name : ι → String) (channel : ι → Int × Int)
    (movelist : ι → List String) (source : Option String) (tables : Tables K) (key : String × Int × Int) :
    Active key (entries.foldl (fun held entry =>
        upsertActivation now (name entry) (channel entry) (movelist entry) source held) tables) ↔
      Active key tables ∨ ∃ entry ∈ entries, key = (name entry, channel entry) := by
  induction entries generalizing tables with
  | nil => simp
  | cons entry rest ih =>
      rw [List.foldl_cons, ih, upsert_active]
      simp [or_assoc]

theorem upsert_committed (now : Int) (dpaId : String) (channel : Int × Int) (movelist : List String) (source : Option String)
    (tables : Tables K) :
    (upsertActivation now dpaId channel movelist source tables).activations.all =
      (upsertActivation now dpaId channel movelist source tables).activations.settled := by
  rw [upsertActivation]
  by_cases found : tables.flush.activations.all.any (sameActivation dpaId channel.1 channel.2) = true
  · simp only [found, if_true, setActivations]
    have clean := put_clean tables.flush.activations (sameActivation dpaId channel.1 channel.2)
      (fun held => activationRow now dpaId channel movelist (source.or held.source))
      (activationRow now dpaId channel movelist source) (flush_clean tables.activations)
    rw [settled_clean _ clean]
    rcases put_cases tables.flush.activations (sameActivation dpaId channel.1 channel.2)
      (fun held => activationRow now dpaId channel movelist (source.or held.source))
      (activationRow now dpaId channel movelist source) with ⟨absent, _⟩ | ⟨before, entry, after, _, _, _, changed⟩
    · obtain ⟨row, member, hit⟩ := List.any_eq_true.mp found
      rw [absent row member] at hit
      cases hit
    · rw [changed]
      exact (List.append_nil _).symm
  · simp only [found, Bool.false_eq_true, if_false]
    exact (all_flush _).trans (settled_flush _).symm

theorem upserts_committed {ι : Type} (now : Int) (entries : List ι) (name : ι → String) (channel : ι → Int × Int)
    (movelist : ι → List String) (source : Option String) (tables : Tables K)
    (committed : entries = [] → tables.activations.all = tables.activations.settled) :
    (entries.foldl (fun held entry =>
        upsertActivation now (name entry) (channel entry) (movelist entry) source held) tables).activations.all =
      (entries.foldl (fun held entry =>
        upsertActivation now (name entry) (channel entry) (movelist entry) source held) tables).activations.settled := by
  induction entries generalizing tables with
  | nil => exact committed rfl
  | cons entry rest ih => exact ih _ fun _ => upsert_committed now _ _ _ source tables

end Upserts

section Names

theorem trimmed_trimmed (text : String) : trimmed (trimmed text) = trimmed text := by
  simp only [trimmed, String.toList_ofList, PyText.strip_strip]

-- Every id in the tables is without white space at its ends.
structure NamesTrimmed (tables : Tables K) : Prop where
  activations : ∀ key, Active key tables → trimmed key.1 = key.1
  catalogue : ∀ definitions ∈ tables.catalogue.settled, ∀ definition ∈ definitions, trimmed definition.dpaId = definition.dpaId

theorem empty_trimmed : NamesTrimmed (Tables.empty : Tables K) :=
  ⟨fun _ active => absurd active List.not_mem_nil, fun _ member => absurd member List.not_mem_nil⟩

theorem requested_trimmed (env : DpaEnv K) (body : Json K) (key : String × Int × Int)
    (requested : requestedChannel env body = some key) : trimmed key.1 = key.1 := by
  rw [requestedChannel] at requested
  split at requested
  · split at requested
    · cases requested
    · cases requested
      exact trimmed_trimmed _
  · cases requested

theorem placemark_trimmed (env : FeedEnv K) (placemark : Xml) (definition : DpaDefinition)
    (read : placemarkDefinition env placemark = some definition) : trimmed definition.dpaId = definition.dpaId := by
  rw [placemarkDefinition] at read
  split at read
  · cases read
  · simp only at read
    split at read
    · cases read
    · obtain ⟨range, _, same⟩ := Option.map_eq_some_iff.mp read
      rw [← same]
      exact trimmed_trimmed _

theorem root_trimmed (env : FeedEnv K) (root : Xml) (definition : DpaDefinition)
    (member : definition ∈ definitionsFromKmlRoot env root) : trimmed definition.dpaId = definition.dpaId := by
  obtain ⟨placemark, _, read⟩ := List.mem_filterMap.mp member
  exact placemark_trimmed env placemark definition read

theorem by_id_source (definitions : List DpaDefinition) (known : List (String × DpaDefinition)) (definition : DpaDefinition)
    (member : definition ∈ (byId definitions known).map (·.2)) : definition ∈ definitions ∨ definition ∈ known.map (·.2) := by
  induction definitions generalizing known with
  | nil => exact .inr member
  | cons first rest ih =>
      rcases ih _ member with later | held
      · exact .inl (List.mem_cons_of_mem first later)
      · obtain ⟨entry, inDict, same⟩ := List.mem_map.mp held
        rcases PyDict.mem_set _ _ known entry inDict with isNew | old
        · rw [isNew] at same
          exact .inl (same ▸ List.mem_cons_self)
        · exact .inr (List.mem_map.mpr ⟨entry, old, same⟩)

theorem loaded_trimmed (env : FeedEnv K) (roots : List Xml) (definition : DpaDefinition)
    (member : definition ∈ loadCatalogueFromPaths env roots) : trimmed definition.dpaId = definition.dpaId := by
  rcases by_id_source _ [] definition member with inRoots | inNone
  · obtain ⟨root, _, inRoot⟩ := List.mem_flatMap.mp inRoots
    exact root_trimmed env root definition inRoot
  · cases inNone

theorem listed_trimmed (tables : Tables K) (settled : DpaSettled tables) (names : NamesTrimmed tables) (definition : DpaDefinition)
    (member : definition ∈ listCatalogue tables) : trimmed definition.dpaId = definition.dpaId := by
  rw [listCatalogue] at member
  cases first : tables.catalogue.all.head? with
  | none => rw [first] at member; cases member
  | some known =>
      rw [first] at member
      refine names.catalogue known ?_ definition member
      rw [← (committed_rows _ settled.catalogue).2.2]
      exact List.mem_of_head? first

end Names

section Effects

theorem flush_active (key : String × Int × Int) (tables : Tables K) : Active key tables.flush ↔ Active key tables := by
  rw [Active, Active, settled_flushed]

theorem upserts_catalogue {ι : Type} (now : Int) (entries : List ι) (name : ι → String) (channel : ι → Int × Int)
    (movelist : ι → List String) (source : Option String) (tables : Tables K) :
    (entries.foldl (fun held entry =>
      upsertActivation now (name entry) (channel entry) (movelist entry) source held) tables).catalogue.settled =
        tables.catalogue.settled := by
  induction entries generalizing tables with
  | nil => rfl
  | cons entry rest ih => exact (ih _).trans (upsert_catalogue now _ _ _ source tables)

-- A refresh writes rows of channels that are active.
theorem refresh_active (env : DpaEnv K) (tables refreshed : Tables K) (names : ∀ key, Active key tables → trimmed key.1 = key.1)
    (committed : tables.activations.all = tables.activations.settled)
    (done : refreshActivationMovelists env tables = .ok refreshed) :
    (∀ key, Active key refreshed ↔ Active key tables) ∧ refreshed.catalogue.settled = tables.catalogue.settled := by
  obtain ⟨entries, pending, written⟩ := Collect.map_ok _ _ refreshed done
  obtain ⟨results, found, kept⟩ := Collect.map_ok _ _ entries pending
  rw [← written]
  refine ⟨fun key => ?_, upserts_catalogue env.now entries (·.1.1) (·.1.2) (·.2) none tables⟩
  rw [upserts_active env.now entries (·.1.1) (·.1.2) (·.2) none tables key]
  constructor
  · rintro (old | ⟨entry, member, isEntry⟩)
    · exact old
    · rw [← kept, List.mem_filterMap] at member
      obtain ⟨result, inResults, isResult⟩ := member
      obtain ⟨row, inRows, moved⟩ := Collect.ok_source _ _ results found result inResults
      obtain ⟨list, _, same⟩ := Collect.map_ok _ _ result moved
      rw [committed] at inRows
      have active : Active (activationKey row) tables := List.mem_map_of_mem inRows
      have isRow : key = (trimmed row.dpaId, row.lowHz, row.highHz) := by
        rw [isEntry]
        cases list with
        | none =>
            rw [← same] at isResult
            cases isResult
        | some list =>
            rw [← same] at isResult
            cases isResult
            rfl
      have named := names (activationKey row) active
      rw [activationKey] at named active
      rw [isRow, named]
      exact active
  · exact Or.inl

theorem fail_closed_active (env : DpaEnv K) (channels : List (String × Int × Int)) (tables refreshed : Tables K)
    (names : ∀ key, Active key tables → trimmed key.1 = key.1) (committed : tables.activations.all = tables.activations.settled)
    (listed : ∀ channel ∈ channels, Active channel tables)
    (done : refreshOrFailClosedMovelists env channels tables = .ok refreshed) :
    (∀ key, Active key refreshed ↔ Active key tables) ∧ refreshed.catalogue.settled = tables.catalogue.settled := by
  rw [refreshOrFailClosedMovelists] at done
  split at done
  · rename_i isRefreshed
    cases done
    exact refresh_active env tables refreshed names committed isRefreshed
  · cases done
  · obtain ⟨grants, _, written⟩ := Collect.map_ok _ _ refreshed done
    rw [← written]
    refine ⟨fun key => ?_, upserts_catalogue env.now channels (·.1) (·.2) (overlappingGrants grants) none tables⟩
    rw [upserts_active env.now channels (·.1) (·.2) (overlappingGrants grants) none tables key]
    constructor
    · rintro (old | ⟨channel, member, isChannel⟩)
      · exact old
      · rw [isChannel]
        exact listed channel member
    · exact Or.inl

theorem activated_channels (env : DpaEnv K) (body : Json K) (tables after : Tables K) (names : NamesTrimmed tables)
    (done : activateDpa env body tables = .ok after) :
    (∀ key, Active key after ↔ Active key tables ∨ acceptedChannel env body tables = some key) ∧
      after.catalogue.settled = tables.catalogue.settled := by
  rw [activateDpa] at done
  cases requested : requestedChannel env body with
  | none =>
      rw [requested] at done
      cases done
      simp [acceptedChannel, requested]
  | some own =>
      rw [requested] at done
      simp only at done
      cases known : getCatalogueDefinition tables own.1 with
      | none =>
          rw [known] at done
          cases done
          simp [acceptedChannel, requested, known]
      | some definition =>
          rw [known] at done
          simp only at done
          by_cases inside : channelInDefinition definition own.2 = true
          · rw [if_pos inside] at done
            obtain ⟨last, refreshed, written⟩ := Collect.map_ok _ _ after done
            have ownName := requested_trimmed env body own requested
            have effect := upsert_active env.now own.1 own.2 [] none tables
            have upserted : ∀ key, Active key (upsertActivation env.now own.1 own.2 [] none tables) → trimmed key.1 = key.1 := by
              intro key active
              rcases (effect key).mp active with old | isOwn
              · exact names.activations key old
              · rw [isOwn]
                exact ownName
            have listed : ∀ channel ∈ [(own.1, own.2)], Active channel (upsertActivation env.now own.1 own.2 [] none tables) := by
              intro channel member
              exact (effect channel).mpr (.inr (List.mem_singleton.mp member))
            obtain ⟨same, catalogue⟩ := fail_closed_active env _ _ last upserted
              (upsert_committed env.now own.1 own.2 [] none tables) listed refreshed
            rw [← written]
            refine ⟨fun key => ?_, ?_⟩
            · have accepted : acceptedChannel env body tables = some own := by simp [acceptedChannel, requested, known, inside]
              rw [flush_active, same, effect, accepted, Option.some_inj, eq_comm (a := key)]
            · exact (settled_flush last.catalogue).trans (catalogue.trans (upsert_catalogue env.now own.1 own.2 [] none tables))
          · rw [if_neg inside] at done
            cases done
            simp [acceptedChannel, requested, known, inside]

end Effects

section Scheduled

theorem stripped_trimmed (readers : PyReaders K) (data : Json K) :
    trimmed (String.ofList (data.strippedText readers)) = String.ofList (data.strippedText readers) := by
  simp only [trimmed, String.toList_ofList, Json.strippedText]
  by_cases given : data.truthy = true
  · simp only [given, if_true, PyText.strip_strip]
  · simp only [given]
    rfl

theorem scheduled_channel_trimmed (env : DpaEnv K) (tables : Tables K) (activation : Json K) (channel : String × Int × Int)
    (read : scheduledChannel env tables activation = .ok channel) : trimmed channel.1 = channel.1 := by
  rw [scheduledChannel] at read
  split at read
  · split at read
    · cases read
    · split at read
      · cases read
      · split at read
        · cases read
          exact stripped_trimmed _ _
        · cases read
  · cases read

theorem definition_channels_own (definition : DpaDefinition) (channels : List (String × Int × Int))
    (read : definitionChannels definition = .ok channels) :
    channels ≠ [] ∧ ∀ channel ∈ channels, channel.1 = definition.dpaId := by
  rw [definitionChannels] at read
  split at read
  · cases read
  · rename_i nonempty
    cases read
    refine ⟨by simpa using nonempty, fun channel member => ?_⟩
    obtain ⟨_, _, same⟩ := List.mem_map.mp member
    rw [← same]

theorem json_listing (env : DpaEnv K) (text : String) (tables stored : Tables K) (channels : List (String × Int × Int))
    (done : applyScheduledDpaJson env text tables = .ok (stored, channels)) :
    stored = tables ∧ channels ≠ [] ∧ ∀ channel ∈ channels, trimmed channel.1 = channel.1 := by
  rw [applyScheduledDpaJson] at done
  split at done
  · cases done
  · split at done
    · cases done
    · cases done
    · rename_i activations nonempty _
      obtain ⟨found, read, written⟩ := Collect.map_ok _ _ _ done
      cases written
      refine ⟨rfl, fun empty => ?_, fun channel member => ?_⟩
      · have lengths := congrArg List.length (Collect.all_ok _ _ _ read)
        rw [empty, List.length_map, List.length_map] at lengths
        exact nonempty (List.length_eq_zero_iff.mp lengths)
      · obtain ⟨activation, _, isRead⟩ := Collect.ok_source _ _ _ read channel member
        exact scheduled_channel_trimmed env tables activation channel isRead

theorem kml_listing (env : DpaEnv K) (text : String) (tables stored : Tables K) (channels : List (String × Int × Int))
    (done : applyScheduledDpaKml env text tables = .ok (stored, channels)) :
    (∃ root, stored = upsertCatalogueDefinitions (definitionsFromKmlRoot env.feeds root) tables) ∧ channels ≠ [] ∧
      ∀ channel ∈ channels, trimmed channel.1 = channel.1 := by
  rw [applyScheduledDpaKml] at done
  split at done
  · cases done
  · rename_i root _
    cases definitions : definitionsFromKmlRoot env.feeds root with
    | nil =>
        rw [definitions] at done
        cases done
    | cons first rest =>
        rw [definitions] at done
        obtain ⟨lists, read, written⟩ := Collect.map_ok _ _ _ done
        cases written
        refine ⟨⟨root, by rw [definitions]⟩, fun empty => ?_, fun channel member => ?_⟩
        · obtain ⟨list, inLists, isFirst⟩ := Collect.ok_result _ _ _ read first List.mem_cons_self
          exact (definition_channels_own first list isFirst).1 (List.flatten_eq_nil_iff.mp empty list inLists)
        · obtain ⟨list, inLists, inList⟩ := List.mem_flatten.mp member
          obtain ⟨definition, inRoot, isRead⟩ := Collect.ok_source _ _ _ read list inLists
          rw [(definition_channels_own definition list isRead).2 channel inList]
          rw [← definitions] at inRoot
          exact root_trimmed env.feeds root definition inRoot

-- What the parsing of a sync leaves: the activations, a catalogue with trimmed ids and a list of channels.
theorem scheduled_listing (env : DpaEnv K) (body : ByteArray) (tables stored : Tables K) (channels : List (String × Int × Int))
    (settled : DpaSettled tables) (names : NamesTrimmed tables)
    (parsed : scheduledChannels env body tables = some (stored, channels)) :
    stored.activations = tables.activations ∧
      (∀ definitions ∈ stored.catalogue.settled, ∀ definition ∈ definitions, trimmed definition.dpaId = definition.dpaId) ∧
      channels ≠ [] ∧ ∀ channel ∈ channels, trimmed channel.1 = channel.1 := by
  obtain ⟨text, _, read⟩ := Option.bind_eq_some_iff.mp parsed
  by_cases kml : scheduledDpaLooksLikeKml text.toList = true
  · rw [if_pos kml] at read
    have done : applyScheduledDpaKml env text tables = .ok (stored, channels) := by
      cases applied : applyScheduledDpaKml env text tables with
      | error error => rw [applied] at read; cases read
      | ok result => rw [applied] at read; cases read; rfl
    obtain ⟨⟨root, isStored⟩, nonempty, trimmedIds⟩ := kml_listing env text tables stored channels done
    refine ⟨by rw [isStored]; rfl, fun definitions member definition inside => ?_, nonempty, trimmedIds⟩
    have written : ∀ held ∈ (byId (definitionsFromKmlRoot env.feeds root)
        (byId ((listCatalogue tables).filter fun definition => definition.dpaId != "") [])).map (·.2),
        trimmed held.dpaId = held.dpaId := by
      intro held inDict
      rcases by_id_source _ _ held inDict with isNew | old
      · exact root_trimmed env.feeds root held isNew
      · rcases by_id_source _ [] held old with known | inNone
        · exact listed_trimmed tables settled names held (List.mem_of_mem_filter known)
        · cases inNone
    rw [isStored] at member
    rcases mem_settled_put tables.catalogue (fun _ => true) _ _ (committed_rows _ settled.catalogue).1 definitions member with
      old | isNew | ⟨_, _, isNew⟩
    · exact names.catalogue definitions old definition inside
    · exact written definition (isNew ▸ inside)
    · exact written definition (isNew ▸ inside)
  · rw [if_neg kml] at read
    have done : applyScheduledDpaJson env text tables = .ok (stored, channels) := by
      cases applied : applyScheduledDpaJson env text tables with
      | error error => rw [applied] at read; cases read
      | ok result => rw [applied] at read; cases read; rfl
    obtain ⟨isStored, nonempty, trimmedIds⟩ := json_listing env text tables stored channels done
    rw [isStored]
    exact ⟨rfl, names.catalogue, nonempty, trimmedIds⟩

-- With one row for each channel, the rows that stay are those of the channels that are not tagged.
theorem dropped_active (tables stored : Tables K) (settled : DpaSettled tables) (same : stored.activations = tables.activations)
    (key : String × Int × Int) : Active key (dropScheduled stored) ↔ Active key tables ∧ ¬ TaggedScheduled key tables := by
  obtain ⟨clean, pending, all⟩ := committed_rows tables.activations settled.activations
  have rows : (dropScheduled stored).activations.settled =
      tables.activations.settled.filter fun row => !decide (row.source = some scheduledSource) := by
    rw [dropScheduled, setActivations, same, settled_doom, pending, List.append_nil, survivors_clean _ clean, all]
  rw [Active, rows]
  constructor
  · intro member
    obtain ⟨row, inRows, isKey⟩ := List.mem_map.mp member
    rw [List.mem_filter, Bool.not_eq_true', decide_eq_false_iff_not] at inRows
    refine ⟨List.mem_map.mpr ⟨row, inRows.1, isKey⟩, ?_⟩
    rintro ⟨tagged, inTables, isSame, source⟩
    have isRow : tagged = row := List.inj_on_of_nodup_map settled.once inTables inRows.1 (isSame.trans isKey.symm)
    rw [isRow] at source
    exact inRows.2 source
  · rintro ⟨active, untagged⟩
    obtain ⟨row, inTables, isKey⟩ := List.mem_map.mp active
    refine List.mem_map.mpr ⟨row, ?_, isKey⟩
    rw [List.mem_filter, Bool.not_eq_true', decide_eq_false_iff_not]
    exact ⟨inTables, fun source => untagged ⟨row, inTables, isKey, source⟩⟩

-- A sync drops the tagged rows only, and activates what it lists.
theorem scheduled_active (env : DpaEnv K) (body : ByteArray) (tables after : Tables K) (settled : DpaSettled tables)
    (names : NamesTrimmed tables) (done : Federal.applyScheduledDpa env body tables = .ok after) :
    NamesTrimmed after ∧
      ∀ key, Active key after ↔ (Active key tables ∧ ¬ TaggedScheduled key tables) ∨ Lists env body tables key := by
  rw [Federal.applyScheduledDpa] at done
  split at done
  · cases done
  · rename_i text isText
    split at done
    · cases done
    · rename_i stored channels applied
      have parsed : scheduledChannels env body tables = some (stored, channels) := by
        rw [scheduledChannels, isText, Option.bind_some, applied]
        rfl
      obtain ⟨same, catalogue, nonempty, trimmedIds⟩ := scheduled_listing env body tables stored channels settled names parsed
      obtain ⟨last, refreshed, written⟩ := Collect.map_ok _ _ after done
      have active : ∀ key, Active key (Federal.activateScheduled env channels (dropScheduled stored)) ↔
          (Active key tables ∧ ¬ TaggedScheduled key tables) ∨ key ∈ channels := by
        intro key
        rw [Federal.activateScheduled, upserts_active env.now channels (·.1) (·.2) (fun _ => []) (some scheduledSource) _ key,
          dropped_active tables stored settled same key]
        simp
      have committed := upserts_committed env.now channels (·.1) (·.2) (fun _ => []) (some scheduledSource)
        (dropScheduled stored) fun empty => absurd empty nonempty
      have trimmedKeys : ∀ key, Active key (Federal.activateScheduled env channels (dropScheduled stored)) → trimmed key.1 = key.1 := by
        intro key isActive
        rcases (active key).mp isActive with ⟨old, _⟩ | listed
        · exact names.activations key old
        · exact trimmedIds key listed
      obtain ⟨refresh, kept⟩ := fail_closed_active env channels _ last trimmedKeys committed
        (fun channel member => (active channel).mpr (.inr member)) refreshed
      have listing : ∀ key, Lists env body tables key ↔ key ∈ channels := by
        intro key
        simp [Lists, parsed]
      rw [← written]
      refine ⟨⟨fun key isActive => trimmedKeys key ((refresh key).mp isActive), fun definitions member => ?_⟩, fun key => ?_⟩
      · have inStored : definitions ∈ (dropScheduled stored).catalogue.settled := by
          rw [← upserts_catalogue env.now channels (·.1) (·.2) (fun _ => []) (some scheduledSource) (dropScheduled stored)]
          exact kept ▸ member
        exact catalogue definitions inStored
      · rw [listing, ← active]
        exact refresh key

end Scheduled

section Steps

theorem flush_trimmed (tables : Tables K) (names : NamesTrimmed tables) : NamesTrimmed tables.flush := by
  refine ⟨fun key active => names.activations key ((flush_active key tables).mp active), fun definitions member => ?_⟩
  apply names.catalogue definitions
  rw [← settled_flush tables.catalogue]
  exact member

theorem activate_all_active (now : Int) (definitions : List DpaDefinition) (tables : Tables K)
    (empty : tables.activations.settled = []) (key : String × Int × Int) :
    Active key (activateAllEscMonitored now definitions tables) ↔
      key ∈ (definitions.filter (·.escMonitored)).flatMap fun definition =>
        (channelize definition.freqLowHz definition.freqHighHz).map fun channel => (definition.dpaId, channel) := by
  have keys := (inserts_settled now ((definitions.filter (·.escMonitored)).flatMap fun definition =>
    (channelize definition.freqLowHz definition.freqHighHz).map fun channel => (definition.dpaId, channel)) tables).1
  rw [Active, activateAllEscMonitored, keys, empty, List.map_nil, List.nil_append]

theorem activate_all_catalogue (now : Int) (definitions : List DpaDefinition) (tables : Tables K) :
    (activateAllEscMonitored now definitions tables).catalogue = tables.catalogue :=
  (inserts_settled now _ tables).2

-- A table that the catalogue fills again holds trimmed ids when the catalogue does.
theorem refilled_trimmed (now : Int) (definitions : List DpaDefinition) (tables : Tables K)
    (empty : tables.activations.settled = [])
    (given : ∀ definition ∈ definitions, trimmed definition.dpaId = definition.dpaId)
    (catalogue : ∀ held ∈ tables.catalogue.settled, ∀ definition ∈ held, trimmed definition.dpaId = definition.dpaId) :
    NamesTrimmed (activateAllEscMonitored now definitions tables) := by
  refine ⟨fun key active => ?_, fun held member => ?_⟩
  · obtain ⟨definition, inList, isKey⟩ := List.mem_flatMap.mp ((activate_all_active now definitions tables empty key).mp active)
    obtain ⟨_, _, same⟩ := List.mem_map.mp isKey
    rw [← same]
    exact given definition (List.mem_of_mem_filter inList)
  · rw [activate_all_catalogue] at member
    exact catalogue held member

theorem load_trimmed (env : DpaEnv K) (tables loaded : Tables K) (settled : DpaSettled tables) (names : NamesTrimmed tables)
    (done : loadDpas env tables = .ok loaded) : NamesTrimmed loaded := by
  rw [loadDpas] at done
  split at done
  · cases done
  · rename_i roots _
    simp only at done
    split at done
    · cases done
    · cases done
      apply flush_trimmed
      apply refilled_trimmed
      · exact cleared_empty tables settled
      · exact loaded_trimmed env.feeds roots
      · intro held member
        rcases mem_settled_put tables.catalogue (fun _ => true) _ _ (committed_rows _ settled.catalogue).1 held member with
          old | isNew | ⟨_, _, isNew⟩
        · exact names.catalogue held old
        · rw [isNew]
          exact loaded_trimmed env.feeds roots
        · rw [isNew]
          exact loaded_trimmed env.feeds roots

theorem step_trimmed (env : DpaEnv K) (step : DpaStep K) (tables : Tables K) (settled : DpaSettled tables)
    (names : NamesTrimmed tables) : NamesTrimmed (dpaStep env step tables) := by
  cases step with
  | load =>
      rw [dpaStep]
      cases done : loadDpas env tables with
      | error error => exact names
      | ok after => exact load_trimmed env tables after settled names done
  | bulk activate =>
      cases activate with
      | none => exact names
      | some activate =>
          cases activate with
          | false =>
              apply flush_trimmed
              refine ⟨fun key active => ?_, names.catalogue⟩
              rw [Active, cleared_empty tables settled] at active
              cases active
          | true =>
              rw [dpaStep, bulkDpaActivation]
              simp only
              by_cases empty : listCatalogue tables = []
              · rw [if_pos empty]
                cases done : loadDpas env tables with
                | error error => exact names
                | ok after => exact load_trimmed env tables after settled names done
              · rw [if_neg empty]
                apply flush_trimmed
                apply refilled_trimmed
                · exact cleared_empty tables settled
                · intro definition member
                  exact listed_trimmed tables settled names definition (List.mem_of_mem_filter member)
                · exact names.catalogue
  | activate body =>
      rw [dpaStep]
      cases done : activateDpa env body tables with
      | error error => exact names
      | ok after =>
          obtain ⟨active, catalogue⟩ := activated_channels env body tables after names done
          refine ⟨fun key isActive => ?_, fun definitions member => names.catalogue definitions (catalogue ▸ member)⟩
          rcases (active key).mp isActive with old | accepted
          · exact names.activations key old
          · exact requested_trimmed env body key (Option.filter_eq_some_iff.mp accepted).1
  | deactivate body =>
      rw [dpaStep, deactivateDpa]
      split
      · exact names
      · apply flush_trimmed
        refine ⟨fun key active => names.activations key ?_, names.catalogue⟩
        obtain ⟨clean, pending, all⟩ := committed_rows tables.activations settled.activations
        rw [Active, removeActivation, setActivations, settled_doom, pending, List.append_nil, survivors_clean _ clean, all] at active
        exact List.map_subset activationKey (List.filter_subset_self _) active
  | scheduledSync body =>
      rw [dpaStep]
      cases done : Federal.applyScheduledDpa env body tables with
      | error error => exact names
      | ok after => exact flush_trimmed after (scheduled_active env body tables after settled names done).1
  | refreshMovelists =>
      rw [dpaStep]
      cases done : refreshActivationMovelists env tables with
      | error fault => exact names
      | ok after =>
          obtain ⟨active, catalogue⟩ := refresh_active env tables after names.activations
            (committed_rows _ settled.activations).2.2 done
          apply flush_trimmed
          exact ⟨fun key isActive => names.activations key ((active key).mp isActive),
            fun definitions member => names.catalogue definitions (catalogue ▸ member)⟩

theorem deactivated_active (env : DpaEnv K) (body : Json K) (tables : Tables K) (settled : DpaSettled tables)
    (key : String × Int × Int) (other : requestedChannel env body ≠ some key) (active : Active key tables) :
    Active key (deactivateDpa env body tables) := by
  cases requested : requestedChannel env body with
  | none =>
      rw [deactivateDpa, requested]
      exact active
  | some own =>
      have rows := deactivated_rows env body own.1 own.2 tables settled requested
      obtain ⟨row, member, isKey⟩ := List.mem_map.mp active
      rw [Active, rows]
      refine List.mem_map.mpr ⟨row, List.mem_filter.mpr ⟨member, decide_eq_true ?_⟩, isKey⟩
      intro isOwn
      exact other (requested.trans (congrArg some (isOwn.symm.trans isKey)))

-- One step that is no deactivation of the channel keeps it active exactly under its condition.
theorem step_keeps_iff (env : DpaEnv K) (step : DpaStep K) (tables : Tables K) (settled : DpaSettled tables)
    (names : NamesTrimmed tables) (key : String × Int × Int) (active : Active key tables)
    (standing : ¬ EndsActivation key env step tables) :
    Active key (dpaStep env step tables) ↔ KeepsChannel key env step tables := by
  cases step with
  | load => exact absurd trivial standing
  | bulk activate =>
      cases activate with
      | none => exact iff_of_true active fun given => by cases given
      | some activate =>
          cases activate with
          | false => exact absurd (.inl rfl) standing
          | true =>
              have nonempty : ¬ listCatalogue tables = [] := fun empty => standing (.inr ⟨rfl, empty⟩)
              rw [dpaStep, bulkDpaActivation]
              simp only
              rw [if_neg nonempty]
              have filled := activate_all_active env.now ((listCatalogue tables).filter fun definition => definition.dpaId != "")
                (clearActivations tables) (cleared_empty tables settled) key
              exact ((flush_active key _).trans filled).trans ⟨fun listed _ => listed, fun keeps => keeps rfl⟩
  | activate body =>
      refine iff_of_true ?_ trivial
      rw [dpaStep]
      cases done : activateDpa env body tables with
      | error error => exact active
      | ok after => exact ((activated_channels env body tables after names done).1 key).mpr (.inl active)
  | deactivate body => exact iff_of_true (deactivated_active env body tables settled key standing active) trivial
  | scheduledSync body =>
      rw [dpaStep, KeepsChannel]
      cases done : Federal.applyScheduledDpa env body tables with
      | error error => exact iff_of_true active fun given => by cases given
      | ok after =>
          have effect := (scheduled_active env body tables after settled names done).2 key
          refine ((flush_active key after).trans effect).trans ⟨?_, fun keeps => ?_⟩
          · rintro (⟨_, untagged⟩ | listed) _ tagged
            · exact absurd tagged untagged
            · exact listed
          · by_cases tagged : TaggedScheduled key tables
            · exact .inr (keeps rfl tagged)
            · exact .inl ⟨active, tagged⟩
  | refreshMovelists =>
      refine iff_of_true ?_ trivial
      rw [dpaStep]
      cases done : refreshActivationMovelists env tables with
      | error fault => exact active
      | ok after =>
          have effect := (refresh_active env tables after names.activations (committed_rows _ settled.activations).2.2 done).1 key
          exact (flush_active key after).mpr (effect.mpr active)

end Steps

section Runs

theorem run_trimmed (steps : List (DpaEnv K × DpaStep K)) (tables : Tables K) (settled : DpaSettled tables)
    (names : NamesTrimmed tables) : NamesTrimmed (dpaRun tables steps) := by
  induction steps generalizing tables with
  | nil => exact names
  | cons step rest ih =>
      exact ih _ (step_settled step.1 step.2 tables settled) (step_trimmed step.1 step.2 tables settled names)

theorem channel_stays_iff (steps : List (DpaEnv K × DpaStep K)) (tables : Tables K) (settled : DpaSettled tables)
    (names : NamesTrimmed tables) (key : String × Int × Int) (active : Active key tables)
    (standing : EveryStep (fun env step held => ¬ EndsActivation key env step held) tables steps) :
    (∀ count, Active key (dpaRun tables (steps.take count))) ↔ EveryStep (KeepsChannel key) tables steps := by
  induction steps generalizing tables with
  | nil => exact iff_of_true (fun count => by rw [List.take_nil]; exact active) trivial
  | cons step rest ih =>
      obtain ⟨env, step⟩ := step
      have kept := step_keeps_iff env step tables settled names key active standing.1
      have later := ih (dpaStep env step tables) (step_settled env step tables settled) (step_trimmed env step tables settled names)
      constructor
      · intro stays
        have next : Active key (dpaStep env step tables) := stays 1
        exact ⟨kept.mp next, (later next standing.2).mp fun count => stays (count + 1)⟩
      · rintro ⟨keeps, rests⟩ count
        cases count with
        | zero => exact active
        | succ count => exact (later (kept.mpr keeps) standing.2).mpr rests count

-- A channel that activate_dpa activates stays active exactly as long as every sync that leaves it out finds it
-- untagged and every bulk activation finds it in the catalogue.
theorem manual_activation_stays_iff (before : List (DpaEnv K × DpaStep K)) (env : DpaEnv K) (body : Json K)
    (key : String × Int × Int) (steps : List (DpaEnv K × DpaStep K))
    (accepted : acceptedChannel env body (dpaRun .empty before) = some key)
    (done : (activateDpa env body (dpaRun .empty before)).isOk)
    (standing : EveryStep (fun env step held => ¬ EndsActivation key env step held)
      (dpaRun .empty (before ++ [(env, .activate body)])) steps) :
    (∀ count, Active key (dpaRun .empty (before ++ (env, .activate body) :: steps.take count))) ↔
      EveryStep (KeepsChannel key) (dpaRun .empty (before ++ [(env, .activate body)])) steps := by
  have settled := run_settled before (.empty : Tables K) empty_settled
  have names := run_trimmed before (.empty : Tables K) empty_settled empty_trimmed
  have active : Active key (dpaRun .empty (before ++ [(env, .activate body)])) := by
    rw [dpaRun, List.foldl_append, List.foldl_cons, List.foldl_nil, ← dpaRun, dpaStep]
    cases result : activateDpa env body (dpaRun .empty before) with
    | error error =>
        rw [result] at done
        cases done
    | ok after => exact ((activated_channels env body _ after names result).1 key).mpr (.inr accepted)
  have run : ∀ rest, dpaRun (.empty : Tables K) (before ++ (env, .activate body) :: rest) =
      dpaRun (dpaRun .empty (before ++ [(env, .activate body)])) rest := by
    intro rest
    simp only [dpaRun, List.foldl_append, List.foldl_cons, List.foldl_nil]
  have stays := channel_stays_iff steps _ (run_settled _ _ empty_settled) (run_trimmed _ _ empty_settled empty_trimmed) key active
    standing
  rw [← stays]
  exact forall_congr' fun count => by rw [run (steps.take count)]

end Runs

def lowChannelText : String :=
  "[\x7b\"dpaId\": \"East1\", \"frequencyRange\": \x7b\"lowFrequency\": 3550000000, \"highFrequency\": 3560000000\x7d\x7d]"

def highChannelText : String :=
  "[\x7b\"dpaId\": \"East1\", \"frequencyRange\": \x7b\"lowFrequency\": 3560000000, \"highFrequency\": 3570000000\x7d\x7d]"

def lowChannel : String × Int × Int := ("East1", 3550000000, 3560000000)

def syncOf (text : String) : DpaEnv Rat × DpaStep Rat := (catalogueEnv, .scheduledSync text.toUTF8)

theorem scheduled_sync_withdraws :
    ¬ ∀ (before : List (DpaEnv Rat × DpaStep Rat)) (env : DpaEnv Rat) (body : Json Rat) (key : String × Int × Int)
      (steps : List (DpaEnv Rat × DpaStep Rat)), acceptedChannel env body (dpaRun .empty before) = some key →
      (activateDpa env body (dpaRun .empty before)).isOk →
      EveryStep (fun env step held => ¬ EndsActivation key env step held) (dpaRun .empty (before ++ [(env, .activate body)])) steps →
      ∀ count, Active key (dpaRun .empty (before ++ (env, .activate body) :: steps.take count)) := by
  intro claim
  have stays := claim [(catalogueEnv, .load)] catalogueEnv channelBody lowChannel [syncOf lowChannelText, syncOf highChannelText]
    (by decide +kernel) (by decide +kernel) ⟨id, id, trivial⟩ 2
  have withdrawn : ¬ Active lowChannel (dpaRun .empty ([(catalogueEnv, .load)] ++ (catalogueEnv, .activate channelBody) ::
      [syncOf lowChannelText, syncOf highChannelText].take 2)) := by decide +kernel
  exact withdrawn stays

theorem manual_activation_stays_iff_sample :
    Active lowChannel (dpaRun .empty [(catalogueEnv, .load), (catalogueEnv, .activate channelBody), syncOf highChannelText]) :=
  (manual_activation_stays_iff [(catalogueEnv, .load)] catalogueEnv channelBody lowChannel [syncOf highChannelText]
    (by decide +kernel) (by decide +kernel) ⟨id, trivial⟩).mpr
      ⟨fun _ tagged => absurd tagged (by decide +kernel), trivial⟩ 1

end SasCore.Dpa
