import SasCore.Federal.ScheduledDpa
import SasCore.Lib.Collect
import Mathlib.Algebra.Order.Field.Rat

set_option autoImplicit false
set_option linter.unusedSectionVars false

namespace SasCore.Dpa

open Injection Federal Cpas Orm

variable {K : Type} [Field K] [LinearOrder K]

inductive DpaStep (K : Type) where
  | load
  | bulk (activate : Option Bool)
  | activate (body : Json K)
  | deactivate (body : Json K)
  | scheduledSync (body : ByteArray)
  | refreshMovelists

-- What a step commits; a step that raises leaves the tables.
def dpaStep (env : DpaEnv K) (step : DpaStep K) (committed : Tables K) : Tables K :=
  match step with
  | .load => (loadDpas env committed).toOption.getD committed
  | .bulk activate => (bulkDpaActivation env activate committed).toOption.getD committed
  | .activate body => (activateDpa env body committed).toOption.getD committed
  | .deactivate body => deactivateDpa env body committed
  | .scheduledSync body => ((Federal.applyScheduledDpa env body committed).map (·.flush)).toOption.getD committed
  | .refreshMovelists => ((refreshActivationMovelists env committed).map (·.flush)).toOption.getD committed

def dpaRun (committed : Tables K) (steps : List (DpaEnv K × DpaStep K)) : Tables K :=
  steps.foldl (fun held step => dpaStep step.1 step.2 held) committed

def activationKey (row : Activation) : String × Int × Int := (row.dpaId, row.lowHz, row.highHz)

def OneEach (tables : Tables K) : Prop := (tables.activations.settled.map activationKey).Nodup

def DistinctCatalogue (tables : Tables K) : Prop :=
  ∀ definitions ∈ tables.catalogue.settled, (definitions.map (·.dpaId)).Nodup

section Channels

theorem channels_from_bound (high : Int) (fuel : Nat) (cur : Int) : ∀ channel ∈ channelsFrom high fuel cur, cur ≤ channel.1 := by
  induction fuel generalizing cur with
  | zero =>
      intro channel member
      rw [channelsFrom] at member
      split at member
      · rw [List.mem_singleton.mp member]
      · cases member
  | succ fuel ih =>
      intro channel member
      rw [channelsFrom] at member
      split at member
      · rcases List.mem_cons.mp member with here | later
        · rw [here]
        · have next := ih (cur + channelHz) channel later
          have positive : channelHz = 10000000 := rfl
          omega
      · split at member
        · rw [List.mem_singleton.mp member]
        · cases member

theorem channels_from_distinct (high : Int) (fuel : Nat) (cur : Int) : (channelsFrom high fuel cur).Nodup := by
  induction fuel generalizing cur with
  | zero =>
      rw [channelsFrom]
      split
      · exact List.nodup_singleton _
      · exact List.nodup_nil
  | succ fuel ih =>
      rw [channelsFrom]
      split
      · rw [List.nodup_cons]
        refine ⟨fun member => ?_, ih _⟩
        have next := channels_from_bound high fuel (cur + channelHz) _ member
        have positive : channelHz = 10000000 := rfl
        simp only at next
        omega
      · split
        · exact List.nodup_singleton _
        · exact List.nodup_nil

theorem channelize_distinct (low high : Int) : (channelize low high).Nodup := by
  simp only [channelize]
  generalize channelStart low = start
  by_cases empty : high ≤ low
  · rw [if_pos empty]
    exact List.nodup_nil
  · rw [if_neg empty]
    by_cases short : high ≤ start
    · rw [if_pos short]
      exact List.nodup_singleton _
    · rw [if_neg short]
      by_cases head : low < start
      · rw [if_pos head, List.singleton_append, List.nodup_cons]
        refine ⟨fun member => ?_, channels_from_distinct high _ start⟩
        have after := channels_from_bound high _ start _ member
        simp only at after
        omega
      · rw [if_neg head]
        exact channels_from_distinct high _ start

end Channels

section Keys

theorem same_activation_key (dpaId : String) (channel : Int × Int) (row : Activation) :
    sameActivation dpaId channel.1 channel.2 row = true ↔ activationKey row = (dpaId, channel) := by
  obtain ⟨low, high⟩ := channel
  simp [sameActivation, activationKey, and_assoc]

theorem settled_flushed (tables : Tables K) : tables.flush.activations.settled = tables.activations.settled :=
  settled_flush tables.activations

theorem one_each_flush (tables : Tables K) (once : OneEach tables) : OneEach tables.flush := by
  rw [OneEach, settled_flushed]
  exact once

def keyOf (row : Activation) : Option (String × Int × Int) := some (activationKey row)

theorem same_activation_has (dpaId : String) (channel : Int × Int) :
    sameActivation dpaId channel.1 channel.2 = hasKey keyOf (dpaId, channel) := by
  funext row
  rw [Bool.eq_iff_iff, same_activation_key]
  simp [hasKey, keyOf]

theorem keys_of (rows : List Activation) : rows.map keyOf = (rows.map activationKey).map some := by
  rw [List.map_map]
  rfl

-- The keys after an upsert are those before, with its own when it is new.
theorem upsert_keys (now : Int) (dpaId : String) (channel : Int × Int) (movelist : List String) (source : Option String)
    (tables : Tables K) :
    (upsertActivation now dpaId channel movelist source tables).activations.settled.map activationKey =
      if (dpaId, channel) ∈ tables.activations.settled.map activationKey then tables.activations.settled.map activationKey
      else tables.activations.settled.map activationKey ++ [(dpaId, channel)] := by
  have settles : ∀ (found : Bool) (after : Tables K),
      (if found then after else after.flush).activations.settled = after.activations.settled := by
    intro found after
    cases found
    · exact settled_flushed after
    · rfl
  simp only [upsertActivation, settles, setActivations, same_activation_has]
  have own : ∀ given, keyOf (activationRow now dpaId channel movelist given) = some (dpaId, channel) := fun _ => rfl
  obtain ⟨all, pending⟩ := put_keys keyOf tables.flush.activations (dpaId, channel) (activationRow now dpaId channel movelist source)
    (fun held => activationRow now dpaId channel movelist (source.or held.source)) (fun held _ => own _)
  have clean := put_clean tables.flush.activations (hasKey keyOf (dpaId, channel))
    (fun held => activationRow now dpaId channel movelist (source.or held.source))
    (activationRow now dpaId channel movelist source) (flush_clean tables.activations)
  have keys := settled_keys keyOf _ clean
  have flushed : tables.flush.activations.all = tables.activations.settled := all_flush tables.activations
  rw [all, pending, flushed, keys_of, keys_of] at keys
  apply List.map_injective_iff.mpr (Option.some_injective _)
  rw [keys]
  by_cases known : (dpaId, channel) ∈ tables.activations.settled.map activationKey
  · rw [if_pos known, if_pos (List.mem_map_of_mem known)]
    exact List.append_nil _
  · have fresh : some (dpaId, channel) ∉ (tables.activations.settled.map activationKey).map some := by simpa using known
    rw [if_neg known, if_neg fresh, List.map_append, List.map_append]
    rfl

theorem one_each_upsert (now : Int) (dpaId : String) (channel : Int × Int) (movelist : List String) (source : Option String)
    (tables : Tables K) (once : OneEach tables) : OneEach (upsertActivation now dpaId channel movelist source tables) := by
  rw [OneEach, upsert_keys]
  by_cases known : (dpaId, channel) ∈ tables.activations.settled.map activationKey
  · rw [if_pos known]
    exact once
  · rw [if_neg known, List.nodup_append]
    refine ⟨once, List.nodup_singleton _, fun key member other isNew => ?_⟩
    rw [List.mem_singleton.mp isNew]
    intro same
    exact known (same ▸ member)

theorem one_each_doom (found : Activation → Bool) (tables : Tables K) (once : OneEach tables) :
    OneEach (setActivations (·.doom found) tables) := by
  rw [OneEach, Table.settled, List.map_append] at once
  rw [OneEach, setActivations, settled_doom, List.map_append]
  exact once.sublist ((List.filter_sublist.map activationKey).append (List.Sublist.refl _))

end Keys

section Catalogues

def Indexed (dict : List (String × DpaDefinition)) : Prop :=
  (dict.map (·.1)).Nodup ∧ ∀ entry ∈ dict, entry.2.dpaId = entry.1

theorem by_id_indexed (definitions : List DpaDefinition) (known : List (String × DpaDefinition)) (indexed : Indexed known) :
    Indexed (byId definitions known) := by
  induction definitions generalizing known with
  | nil => exact indexed
  | cons definition rest ih =>
      apply ih
      refine ⟨(PyDict.set_keys _ _ known indexed.1).1, fun entry member => ?_⟩
      rcases PyDict.mem_set _ _ known entry member with isNew | old
      · rw [isNew]
      · exact indexed.2 entry old

theorem indexed_ids (dict : List (String × DpaDefinition)) (indexed : Indexed dict) :
    ((dict.map (·.2)).map (·.dpaId)).Nodup := by
  rw [List.map_map]
  have same : dict.map ((·.dpaId) ∘ (·.2)) = dict.map (·.1) := List.map_congr_left fun entry member => indexed.2 entry member
  rw [same]
  exact indexed.1

theorem empty_indexed : Indexed [] := ⟨List.nodup_nil, fun entry member => by cases member⟩

theorem loaded_ids (env : FeedEnv K) (roots : List Xml) : ((loadCatalogueFromPaths env roots).map (·.dpaId)).Nodup :=
  indexed_ids _ (by_id_indexed _ [] empty_indexed)

theorem persist_distinct (definitions : List DpaDefinition) (distinct : (definitions.map (·.dpaId)).Nodup) (tables : Tables K)
    (clean : tables.catalogue.Clean) (before : DistinctCatalogue tables) : DistinctCatalogue (persistCatalogue definitions tables) := by
  intro held member
  rcases mem_settled_put tables.catalogue (fun _ => true) (fun _ => definitions) definitions clean held member with
    old | isNew | ⟨_, _, isNew⟩
  · exact before held old
  · rw [isNew]
    exact distinct
  · rw [isNew]
    exact distinct

end Catalogues

section Steps

-- A committed state with one row for each channel and distinct ids in the catalogue.
structure DpaSettled (tables : Tables K) : Prop where
  activations : tables.activations.flush = tables.activations
  catalogue : tables.catalogue.flush = tables.catalogue
  once : OneEach tables
  distinct : DistinctCatalogue tables

theorem flush_settled (tables : Tables K) (once : OneEach tables) (distinct : DistinctCatalogue tables) :
    DpaSettled tables.flush := by
  refine ⟨?_, ?_, one_each_flush tables once, fun definitions member => ?_⟩
  · exact congrArg Table.stored (settled_flush tables.activations)
  · exact congrArg Table.stored (settled_flush tables.catalogue)
  · apply distinct
    rw [← settled_flush tables.catalogue]
    exact member

theorem upsert_catalogue (now : Int) (dpaId : String) (channel : Int × Int) (movelist : List String) (source : Option String)
    (tables : Tables K) :
    (upsertActivation now dpaId channel movelist source tables).catalogue.settled = tables.catalogue.settled := by
  rw [upsertActivation]
  split
  · exact settled_flush tables.catalogue
  · exact (settled_flush tables.catalogue.flush).trans (settled_flush tables.catalogue)

-- What holds between two writes of one transaction.
def DpaMidway (tables : Tables K) : Prop := OneEach tables ∧ DistinctCatalogue tables

theorem midway_upsert (now : Int) (dpaId : String) (channel : Int × Int) (movelist : List String) (source : Option String)
    (tables : Tables K) (midway : DpaMidway tables) : DpaMidway (upsertActivation now dpaId channel movelist source tables) := by
  refine ⟨one_each_upsert now dpaId channel movelist source tables midway.1, ?_⟩
  intro definitions member
  rw [upsert_catalogue] at member
  exact midway.2 definitions member

theorem midway_upserts {ι : Type} (now : Int) (entries : List ι) (name : ι → String) (channel : ι → Int × Int)
    (movelist : ι → List String) (source : Option String) (tables : Tables K) (midway : DpaMidway tables) :
    DpaMidway (entries.foldl (fun held entry =>
      upsertActivation now (name entry) (channel entry) (movelist entry) source held) tables) := by
  induction entries generalizing tables with
  | nil => exact midway
  | cons entry rest ih => exact ih _ (midway_upsert now _ _ _ source tables midway)

theorem midway_refresh (env : DpaEnv K) (tables refreshed : Tables K) (midway : DpaMidway tables)
    (done : refreshActivationMovelists env tables = .ok refreshed) : DpaMidway refreshed := by
  obtain ⟨entries, _, written⟩ := Collect.map_ok _ _ refreshed done
  rw [← written]
  exact midway_upserts env.now entries (·.1.1) (·.1.2) (·.2) none tables midway

theorem midway_fail_closed (env : DpaEnv K) (channels : List (String × Int × Int)) (tables refreshed : Tables K)
    (midway : DpaMidway tables) (done : refreshOrFailClosedMovelists env channels tables = .ok refreshed) :
    DpaMidway refreshed := by
  rw [refreshOrFailClosedMovelists] at done
  split at done
  · rename_i isRefreshed
    cases done
    exact midway_refresh env tables refreshed midway isRefreshed
  · cases done
  · obtain ⟨grants, _, written⟩ := Collect.map_ok _ _ refreshed done
    rw [← written]
    exact midway_upserts env.now channels (·.1) (·.2) (overlappingGrants grants) none tables midway

theorem inserts_settled (now : Int) (entries : List (String × Int × Int)) (tables : Tables K) :
    (entries.foldl (fun held entry => insertActivation now entry.1 entry.2 held) tables).activations.settled.map activationKey =
        tables.activations.settled.map activationKey ++ entries ∧
      (entries.foldl (fun held entry => insertActivation now entry.1 entry.2 held) tables).catalogue = tables.catalogue := by
  induction entries generalizing tables with
  | nil => exact ⟨(List.append_nil _).symm, rfl⟩
  | cons entry rest ih =>
      obtain ⟨keys, catalogue⟩ := ih (insertActivation now entry.1 entry.2 tables)
      rw [List.foldl_cons, keys, catalogue, insertActivation, setActivations, settled_add, List.map_append, List.append_assoc]
      exact ⟨rfl, rfl⟩

-- Activating a catalogue with distinct ids fills a cleared table without repeating a channel.
theorem midway_activate_all (now : Int) (definitions : List DpaDefinition) (distinct : (definitions.map (·.dpaId)).Nodup)
    (tables : Tables K) (empty : tables.activations.settled = []) (catalogue : DistinctCatalogue tables) :
    DpaMidway (activateAllEscMonitored now definitions tables) := by
  obtain ⟨keys, same⟩ := inserts_settled now
    ((definitions.filter (·.escMonitored)).flatMap fun definition =>
      (channelize definition.freqLowHz definition.freqHighHz).map fun channel => (definition.dpaId, channel)) tables
  refine ⟨?_, ?_⟩
  · rw [OneEach, activateAllEscMonitored, keys, empty, List.map_nil, List.nil_append, List.nodup_flatMap]
    refine ⟨fun definition _ => ?_, ?_⟩
    · apply (channelize_distinct _ _).map
      intro first second same
      exact congrArg Prod.snd same
    · have apart : ((definitions.filter (·.escMonitored)).map (·.dpaId)).Nodup :=
        distinct.sublist (List.filter_sublist.map _)
      rw [List.Nodup, List.pairwise_map] at apart
      apply apart.imp
      intro first second different key inFirst inSecond
      obtain ⟨_, _, isFirst⟩ := List.mem_map.mp inFirst
      obtain ⟨_, _, isSecond⟩ := List.mem_map.mp inSecond
      rw [← isFirst] at isSecond
      exact different (congrArg Prod.fst isSecond).symm
  · intro held member
    rw [activateAllEscMonitored, same] at member
    exact catalogue held member

theorem committed_rows {V : Type} (table : Table V) (committed : table.flush = table) :
    table.Clean ∧ table.pending = [] ∧ table.all = table.settled := by
  rw [← committed]
  exact ⟨flush_clean table, rfl, by rw [all_flush, settled_flush]⟩

theorem cleared_empty (tables : Tables K) (settled : DpaSettled tables) : (clearActivations tables).activations.settled = [] := by
  rw [clearActivations, settled_clear]
  exact (committed_rows _ settled.activations).2.1

theorem listed_ids (tables : Tables K) (settled : DpaSettled tables) : ((listCatalogue tables).map (·.dpaId)).Nodup := by
  rw [listCatalogue]
  cases first : tables.catalogue.all.head? with
  | none => exact List.nodup_nil
  | some definitions =>
      apply settled.distinct
      rw [← (committed_rows _ settled.catalogue).2.2]
      exact List.mem_of_head? first

theorem load_settled (env : DpaEnv K) (tables loaded : Tables K) (settled : DpaSettled tables)
    (done : loadDpas env tables = .ok loaded) : DpaSettled loaded := by
  rw [loadDpas] at done
  cases roots : env.kmlRoots with
  | error error => rw [roots] at done; cases done
  | ok documents =>
      rw [roots] at done
      simp only at done
      split at done
      · cases done
      · cases done
        have distinct := persist_distinct _ (loaded_ids env.feeds documents) (clearActivations tables)
          (committed_rows _ settled.catalogue).1 settled.distinct
        obtain ⟨once, catalogue⟩ := midway_activate_all env.now _ (loaded_ids env.feeds documents)
          (persistCatalogue (loadCatalogueFromPaths env.feeds documents) (clearActivations tables))
          (cleared_empty tables settled) distinct
        exact flush_settled _ once catalogue

theorem bulk_settled (env : DpaEnv K) (activate : Option Bool) (tables after : Tables K) (settled : DpaSettled tables)
    (done : bulkDpaActivation env activate tables = .ok after) : DpaSettled after := by
  have cleared := cleared_empty tables settled
  cases activate with
  | none =>
      cases done
      exact settled
  | some activate =>
      cases activate with
      | false =>
          cases done
          apply flush_settled
          · rw [OneEach, cleared]
            exact List.nodup_nil
          · exact settled.distinct
      | true =>
          rw [bulkDpaActivation] at done
          simp only at done
          split at done
          · exact load_settled env tables after settled done
          · cases done
            have distinct : (((listCatalogue tables).filter fun definition => definition.dpaId != "").map (·.dpaId)).Nodup :=
              (listed_ids tables settled).sublist (List.filter_sublist.map _)
            obtain ⟨once, catalogue⟩ :=
              midway_activate_all env.now _ distinct (clearActivations tables) cleared settled.distinct
            exact flush_settled _ once catalogue

theorem activate_settled (env : DpaEnv K) (body : Json K) (tables after : Tables K) (settled : DpaSettled tables)
    (done : activateDpa env body tables = .ok after) : DpaSettled after := by
  rw [activateDpa] at done
  split at done
  · cases done
    exact settled
  · rename_i dpaId channel _
    split at done
    · cases done
      exact settled
    · split at done
      · have midway := midway_upsert env.now dpaId channel [] none tables ⟨settled.once, settled.distinct⟩
        obtain ⟨last, refreshed, written⟩ := Collect.map_ok _ _ after done
        rw [← written]
        obtain ⟨once, catalogue⟩ := midway_fail_closed env _ _ last midway refreshed
        exact flush_settled last once catalogue
      · cases done
        exact settled

theorem deactivate_settled (env : DpaEnv K) (body : Json K) (tables : Tables K) (settled : DpaSettled tables) :
    DpaSettled (deactivateDpa env body tables) := by
  rw [deactivateDpa]
  split
  · exact settled
  · exact flush_settled _ (one_each_doom _ tables settled.once) settled.distinct

theorem kml_midway (env : DpaEnv K) (text : String) (tables stored : Tables K) (channels : List (String × Int × Int))
    (settled : DpaSettled tables) (done : applyScheduledDpaKml env text tables = .ok (stored, channels)) : DpaMidway stored := by
  rw [applyScheduledDpaKml] at done
  split at done
  · cases done
  · split at done
    · cases done
    · obtain ⟨lists, _, written⟩ := Collect.map_ok _ _ _ done
      cases written
      refine ⟨settled.once, ?_⟩
      exact persist_distinct _ (indexed_ids _ (by_id_indexed _ _ (by_id_indexed _ [] empty_indexed))) tables
        (committed_rows _ settled.catalogue).1 settled.distinct

theorem json_midway (env : DpaEnv K) (text : String) (tables stored : Tables K) (channels : List (String × Int × Int))
    (settled : DpaSettled tables) (done : applyScheduledDpaJson env text tables = .ok (stored, channels)) : DpaMidway stored := by
  rw [applyScheduledDpaJson] at done
  split at done
  · cases done
  · split at done
    · cases done
    · cases done
    · obtain ⟨lists, _, written⟩ := Collect.map_ok _ _ _ done
      cases written
      exact ⟨settled.once, settled.distinct⟩

theorem scheduled_settled (env : DpaEnv K) (body : ByteArray) (tables after : Tables K) (settled : DpaSettled tables)
    (done : Federal.applyScheduledDpa env body tables = .ok after) : DpaSettled after.flush := by
  rw [Federal.applyScheduledDpa] at done
  split at done
  · cases done
  · rename_i text _
    split at done
    · cases done
    · rename_i stored channels applied
      have midway : DpaMidway stored := by
        split at applied
        · exact kml_midway env text tables stored channels settled applied
        · exact json_midway env text tables stored channels settled applied
      have dropped : DpaMidway (dropScheduled stored) := ⟨one_each_doom _ stored midway.1, midway.2⟩
      have active : DpaMidway (activateScheduled env channels (dropScheduled stored)) :=
        midway_upserts env.now channels (·.1) (·.2) (fun _ => []) (some scheduledSource) _ dropped
      obtain ⟨last, refreshed, written⟩ := Collect.map_ok _ _ after done
      rw [← written]
      obtain ⟨once, catalogue⟩ := midway_fail_closed env channels _ last active refreshed
      exact flush_settled _ once catalogue

theorem step_settled (env : DpaEnv K) (step : DpaStep K) (tables : Tables K) (settled : DpaSettled tables) :
    DpaSettled (dpaStep env step tables) := by
  cases step with
  | load =>
      rw [dpaStep]
      cases done : loadDpas env tables with
      | error error => exact settled
      | ok after => exact load_settled env tables after settled done
  | bulk activate =>
      rw [dpaStep]
      cases done : bulkDpaActivation env activate tables with
      | error error => exact settled
      | ok after => exact bulk_settled env activate tables after settled done
  | activate body =>
      rw [dpaStep]
      cases done : activateDpa env body tables with
      | error error => exact settled
      | ok after => exact activate_settled env body tables after settled done
  | deactivate body => exact deactivate_settled env body tables settled
  | scheduledSync body =>
      rw [dpaStep]
      cases done : Federal.applyScheduledDpa env body tables with
      | error error => exact settled
      | ok after => exact scheduled_settled env body tables after settled done
  | refreshMovelists =>
      rw [dpaStep]
      cases done : refreshActivationMovelists env tables with
      | error fault => exact settled
      | ok after =>
          obtain ⟨once, catalogue⟩ := midway_refresh env tables after ⟨settled.once, settled.distinct⟩ done
          exact flush_settled after once catalogue

theorem run_settled (steps : List (DpaEnv K × DpaStep K)) (tables : Tables K) (settled : DpaSettled tables) :
    DpaSettled (dpaRun tables steps) := by
  induction steps generalizing tables with
  | nil => exact settled
  | cons step rest ih => exact ih _ (step_settled step.1 step.2 tables settled)

theorem empty_settled : DpaSettled (Tables.empty : Tables K) :=
  ⟨rfl, rfl, List.nodup_nil, fun definitions member => by cases member⟩

end Steps

section Channels

theorem deactivated_rows (env : DpaEnv K) (body : Json K) (dpaId : String) (channel : Int × Int) (tables : Tables K)
    (settled : DpaSettled tables) (requested : requestedChannel env body = some (dpaId, channel)) :
    (deactivateDpa env body tables).activations.settled =
      tables.activations.settled.filter fun row => activationKey row ≠ (dpaId, channel) := by
  obtain ⟨clean, pending, all⟩ := committed_rows tables.activations settled.activations
  have left : (removeActivation dpaId channel tables).activations.settled =
      tables.activations.settled.filter fun row => !sameActivation dpaId channel.1 channel.2 row := by
    rw [removeActivation, setActivations, settled_doom, pending, List.append_nil, survivors_clean _ clean, all]
  rw [deactivateDpa, requested]
  simp only [settled_flushed, left]
  apply List.filter_congr
  intro row _
  rw [Bool.eq_iff_iff, Bool.not_eq_true', ← Bool.not_eq_true, same_activation_key, decide_eq_true_eq]

theorem one_activation_per_channel (committed : Tables K) (settled : DpaSettled committed) (steps : List (DpaEnv K × DpaStep K)) :
    ((dpaRun committed steps).activations.settled.map activationKey).Nodup ∧
      ∀ env body dpaId channel, requestedChannel env body = some (dpaId, channel) →
        (∀ row ∈ (dpaStep env (.deactivate body) (dpaRun committed steps)).activations.settled,
          activationKey row ≠ (dpaId, channel)) ∧
        (dpaStep env (.deactivate body) (dpaRun committed steps)).activations.settled =
          (dpaRun committed steps).activations.settled.filter fun row => activationKey row ≠ (dpaId, channel) := by
  have reached := run_settled steps committed settled
  refine ⟨reached.once, fun env body dpaId channel requested => ?_⟩
  have rows := deactivated_rows env body dpaId channel _ reached requested
  refine ⟨fun row member => ?_, rows⟩
  rw [dpaStep, rows, List.mem_filter] at member
  exact of_decide_eq_true member.2

end Channels

def catalogueRoot : Xml :=
  .element (kml "kml") [] none [.element (kml "Placemark") [] none [.element (kml "name") [] (some "East1") [],
    .element (kml "ExtendedData") [] none [.element (kml "Data") [("name", "freqRangeMHz")] none
      [.element (kml "value") [] (some "3550-3570") []]]]]

def catalogueEnv : DpaEnv Rat where
  feeds :=
    { injection :=
        { settings := ⟨"admin", "https://peer", "v1.3",
            ⟨fun _ => [], fun text => if text = "3550".toList then some 3550 else if text = "3570".toList then some 3570 else none⟩,
            fun _ => "", fun _ => none, fun value => value.floor, fun _ => "", fun _ => ""⟩
          upper := id
          sortedDumps := fun _ => ""
          urlparse := fun _ => none }
      hzOfMhz := fun _ => .ok none
      decodeReplacing := fun _ => ""
      zipNames := fun _ => .error .badZipFile
      zipRead := fun _ _ => .error .badZipFile
      parseXml := fun _ => some catalogueRoot
      isDecimal := Char.isDigit
      columnText := fun _ => none
      geometryUsable := fun _ => true }
  kmlRoots := .ok [catalogueRoot]
  now := 0
  movelistOf := fun _ _ => .ok (some [])
  activeGrants := .ok []

def channelBody : Json Rat :=
  .object [("dpaId", .text "East1"),
    ("frequencyRange", .object [("lowFrequency", .int 3550000000), ("highFrequency", .int 3560000000)])]

def dpaSteps : List (DpaEnv Rat × DpaStep Rat) :=
  [(catalogueEnv, .load), (catalogueEnv, .deactivate channelBody), (catalogueEnv, .activate channelBody),
    (catalogueEnv, .activate channelBody)]

theorem one_activation_per_channel_sample :
    ((dpaRun .empty dpaSteps).activations.settled.map activationKey).Nodup ∧
      (dpaRun .empty dpaSteps).activations.settled.length = 2 :=
  ⟨(one_activation_per_channel .empty empty_settled dpaSteps).1, by decide +kernel⟩

end SasCore.Dpa
