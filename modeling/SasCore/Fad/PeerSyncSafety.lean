import SasCore.Fad.PeerSyncRounds
import Mathlib.Algebra.Field.Rat
import Mathlib.Data.List.Sort

set_option autoImplicit false
set_option linter.unusedSectionVars false

namespace SasCore.Fad

open JsonText Txn Txn.Prog Parts

variable {K : Type} [Field K] [DecidableEq K]

section Stores

-- Two stores with the same peers, of which each has the same row and the same records, hold the same rows.
theorem same_store (first second : PeerStore) (ids : first.peers.map (·.id) = second.peers.map (·.id))
    (distinct : (first.peers.map (·.id)).Nodup) (rows : ∀ i, first.peerRow i = second.peerRow i)
    (records : ∀ i, (first.recordsOf i).Perm (second.recordsOf i)) : SameStore first second := by
  constructor
  · have found : ∀ (store : PeerStore), (store.peers.map (·.id)).Nodup → ∀ peer ∈ store.peers, store.peerRow peer.id = some peer := by
      intro store unique peer member
      cases isRow : store.peerRow peer.id with
      | none => exact absurd rfl (of_decide_eq_false (Bool.eq_false_iff.mpr (List.find?_eq_none.mp isRow peer member)))
      | some other =>
          have isOther := List.mem_of_find?_eq_some isRow
          rw [List.inj_on_of_nodup_map unique isOther member (row_id store peer.id other isRow)]
    have read : ∀ (store : PeerStore), (store.peers.map (·.id)).Nodup → (store.peers.map (·.id)).map store.peerRow = store.peers.map some := by
      intro store unique
      rw [List.map_map]
      exact List.map_congr_left fun peer member => found store unique peer member
    have equal : first.peers.map some = second.peers.map some := by
      rw [← read first distinct, ← read second (ids ▸ distinct), ids]
      exact List.map_congr_left fun i _ => rows i
    exact (List.map_injective_iff.mpr (Option.some_injective PeerSas)) equal
  · rw [List.perm_iff_count]
    intro record
    have counts : ∀ (store : PeerStore), store.records.count record = (store.recordsOf record.peerSasId).count record := by
      intro store
      rw [PeerStore.recordsOf, List.count_filter]
      exact decide_eq_true rfl
    rw [counts, counts]
    exact (records record.peerSasId).count_eq record

theorem holds_same_view (floats : FloatText K) (snapshot : FadGenerationSnapshot K) (first second : PeerStore)
    (same : peerView snapshot.peerSasId first = peerView snapshot.peerSasId second) (holds : Holds floats snapshot second) :
    Holds floats snapshot first := by
  have rows : first.peerRow snapshot.peerSasId = second.peerRow snapshot.peerSasId := congrArg Prod.fst same
  have records : first.recordsOf snapshot.peerSasId = second.recordsOf snapshot.peerSasId := congrArg Prod.snd same
  exact ⟨rows ▸ holds.generation, records ▸ holds.records⟩

end Stores

section Reapplied

variable (floats : FloatText K)

theorem perm_same_fingerprint (first second : List PeerFadRecord) (same : first.Perm second) :
    sameFingerprint (fingerprint first) (fingerprint second) = true := by
  have prints : (fingerprint first).Perm (fingerprint second) := same.map _
  rw [sameFingerprint, Bool.and_eq_true, List.all_eq_true, List.all_eq_true]
  exact ⟨fun print member => List.contains_iff_mem.mpr (prints.mem_iff.mp member),
    fun print member => List.contains_iff_mem.mpr (prints.mem_iff.mpr member)⟩

-- A named generation that is there already is recognised.
theorem holds_already_applied (snapshot : FadGenerationSnapshot K) (store : PeerStore) (holds : Holds floats snapshot store)
    (named : snapshot.generationDatetime ≠ "") (row : PeerSas) (found : store.peerRow snapshot.peerSasId = some row) :
    peerGenerationAlreadyApplied floats store row snapshot = true := by
  have generation := holds.generation
  rw [found, Option.bind_some] at generation
  have printed := perm_same_fingerprint _ _ holds.records
  rw [← row_id store _ row found] at printed
  simp [peerGenerationAlreadyApplied, generation, named, printed]

-- And any other is replaced by itself.
theorem holds_applied_same (snapshot : FadGenerationSnapshot K) (store : PeerStore) (keyed : store.Keyed)
    (holds : Holds floats snapshot store) :
    SameStore (appliedStore floats snapshot store) store := by
  have view := view_applied floats snapshot store
  have ids := applied_ids floats snapshot store
  have rows : ∀ i, (appliedStore floats snapshot store).peerRow i = store.peerRow i := by
    intro i
    by_cases own : i = snapshot.peerSasId
    · rw [own]
      refine (congrArg Prod.fst view).trans ?_
      have generation := holds.generation
      cases found : store.peerRow snapshot.peerSasId with
      | none => rfl
      | some row =>
          rw [found, Option.bind_some] at generation
          rw [Option.map_some, withGeneration, ← generation, ite_self]
    · exact congrArg Prod.fst (view_applied_apart floats snapshot store i own)
  have records : ∀ i, ((appliedStore floats snapshot store).recordsOf i).Perm (store.recordsOf i) := by
    intro i
    by_cases own : i = snapshot.peerSasId
    · rw [own]
      exact (List.Perm.of_eq (congrArg Prod.snd view)).trans holds.records.symm
    · exact List.Perm.of_eq (congrArg Prod.snd (view_applied_apart floats snapshot store i own))
  exact same_store _ _ ids (ids ▸ keyed.peers) rows records

theorem round_reapplied (inputs : Nat → SyncInput K) (store : PeerStore) (keyed : store.Keyed) (peer : PeerSas)
    (snapshot : FadGenerationSnapshot K) (fetched : fetchPeerGeneration (inputs peer.id).client peer.id peer.url = .ok snapshot)
    (holds : Holds floats snapshot store) :
    SameStore (roundStore floats inputs store peer) store ∧
      (snapshot.generationDatetime ≠ "" → roundStore floats inputs store peer = store) := by
  have unchanged : SameStore store store := ⟨rfl, List.Perm.refl _⟩
  rcases (round_cases floats inputs store peer).2 with ⟨_, kept⟩ | ⟨_, reached, _⟩
  · rw [kept]
    exact ⟨unchanged, fun _ => rfl⟩
  · rw [reached, target, fetched]
    by_cases blank : PyText.strip peer.url.toList = []
    · rw [if_pos blank]
      exact ⟨unchanged, fun _ => rfl⟩
    · rw [if_neg blank]
      have own := (fetched_snapshot _ _ _ _ fetched).1
      cases found : store.peerRow peer.id with
      | none => exact ⟨unchanged, fun _ => rfl⟩
      | some row =>
          by_cases applied : peerGenerationAlreadyApplied floats store row snapshot = true
          · simp only [applied, if_true]
            exact ⟨unchanged, fun _ => trivial⟩
          · simp only [applied, Bool.false_eq_true, if_false]
            refine ⟨holds_applied_same floats snapshot store keyed holds, fun named => ?_⟩
            exact absurd (holds_already_applied floats snapshot store holds named row (by rw [own]; exact found)) applied

end Reapplied

section Syncing

variable (floats : FloatText K) (inputs : Nat → SyncInput K)

theorem round_holds (store : PeerStore) (keyed : store.Keyed) (peer : PeerSas) (url : PyText.strip peer.url.toList ≠ [])
    (succeeded : roundError floats inputs store peer = none) :
    ∃ snapshot, fetchPeerGeneration (inputs peer.id).client peer.id peer.url = .ok snapshot ∧
      Holds floats snapshot (roundStore floats inputs store peer) := by
  rcases (round_cases floats inputs store peer).2 with ⟨failed, _⟩ | ⟨_, reached, syncs⟩
  · exact absurd succeeded failed
  · rcases syncs with blank | ⟨snapshot, fetched, present⟩
    · exact absurd blank url
    · rw [reached]
      exact ⟨snapshot, fetched, target_holds floats (inputs peer.id) peer url store keyed snapshot fetched present⟩

theorem round_kept (store : PeerStore) (peer : PeerSas)
    (idle : PyText.strip peer.url.toList = [] ∨ roundError floats inputs store peer ≠ none) : roundStore floats inputs store peer = store := by
  rcases (round_cases floats inputs store peer).2 with ⟨_, kept⟩ | ⟨succeeded, reached, _⟩
  · exact kept
  · rcases idle with blank | failed
    · rw [reached, target, if_pos blank]
    · exact absurd succeeded failed

theorem round_outcome (store : PeerStore) (keyed : store.Keyed) (peer : PeerSas) :
    roundStore floats inputs store peer = store ∨
      ∃ snapshot, fetchPeerGeneration (inputs peer.id).client peer.id peer.url = .ok snapshot ∧
        Holds floats snapshot (roundStore floats inputs store peer) := by
  by_cases idle : PyText.strip peer.url.toList = [] ∨ roundError floats inputs store peer ≠ none
  · exact .inl (round_kept floats inputs store peer idle)
  · rw [not_or, not_not] at idle
    exact .inr (round_holds floats inputs store keyed peer idle.1 idle.2)

theorem prefix_outcome (before after : List PeerSas) (distinct : ((before ++ after).map (·.id)).Nodup) (store : PeerStore)
    (keyed : store.Keyed) (peer : PeerSas) (member : peer ∈ before ++ after) :
    peerView peer.id (before.foldl (roundStore floats inputs) store) = peerView peer.id store ∨
      ∃ snapshot, fetchPeerGeneration (inputs peer.id).client peer.id peer.url = .ok snapshot ∧
        Holds floats snapshot (before.foldl (roundStore floats inputs) store) := by
  rw [List.map_append] at distinct
  have parted := rounds_local floats inputs
  by_cases early : peer ∈ before
  · have view := run_own parted before distinct.of_append_left peer early store
    rcases round_outcome floats inputs store keyed peer with kept | ⟨snapshot, fetched, holds⟩
    · rw [kept] at view
      exact .inl view
    · refine .inr ⟨snapshot, fetched, holds_same_view floats snapshot _ _ ?_ holds⟩
      rw [(fetched_snapshot _ _ _ _ fetched).1]
      exact view
  · have late : peer ∈ after := (List.mem_append.mp member).resolve_left early
    refine .inl (run_apart parted before peer.id (fun again => ?_) store)
    exact (List.nodup_append.mp distinct).2.2 _ again _ (List.mem_map_of_mem late) rfl

theorem error_reported (order : List PeerSas) (distinct : (order.map (·.id)).Nodup) (store : PeerStore) (peer : PeerSas) (member : peer ∈ order)
    (error : SyncError) :
    (peer.id, error) ∈ (syncPeers floats inputs order (Session.start store)).2.errors ↔ roundError floats inputs store peer = some error := by
  rw [syncPeers, sync_peers_errors floats inputs order distinct store store (fun _ _ => rfl), List.nil_append, List.mem_filterMap]
  constructor
  · rintro ⟨other, isOther, reported⟩
    obtain ⟨found, isError, equal⟩ := Option.map_eq_some_iff.mp reported
    rw [Prod.mk.injEq] at equal
    rw [← List.inj_on_of_nodup_map distinct isOther member equal.1, isError, equal.2]
  · intro isError
    exact ⟨peer, member, by rw [isError]; rfl⟩

theorem peer_sync_atomic (store : PeerStore) (keyed : store.Keyed) (order : List PeerSas) (every : order.Perm store.peers) :
    -- on the way, each peer has what it had before or exactly its new generation
    (∀ seen ∈ syncStates floats inputs order (Session.start store), ∀ peer ∈ store.peers,
      peerView peer.id seen = peerView peer.id store ∨
        ∃ snapshot, fetchPeerGeneration (inputs peer.id).client peer.id peer.url = .ok snapshot ∧ Holds floats snapshot seen) ∧
    -- at the end, the first where its sync failed, the second where it did not
    (∀ peer ∈ store.peers,
      (PyText.strip peer.url.toList = [] ∨
          (∃ error, (peer.id, error) ∈ (syncPeers floats inputs order (Session.start store)).2.errors) →
        peerView peer.id (syncPeers floats inputs order (Session.start store)).1.committed = peerView peer.id store) ∧
      (PyText.strip peer.url.toList ≠ [] →
          (∀ error, (peer.id, error) ∉ (syncPeers floats inputs order (Session.start store)).2.errors) →
        ∃ snapshot, fetchPeerGeneration (inputs peer.id).client peer.id peer.url = .ok snapshot ∧
          Holds floats snapshot (syncPeers floats inputs order (Session.start store)).1.committed)) ∧
    -- the sync of a peer leaves the others alone
    (∀ before peer i, i ≠ peer.id → peerView i (roundStore floats inputs before peer) = peerView i before) ∧
    -- a generation applied again changes nothing
    (∀ peer snapshot, fetchPeerGeneration (inputs peer.id).client peer.id peer.url = .ok snapshot → Holds floats snapshot store →
      SameStore (roundStore floats inputs store peer) store ∧
        (snapshot.generationDatetime ≠ "" → roundStore floats inputs store peer = store)) ∧
    -- and the order of the peers makes no difference
    SameStore (syncPeers floats inputs order (Session.start store)).1.committed (runPeerFadSync floats inputs store).1.committed := by
  have distinct : (order.map (·.id)).Nodup := (every.map (·.id)).nodup_iff.mpr keyed.peers
  have parted := rounds_local floats inputs
  have committed : (syncPeers floats inputs order (Session.start store)).1.committed = order.foldl (roundStore floats inputs) store :=
    congrArg Session.committed (sync_peers_session floats inputs order store _)
  have sorted : (runPeerFadSync floats inputs store).1.committed = (store.peers.mergeSort byId).foldl (roundStore floats inputs) store :=
    congrArg Session.committed (sync_peers_session floats inputs _ store _)
  refine ⟨?_, ?_, fun before peer i other => round_apart floats inputs before peer i other, ?_, ?_⟩
  · intro seen member peer isPeer
    obtain ⟨before, after, isSplit, reached⟩ := sync_states_prefix floats inputs order store seen member
    rw [isSplit] at distinct
    rw [reached]
    exact prefix_outcome floats inputs before after distinct store keyed peer (isSplit ▸ every.mem_iff.mpr isPeer)
  · intro peer isPeer
    have member := every.mem_iff.mpr isPeer
    have view := run_own parted order distinct peer member store
    have reported := error_reported floats inputs order distinct store peer member
    rw [committed]
    constructor
    · intro idle
      have kept : roundStore floats inputs store peer = store := by
        refine round_kept floats inputs store peer (idle.imp_right ?_)
        rintro ⟨error, isReported⟩
        rw [(reported error).mp isReported]
        exact Option.some_ne_none error
      rw [kept] at view
      exact view
    · intro url silent
      have succeeded : roundError floats inputs store peer = none := by
        cases outcome : roundError floats inputs store peer with
        | none => rfl
        | some error => exact absurd ((reported error).mpr outcome) (silent error)
      obtain ⟨snapshot, fetched, holds⟩ := round_holds floats inputs store keyed peer url succeeded
      refine ⟨snapshot, fetched, holds_same_view floats snapshot _ _ ?_ holds⟩
      rw [(fetched_snapshot _ _ _ _ fetched).1]
      exact view
  · intro peer snapshot fetched holds
    exact round_reapplied floats inputs store keyed peer snapshot fetched holds
  · rw [committed, sorted]
    have views : ∀ i, peerView i (order.foldl (roundStore floats inputs) store) =
        peerView i ((store.peers.mergeSort byId).foldl (roundStore floats inputs) store) :=
      fun i => run_perm parted _ _ (every.trans (List.mergeSort_perm _ _).symm) distinct i store
    have ids := (rounds_ids floats inputs order store).trans (rounds_ids floats inputs (store.peers.mergeSort byId) store).symm
    exact same_store _ _ ids (rounds_keyed floats inputs order store keyed).peers (fun i => congrArg Prod.fst (views i))
      fun i => List.Perm.of_eq (congrArg Prod.snd (views i))

end Syncing

section Sample

def noFloats : FloatText Rat := ⟨fun _ => ['0'], fun _ => some 0⟩

def sampleFile : Json Rat :=
  .object [("startTime", .text "g"), ("endTime", .text "g"), ("recordData", .array [.object [("id", .text "cbsd/f/s")]])]

def sampleManifest : Json Rat :=
  .object
    [("files", .array [.object
      [("url", .text "https://one/0.json"), ("checksum", .text "44a01a2ca9549e08fa9f07b1cfc1410659671611"),
        ("size", .int (dumps noFloats sampleFile).toUTF8.size), ("version", .text "v1.3"), ("recordType", .text "cbsd")]]),
      ("generationDateTime", .text "g"), ("description", .text "")]

-- One peer serves these two documents, the other nothing.
def sampleClient : FadClient Rat where
  sasSasVersion := "v1.3"
  sasFadMaxFileBytes := 0
  readers :=
    { loads := fun text =>
        if text = dumps noFloats sampleManifest then some sampleManifest
        else if text = dumps noFloats sampleFile then some sampleFile
        else none
      floatOfText := fun _ => none
      intOfText := fun _ => none
      truncate := fun value => value.floor
      str := fun _ => "" }
  sha1Hex bytes :=
    if String.fromUTF8? bytes = some (dumps noFloats sampleFile) then "44a01a2ca9549e08fa9f07b1cfc1410659671611"
    else "da39a3ee5e6b4b0d3255bfef95601890afd80709"
  repr := id
  parseHttpsUrl _ := .ok ()
  assertUrlAllowedForPeer _ _ := .ok ()
  httpGetBytes url :=
    if url = "https://one/dump" then .ok (dumps noFloats sampleManifest).toUTF8
    else if url = "https://one/0.json" then .ok (dumps noFloats sampleFile).toUTF8
    else .error "peer HTTP 404"

def sampleStore : PeerStore :=
  ⟨[⟨2, "https://two", some "f"⟩, ⟨1, "https://one", none⟩], [⟨2, "cbsd", "cbsd/f/t", ""⟩]⟩

def sampleInputs : Nat → SyncInput Rat := fun _ => ⟨sampleClient, fun _ => false⟩

theorem peer_sync_atomic_sample :
    SameStore (syncPeers noFloats sampleInputs sampleStore.peers (Session.start sampleStore)).1.committed
        (runPeerFadSync noFloats sampleInputs sampleStore).1.committed ∧
      (syncPeers noFloats sampleInputs sampleStore.peers (Session.start sampleStore)).1.committed.records.map (·.key) =
        [(2, "cbsd", "cbsd/f/t"), (1, "cbsd", "cbsd/f/s")] := by
  have keyed : sampleStore.Keyed := ⟨by decide, by decide⟩
  obtain ⟨_, _, _, _, anyOrder⟩ := peer_sync_atomic noFloats sampleInputs sampleStore keyed sampleStore.peers (List.Perm.refl _)
  exact ⟨anyOrder, by decide +kernel⟩

end Sample

end SasCore.Fad
