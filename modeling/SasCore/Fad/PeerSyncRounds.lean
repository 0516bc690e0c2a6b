import SasCore.Fad.PeerSync
import SasCore.Lib.Parts
import Mathlib.Data.Prod.Basic

set_option autoImplicit false
set_option linter.unusedSectionVars false

namespace SasCore.Fad

open JsonText Txn Txn.Prog Parts

variable {K : Type} [Field K] [DecidableEq K]

-- The two tables of the schema with their unique keys.
def PeerFadRecord.key (record : PeerFadRecord) : Nat × String × String := (record.peerSasId, record.recordType, record.recordId)

structure PeerStore.Keyed (store : PeerStore) : Prop where
  peers : (store.peers.map (·.id)).Nodup
  records : (store.records.map (·.key)).Nodup

-- The same rows in both tables, in whatever order the records come.
def SameStore (first second : PeerStore) : Prop := first.peers = second.peers ∧ first.records.Perm second.records

-- A store holds exactly the records of a generation for its peer, and names that generation.
structure Holds (floats : FloatText K) (snapshot : FadGenerationSnapshot K) (store : PeerStore) : Prop where
  generation : (store.peerRow snapshot.peerSasId).bind (·.lastFadGeneration) = some snapshot.generationDatetime
  records : (store.recordsOf snapshot.peerSasId).Perm (snapshotRows floats snapshot)

section Views

theorem view_clear (i id : Nat) (store : PeerStore) :
    peerView i (store.clearPeer id) = ((peerView i store).1, if i = id then [] else (peerView i store).2) := by
  simp only [peerView, PeerStore.clearPeer, PeerStore.peerRow, PeerStore.recordsOf, List.filter_filter, Prod.mk.injEq, true_and]
  split
  · rename_i same
    simp [same]
  · rename_i other
    refine List.filter_congr fun record _ => ?_
    by_cases owned : record.peerSasId = i
    · simp [owned, other]
    · simp [owned]

theorem view_add (i : Nat) (record : PeerFadRecord) (store : PeerStore) :
    peerView i (store.addRecord record) =
      ((peerView i store).1, (peerView i store).2 ++ if record.peerSasId = i then [record] else []) := by
  by_cases owned : record.peerSasId = i
  · simp [peerView, PeerStore.addRecord, PeerStore.peerRow, PeerStore.recordsOf, owned]
  · simp [peerView, PeerStore.addRecord, PeerStore.peerRow, PeerStore.recordsOf, owned]

def withGeneration (id : Nat) (generation : String) (peer : PeerSas) : PeerSas :=
  if peer.id = id then { peer with lastFadGeneration := some generation } else peer

theorem with_generation_id (id : Nat) (generation : String) (peer : PeerSas) : (withGeneration id generation peer).id = peer.id := by
  rw [withGeneration]
  split <;> rfl

theorem view_set (i id : Nat) (generation : String) (store : PeerStore) :
    peerView i (store.setGeneration id generation) = ((peerView i store).1.map (withGeneration id generation), (peerView i store).2) := by
  have rows : (store.peers.map (withGeneration id generation)).find? (fun peer => peer.id = i) =
      (store.peers.find? fun peer => peer.id = i).map (withGeneration id generation) := by
    rw [List.find?_map]
    simp only [Function.comp_def, with_generation_id]
  exact Prod.ext rows rfl

theorem row_id (store : PeerStore) (id : Nat) (row : PeerSas) (found : store.peerRow id = some row) : row.id = id := by
  have isHere := List.find?_some (show store.peers.find? (fun peer => peer.id = id) = some row from found)
  exact of_decide_eq_true isHere

end Views

section Fetched

variable (floats : FloatText K)

theorem first_duplicate_none (seen : List (String × String)) (records : List (FadRecord K)) (fresh : firstDuplicate seen records = none) :
    (records.map fun record => (record.1, record.2.1)).Nodup ∧ ∀ record ∈ records, (record.1, record.2.1) ∉ seen := by
  induction records generalizing seen with
  | nil => exact ⟨List.nodup_nil, fun record member => by cases member⟩
  | cons record rest ih =>
      rw [firstDuplicate] at fresh
      split at fresh
      · cases fresh
      · rename_i new
        obtain ⟨distinct, apart⟩ := ih _ fresh
        constructor
        · rw [List.map_cons, List.nodup_cons]
          refine ⟨fun again => ?_, distinct⟩
          obtain ⟨other, member, same⟩ := List.mem_map.mp again
          exact apart other member (by rw [same]; exact List.mem_cons_self)
        · intro other member
          rcases List.mem_cons.mp member with isRecord | later
          · rw [isRecord]
            exact new
          · exact fun early => apart other later (List.mem_cons_of_mem _ early)

-- A validated generation is the peer's own and names no record twice.
theorem fetched_snapshot (client : FadClient K) (peerId : Nat) (peerUrl : String) (snapshot : FadGenerationSnapshot K)
    (fetched : fetchPeerGeneration client peerId peerUrl = .ok snapshot) :
    snapshot.peerSasId = peerId ∧ (snapshot.records.map fun record => (record.1, record.2.1)).Nodup := by
  simp only [fetchPeerGeneration] at fetched
  repeat' split at fetched
  all_goals cases fetched
  rename_i unique
  exact ⟨rfl, (first_duplicate_none [] _ unique).1⟩

theorem snapshot_rows_owned (snapshot : FadGenerationSnapshot K) :
    ∀ row ∈ snapshotRows floats snapshot, row.peerSasId = snapshot.peerSasId := by
  intro row member
  obtain ⟨record, _, isRow⟩ := List.mem_map.mp member
  rw [← isRow]

theorem snapshot_rows_keys (snapshot : FadGenerationSnapshot K)
    (unique : (snapshot.records.map fun record => (record.1, record.2.1)).Nodup) :
    ((snapshotRows floats snapshot).map (·.key)).Nodup := by
  have keys : (snapshotRows floats snapshot).map (·.key) =
      (snapshot.records.map fun record => (record.1, record.2.1)).map (Prod.mk snapshot.peerSasId) := by
    rw [snapshotRows, List.map_map, List.map_map]
    rfl
  rw [keys]
  exact unique.map (Prod.mk_right_injective snapshot.peerSasId)

-- Rows of one peer without repeated keys, compared as sets.
theorem same_fingerprint_perm (id : Nat) (first second : List PeerFadRecord) (firstOwned : ∀ row ∈ first, row.peerSasId = id)
    (secondOwned : ∀ row ∈ second, row.peerSasId = id) (firstKeys : (first.map (·.key)).Nodup) (secondKeys : (second.map (·.key)).Nodup)
    (same : sameFingerprint (fingerprint first) (fingerprint second) = true) : first.Perm second := by
  have fromPrint : ∀ (rows : List PeerFadRecord) (row : PeerFadRecord), row.peerSasId = id → (∀ row ∈ rows, row.peerSasId = id) →
      (row.recordType, row.recordId, row.dataJson) ∈ fingerprint rows → row ∈ rows := by
    intro rows row owned allOwned printed
    obtain ⟨other, member, equal⟩ := List.mem_map.mp printed
    simp only [Prod.mk.injEq] at equal
    have isRow : other = row := by
      cases other
      cases row
      simp_all only [PeerFadRecord.mk.injEq, and_self]
      exact ⟨allOwned _ member, trivial⟩
    rw [← isRow]
    exact member
  rw [sameFingerprint, Bool.and_eq_true, List.all_eq_true, List.all_eq_true] at same
  refine (List.perm_ext_iff_of_nodup firstKeys.of_map secondKeys.of_map).mpr fun row => ⟨fun member => ?_, fun member => ?_⟩
  · exact fromPrint second row (firstOwned row member) secondOwned
      (List.contains_iff_mem.mp (same.1 _ (List.mem_map_of_mem member)))
  · exact fromPrint first row (secondOwned row member) firstOwned
      (List.contains_iff_mem.mp (same.2 _ (List.mem_map_of_mem member)))

end Fetched

section Targets

variable (floats : FloatText K)

-- The store that a replacement commits.
def appliedStore (snapshot : FadGenerationSnapshot K) (store : PeerStore) : PeerStore :=
  PeerStore.setGeneration snapshot.peerSasId snapshot.generationDatetime
    { store with records := (store.clearPeer snapshot.peerSasId).records ++ snapshotRows floats snapshot }

theorem add_records (rows : List PeerFadRecord) (store : PeerStore) :
    rows.foldl (fun store row => PeerStore.addRecord row store) store = { store with records := store.records ++ rows } := by
  induction rows generalizing store with
  | nil => rw [List.append_nil, List.foldl_nil]
  | cons row rest ih =>
      rw [List.foldl_cons, ih, PeerStore.addRecord, List.append_assoc]
      rfl

theorem filter_none (rows : List PeerFadRecord) (id i : Nat) (owned : ∀ row ∈ rows, row.peerSasId = id) (other : i ≠ id) :
    rows.filter (fun row => row.peerSasId = i) = [] := by
  rw [List.filter_eq_nil_iff]
  intro row member isHere
  exact other ((of_decide_eq_true isHere).symm.trans (owned row member))

theorem view_applied (snapshot : FadGenerationSnapshot K) (store : PeerStore) :
    peerView snapshot.peerSasId (appliedStore floats snapshot store) =
      ((store.peerRow snapshot.peerSasId).map (withGeneration snapshot.peerSasId snapshot.generationDatetime),
        snapshotRows floats snapshot) := by
  have cleared := congrArg Prod.snd (view_clear snapshot.peerSasId snapshot.peerSasId store)
  rw [if_pos rfl] at cleared
  have kept : (snapshotRows floats snapshot).filter (fun row => row.peerSasId = snapshot.peerSasId) = snapshotRows floats snapshot := by
    rw [List.filter_eq_self]
    exact fun row member => decide_eq_true (snapshot_rows_owned floats snapshot row member)
  rw [appliedStore, view_set]
  refine Prod.ext rfl ?_
  simp only [peerView, PeerStore.recordsOf, List.filter_append, kept]
  exact (congrArg (fun before => before ++ snapshotRows floats snapshot) cleared).trans (List.nil_append _)

theorem view_applied_apart (snapshot : FadGenerationSnapshot K) (store : PeerStore) (i : Nat) (other : i ≠ snapshot.peerSasId) :
    peerView i (appliedStore floats snapshot store) = peerView i store := by
  have cleared := congrArg Prod.snd (view_clear i snapshot.peerSasId store)
  rw [if_neg other] at cleared
  have rows : (store.peerRow i).map (withGeneration snapshot.peerSasId snapshot.generationDatetime) = store.peerRow i := by
    cases found : store.peerRow i with
    | none => rfl
    | some row =>
        have isOther : row.id ≠ snapshot.peerSasId := by rw [row_id store i row found]; exact other
        rw [Option.map_some, withGeneration, if_neg isOther]
  rw [appliedStore, view_set]
  refine Prod.ext rows ?_
  simp only [peerView, PeerStore.recordsOf, List.filter_append, filter_none _ _ i (snapshot_rows_owned floats snapshot) other,
    List.append_nil]
  exact cleared

theorem applied_ids (snapshot : FadGenerationSnapshot K) (store : PeerStore) :
    (appliedStore floats snapshot store).peers.map (·.id) = store.peers.map (·.id) := by
  rw [appliedStore, PeerStore.setGeneration, List.map_map]
  exact List.map_congr_left fun peer _ => with_generation_id _ _ peer

theorem applied_keyed (snapshot : FadGenerationSnapshot K) (unique : (snapshot.records.map fun record => (record.1, record.2.1)).Nodup)
    (store : PeerStore) (keyed : store.Keyed) : (appliedStore floats snapshot store).Keyed := by
  constructor
  · rw [applied_ids]
    exact keyed.peers
  · have isSplit : (appliedStore floats snapshot store).records.map (·.key) =
        ((store.clearPeer snapshot.peerSasId).records.map (·.key)) ++ (snapshotRows floats snapshot).map (·.key) :=
      List.map_append
    rw [isSplit, List.nodup_append]
    refine ⟨keyed.records.sublist (List.filter_sublist.map _), snapshot_rows_keys floats snapshot unique, ?_⟩
    intro first isFirst second isSecond equal
    obtain ⟨kept, keptMember, keptKey⟩ := List.mem_map.mp isFirst
    obtain ⟨row, rowMember, rowKey⟩ := List.mem_map.mp isSecond
    have apart := of_decide_eq_true (List.mem_filter.mp keptMember).2
    refine apart (Eq.trans ?_ (snapshot_rows_owned floats snapshot row rowMember))
    exact congrArg Prod.fst ((keptKey.trans equal).trans rowKey.symm)

end Targets

section Round

variable (floats : FloatText K) (input : SyncInput K)

-- What a round commits where it succeeds.
def target (peer : PeerSas) (store : PeerStore) : PeerStore :=
  if PyText.strip peer.url.toList = [] then store
  else
    match fetchPeerGeneration input.client peer.id peer.url, store.peerRow peer.id with
    | .ok snapshot, some row => if peerGenerationAlreadyApplied floats store row snapshot then store else appliedStore floats snapshot store
    | _, _ => store

-- And where it does, there was nothing to fetch or a valid generation and a row for the peer.
def Syncs (peer : PeerSas) (store : PeerStore) : Prop :=
  PyText.strip peer.url.toList = [] ∨
    ∃ snapshot, fetchPeerGeneration input.client peer.id peer.url = .ok snapshot ∧ store.peerRow peer.id ≠ none

theorem or_fault_settles (session : Session PeerStore) (final : PeerStore) (fact : Prop) (place : SyncPlace)
    (next : Prog PeerStore SyncError) (settles : Settles next session final fact) :
    Settles (orFault input place next) session final fact :=
  fail_if_settles session final fact (input.faults place) (SyncError.failed place) next settles

theorem committing_settles (session : Session PeerStore) (final : PeerStore) (fact : Prop) (holds : fact) (reaches : session.view = final) :
    Settles (committing input) session final fact :=
  or_fault_settles input session final fact .commit _ (commit_settles session final fact holds reaches)

theorem apply_settles (snapshot : FadGenerationSnapshot K) (store : PeerStore) (fact : Prop) (holds : fact) :
    Settles (applyPeerGeneration floats input snapshot (committing input)) (Session.start store) (appliedStore floats snapshot store) fact := by
  refine or_fault_settles input ((Session.start store).write (PeerStore.clearPeer snapshot.peerSasId)) _ _ .delete _ ?_
  refine write_each_settles _ _ _ _ _ _ _ _ _ fun written _ seen => ?_
  rw [add_records] at seen
  refine or_fault_settles input written _ _ .peerRow _ ?_
  let marked := written.write (PeerStore.setGeneration snapshot.peerSasId snapshot.generationDatetime)
  refine or_fault_settles input marked _ _ .flush _ (committing_settles input marked _ _ holds ?_)
  exact congrArg (PeerStore.setGeneration snapshot.peerSasId snapshot.generationDatetime) seen

theorem publish_settles (peer : PeerSas) (blank : PyText.strip peer.url.toList ≠ []) (snapshot : FadGenerationSnapshot K)
    (fetched : fetchPeerGeneration input.client peer.id peer.url = .ok snapshot) (store : PeerStore) :
    Settles (publishGeneration floats input peer.id snapshot store) (Session.start store) (target floats input peer store)
      (Syncs input peer store) := by
  rw [publishGeneration, target, if_neg blank, fetched]
  cases found : store.peerRow peer.id with
  | none => exact raise_settles _ _ _ _
  | some row =>
      have syncs : Syncs input peer store := .inr ⟨snapshot, fetched, by rw [found]; exact Option.some_ne_none row⟩
      refine or_fault_settles input _ _ _ .fingerprint _ ?_
      by_cases applied : peerGenerationAlreadyApplied floats store row snapshot = true
      · simp only [applied, if_true]
        exact committing_settles input _ _ _ syncs rfl
      · simp only [applied, Bool.false_eq_true, if_false]
        exact apply_settles floats input snapshot store _ syncs

-- A round of the loop takes effect as a whole or not at all.
theorem sync_round_atomic (peer : PeerSas) (store : PeerStore) :
    Atomic (syncRound floats input peer) (Session.start store) (target floats input peer store) (Syncs input peer store) := by
  rw [syncRound, orFault, failIf]
  split
  · left
    exact ⟨.failed .prior, rfl, fun seen member => List.mem_singleton.mp member⟩
  · rw [syncOnePeer]
    split
    · rename_i blank
      right
      refine ⟨by rw [target, if_pos blank]; rfl, .inl blank, fun seen member => ?_⟩
      exact .inl (List.mem_singleton.mp member)
    · rename_i url
      apply guarded_atomic
      rw [syncBody]
      cases fetched : fetchPeerGeneration input.client peer.id peer.url with
      | error message => exact raise_settles _ _ _ _
      | ok snapshot =>
          refine or_fault_settles input (Session.start store) _ _ .lock _ (or_fault_settles input _ _ _ .row _ ?_)
          exact read_settles _ _ _ _ (publish_settles floats input peer url snapshot fetched store)

theorem target_apart (peer : PeerSas) (store : PeerStore) (i : Nat) (other : i ≠ peer.id) :
    peerView i (target floats input peer store) = peerView i store := by
  rw [target]
  repeat' split
  all_goals try rfl
  rename_i snapshot row fetched found applied
  refine view_applied_apart floats snapshot store i ?_
  rw [(fetched_snapshot _ _ _ _ fetched).1]
  exact other

theorem target_keyed (peer : PeerSas) (store : PeerStore) (keyed : store.Keyed) : (target floats input peer store).Keyed := by
  rw [target]
  repeat' split
  all_goals try exact keyed
  rename_i snapshot row fetched found applied
  exact applied_keyed floats snapshot (fetched_snapshot _ _ _ _ fetched).2 store keyed

theorem target_ids (peer : PeerSas) (store : PeerStore) :
    (target floats input peer store).peers.map (·.id) = store.peers.map (·.id) := by
  rw [target]
  repeat' split
  all_goals try rfl
  exact applied_ids floats _ store

-- Where a valid generation was fetched for the peer, the round ends with exactly its records.
theorem target_holds (peer : PeerSas) (url : PyText.strip peer.url.toList ≠ []) (store : PeerStore) (keyed : store.Keyed)
    (snapshot : FadGenerationSnapshot K) (fetched : fetchPeerGeneration input.client peer.id peer.url = .ok snapshot)
    (present : store.peerRow peer.id ≠ none) : Holds floats snapshot (target floats input peer store) := by
  obtain ⟨own, unique⟩ := fetched_snapshot _ _ _ _ fetched
  obtain ⟨row, found⟩ := Option.ne_none_iff_exists'.mp present
  rw [target, if_neg url, fetched, found]
  by_cases applied : peerGenerationAlreadyApplied floats store row snapshot = true
  · simp only [applied, if_true]
    simp only [peerGenerationAlreadyApplied, Bool.and_eq_true, beq_iff_eq] at applied
    have isOwn := row_id store peer.id row found
    constructor
    · rw [own, found]
      exact applied.1.2
    · rw [own]
      rw [isOwn] at applied
      refine same_fingerprint_perm peer.id _ _ (fun record member => of_decide_eq_true (List.mem_filter.mp member).2) ?_ ?_ ?_ applied.2
      · rw [← own]
        exact snapshot_rows_owned floats snapshot
      · exact keyed.records.sublist (List.filter_sublist.map _)
      · exact snapshot_rows_keys floats snapshot unique
  · simp only [applied, Bool.false_eq_true, if_false]
    have view := view_applied floats snapshot store
    constructor
    · have rows := congrArg Prod.fst view
      have isRow : (appliedStore floats snapshot store).peerRow snapshot.peerSasId =
          some (withGeneration snapshot.peerSasId snapshot.generationDatetime row) := by
        refine rows.trans ?_
        rw [own, found]
        rfl
      rw [isRow, Option.bind_some, withGeneration, if_pos ((row_id store peer.id row found).trans own.symm)]
    · have records := congrArg Prod.snd view
      exact List.Perm.of_eq records

end Round

section Locality

variable (floats : FloatText K) (input : SyncInput K)

theorem or_fault_alike (i : Nat) (place : SyncPlace) (first second : Prog PeerStore SyncError) (alike : Alike (peerView i) first second) :
    Alike (peerView i) (orFault input place first) (orFault input place second) :=
  fail_if_alike (peerView i) (input.faults place) (SyncError.failed place) first second alike

theorem committing_alike (i : Nat) : Alike (peerView i) (committing input) (committing input) :=
  or_fault_alike input i .commit _ _ (commit_alike _ _ _ (done_alike _))

theorem apply_alike (i : Nat) (snapshot : FadGenerationSnapshot K) :
    Alike (peerView i) (applyPeerGeneration floats input snapshot (committing input))
      (applyPeerGeneration floats input snapshot (committing input)) := by
  refine write_alike _ _ (fun d e same => by rw [view_clear, view_clear, same]) _ _ (or_fault_alike input i .delete _ _ ?_)
  refine write_each_alike _ _ (fun row d e same => by rw [view_add, view_add, same]) _ _ _ _ _ _ (or_fault_alike input i .peerRow _ _ ?_)
  refine write_alike _ _ (fun d e same => by rw [view_set, view_set, same]) _ _ (or_fault_alike input i .flush _ _ ?_)
  exact committing_alike input i

theorem publish_alike (id : Nat) (snapshot : FadGenerationSnapshot K) (first second : PeerStore)
    (same : peerView id first = peerView id second) :
    Alike (peerView id) (publishGeneration floats input id snapshot first) (publishGeneration floats input id snapshot second) := by
  have rows : first.peerRow id = second.peerRow id := congrArg Prod.fst same
  have records : first.recordsOf id = second.recordsOf id := congrArg Prod.snd same
  rw [publishGeneration, publishGeneration, rows]
  cases found : second.peerRow id with
  | none => exact raise_alike _ _
  | some row =>
      have applied : peerGenerationAlreadyApplied floats first row snapshot = peerGenerationAlreadyApplied floats second row snapshot := by
        rw [peerGenerationAlreadyApplied, peerGenerationAlreadyApplied, row_id second id row found, records]
      simp only [applied]
      refine or_fault_alike input id .fingerprint _ _ ?_
      split
      · exact committing_alike input id
      · exact apply_alike floats input id snapshot

-- The course of a round depends on nothing but what its peer has.
theorem sync_round_alike (peer : PeerSas) : Alike (peerView peer.id) (syncRound floats input peer) (syncRound floats input peer) := by
  refine or_fault_alike input peer.id .prior _ _ ?_
  rw [syncOnePeer]
  split
  · exact done_alike _
  · refine guarded_alike _ _ _ ?_
    rw [syncBody]
    split
    · exact raise_alike _ _
    · rename_i snapshot _
      refine lock_alike _ _ _ (or_fault_alike input peer.id .lock _ _ (or_fault_alike input peer.id .row _ _ ?_))
      exact read_alike _ _ _ fun d e same => publish_alike floats input peer.id snapshot d e same

end Locality

section Rounds

variable (floats : FloatText K) (inputs : Nat → SyncInput K)

def roundError (store : PeerStore) (peer : PeerSas) : Option SyncError :=
  (exec (syncRound floats (inputs peer.id) peer) (Session.start store)).2

def roundStore (store : PeerStore) (peer : PeerSas) : PeerStore :=
  (exec (syncRound floats (inputs peer.id) peer) (Session.start store)).1.committed

-- A round leaves nothing pending; its errors leave the store alone.
theorem round_cases (store : PeerStore) (peer : PeerSas) :
    (exec (syncRound floats (inputs peer.id) peer) (Session.start store)).1 = Session.start (roundStore floats inputs store peer) ∧
      ((roundError floats inputs store peer ≠ none ∧ roundStore floats inputs store peer = store) ∨
        (roundError floats inputs store peer = none ∧ roundStore floats inputs store peer = target floats (inputs peer.id) peer store ∧
          Syncs (inputs peer.id) peer store)) := by
  rw [roundStore, roundError]
  rcases sync_round_atomic floats (inputs peer.id) peer store with ⟨error, failed, _⟩ | ⟨ended, syncs, _⟩
  · rw [failed]
    exact ⟨rfl, .inl ⟨Option.some_ne_none error, rfl⟩⟩
  · rw [ended]
    exact ⟨rfl, .inr ⟨rfl, rfl, syncs⟩⟩

theorem round_published (store : PeerStore) (peer : PeerSas) (seen : PeerStore)
    (member : seen ∈ published (syncRound floats (inputs peer.id) peer) (Session.start store)) :
    seen = store ∨ seen = roundStore floats inputs store peer := by
  rw [roundStore]
  rcases sync_round_atomic floats (inputs peer.id) peer store with ⟨error, failed, all⟩ | ⟨ended, _, all⟩
  · exact .inl (all seen member)
  · rw [ended]
    exact all seen member

theorem round_apart (store : PeerStore) (peer : PeerSas) (i : Nat) (other : i ≠ peer.id) :
    peerView i (roundStore floats inputs store peer) = peerView i store := by
  rcases (round_cases floats inputs store peer).2 with ⟨_, kept⟩ | ⟨_, reached, _⟩
  · rw [kept]
  · rw [reached]
    exact target_apart floats (inputs peer.id) peer store i other

theorem round_keyed (store : PeerStore) (peer : PeerSas) (keyed : store.Keyed) : (roundStore floats inputs store peer).Keyed := by
  rcases (round_cases floats inputs store peer).2 with ⟨_, kept⟩ | ⟨_, reached, _⟩
  · rw [kept]
    exact keyed
  · rw [reached]
    exact target_keyed floats (inputs peer.id) peer store keyed

theorem round_ids (store : PeerStore) (peer : PeerSas) :
    (roundStore floats inputs store peer).peers.map (·.id) = store.peers.map (·.id) := by
  rcases (round_cases floats inputs store peer).2 with ⟨_, kept⟩ | ⟨_, reached, _⟩
  · rw [kept]
  · rw [reached]
    exact target_ids floats (inputs peer.id) peer store

theorem round_same (first second : PeerStore) (peer : PeerSas) (same : peerView peer.id first = peerView peer.id second) :
    roundError floats inputs first peer = roundError floats inputs second peer ∧
      peerView peer.id (roundStore floats inputs first peer) = peerView peer.id (roundStore floats inputs second peer) := by
  obtain ⟨outcome, committed, _⟩ :=
    sync_round_alike floats (inputs peer.id) peer (Session.start first) (Session.start second) ⟨same, same⟩
  exact ⟨outcome, committed⟩

-- So the peers are parts of the store, each with its own round.
theorem rounds_local : Local peerView (fun peer : PeerSas => peer.id) (roundStore floats inputs) :=
  ⟨fun peer first second same => (round_same floats inputs first second peer same).2,
    fun peer i store other => round_apart floats inputs store peer i other⟩

theorem rounds_keyed (order : List PeerSas) (store : PeerStore) (keyed : store.Keyed) :
    (order.foldl (roundStore floats inputs) store).Keyed := by
  induction order generalizing store with
  | nil => exact keyed
  | cons peer rest ih => exact ih _ (round_keyed floats inputs store peer keyed)

theorem rounds_ids (order : List PeerSas) (store : PeerStore) :
    (order.foldl (roundStore floats inputs) store).peers.map (·.id) = store.peers.map (·.id) := by
  induction order generalizing store with
  | nil => rfl
  | cons peer rest ih => exact (ih _).trans (round_ids floats inputs store peer)

theorem sync_peers_session (order : List PeerSas) (store : PeerStore) (report : PeerSyncReport) :
    (order.foldl (syncNext floats inputs) (Session.start store, report)).1 = Session.start (order.foldl (roundStore floats inputs) store) := by
  induction order generalizing store report with
  | nil => rfl
  | cons peer rest ih =>
      rw [List.foldl_cons, List.foldl_cons, syncNext, (round_cases floats inputs store peer).1]
      exact ih _ _

-- The errors reported are those of the rounds, each as it would end on its own.
theorem sync_peers_errors (order : List PeerSas) (distinct : (order.map (·.id)).Nodup) (base store : PeerStore)
    (fresh : ∀ peer ∈ order, peerView peer.id store = peerView peer.id base) (report : PeerSyncReport) :
    (order.foldl (syncNext floats inputs) (Session.start store, report)).2.errors =
      report.errors ++ order.filterMap fun peer => (roundError floats inputs base peer).map (Prod.mk peer.id) := by
  induction order generalizing store report with
  | nil => rw [List.filterMap_nil, List.append_nil, List.foldl_nil]
  | cons peer rest ih =>
      rw [List.map_cons, List.nodup_cons] at distinct
      have later : ∀ other ∈ rest, peerView other.id (roundStore floats inputs store peer) = peerView other.id base := by
        intro other member
        have apart : other.id ≠ peer.id := by
          intro same
          exact distinct.1 (same ▸ List.mem_map_of_mem member)
        rw [round_apart floats inputs store peer other.id apart]
        exact fresh other (List.mem_cons_of_mem _ member)
      have outcome := (round_same floats inputs store base peer (fresh peer List.mem_cons_self)).1
      rw [List.foldl_cons, syncNext, (round_cases floats inputs store peer).1, ih distinct.2 _ later, List.filterMap_cons, ← outcome,
        roundError]
      cases (exec (syncRound floats (inputs peer.id) peer) (Session.start store)).2 with
      | none => rfl
      | some error => exact List.append_assoc _ _ _

-- Every committed state on the way is where the rounds of some first peers lead.
theorem sync_states_prefix (order : List PeerSas) (store : PeerStore) (seen : PeerStore)
    (member : seen ∈ syncStates floats inputs order (Session.start store)) :
    ∃ before after, order = before ++ after ∧ seen = before.foldl (roundStore floats inputs) store := by
  induction order generalizing store with
  | nil => exact ⟨[], [], rfl, List.mem_singleton.mp member⟩
  | cons peer rest ih =>
      rw [syncStates, (round_cases floats inputs store peer).1, List.mem_append] at member
      rcases member with here | later
      · rcases round_published floats inputs store peer seen here with before | after
        · exact ⟨[], peer :: rest, rfl, before⟩
        · exact ⟨[peer], rest, rfl, after⟩
      · obtain ⟨before, after, isSplit, reached⟩ := ih _ later
        exact ⟨peer :: before, after, by rw [isSplit, List.cons_append], reached⟩

end Rounds

end SasCore.Fad
