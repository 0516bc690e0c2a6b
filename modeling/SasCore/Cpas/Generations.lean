import SasCore.Cpas.Operations

set_option autoImplicit false

namespace SasCore.Cpas

open Registry

variable {K : Type}

def counter (generations : List (String × Nat)) (kind : InjectionKind) : Nat :=
  (PyDict.lookup generations kind.key).getD 0

def CountersGrown (before now : List (String × Nat)) : Prop := ∀ kind, counter before kind ≤ counter now kind

theorem key_injective (first second : InjectionKind) (same : first.key = second.key) : first = second := by
  cases first <;> cases second <;> first | rfl | exact absurd same (by decide)

theorem key_ne_schema (kind : InjectionKind) : "schemaVersion" ≠ kind.key := by
  cases kind <;> decide

theorem counter_bumped (kind other : InjectionKind) (generations : List (String × Nat)) :
    counter (bumpedGenerations kind.key generations) other =
      counter generations other + if kind = other then 1 else 0 := by
  rw [counter, bumpedGenerations, PyDict.lookup_set, if_neg (key_ne_schema other), PyDict.lookup_set]
  by_cases same : kind = other
  · rw [same, if_pos rfl, if_pos rfl]
    rfl
  · rw [if_neg (fun equal => same (key_injective kind other equal)), if_neg same]
    rfl

theorem counters_grown_refl (generations : List (String × Nat)) : CountersGrown generations generations :=
  fun _ => Nat.le_refl _

theorem counters_grown_bumped (before now : List (String × Nat)) (kind : InjectionKind) (grown : CountersGrown before now) :
    CountersGrown before (bumpedGenerations kind.key now) := by
  intro other
  rw [counter_bumped]
  exact Nat.le_add_right_of_le (grown other)

-- After a bump no fingerprint taken before is the current one.
theorem bumped_not_same (before now : List (String × Nat)) (kind : InjectionKind) (grown : CountersGrown before now) :
    PyDict.same before (bumpedGenerations kind.key now) = false := by
  by_contra equal
  have lookups := (PyDict.same_iff _ _).mp (Bool.eq_true_of_not_eq_false equal) kind.key
  have counters : counter before kind = counter (bumpedGenerations kind.key now) kind := congrArg (·.getD 0) lookups
  have below := grown kind
  rw [counter_bumped, if_pos rfl] at counters
  omega

section Effects

variable (op : ProtectionOp K) (db : Database K)

-- What an operation can do, field by field.
theorem act_generations : (op.act db).injectionGenerations =
    match op.bumps db with
    | none => db.injectionGenerations
    | some kind => bumpedGenerations kind.key db.injectionGenerations := by
  cases op with
  | revokePal palId =>
      simp only [ProtectionOp.act, ProtectionOp.bumps, revokePalRecord]
      split <;> rfl
  | databaseUrl feed now => cases feed <;> rfl
  | _ => rfl

theorem act_admission : (op.act db).admission = db.admission := by
  cases op with
  | revokePal palId =>
      simp only [ProtectionOp.act, revokePalRecord]
      split <;> rfl
  | databaseUrl feed now => cases feed <;> rfl
  | _ => rfl

theorem act_unmarked (quiet : op.marks = false) : (op.act db).reevaluation = db.reevaluation := by
  cases op with
  | revokePal palId =>
      simp only [ProtectionOp.act, revokePalRecord]
      split <;> rfl
  | databaseUrl feed now => cases quiet
  | _ => rfl

theorem act_marked (marking : op.marks = true) : (op.act db).reevaluation.isSome = true := by
  cases op with
  | databaseUrl feed now => cases feed <;> rfl
  | _ => cases marking

theorem act_keeps_mark (marked : db.reevaluation.isSome = true) : (op.act db).reevaluation.isSome = true := by
  cases quiet : op.marks with
  | true => exact act_marked op db quiet
  | false =>
      rw [act_unmarked op db quiet]
      exact marked

theorem act_peers : (op.act db).peers =
    match op with
    | .peerSas => db.peers ++ [⟨nextPeerId db.peers, none, []⟩]
    | .peerSync snapshot => db.peers.map (syncedPeer snapshot)
    | _ => db.peers := by
  cases op with
  | revokePal palId =>
      simp only [ProtectionOp.act, revokePalRecord]
      split <;> rfl
  | databaseUrl feed now => cases feed <;> rfl
  | _ => rfl

end Effects

theorem same_records_iff (first second : List PeerFadRecord) :
    sameRecords first second = true ↔ ∀ record, record ∈ first ↔ record ∈ second := by
  simp only [sameRecords, Bool.and_eq_true, List.all_eq_true, List.contains_iff_mem]
  constructor
  · rintro ⟨forth, back⟩ record
    exact ⟨forth record, back record⟩
  · intro both
    exact ⟨fun record => (both record).mp, fun record => (both record).mpr⟩

-- A peer and what became of it: back at the old generation, it has the old records.
structure TracedPeer (old now : PeerSas) : Prop where
  id : now.id = old.id
  records : now.lastFadGeneration = old.lastFadGeneration → ∀ record, record ∈ now.records ↔ record ∈ old.records

structure PeersTraced (old now : List PeerSas) : Prop where
  keys : (now.map (·.id)).Nodup
  traced : ∃ kept added, now = kept ++ added ∧ List.Forall₂ TracedPeer old kept

-- The sync does not bring changed content under a generation of `old`.
def NoReuse (old : List PeerSas) (snapshot : FadGenerationSnapshot) : Prop :=
  ∀ peer ∈ old, peer.id = snapshot.peerSasId → peer.lastFadGeneration = some snapshot.generationDatetime →
    sameRecords snapshot.records peer.records = true

theorem peers_traced_refl (peers : List PeerSas) (keys : (peers.map (·.id)).Nodup) : PeersTraced peers peers :=
  ⟨keys, peers, [], (List.append_nil _).symm, List.forall₂_same.mpr fun _ _ => ⟨rfl, fun _ _ => Iff.rfl⟩⟩

theorem next_peer_id_fresh (peers : List PeerSas) : nextPeerId peers ∉ peers.map (·.id) := by
  have above : ∀ ids : List Nat, ∀ id ∈ ids, id < ids.foldr max 0 + 1 := by
    intro ids
    induction ids with
    | nil => exact fun id absent => absurd absent List.not_mem_nil
    | cons first rest ih =>
        intro id member
        rw [List.foldr_cons]
        cases member with
        | head => omega
        | tail _ later =>
            have below := ih id later
            omega
  intro member
  exact absurd (above _ _ member) (Nat.lt_irrefl _)

theorem peers_traced_added (old now : List PeerSas) (traced : PeersTraced old now) :
    PeersTraced old (now ++ [⟨nextPeerId now, none, []⟩]) := by
  obtain ⟨keys, kept, added, rfl, pairs⟩ := traced
  refine ⟨?_, kept, added ++ [⟨nextPeerId (kept ++ added), none, []⟩], List.append_assoc _ _ _, pairs⟩
  rw [List.map_append, List.nodup_append]
  refine ⟨keys, List.nodup_singleton _, ?_⟩
  intro id member other single same
  have fresh : id = nextPeerId (kept ++ added) := same.trans (List.mem_singleton.mp single)
  rw [fresh] at member
  exact next_peer_id_fresh (kept ++ added) member

theorem synced_id (snapshot : FadGenerationSnapshot) (peer : PeerSas) : (syncedPeer snapshot peer).id = peer.id := by
  unfold syncedPeer
  split
  · split <;> rfl
  · rfl

theorem synced_keys (snapshot : FadGenerationSnapshot) (peers : List PeerSas) :
    (peers.map (syncedPeer snapshot)).map (·.id) = peers.map (·.id) := by
  rw [List.map_map]
  exact List.map_congr_left fun peer _ => synced_id snapshot peer

theorem act_keys (op : ProtectionOp K) (db : Database K) (keys : (db.peers.map (·.id)).Nodup) :
    ((op.act db).peers.map (·.id)).Nodup := by
  rw [act_peers]
  cases op with
  | peerSas => exact (peers_traced_added db.peers db.peers (peers_traced_refl db.peers keys)).keys
  | peerSync snapshot =>
      rw [synced_keys]
      exact keys
  | _ => exact keys

theorem synced_traced (snapshot : FadGenerationSnapshot) (old now : PeerSas) (traced : TracedPeer old now)
    (noReuse : old.id = snapshot.peerSasId → old.lastFadGeneration = some snapshot.generationDatetime →
      sameRecords snapshot.records old.records = true) : TracedPeer old (syncedPeer snapshot now) := by
  refine ⟨(synced_id snapshot now).trans traced.id, ?_⟩
  rw [syncedPeer]
  by_cases here : now.id = snapshot.peerSasId
  · rw [if_pos here]
    cases applied : peerGenerationAlreadyApplied now snapshot with
    | true =>
        rw [if_pos rfl]
        exact traced.records
    | false =>
        rw [if_neg Bool.false_ne_true]
        intro same
        exact (same_records_iff _ _).mp (noReuse (traced.id.symm.trans here) same.symm)
  · rw [if_neg here]
    exact traced.records

theorem synced_pairs (snapshot : FadGenerationSnapshot) (old kept : List PeerSas)
    (pairs : List.Forall₂ TracedPeer old kept) (noReuse : NoReuse old snapshot) :
    List.Forall₂ TracedPeer old (kept.map (syncedPeer snapshot)) := by
  induction pairs with
  | nil => exact List.Forall₂.nil
  | cons first rest ih =>
      apply List.Forall₂.cons (synced_traced snapshot _ _ first (noReuse _ List.mem_cons_self))
      exact ih fun peer member => noReuse peer (List.mem_cons_of_mem _ member)

theorem peers_traced_synced (old now : List PeerSas) (snapshot : FadGenerationSnapshot) (traced : PeersTraced old now)
    (noReuse : NoReuse old snapshot) : PeersTraced old (now.map (syncedPeer snapshot)) := by
  obtain ⟨keys, kept, added, rfl, pairs⟩ := traced
  refine ⟨?_, kept.map (syncedPeer snapshot), added.map (syncedPeer snapshot), List.map_append, ?_⟩
  · rw [synced_keys]
    exact keys
  · exact synced_pairs snapshot old kept pairs noReuse

theorem mem_peer_records (peers : List PeerSas) (entry : Nat × PeerFadRecord) :
    entry ∈ peerRecords peers ↔ ∃ peer ∈ peers, peer.id = entry.1 ∧ entry.2 ∈ peer.records := by
  rw [peerRecords, List.mem_flatMap]
  constructor
  · rintro ⟨peer, member, listed⟩
    obtain ⟨record, held, rfl⟩ := List.mem_map.mp listed
    exact ⟨peer, member, rfl, held⟩
  · rintro ⟨peer, member, same, held⟩
    exact ⟨peer, member, List.mem_map.mpr ⟨entry.2, held, Prod.ext same rfl⟩⟩

theorem peer_generations_keys (peers : List PeerSas) :
    (peerGenerations peers).map (·.1) = peers.map (·.id) := by
  rw [peerGenerations, List.map_map]
  rfl

theorem lookup_peer_generations (peers : List PeerSas) (keys : (peers.map (·.id)).Nodup) (peer : PeerSas)
    (member : peer ∈ peers) : PyDict.lookup (peerGenerations peers) peer.id = some peer.lastFadGeneration := by
  apply PyDict.lookup_mem
  · rw [peer_generations_keys]
    exact keys
  · exact List.mem_map_of_mem member

theorem traced_ids (old kept : List PeerSas) (pairs : List.Forall₂ TracedPeer old kept) :
    kept.map (·.id) = old.map (·.id) := by
  induction pairs with
  | nil => rfl
  | cons first rest ih => rw [List.map_cons, List.map_cons, ih, first.id]

theorem traced_mem_left (old kept : List PeerSas) (pairs : List.Forall₂ TracedPeer old kept) (peer : PeerSas)
    (member : peer ∈ old) : ∃ now ∈ kept, TracedPeer peer now := by
  induction pairs with
  | nil => cases member
  | cons first rest ih =>
      cases member with
      | head => exact ⟨_, List.mem_cons_self, first⟩
      | tail _ later =>
          obtain ⟨now, held, pair⟩ := ih later
          exact ⟨now, List.mem_cons_of_mem _ held, pair⟩

theorem traced_mem_right (old kept : List PeerSas) (pairs : List.Forall₂ TracedPeer old kept) (now : PeerSas)
    (member : now ∈ kept) : ∃ peer ∈ old, TracedPeer peer now := by
  induction pairs with
  | nil => cases member
  | cons first rest ih =>
      cases member with
      | head => exact ⟨_, List.mem_cons_self, first⟩
      | tail _ later =>
          obtain ⟨peer, held, pair⟩ := ih later
          exact ⟨peer, List.mem_cons_of_mem _ held, pair⟩

-- Equal generations of all peers mean equal records of all peers.
theorem peers_traced_records (old now : List PeerSas) (traced : PeersTraced old now)
    (same : PyDict.same (peerGenerations old) (peerGenerations now) = true) (entry : Nat × PeerFadRecord) :
    entry ∈ peerRecords now ↔ entry ∈ peerRecords old := by
  obtain ⟨keys, kept, added, rfl, pairs⟩ := traced
  have lookups := (PyDict.same_iff _ _).mp same
  have keptKeys : (kept.map (·.id)).Nodup := by
    rw [List.map_append] at keys
    exact (List.nodup_append.mp keys).1
  have oldKeys : (old.map (·.id)).Nodup := traced_ids old kept pairs ▸ keptKeys
  have equal : ∀ peer ∈ old, ∀ later ∈ kept, TracedPeer peer later →
      later.lastFadGeneration = peer.lastFadGeneration := by
    intro peer held later found pair
    have before := lookup_peer_generations old oldKeys peer held
    have after := lookup_peer_generations (kept ++ added) keys later (List.mem_append_left _ found)
    rw [pair.id, ← lookups, before] at after
    exact (Option.some.inj after).symm
  rw [mem_peer_records, mem_peer_records]
  constructor
  · rintro ⟨later, member, id, held⟩
    rcases List.mem_append.mp member with found | extra
    · obtain ⟨peer, first, pair⟩ := traced_mem_right old kept pairs later found
      exact ⟨peer, first, pair.id.symm.trans id, (pair.records (equal peer first later found pair) entry.2).mp held⟩
    · have after := lookup_peer_generations (kept ++ added) keys later (List.mem_append_right _ extra)
      rw [← lookups] at after
      have known := PyDict.lookup_some_key _ _ _ after
      rw [peer_generations_keys, ← traced_ids old kept pairs] at known
      rw [List.map_append, List.nodup_append] at keys
      exact absurd rfl (keys.2.2 _ known _ (List.mem_map_of_mem extra))
  · rintro ⟨peer, member, id, held⟩
    obtain ⟨later, found, pair⟩ := traced_mem_left old kept pairs peer member
    exact ⟨later, List.mem_append_left _ found, pair.id.trans id,
      (pair.records (equal peer member later found pair) entry.2).mpr held⟩

end SasCore.Cpas
