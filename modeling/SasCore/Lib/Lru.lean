import SasCore.Lib.PyDict
import Mathlib.Data.List.DropRight
import Mathlib.Data.List.Perm.Subperm

set_option autoImplicit false
set_option linter.unusedSectionVars false

-- A dictionary with a list of its keys from the longest unused to the last used, kept at a number of keys.
namespace SasCore.Lru

variable {κ ν ε : Type} [DecidableEq κ]

structure Cache (κ ν : Type) where
  entries : List (κ × ν)
  order : List κ

def empty : Cache κ ν := ⟨[], []⟩

def lookup (key : κ) (cache : Cache κ ν) : Option ν := PyDict.lookup cache.entries key

def keys (cache : Cache κ ν) : List κ := cache.entries.map (·.1)

-- d.pop(key, None)
def drop (key : κ) (entries : List (κ × ν)) : List (κ × ν) := entries.filter fun entry => entry.1 ≠ key

-- The key becomes the last one used.
def touch (key : κ) (cache : Cache κ ν) : Cache κ ν := { cache with order := cache.order.erase key ++ [key] }

-- Keys leave from the front of the order as long as it is longer than the limit.
def shrink (limit : Nat) : List κ → List (κ × ν) → Cache κ ν
  | [], entries => ⟨entries, []⟩
  | oldest :: rest, entries =>
      if limit < (oldest :: rest).length then shrink limit rest (drop oldest entries) else ⟨entries, oldest :: rest⟩

def store (limit : Nat) (key : κ) (value : ν) (cache : Cache κ ν) : Cache κ ν :=
  shrink limit (cache.order ++ [key]) (PyDict.set key value cache.entries)

-- A read through the cache: what raises is not kept.
def fetch (load : κ → Except ε ν) (limit : Nat) (key : κ) (cache : Cache κ ν) : Except ε ν × Cache κ ν :=
  match lookup key cache with
  | some value => (.ok value, touch key cache)
  | none =>
      match load key with
      | .error fault => (.error fault, cache)
      | .ok value => (.ok value, store limit key value cache)

-- The distinct keys of a history, each at the place of its last use.
def recency (history : List κ) : List κ := history.foldl (fun order key => order.erase key ++ [key]) []

section Shrink

variable (limit : Nat)

theorem drop_keys (key : κ) (entries : List (κ × ν)) (other : κ) :
    other ∈ (drop key entries).map (·.1) ↔ other ∈ entries.map (·.1) ∧ other ≠ key := by
  simp only [drop, List.mem_map, List.mem_filter, decide_eq_true_eq]
  constructor
  · rintro ⟨entry, ⟨member, apart⟩, rfl⟩
    exact ⟨⟨entry, member, rfl⟩, apart⟩
  · rintro ⟨⟨entry, member, rfl⟩, apart⟩
    exact ⟨entry, ⟨member, apart⟩, rfl⟩

theorem shrink_order (order : List κ) (entries : List (κ × ν)) :
    (shrink limit order entries).order = order.rtake limit := by
  induction order generalizing entries with
  | nil => rw [shrink, List.rtake_nil]
  | cons oldest rest ih =>
      rw [shrink]
      split
      · rename_i long
        rw [List.length_cons] at long
        rw [ih, List.rtake, List.rtake, List.length_cons, Nat.succ_sub (by omega), List.drop_succ_cons]
      · rename_i short
        rw [List.rtake, Nat.sub_eq_zero_of_le (not_lt.mp short), List.drop_zero]

theorem shrink_entries (order : List κ) (entries : List (κ × ν)) :
    (shrink limit order entries).entries.Sublist entries := by
  induction order generalizing entries with
  | nil => exact List.Sublist.refl _
  | cons oldest rest ih =>
      rw [shrink]
      split
      · exact (ih (drop oldest entries)).trans List.filter_sublist
      · exact List.Sublist.refl _

-- What the dictionary keeps the order keeps.
theorem shrink_keys (order : List κ) (entries : List (κ × ν)) (within : ∀ key ∈ entries.map (·.1), key ∈ order) :
    ∀ key ∈ keys (shrink limit order entries), key ∈ (shrink limit order entries).order := by
  induction order generalizing entries with
  | nil => exact within
  | cons oldest rest ih =>
      rw [shrink]
      split
      · refine ih (drop oldest entries) fun key member => ?_
        obtain ⟨among, apart⟩ := (drop_keys oldest entries key).mp member
        exact (List.mem_cons.mp (within key among)).resolve_left apart
      · exact within

theorem shrink_holds (order : List κ) (entries : List (κ × ν)) (distinct : order.Nodup)
    (held : ∀ key ∈ order, key ∈ entries.map (·.1)) :
    ∀ key ∈ (shrink limit order entries).order, key ∈ keys (shrink limit order entries) := by
  induction order generalizing entries with
  | nil => exact held
  | cons oldest rest ih =>
      obtain ⟨apart, restDistinct⟩ := List.nodup_cons.mp distinct
      rw [shrink]
      split
      · refine ih (drop oldest entries) restDistinct fun key member => ?_
        exact (drop_keys oldest entries key).mpr ⟨held key (List.mem_cons_of_mem _ member), fun same => apart (same ▸ member)⟩
      · exact held

end Shrink

section Recency

theorem set_holds (entries : List (κ × ν)) (key : κ) (value : ν) (other : κ)
    (held : other ∈ entries.map (·.1) ∨ other = key) : other ∈ (PyDict.set key value entries).map (·.1) := by
  by_cases same : key = other
  · exact PyDict.lookup_some_key _ _ value (by rw [PyDict.lookup_set, if_pos same])
  · cases found : PyDict.lookup entries other with
    | some stored => exact PyDict.lookup_some_key _ _ stored (by rw [PyDict.lookup_set, if_neg same, found])
    | none =>
        obtain ⟨entry, member, rfl⟩ := List.mem_map.mp (held.resolve_right fun equal => same equal.symm)
        have absent := List.find?_eq_none.mp (Option.map_eq_none_iff.mp found) entry member
        simp at absent

theorem recency_append (history : List κ) (key : κ) : recency (history ++ [key]) = (recency history).erase key ++ [key] := by
  simp [recency]

theorem recency_nodup (history : List κ) : (recency history).Nodup := by
  induction history using List.reverseRecOn with
  | nil => exact List.nodup_nil
  | append_singleton history key ih =>
      rw [recency_append, List.nodup_append]
      refine ⟨ih.erase key, List.nodup_singleton key, fun one member other same => ?_⟩
      rw [List.mem_singleton.mp same]
      exact ((List.Nodup.mem_erase_iff ih).mp member).1

theorem rtake_split (order : List κ) (limit : Nat) :
    order = order.take (order.length - limit) ++ order.rtake limit := (List.take_append_drop _ _).symm

theorem rtake_length (order : List κ) (limit : Nat) : (order.rtake limit).length = min limit order.length := by
  rw [List.rtake, List.length_drop]
  omega

theorem rtake_concat (order : List κ) (limit : Nat) (positive : 0 < limit) (key : κ) :
    (order ++ [key]).rtake limit = order.rtake (limit - 1) ++ [key] := by
  obtain ⟨smaller, rfl⟩ : ∃ smaller, limit = smaller + 1 := ⟨limit - 1, by omega⟩
  rw [List.rtake_concat_succ, Nat.add_sub_cancel]

theorem rtake_append (front back : List κ) (limit : Nat) (short : limit ≤ back.length) :
    (front ++ back).rtake limit = back.rtake limit := by
  have split : front.length + back.length - limit = front.length + (back.length - limit) := by omega
  rw [List.rtake, List.rtake, List.length_append, split, List.drop_append, List.drop_of_length_le (by omega), List.nil_append,
    Nat.add_sub_cancel_left]

theorem rtake_all (order : List κ) (limit : Nat) (short : order.length ≤ limit) : order.rtake limit = order := by
  rw [List.rtake, Nat.sub_eq_zero_of_le short, List.drop_zero]

theorem recent_touch (full : List κ) (distinct : full.Nodup) (limit : Nat) (positive : 0 < limit) (key : κ)
    (held : key ∈ full.rtake limit) :
    (full.erase key ++ [key]).rtake limit = (full.rtake limit).erase key ++ [key] := by
  rw [rtake_concat _ _ positive]
  congr 1
  by_cases long : limit ≤ full.length
  · have apart : key ∉ full.take (full.length - limit) := by
      rw [rtake_split full limit] at distinct
      exact fun member => List.disjoint_of_nodup_append distinct member held
    have size : ((full.rtake limit).erase key).length = limit - 1 := by
      rw [List.length_erase_of_mem held, rtake_length, Nat.min_eq_left long]
    conv_lhs => rw [rtake_split full limit, List.erase_append_right _ apart]
    rw [rtake_append _ _ _ size.ge, rtake_all _ _ size.le]
  · have whole := rtake_all full limit (by omega)
    rw [whole] at held ⊢
    have size := List.length_erase_of_mem held
    exact rtake_all _ _ (by omega)

theorem recent_store (full : List κ) (limit : Nat) (positive : 0 < limit) (key : κ) (absent : key ∉ full.rtake limit) :
    (full.erase key ++ [key]).rtake limit = (full.rtake limit ++ [key]).rtake limit := by
  rw [rtake_concat _ _ positive, rtake_concat _ _ positive]
  congr 1
  by_cases long : limit ≤ full.length
  · have size : limit - 1 ≤ (full.rtake limit).length := by
      rw [rtake_length]
      omega
    conv_lhs => rw [rtake_split full limit, List.erase_append]
    split
    · exact rtake_append _ _ _ size
    · rw [List.erase_of_not_mem absent]
      exact rtake_append _ _ _ size
  · have whole := rtake_all full limit (by omega)
    rw [whole] at absent ⊢
    rw [List.erase_of_not_mem absent]

end Recency

section Reads

variable (load : κ → Except ε ν) (limit : Nat)

structure Sound (cache : Cache κ ν) : Prop where
  known : ∀ key, key ∈ keys cache ↔ key ∈ cache.order
  unique : (keys cache).Nodup
  right : ∀ entry ∈ cache.entries, load entry.1 = .ok entry.2

theorem lookup_held (cache : Cache κ ν) (sound : Sound load cache) (key : κ) (value : ν)
    (found : lookup key cache = some value) : load key = .ok value ∧ key ∈ cache.order := by
  have entry := PyDict.lookup_entry cache.entries key value found
  exact ⟨sound.right _ entry, (sound.known key).mp (List.mem_map_of_mem entry)⟩

theorem lookup_missing (cache : Cache κ ν) (sound : Sound load cache) (key : κ) (missing : lookup key cache = none) :
    key ∉ cache.order := by
  intro member
  obtain ⟨entry, isEntry, rfl⟩ := List.mem_map.mp ((sound.known key).mpr member)
  rw [lookup, PyDict.lookup_mem cache.entries sound.unique entry.1 entry.2 isEntry] at missing
  cases missing

-- The cache holds the last keys of the history that could be loaded.
structure Recent (history : List κ) (cache : Cache κ ν) : Prop where
  sound : Sound load cache
  order : cache.order = (recency history).rtake limit

variable (positive : 0 < limit)

include positive

theorem touch_recent (history : List κ) (cache : Cache κ ν) (recent : Recent load limit history cache) (key : κ)
    (held : key ∈ cache.order) : Recent load limit (history ++ [key]) (touch key cache) := by
  have order : (touch key cache).order = (recency (history ++ [key])).rtake limit := by
    rw [recency_append, recent_touch _ (recency_nodup history) limit positive key (recent.order ▸ held), ← recent.order]
    rfl
  refine ⟨⟨fun other => ?_, recent.sound.unique, recent.sound.right⟩, order⟩
  have moved : other ∈ (touch key cache).order ↔ other ∈ cache.order := by
    rw [touch, List.mem_append, List.mem_singleton]
    by_cases same : other = key
    · simp [same, held]
    · simp [same, List.mem_erase_of_ne]
  exact (recent.sound.known other).trans moved.symm

theorem store_recent (history : List κ) (cache : Cache κ ν) (recent : Recent load limit history cache) (key : κ) (value : ν)
    (absent : key ∉ cache.order) (loaded : load key = .ok value) :
    Recent load limit (history ++ [key]) (store limit key value cache) := by
  have unknown : key ∉ keys cache := fun member => absent ((recent.sound.known key).mp member)
  have distinct : (cache.order ++ [key]).Nodup := by
    rw [recent.order, List.nodup_append]
    refine ⟨(recency_nodup history).sublist (List.drop_sublist _ _), List.nodup_singleton key, fun one member other same => ?_⟩
    rw [List.mem_singleton.mp same]
    rintro rfl
    exact absent (recent.order ▸ member)
  have setKeys := PyDict.set_keys key value cache.entries recent.sound.unique
  refine ⟨⟨fun other => ⟨?_, ?_⟩, ?_, ?_⟩, ?_⟩
  · refine shrink_keys limit _ _ (fun one member => ?_) other
    rcases setKeys.2 one member with same | among
    · simp [same]
    · exact List.mem_append_left _ ((recent.sound.known one).mp among)
  · refine shrink_holds limit _ _ distinct (fun one member => set_holds cache.entries key value one ?_) other
    rcases List.mem_append.mp member with among | last
    · exact .inl ((recent.sound.known one).mpr among)
    · exact .inr (List.mem_singleton.mp last)
  · exact setKeys.1.sublist ((shrink_entries limit _ _).map _)
  · intro entry member
    rcases PyDict.mem_set key value cache.entries entry ((shrink_entries limit _ _).subset member) with same | among
    · rw [same]
      exact loaded
    · exact recent.sound.right entry among
  · rw [store, shrink_order, recency_append, recent_store _ _ positive key (recent.order ▸ absent), ← recent.order]

-- One read: what the loader gives, and a cache that has seen the key unless the loader raised.
theorem fetch_recent (history : List κ) (cache : Cache κ ν) (recent : Recent load limit history cache) (key : κ) :
    (fetch load limit key cache).1 = load key ∧
      Recent load limit (history ++ [key].filter fun one => (load one).isOk) (fetch load limit key cache).2 := by
  rw [fetch]
  cases found : lookup key cache with
  | some value =>
      obtain ⟨loaded, held⟩ := lookup_held load cache recent.sound key value found
      have counted : [key].filter (fun one => (load one).isOk) = [key] := by simp [loaded, Except.isOk, Except.toBool]
      rw [counted]
      exact ⟨loaded.symm, touch_recent load limit positive history cache recent key held⟩
  | none =>
      have absent := lookup_missing load cache recent.sound key found
      cases loaded : load key with
      | error fault =>
          have skipped : [key].filter (fun one => (load one).isOk) = [] := by simp [loaded, Except.isOk, Except.toBool]
          rw [skipped, List.append_nil]
          exact ⟨rfl, recent⟩
      | ok value =>
          have counted : [key].filter (fun one => (load one).isOk) = [key] := by simp [loaded, Except.isOk, Except.toBool]
          rw [counted]
          exact ⟨rfl, store_recent load limit positive history cache recent key value absent loaded⟩

end Reads

section Shared

variable (limit : Nat) (held : κ → ν → Prop)

-- What survives also where a key was stored by two readers that had both missed it.
structure Within (cache : Cache κ ν) : Prop where
  known : ∀ key ∈ keys cache, key ∈ cache.order
  unique : (keys cache).Nodup
  bounded : cache.order.length ≤ limit
  right : ∀ entry ∈ cache.entries, held entry.1 entry.2

theorem empty_within : Within limit held (empty : Cache κ ν) :=
  ⟨fun _ member => (List.not_mem_nil member).elim, List.nodup_nil, Nat.zero_le _, fun _ member => (List.not_mem_nil member).elim⟩

theorem hit_within (cache : Cache κ ν) (within : Within limit held cache) (key : κ) (value : ν)
    (found : lookup key cache = some value) : held key value ∧ Within limit held (touch key cache) := by
  have entry := PyDict.lookup_entry cache.entries key value found
  have member := within.known key (List.mem_map_of_mem entry)
  refine ⟨within.right _ entry, ⟨fun other among => ?_, within.unique, ?_, within.right⟩⟩
  · rw [touch, List.mem_append, List.mem_singleton]
    by_cases same : other = key
    · exact .inr same
    · exact .inl ((List.mem_erase_of_ne same).mpr (within.known other among))
  · have positive := List.length_pos_of_mem member
    have bounded := within.bounded
    rw [touch, List.length_append, List.length_erase_of_mem member, List.length_singleton]
    omega

theorem store_within (cache : Cache κ ν) (within : Within limit held cache) (key : κ) (value : ν) (right : held key value) :
    Within limit held (store limit key value cache) := by
  have setKeys := PyDict.set_keys key value cache.entries within.unique
  refine ⟨shrink_keys limit _ _ fun one member => ?_, setKeys.1.sublist ((shrink_entries limit _ _).map _), ?_, fun entry member => ?_⟩
  · rcases setKeys.2 one member with same | among
    · simp [same]
    · exact List.mem_append_left _ (within.known one among)
  · rw [store, shrink_order, rtake_length]
    exact Nat.min_le_left _ _
  · rcases PyDict.mem_set key value cache.entries entry ((shrink_entries limit _ _).subset member) with same | among
    · rw [same]
      exact right
    · exact within.right entry among

theorem size_within (cache : Cache κ ν) (within : Within limit held cache) : cache.entries.length ≤ limit := by
  have fewer := (List.Nodup.subperm within.unique within.known).length_le
  rw [keys, List.length_map] at fewer
  exact fewer.trans within.bounded

end Shared

end SasCore.Lru
