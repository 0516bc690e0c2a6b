import SasCore.Lib.Orm
import Mathlib.Data.List.Nodup

set_option autoImplicit false

-- Upserts by key, each committed before the next.
namespace SasCore.Orm

variable {V κ : Type} [DecidableEq κ] (key : V → Option κ)

-- A value without a key is none of these.
def upsertOne (table : Table V) (value : V) : Table V :=
  match key value with
  | some k => (table.put (hasKey key k) (fun _ => value) value).flush
  | none => table

def upsertAll (values : List V) : Table V := values.foldl (upsertOne key) (Table.stored [])

section Steps

variable (held : List V) (value : V) (k : κ)

theorem put_congr (table : Table V) (found : V → Bool) (change other : V → V) (fresh : V)
    (same : ∀ row, found row = true → change row = other row) : table.put found change fresh = table.put found other fresh := by
  have rows : ∀ entries, changeFirst found change entries = changeFirst found other entries := by
    intro entries
    induction entries with
    | nil => rfl
    | cons entry rest ih =>
        rw [changeFirst, changeFirst, ih]
        by_cases here : found entry.value = true
        · rw [if_pos here, if_pos here, same entry.value here]
        · rw [if_neg here, if_neg here]
  rw [Table.put, Table.put, rows]

-- The keys after an upsert: as before, or with the new one at the end.
theorem upsert_one_keys (own : key value = some k) :
    (upsertOne key (Table.stored held) value).settled.map key =
      if some k ∈ held.map key then held.map key else held.map key ++ [some k] := by
  have clean := put_clean (Table.stored held) (hasKey key k) (fun _ => value) value (stored_clean held)
  obtain ⟨keys, pending⟩ := put_keys key (Table.stored held) k value (fun _ => value) (fun _ _ => own)
  rw [all_stored] at keys pending
  simp only [upsertOne, own, settled_flush]
  rw [settled_keys key _ clean, keys, pending]
  by_cases known : some k ∈ held.map key
  · rw [if_pos known, if_pos known]
    exact List.append_nil _
  · rw [if_neg known, if_neg known]
    simp [Table.stored, own]

theorem upsert_one_fresh (own : key value = some k) (missing : some k ∉ held.map key) :
    upsertOne key (Table.stored held) value = Table.stored (held ++ [value]) := by
  have absent : changeFirst (hasKey key k) (fun _ => value) (Table.stored held).rows = none := by
    rw [change_first_none]
    intro entry member
    obtain ⟨row, inHeld, same⟩ := List.mem_map.mp member
    rw [← same, hasKey, decide_eq_false_iff_not]
    exact fun isKey => missing (List.mem_map.mpr ⟨row, inHeld, isKey⟩)
  simp only [upsertOne, own, Table.put, absent]
  rw [Table.flush, settled_add, settled_stored]

theorem upsert_one_stored (own : key value = some k) :
    upsertOne key (Table.stored held) value = Table.stored (upsertOne key (Table.stored held) value).settled := by
  simp only [upsertOne, own, settled_flush]
  rfl

end Steps

section Runs

theorem upserts_distinct (values held : List V) (keyed : ∀ value ∈ values, (key value).isSome = true)
    (distinct : (held.map key).Nodup) : ((values.foldl (upsertOne key) (Table.stored held)).settled.map key).Nodup := by
  induction values generalizing held with
  | nil => simpa using distinct
  | cons value rest ih =>
      obtain ⟨k, own⟩ := Option.isSome_iff_exists.mp (keyed value List.mem_cons_self)
      have keys := upsert_one_keys key held value k own
      have after : ((upsertOne key (Table.stored held) value).settled.map key).Nodup := by
        rw [keys]
        by_cases known : some k ∈ held.map key
        · rw [if_pos known]
          exact distinct
        · rw [if_neg known]
          exact List.nodup_append.mpr ⟨distinct, List.nodup_singleton _, fun first inHeld second isNew => by
            rw [List.mem_singleton.mp isNew]
            exact fun same => known (same ▸ inHeld)⟩
      rw [List.foldl_cons, upsert_one_stored key held value k own]
      exact ih _ (fun other member => keyed other (List.mem_cons_of_mem value member)) after

theorem upserts_appended (values held : List V) (keyed : ∀ value ∈ values, (key value).isSome = true)
    (distinct : ((held ++ values).map key).Nodup) :
    values.foldl (upsertOne key) (Table.stored held) = Table.stored (held ++ values) := by
  induction values generalizing held with
  | nil => rw [List.append_nil, List.foldl_nil]
  | cons value rest ih =>
      obtain ⟨k, own⟩ := Option.isSome_iff_exists.mp (keyed value List.mem_cons_self)
      have split : held ++ value :: rest = (held ++ [value]) ++ rest := by rw [List.append_assoc]; rfl
      have missing : some k ∉ held.map key := by
        rw [List.map_append, List.map_cons, own, List.nodup_append] at distinct
        exact fun known => distinct.2.2 _ known _ List.mem_cons_self rfl
      rw [List.foldl_cons, upsert_one_fresh key held value k own missing, split]
      exact ih _ (fun other member => keyed other (List.mem_cons_of_mem value member)) (split ▸ distinct)

-- Every value keeps a row of its own exactly when the keys are distinct.
theorem upserts_kept_iff (values : List V) (keyed : ∀ value ∈ values, (key value).isSome = true) :
    (upsertAll key values).settled.Perm values ↔ (values.map key).Nodup := by
  constructor
  · intro kept
    exact (kept.map key).nodup_iff.mp (upserts_distinct key values [] keyed List.nodup_nil)
  · intro distinct
    rw [upsertAll, upserts_appended key values [] keyed distinct, settled_stored, List.nil_append]

end Runs

end SasCore.Orm
