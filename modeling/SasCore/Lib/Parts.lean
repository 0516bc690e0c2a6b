import Mathlib.Data.List.Perm.Basic
import Mathlib.Data.List.Nodup

set_option autoImplicit false

-- A state in parts, and operations that each read and change one part of it.
namespace SasCore.Parts

variable {S I V α : Type} (view : I → S → V) (key : α → I) (op : S → α → S)

structure Local : Prop where
  own : ∀ item s t, view (key item) s = view (key item) t → view (key item) (op s item) = view (key item) (op t item)
  apart : ∀ item i s, i ≠ key item → view i (op s item) = view i s

variable {view key op}

-- Operations on other parts leave a part alone.
theorem run_apart (parted : Local view key op) (items : List α) (i : I) (others : i ∉ items.map key) (s : S) :
    view i (items.foldl op s) = view i s := by
  induction items generalizing s with
  | nil => rfl
  | cons item rest ih =>
      rw [List.map_cons, List.mem_cons, not_or] at others
      rw [List.foldl_cons, ih others.2, parted.apart item i s others.1]

-- After any run, a part is as its own operation alone leaves it.
theorem run_own (parted : Local view key op) (items : List α) (distinct : (items.map key).Nodup) (item : α) (member : item ∈ items)
    (s : S) : view (key item) (items.foldl op s) = view (key item) (op s item) := by
  obtain ⟨before, after, split⟩ := List.append_of_mem member
  rw [split, List.map_append, List.map_cons, List.nodup_append, List.nodup_cons] at distinct
  obtain ⟨_, ⟨notAfter, _⟩, disjoint⟩ := distinct
  have notBefore : key item ∉ before.map key := fun early => disjoint (key item) early (key item) List.mem_cons_self rfl
  rw [split, List.foldl_append, List.foldl_cons, run_apart parted after (key item) notAfter]
  exact parted.own item _ s (run_apart parted before (key item) notBefore s)

-- The order of the operations makes no difference to any part.
theorem run_perm (parted : Local view key op) (first second : List α) (same : first.Perm second) (distinct : (first.map key).Nodup)
    (i : I) (s : S) : view i (first.foldl op s) = view i (second.foldl op s) := by
  have distinctToo : (second.map key).Nodup := (same.map key).nodup_iff.mp distinct
  by_cases own : i ∈ first.map key
  · obtain ⟨item, member, isKey⟩ := List.mem_map.mp own
    rw [← isKey, run_own parted first distinct item member, run_own parted second distinctToo item (same.mem_iff.mp member)]
  · have absent : i ∉ second.map key := fun later => own ((same.map key).mem_iff.mpr later)
    rw [run_apart parted first i own, run_apart parted second i absent]

end SasCore.Parts
