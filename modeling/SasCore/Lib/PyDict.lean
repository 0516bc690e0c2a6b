import Mathlib.Data.List.Nodup

set_option autoImplicit false

namespace SasCore.PyDict

variable {α β : Type} [DecidableEq α]

def lookup (dict : List (α × β)) (key : α) : Option β := (dict.find? fun entry => entry.1 = key).map (·.2)

-- d[key] = value: in place when the key is there, else at the end.
def set (key : α) (value : β) : List (α × β) → List (α × β)
  | [] => [(key, value)]
  | entry :: rest => if entry.1 = key then (key, value) :: rest else entry :: set key value rest

-- d.update(entries)
def update (entries dict : List (α × β)) : List (α × β) := entries.foldl (fun held entry => set entry.1 entry.2 held) dict

-- d1 == d2, whatever the order of the entries.
def same [DecidableEq β] (first second : List (α × β)) : Bool :=
  (first.map (·.1) ++ second.map (·.1)).all fun key => lookup first key = lookup second key

theorem lookup_nil (key : α) : lookup ([] : List (α × β)) key = none := rfl

theorem lookup_cons (entry : α × β) (rest : List (α × β)) (key : α) :
    lookup (entry :: rest) key = if entry.1 = key then some entry.2 else lookup rest key := by
  by_cases here : entry.1 = key
  · simp only [lookup, List.find?_cons, here, decide_true, Option.map_some, if_true]
  · simp only [lookup, List.find?_cons, here, decide_false, if_false]

theorem lookup_set (key other : α) (value : β) (dict : List (α × β)) :
    lookup (set key value dict) other = if key = other then some value else lookup dict other := by
  induction dict with
  | nil => rw [set, lookup_cons, lookup_nil]
  | cons entry rest ih =>
      rw [set]
      by_cases here : entry.1 = key
      · rw [if_pos here, lookup_cons, lookup_cons, here]
        by_cases asked : key = other
        · rw [if_pos asked, if_pos asked]
        · rw [if_neg asked, if_neg asked, if_neg asked]
      · rw [if_neg here, lookup_cons, lookup_cons, ih]
        by_cases first : entry.1 = other
        · have apart : ¬ key = other := fun same => here (first.trans same.symm)
          rw [if_pos first, if_neg apart, if_pos first]
        · rw [if_neg first, if_neg first]

theorem lookup_update (entries dict : List (α × β)) (key : α) (other : ∀ entry ∈ entries, entry.1 ≠ key) :
    lookup (update entries dict) key = lookup dict key := by
  induction entries generalizing dict with
  | nil => rfl
  | cons entry rest ih =>
      have apart : ¬ entry.1 = key := other entry List.mem_cons_self
      have later : ∀ entry ∈ rest, entry.1 ≠ key := fun entry member => other entry (List.mem_cons_of_mem _ member)
      exact (ih (set entry.1 entry.2 dict) later).trans ((lookup_set entry.1 key entry.2 dict).trans (if_neg apart))

theorem set_keys (key : α) (value : β) (dict : List (α × β)) (distinct : (dict.map (·.1)).Nodup) :
    ((set key value dict).map (·.1)).Nodup ∧
      ∀ other ∈ (set key value dict).map (·.1), other = key ∨ other ∈ dict.map (·.1) := by
  induction dict with
  | nil => exact ⟨List.nodup_singleton key, fun other member => Or.inl (List.mem_singleton.mp member)⟩
  | cons entry rest ih =>
      rw [List.map_cons, List.nodup_cons] at distinct
      obtain ⟨later, known⟩ := ih distinct.2
      rw [set]
      by_cases here : entry.1 = key
      · rw [if_pos here, List.map_cons, List.nodup_cons]
        refine ⟨⟨here ▸ distinct.1, distinct.2⟩, fun other member => ?_⟩
        exact (List.mem_cons.mp member).imp_right (List.mem_cons_of_mem _)
      · rw [if_neg here, List.map_cons, List.nodup_cons]
        refine ⟨⟨fun again => ?_, later⟩, fun other member => ?_⟩
        · exact (known entry.1 again).elim here distinct.1
        · rcases List.mem_cons.mp member with same | among
          · exact Or.inr (same ▸ List.mem_cons_self)
          · exact (known other among).imp_right (List.mem_cons_of_mem _)

theorem mem_set (key : α) (value : β) (dict : List (α × β)) (entry : α × β) (member : entry ∈ set key value dict) :
    entry = (key, value) ∨ entry ∈ dict := by
  induction dict with
  | nil => exact .inl (List.mem_singleton.mp member)
  | cons first rest ih =>
      rw [set] at member
      by_cases here : first.1 = key
      · rw [if_pos here] at member
        exact (List.mem_cons.mp member).imp_right (List.mem_cons_of_mem first)
      · rw [if_neg here] at member
        rcases List.mem_cons.mp member with isFirst | later
        · exact .inr (isFirst ▸ List.mem_cons_self)
        · exact (ih later).imp_right (List.mem_cons_of_mem first)

theorem lookup_absent (dict : List (α × β)) (key : α) (absent : key ∉ dict.map (·.1)) : lookup dict key = none := by
  induction dict with
  | nil => rfl
  | cons entry rest ih =>
      rw [List.map_cons, List.mem_cons, not_or] at absent
      rw [lookup_cons, if_neg (fun here => absent.1 here.symm)]
      exact ih absent.2

-- With distinct keys, lookup finds exactly the entries.
theorem lookup_mem (dict : List (α × β)) (distinct : (dict.map (·.1)).Nodup) (key : α) (value : β)
    (member : (key, value) ∈ dict) : lookup dict key = some value := by
  induction dict with
  | nil => cases member
  | cons entry rest ih =>
      rw [List.map_cons, List.nodup_cons] at distinct
      rw [lookup_cons]
      cases member with
      | head => rw [if_pos rfl]
      | tail _ later =>
          have apart : ¬ entry.1 = key := by
            intro same
            have again : key ∈ rest.map (·.1) := List.mem_map.mpr ⟨(key, value), later, rfl⟩
            exact distinct.1 (same ▸ again)
          rw [if_neg apart]
          exact ih distinct.2 later

theorem lookup_some_key (dict : List (α × β)) (key : α) (value : β) (found : lookup dict key = some value) :
    key ∈ dict.map (·.1) := by
  by_contra absent
  rw [lookup_absent dict key absent] at found
  cases found

theorem lookup_entry (dict : List (α × β)) (key : α) (value : β) (found : lookup dict key = some value) :
    (key, value) ∈ dict := by
  induction dict with
  | nil => cases found
  | cons entry rest ih =>
      rw [lookup_cons] at found
      by_cases here : entry.1 = key
      · rw [if_pos here] at found
        cases found
        exact here ▸ List.mem_cons_self
      · rw [if_neg here] at found
        exact List.mem_cons_of_mem entry (ih found)

theorem mem_update (entries dict : List (α × β)) (entry : α × β) (member : entry ∈ update entries dict) :
    entry ∈ entries ∨ entry ∈ dict := by
  induction entries generalizing dict with
  | nil => exact .inr member
  | cons first rest ih =>
      rcases ih (set first.1 first.2 dict) member with later | held
      · exact .inl (List.mem_cons_of_mem first later)
      · rcases mem_set first.1 first.2 dict entry held with isFirst | old
        · exact .inl (isFirst ▸ List.mem_cons_self)
        · exact .inr old

theorem lookup_update_known (entries dict : List (α × β)) (key : α) :
    (lookup (update entries dict) key).isSome ↔ key ∈ entries.map (·.1) ∨ (lookup dict key).isSome := by
  induction entries generalizing dict with
  | nil => simp [update]
  | cons entry rest ih =>
      have step : update (entry :: rest) dict = update rest (set entry.1 entry.2 dict) := rfl
      rw [step, ih, lookup_set, List.map_cons, List.mem_cons]
      by_cases here : entry.1 = key
      · simp [here]
      · simp [here, Ne.symm here]

theorem same_iff [DecidableEq β] (first second : List (α × β)) :
    same first second = true ↔ ∀ key, lookup first key = lookup second key := by
  rw [same, List.all_eq_true]
  constructor
  · intro listed key
    by_cases known : key ∈ first.map (·.1) ++ second.map (·.1)
    · exact of_decide_eq_true (listed key known)
    · rw [List.mem_append, not_or] at known
      rw [lookup_absent first key known.1, lookup_absent second key known.2]
  · intro equal key _
    exact decide_eq_true (equal key)

end SasCore.PyDict
