import Mathlib.Data.List.Basic

set_option autoImplicit false

-- Reading every item of a list with a reader that may fail: mapM into Option.
namespace SasCore.Collect

variable {α β : Type} (f : α → Option β)

theorem cons_some (item : α) (rest : List α) (results : List β) (all : (item :: rest).mapM f = some results) :
    ∃ first others, f item = some first ∧ rest.mapM f = some others ∧ results = first :: others := by
  rw [List.mapM_cons] at all
  obtain ⟨first, firstFound, tail⟩ := Option.bind_eq_some_iff.mp all
  obtain ⟨others, othersFound, same⟩ := Option.bind_eq_some_iff.mp tail
  cases same
  exact ⟨first, others, firstFound, othersFound, rfl⟩

theorem all_found (h : α → β) (items : List α) (each : ∀ a ∈ items, f a = some (h a)) :
    items.mapM f = some (items.map h) := by
  induction items with
  | nil => rfl
  | cons item rest ih =>
      rw [List.mapM_cons, each item List.mem_cons_self, ih fun a member => each a (List.mem_cons_of_mem item member)]
      rfl

theorem one_missing (items : List α) (item : α) (member : item ∈ items) (raises : f item = none) :
    items.mapM f = none := by
  induction items with
  | nil => cases member
  | cons head tail ih =>
      rw [List.mapM_cons]
      rcases List.mem_cons.mp member with here | later
      · rw [← here, raises]
        rfl
      · rw [ih later]
        cases f head with
        | none => rfl
        | some value => rfl

-- Every result was read from an item, and every item was read into a result.
theorem mem_source (items : List α) (results : List β) (all : items.mapM f = some results) (result : β)
    (member : result ∈ results) : ∃ item ∈ items, f item = some result := by
  induction items generalizing results with
  | nil =>
      rw [List.mapM_nil] at all
      cases all
      cases member
  | cons item rest ih =>
      obtain ⟨first, others, firstFound, othersFound, same⟩ := cons_some f item rest results all
      rw [same] at member
      rcases List.mem_cons.mp member with here | later
      · exact ⟨item, List.mem_cons_self, here ▸ firstFound⟩
      · obtain ⟨source, sourceMember, found⟩ := ih others othersFound later
        exact ⟨source, List.mem_cons_of_mem item sourceMember, found⟩

theorem mem_result (items : List α) (results : List β) (all : items.mapM f = some results) (item : α)
    (member : item ∈ items) : ∃ result ∈ results, f item = some result := by
  induction items generalizing results with
  | nil => cases member
  | cons head rest ih =>
      obtain ⟨first, others, firstFound, othersFound, same⟩ := cons_some f head rest results all
      rw [same]
      rcases List.mem_cons.mp member with here | later
      · exact ⟨first, List.mem_cons_self, here ▸ firstFound⟩
      · obtain ⟨result, resultMember, found⟩ := ih others othersFound later
        exact ⟨result, List.mem_cons_of_mem first resultMember, found⟩

-- Items that keep their key when they are converted keep the order of their keys.
theorem keys_sublist {κ : Type} (key : α → κ) (resultKey : β → κ)
    (same : ∀ item result, f item = some result → resultKey result = key item) (items : List α) :
    ((items.filterMap f).map resultKey).Sublist (items.map key) := by
  induction items with
  | nil => exact List.Sublist.refl _
  | cons item rest ih =>
      rw [List.map_cons]
      cases found : f item with
      | none =>
          rw [List.filterMap_cons_none found]
          exact ih.cons _
      | some result =>
          rw [List.filterMap_cons_some found, List.map_cons, same item result found]
          exact ih.cons_cons _

-- With exceptions in place of missing results.
theorem map_ok {ε γ : Type} (g : γ → β) (ran : Except ε γ) (result : β) (done : ran.map g = .ok result) :
    ∃ value, ran = .ok value ∧ g value = result := by
  cases ran with
  | error error => cases done
  | ok value =>
      cases done
      exact ⟨value, rfl, rfl⟩

theorem bind_ok {ε γ : Type} (ran : Except ε γ) (next : γ → Except ε β) (result : β) (done : ran >>= next = .ok result) :
    ∃ value, ran = .ok value ∧ next value = .ok result := by
  cases ran with
  | error error => cases done
  | ok value => exact ⟨value, rfl, done⟩

theorem all_ok {ε : Type} (g : α → Except ε β) (items : List α) (results : List β) (all : items.mapM g = .ok results) :
    items.map g = results.map .ok := by
  induction items generalizing results with
  | nil =>
      cases all
      rfl
  | cons item rest ih =>
      rw [List.mapM_cons] at all
      cases first : g item with
      | error fault =>
          rw [first] at all
          cases all
      | ok result =>
          cases others : rest.mapM g with
          | error fault =>
              rw [first, others] at all
              cases all
          | ok found =>
              rw [first, others] at all
              cases all
              rw [List.map_cons, List.map_cons, first, ih found others]

theorem each_ok {ε : Type} (g : α → Except ε β) (h : α → β) (items : List α) (each : ∀ a ∈ items, g a = .ok (h a)) :
    items.mapM g = .ok (items.map h) := by
  induction items with
  | nil => rfl
  | cons item rest ih =>
      rw [List.mapM_cons, each item List.mem_cons_self, ih fun a member => each a (List.mem_cons_of_mem item member)]
      rfl

theorem ok_source {ε : Type} (g : α → Except ε β) (items : List α) (results : List β) (all : items.mapM g = .ok results)
    (result : β) (member : result ∈ results) : ∃ item ∈ items, g item = .ok result := by
  have listed : (.ok result : Except ε β) ∈ items.map g := by
    rw [all_ok g items results all]
    exact List.mem_map_of_mem member
  obtain ⟨item, itemMember, same⟩ := List.mem_map.mp listed
  exact ⟨item, itemMember, same⟩

theorem ok_result {ε : Type} (g : α → Except ε β) (items : List α) (results : List β) (all : items.mapM g = .ok results)
    (item : α) (member : item ∈ items) : ∃ result ∈ results, g item = .ok result := by
  have listed : g item ∈ results.map (.ok : β → Except ε β) := by
    rw [← all_ok g items results all]
    exact List.mem_map_of_mem member
  obtain ⟨result, resultMember, same⟩ := List.mem_map.mp listed
  exact ⟨result, resultMember, same.symm⟩

theorem ok_values {ε : Type} [Inhabited β] (g : α → Except ε β) (items : List α) (results : List β)
    (all : items.mapM g = .ok results) :
    results = items.map (fun item => (g item).toOption.getD default) ∧
      ∀ item ∈ items, g item = .ok ((g item).toOption.getD default) := by
  have each : ∀ item ∈ items, g item = .ok ((g item).toOption.getD default) := by
    intro item member
    obtain ⟨result, _, isResult⟩ := ok_result g items results all item member
    rw [isResult]
    rfl
  refine ⟨?_, each⟩
  have again := each_ok g (fun item => (g item).toOption.getD default) items each
  exact Except.ok.inj (all.symm.trans again)

theorem ok_perm {ε : Type} [Inhabited β] (g : α → Except ε β) (items others : List α) (results : List β)
    (perm : items.Perm others) (all : items.mapM g = .ok results) :
    ∃ found, others.mapM g = .ok found ∧ results.Perm found := by
  obtain ⟨same, each⟩ := ok_values g items results all
  refine ⟨_, each_ok g _ others fun item member => each item (perm.mem_iff.mpr member), ?_⟩
  rw [same]
  exact perm.map _

end SasCore.Collect
