import Mathlib.Data.List.Basic

set_option autoImplicit false

-- A loop over a list that stops at the first item it hits, with a test that may fail: anyM into Except.
namespace SasCore.Scan

variable {α ε : Type} (test : α → Except ε Bool)

theorem any_cons (item : α) (rest : List α) :
    (item :: rest).anyM test = match test item with
      | .error fault => .error fault
      | .ok true => .ok true
      | .ok false => rest.anyM test := by
  rw [List.anyM]
  cases test item with
  | error fault => rfl
  | ok hit => cases hit <;> rfl

-- The loop hits exactly when some item does and no test before it fails.
theorem any_hit_iff (items : List α) :
    items.anyM test = .ok true ↔
      ∃ before item after, items = before ++ item :: after ∧ (∀ earlier ∈ before, ∃ hit, test earlier = .ok hit) ∧
        test item = .ok true := by
  induction items with
  | nil =>
      constructor
      · intro hit
        cases hit
      · rintro ⟨before, item, after, split, _⟩
        exact absurd split (by simp)
  | cons head rest ih =>
      rw [any_cons]
      constructor
      · intro hit
        cases first : test head with
        | error fault =>
            rw [first] at hit
            cases hit
        | ok found =>
            cases found with
            | true => exact ⟨[], head, rest, rfl, fun _ member => absurd member List.not_mem_nil, first⟩
            | false =>
                rw [first] at hit
                obtain ⟨before, item, after, split, tested, isHit⟩ := ih.mp hit
                have alsoHead := List.forall_mem_cons.mpr ⟨⟨false, first⟩, tested⟩
                exact ⟨head :: before, item, after, by rw [split, List.cons_append], alsoHead, isHit⟩
      · rintro ⟨before, item, after, split, tested, isHit⟩
        cases before with
        | nil =>
            obtain ⟨same, _⟩ := List.cons.inj split
            rw [same, isHit]
        | cons other others =>
            obtain ⟨same, isRest⟩ := List.cons.inj split
            obtain ⟨hit, found⟩ := tested other List.mem_cons_self
            have later := ih.mpr ⟨others, item, after, isRest, fun earlier member => tested earlier (List.mem_cons_of_mem other member), isHit⟩
            rw [same, found]
            cases hit with
            | true => rfl
            | false => exact later

theorem any_clear_iff (items : List α) : items.anyM test = .ok false ↔ ∀ item ∈ items, test item = .ok false := by
  induction items with
  | nil => exact iff_of_true rfl fun _ member => absurd member List.not_mem_nil
  | cons head rest ih =>
      rw [any_cons, List.forall_mem_cons, ← ih]
      cases test head with
      | error fault => simp
      | ok found => cases found <;> simp

end SasCore.Scan
