import Mathlib.Data.List.Perm.Basic
import Mathlib.Order.BoundedOrder.Basic
import Mathlib.Order.MinMax

set_option autoImplicit false

namespace SasCore.Skim

variable {α β : Type} [LinearOrder β] (value : α → β)

def least (best : β) (items : List α) : β := items.foldl (fun smallest item => min smallest (value item)) best

variable (skips : α → β → Bool)

-- Looks for the smallest value and passes over items by what was found before them.
def skim (best : β) : List α → β
  | [] => best
  | item :: rest => if skips item best then skim best rest else skim (min best (value item)) rest

-- The items that are looked at.
def looked (best : β) : List α → List α
  | [] => []
  | item :: rest => if skips item best then looked best rest else item :: looked (min best (value item)) rest

section Least

theorem least_le (items : List α) (best bound : β) :
    least value best items ≤ bound ↔ best ≤ bound ∨ ∃ item ∈ items, value item ≤ bound := by
  induction items generalizing best with
  | nil => simp [least]
  | cons item rest ih =>
      rw [least, List.foldl_cons, ← least, ih, min_le_iff]
      simp only [List.mem_cons, exists_eq_or_imp, or_assoc]

theorem least_perm (first second : List α) (perm : first.Perm second) (best : β) :
    least value best first = least value best second := by
  refine le_antisymm ?_ ?_
  · rw [least_le]
    rcases (least_le value second best _).mp le_rfl with low | ⟨item, member, low⟩
    · exact Or.inl low
    · exact Or.inr ⟨item, perm.mem_iff.mpr member, low⟩
  · rw [least_le]
    rcases (least_le value first best _).mp le_rfl with low | ⟨item, member, low⟩
    · exact Or.inl low
    · exact Or.inr ⟨item, perm.mem_iff.mp member, low⟩

end Least

section Runs

theorem skim_looked (items : List α) (best : β) : skim value skips best items = least value best (looked value skips best items) := by
  induction items generalizing best with
  | nil => rfl
  | cons item rest ih =>
      rw [skim, looked]
      split
      · exact ih best
      · rw [ih, least, least, List.foldl_cons]

theorem looked_sublist (items : List α) (best : β) : (looked value skips best items).Sublist items := by
  induction items generalizing best with
  | nil => exact List.Sublist.refl _
  | cons item rest ih =>
      rw [looked]
      split
      · exact (ih best).cons item
      · exact (ih _).cons_cons item

theorem skim_le_start (items : List α) (best : β) : skim value skips best items ≤ best := by
  rw [skim_looked]
  exact (least_le value _ best best).mpr (Or.inl le_rfl)

theorem least_le_skim (items : List α) (best : β) : least value best items ≤ skim value skips best items := by
  rw [least_le, skim_looked]
  rcases (least_le value (looked value skips best items) best _).mp le_rfl with low | ⟨item, member, low⟩
  · exact Or.inl low
  · exact Or.inr ⟨item, (looked_sublist value skips items best).subset member, low⟩

-- The search is exact when every item is matched by one that is looked at.
theorem skim_exact_iff (items : List α) (best : β) :
    skim value skips best items = least value best items ↔
      ∀ item ∈ items, best ≤ value item ∨ ∃ seen ∈ looked value skips best items, value seen ≤ value item := by
  constructor
  · intro same item member
    have low : skim value skips best items ≤ value item := by
      rw [same, least_le]
      exact Or.inr ⟨item, member, le_rfl⟩
    rwa [skim_looked, least_le] at low
  · intro matched
    refine le_antisymm ?_ (least_le_skim value skips items best)
    rw [skim_looked, least_le]
    rcases (least_le value items best _).mp le_rfl with low | ⟨item, member, low⟩
    · exact Or.inl low
    · rcases matched item member with start | ⟨seen, inside, le⟩
      · exact Or.inl (start.trans low)
      · exact Or.inr ⟨seen, inside, le.trans low⟩

theorem skim_zero (items : List α) (bottom : β) (below : ∀ item ∈ items, bottom ≤ value item) :
    skim value skips bottom items = bottom := by
  refine le_antisymm (skim_le_start value skips items bottom) ?_
  rw [skim_looked]
  rcases (least_le value (looked value skips bottom items) bottom _).mp le_rfl with low | ⟨item, member, low⟩
  · exact low
  · exact (below item ((looked_sublist value skips items bottom).subset member)).trans low

variable (antitone : ∀ item low high, low ≤ high → skips item high = true → skips item low = true)

include antitone in
-- What would not be passed over at the end was not passed over on the way.
theorem skim_le_unskipped (items : List α) (best : β) (item : α) (member : item ∈ items)
    (stays : skips item (skim value skips best items) = false) : skim value skips best items ≤ value item := by
  induction items generalizing best with
  | nil => cases member
  | cons head rest ih =>
      rw [skim] at stays ⊢
      by_cases skipped : skips head best = true
      · rw [if_pos skipped] at stays ⊢
        rcases List.mem_cons.mp member with here | later
        · rw [here, antitone head _ best (skim_le_start value skips rest best) skipped] at stays
          cases stays
        · exact ih best later stays
      · rw [if_neg skipped] at stays ⊢
        rcases List.mem_cons.mp member with here | later
        · rw [here]
          exact (skim_le_start value skips rest _).trans (min_le_right _ _)
        · exact ih _ later stays

theorem skim_all_skipped (items : List α) (best : β) (skipped : ∀ item ∈ items, skips item best = true) :
    skim value skips best items = best := by
  induction items with
  | nil => rfl
  | cons item rest ih =>
      rw [skim, if_pos (skipped item List.mem_cons_self)]
      exact ih fun other member => skipped other (List.mem_cons_of_mem item member)

theorem skim_append (first second : List α) (best : β) :
    skim value skips best (first ++ second) = skim value skips (skim value skips best first) second := by
  induction first generalizing best with
  | nil => rfl
  | cons item rest ih =>
      rw [List.cons_append, skim, skim]
      split
      · exact ih best
      · exact ih _

variable [OrderTop β]

include antitone in
-- Every order of the items gives the smallest value exactly when each larger value
-- leaves some item of the smallest value to be looked at.
theorem skim_orders_iff (fresh : ∀ item, skips item ⊤ = false) (items : List α) :
    (∀ order : List α, order.Perm items → skim value skips ⊤ order = least value ⊤ items) ↔
      ∀ other ∈ items, least value ⊤ items < value other →
        ∃ nearest ∈ items, value nearest = least value ⊤ items ∧ skips nearest (value other) = false := by
  constructor
  · intro exact other member larger
    by_contra blocked
    obtain ⟨front, back, split⟩ := List.append_of_mem member
    let smallest : α → Bool := fun item => decide (value item ≤ least value ⊤ items)
    let rest := front ++ back
    have perm : (other :: (rest.filter smallest ++ rest.filter fun item => !smallest item)).Perm items := by
      rw [split]
      exact ((List.filter_append_perm smallest rest).cons other).trans List.perm_middle.symm
    have wrong := exact _ perm
    have inside : ∀ item ∈ rest, item ∈ items := by
      intro item inRest
      rw [split]
      rcases List.mem_append.mp inRest with inFront | inBack
      · exact List.mem_append_left _ inFront
      · exact List.mem_append_right _ (List.mem_cons_of_mem other inBack)
    have skipped : ∀ item ∈ rest.filter smallest, skips item (value other) = true := by
      intro item chosen
      obtain ⟨inRest, low⟩ := List.mem_filter.mp chosen
      have known := inside item inRest
      have equal : value item = least value ⊤ items :=
        le_antisymm (of_decide_eq_true low) ((least_le value items ⊤ _).mpr (Or.inr ⟨item, known, le_rfl⟩))
      by_contra stays
      exact blocked ⟨item, known, equal, (Bool.not_eq_true _).mp stays⟩
    rw [skim, if_neg (by rw [fresh]; exact Bool.false_ne_true), min_eq_right le_top, skim_append,
      skim_all_skipped value skips _ _ skipped, skim_looked] at wrong
    rcases (least_le value _ (value other) _).mp (le_of_eq wrong) with low | ⟨item, seen, low⟩
    · exact absurd low (not_le.mpr larger)
    · have chosen := (looked_sublist value skips _ _).subset seen
      have high := (List.mem_filter.mp chosen).2
      rw [show smallest item = true from decide_eq_true low] at high
      cases high
  · intro unblocked order perm
    rw [← least_perm value order items perm]
    refine le_antisymm ?_ (least_le_skim value skips order ⊤)
    by_contra above
    rw [not_le, least_perm value order items perm] at above
    obtain ⟨other, member, same⟩ : ∃ other ∈ order, value other = skim value skips ⊤ order := by
      have ending := skim_looked value skips order ⊤
      rcases (least_le value (looked value skips ⊤ order) ⊤ _).mp ending.symm.le with start | ⟨item, seen, low⟩
      · cases order with
        | nil =>
            rw [← least_perm value [] items perm] at above
            exact absurd above (lt_irrefl _)
        | cons first rest =>
            have firstLow : skim value skips ⊤ (first :: rest) ≤ value first := by
              rw [skim, if_neg (by rw [fresh]; exact Bool.false_ne_true)]
              exact (skim_le_start value skips rest _).trans (min_le_right _ _)
            exact ⟨first, List.mem_cons_self, le_antisymm (le_top.trans start) firstLow⟩
      · refine ⟨item, (looked_sublist value skips order ⊤).subset seen, le_antisymm low ?_⟩
        rw [ending, least_le]
        exact Or.inr ⟨item, seen, le_rfl⟩
    rw [← same] at above
    obtain ⟨nearest, inside, lowest, stays⟩ := unblocked other (perm.mem_iff.mp member) above
    rw [same] at stays
    have low := skim_le_unskipped value skips antitone order ⊤ nearest (perm.mem_iff.mpr inside) stays
    rw [← same, lowest] at low
    exact absurd low (not_le.mpr above)

end Runs

end SasCore.Skim
