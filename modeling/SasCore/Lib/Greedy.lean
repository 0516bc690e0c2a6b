import SasCore.Lib.Headroom
import Mathlib.Algebra.Order.BigOperators.Group.List
import Mathlib.Data.List.Perm.Subperm
import Mathlib.Data.List.Infix
import Mathlib.Tactic.Abel

set_option autoImplicit false
set_option linter.unusedSectionVars false

namespace SasCore.Greedy

open Headroom

variable {α K : Type}

-- Drops items from the head until the rest is accepted: the dropped items and the rest.
def drops (accepts : List α → Bool) : List α → List α × List α
  | [] => ([], [])
  | item :: rest =>
      if accepts (item :: rest) then ([], item :: rest)
      else (item :: (drops accepts rest).1, (drops accepts rest).2)

section Drops

variable (accepts : List α → Bool)

theorem drops_append (items : List α) : (drops accepts items).1 ++ (drops accepts items).2 = items := by
  induction items with
  | nil => rfl
  | cons item rest ih =>
      simp only [drops]
      split
      · rfl
      · rw [List.cons_append, ih]

theorem drops_map {β : Type} (image : β → α) (items : List β) :
    (drops accepts (items.map image)).1 = (drops (fun rest => accepts (rest.map image)) items).1.map image := by
  induction items with
  | nil => rfl
  | cons item rest ih =>
      simp only [List.map_cons, drops, ih]
      split
      · rfl
      · rfl

theorem drops_rest (items : List α) : (drops accepts items).2 = [] ∨ accepts (drops accepts items).2 = true := by
  induction items with
  | nil => exact Or.inl rfl
  | cons item rest ih =>
      simp only [drops]
      split
      · rename_i accepted
        exact Or.inr accepted
      · exact ih

-- What is left is the longest suffix that is accepted.
theorem drops_longest (items tail : List α) (suffix : tail <:+ items) (accepted : accepts tail = true) :
    tail <:+ (drops accepts items).2 := by
  induction items with
  | nil => exact suffix
  | cons item rest ih =>
      simp only [drops]
      split
      · exact suffix
      · rename_i refused
        rcases List.suffix_cons_iff.mp suffix with whole | inner
        · rw [whole] at accepted
          exact absurd accepted refused
        · exact ih inner

theorem dropped_refused (items front back : List α) (item : α)
    (dropped : (drops accepts items).1 = front ++ item :: back) :
    accepts (item :: (back ++ (drops accepts items).2)) = false := by
  have whole := drops_append accepts items
  rw [dropped, List.append_assoc] at whole
  by_contra accepted
  have suffix : item :: (back ++ (drops accepts items).2) <:+ items := ⟨front, whole⟩
  have inner := drops_longest accepts items _ suffix (Bool.eq_true_of_not_eq_false accepted)
  have length := inner.length_le
  simp only [List.length_cons, List.length_append] at length
  omega

end Drops

section Loads

variable [AddCommMonoid K] (cost : α → K)

theorem load_cons (item : α) (items : List α) : load cost (item :: items) = cost item + load cost items := List.sum_cons

theorem load_concat (first second : List α) : load cost (first ++ second) = load cost first + load cost second := by
  rw [load, List.map_append, List.sum_append]
  rfl

theorem load_perm (first second : List α) (perm : first.Perm second) : load cost first = load cost second :=
  (perm.map cost).sum_eq

variable [LinearOrder K] [IsOrderedAddMonoid K]

theorem load_sublist (nonneg : ∀ item, 0 ≤ cost item) (first second : List α) (sub : first.Sublist second) :
    load cost first ≤ load cost second := by
  apply (sub.map cost).sum_le_sum
  intro value member
  obtain ⟨item, _, same⟩ := List.mem_map.mp member
  rw [← same]
  exact nonneg item

theorem load_subperm (nonneg : ∀ item, 0 ≤ cost item) (first second : List α) (sub : first.Subperm second) :
    load cost first ≤ load cost second := by
  obtain ⟨middle, perm, sublist⟩ := sub
  rw [← load_perm cost middle first perm]
  exact load_sublist cost nonneg middle second sublist

end Loads

theorem last_split (p : α → Bool) (items : List α) (present : ∃ item ∈ items, p item = true) :
    ∃ front item back, items = front ++ item :: back ∧ p item = true ∧ ∀ other ∈ back, p other = false := by
  induction items with
  | nil =>
      obtain ⟨item, member, _⟩ := present
      cases member
  | cons head tail ih =>
      by_cases later : ∃ item ∈ tail, p item = true
      · obtain ⟨front, item, back, same, holds, none⟩ := ih later
        exact ⟨head :: front, item, back, by rw [same]; rfl, holds, none⟩
      · obtain ⟨item, member, holds⟩ := present
        rcases List.mem_cons.mp member with here | there
        · refine ⟨[], head, tail, rfl, here ▸ holds, fun other otherMember => ?_⟩
          exact Bool.eq_false_of_not_eq_true fun otherHolds => later ⟨other, otherMember, otherHolds⟩
        · exact absurd ⟨item, there, holds⟩ later

section Sorting

variable [LinearOrder K] (key : α → K)

-- The largest key first; items of one key stay in their order.
def byKey (items : List α) : List α := items.mergeSort fun a b => decide (key b ≤ key a)

theorem by_key_perm (items : List α) : (byKey key items).Perm items := List.mergeSort_perm items _

theorem by_key_trans (a b c : α) (ab : decide (key b ≤ key a) = true) (bc : decide (key c ≤ key b) = true) :
    decide (key c ≤ key a) = true :=
  decide_eq_true ((of_decide_eq_true bc).trans (of_decide_eq_true ab))

theorem by_key_total (a b : α) : (decide (key b ≤ key a) || decide (key a ≤ key b)) = true := by
  rcases le_total (key b) (key a) with le | le
  · rw [decide_eq_true le, Bool.true_or]
  · rw [decide_eq_true le, Bool.or_true]

theorem by_key_sorted (items : List α) : (byKey key items).Pairwise fun a b => key b ≤ key a :=
  (List.pairwise_mergeSort (by_key_trans key) (by_key_total key) items).imp of_decide_eq_true

theorem by_key_stable (items : List α) (value : K) :
    (byKey key items).filter (fun a => key a = value) = items.filter fun a => key a = value := by
  have level : (items.filter fun a => key a = value).Pairwise fun a b => decide (key b ≤ key a) = true := by
    refine List.Pairwise.imp_of_mem (R := fun _ _ => True) ?_ (List.pairwise_of_forall fun _ _ => trivial)
    intro a b aMember bMember _
    have aValue := of_decide_eq_true (List.mem_filter.mp aMember).2
    have bValue := of_decide_eq_true (List.mem_filter.mp bMember).2
    exact decide_eq_true (le_of_eq (bValue.trans aValue.symm))
  have sub := List.sublist_mergeSort (by_key_trans key) (by_key_total key) level List.filter_sublist
  have inner := sub.filter fun a => decide (key a = value)
  rw [List.filter_filter] at inner
  simp only [Bool.and_self] at inner
  have lengths := ((by_key_perm key items).filter fun a => decide (key a = value)).length_eq
  exact (inner.eq_of_length lengths.symm).symm

theorem by_key_pair (a b : α) (less : key a < key b) : byKey key [a, b] = [b, a] := by
  simp [byKey, List.mergeSort, less]

end Sorting

-- Items that may be dropped, listed before others that may not.
section TwoKinds

variable [AddCommMonoid K] [LinearOrder K] [IsOrderedAddMonoid K]
variable (key cost : α → K) (fits : K → Bool) (isFixed : α → Bool)

def accepted (items : List α) : Bool := fits (load cost items)

-- The fixed items with the movable ones that rank behind one of them.
def shadowed (movable fixed : List α) : List α :=
  fixed ++ movable.filter fun a => fixed.any fun b => decide (key a < key b)

def notAbove (fixed : List α) (item : α) : List α := fixed.filter fun b => decide (key b ≤ key item)

def keptMovable (movable fixed : List α) : List α :=
  (drops (accepted cost fits) (byKey key (movable ++ fixed))).2.filter fun a => !isFixed a

-- What the populations and the acceptance test are assumed to be.
structure Kinds (movable fixed : List α) : Prop where
  movables : ∀ a ∈ movable, isFixed a = false
  fixeds : ∀ b ∈ fixed, isFixed b = true
  nonneg : ∀ a, 0 ≤ cost a
  grows : ∀ a b, key a ≤ key b → cost a ≤ cost b
  antitone : ∀ low high, low ≤ high → fits high = true → fits low = true

variable (movable fixed : List α) (kinds : Kinds key cost fits isFixed movable fixed)

include kinds

theorem accepted_subperm (first second : List α) (sub : first.Subperm second)
    (fine : accepted cost fits second = true) : accepted cost fits first = true :=
  kinds.antitone _ _ (load_subperm cost kinds.nonneg first second sub) fine

theorem accepted_le (first second : List α) (le : load cost first ≤ load cost second)
    (fine : accepted cost fits second = true) : accepted cost fits first = true :=
  kinds.antitone _ _ le fine

theorem filter_fixed : (movable ++ fixed).filter isFixed = fixed := by
  rw [List.filter_append, List.filter_eq_self.mpr kinds.fixeds, List.filter_eq_nil_iff.mpr, List.nil_append]
  intro a member
  rw [kinds.movables a member]
  exact Bool.false_ne_true

theorem filter_movable : (movable ++ fixed).filter (fun a => !isFixed a) = movable := by
  rw [List.filter_append, List.filter_eq_self.mpr, List.filter_eq_nil_iff.mpr, List.append_nil]
  · intro b member
    rw [kinds.fixeds b member]
    decide
  · intro a member
    rw [kinds.movables a member]
    rfl

theorem sorted_fixed : ((byKey key (movable ++ fixed)).filter isFixed).Perm fixed := by
  have perm := (by_key_perm key (movable ++ fixed)).filter isFixed
  rwa [filter_fixed key cost fits isFixed movable fixed kinds] at perm

-- Behind a fixed item a movable one ranks strictly lower: at equal keys the movable items come first.
theorem behind_fixed (front back : List α) (b a : α) (split : byKey key (movable ++ fixed) = front ++ b :: back)
    (bFixed : isFixed b = true) (later : a ∈ back) (aMovable : isFixed a = false) : key a < key b := by
  have sorted := by_key_sorted key (movable ++ fixed)
  rw [split] at sorted
  have le : key a ≤ key b := List.rel_of_pairwise_cons (List.pairwise_append.mp sorted).2.1 later
  refine lt_of_le_of_ne le fun same => ?_
  have pair : [b, a].Sublist (byKey key (movable ++ fixed)) := by
    rw [split]
    exact (((List.singleton_sublist.mpr later).cons_cons b)).trans (List.sublist_append_right front _)
  have level := pair.filter fun c => decide (key c = key b)
  rw [by_key_stable, List.filter_append] at level
  simp only [List.filter_cons, same, decide_true, if_true, List.filter_nil] at level
  obtain ⟨first, second, whole, inMovable, inFixed⟩ := List.sublist_append_iff.mp level
  cases first with
  | nil =>
      have inside : a ∈ fixed.filter fun c => decide (key c = key b) :=
        inFixed.subset (by rw [List.nil_append] at whole; rw [← whole]; exact List.mem_cons_of_mem b List.mem_cons_self)
      have isFixedA := kinds.fixeds a (List.mem_of_mem_filter inside)
      rw [aMovable] at isFixedA
      cases isFixedA
  | cons head tail =>
      have isHead : b = head := by
        rw [List.cons_append] at whole
        exact (List.cons.inj whole).1
      have inside : b ∈ movable.filter fun c => decide (key c = key b) :=
        inMovable.subset (by rw [isHead]; exact List.mem_cons_self)
      have isMovable := kinds.movables b (List.mem_of_mem_filter inside)
      rw [bFixed] at isMovable
      cases isMovable

theorem shadowed_perm :
    ((byKey key (movable ++ fixed)).filter fun a => isFixed a || fixed.any fun b => decide (key a < key b)).Perm
      (shadowed key movable fixed) := by
  refine ((by_key_perm key (movable ++ fixed)).filter _).trans ?_
  rw [List.filter_append, shadowed]
  have all : fixed.filter (fun a => isFixed a || fixed.any fun b => decide (key a < key b)) = fixed := by
    refine List.filter_eq_self.mpr fun b member => ?_
    rw [kinds.fixeds b member, Bool.true_or]
  have some : movable.filter (fun a => isFixed a || fixed.any fun b => decide (key a < key b)) =
      movable.filter fun a => fixed.any fun b => decide (key a < key b) := by
    refine List.filter_congr fun a member => ?_
    rw [kinds.movables a member, Bool.false_or]
  rw [all, some]
  exact List.perm_append_comm

-- A fixed item is dropped only when the shadowed items are too much.
theorem shadowed_keeps_fixed (fine : accepted cost fits (shadowed key movable fixed) = true) (b : α)
    (dropped : b ∈ (drops (accepted cost fits) (byKey key (movable ++ fixed))).1) : isFixed b = false := by
  refine Bool.eq_false_of_not_eq_true fun bFixed => ?_
  obtain ⟨front, back, split⟩ := List.append_of_mem dropped
  have refused := dropped_refused (accepted cost fits) _ front back b split
  have whole := drops_append (accepted cost fits) (byKey key (movable ++ fixed))
  rw [split, List.append_assoc, List.cons_append] at whole
  have inside : b :: (back ++ (drops (accepted cost fits) (byKey key (movable ++ fixed))).2) =
      (b :: (back ++ (drops (accepted cost fits) (byKey key (movable ++ fixed))).2)).filter
        fun a => isFixed a || fixed.any fun c => decide (key a < key c) := by
    refine (List.filter_eq_self.mpr fun a member => ?_).symm
    by_cases aFixed : isFixed a = true
    · rw [aFixed, Bool.true_or]
    · have aMovable := Bool.eq_false_of_not_eq_true aFixed
      rcases List.mem_cons.mp member with here | later
      · rw [here, bFixed, Bool.true_or]
      · have less := behind_fixed key cost fits isFixed movable fixed kinds front _ b a whole.symm bFixed later aMovable
        have bMember : b ∈ fixed := by
          apply (sorted_fixed key cost fits isFixed movable fixed kinds).subset
          exact List.mem_filter.mpr ⟨by rw [← whole]; exact List.mem_append_right _ List.mem_cons_self, bFixed⟩
        rw [aMovable, Bool.false_or, List.any_eq_true]
        exact ⟨b, bMember, decide_eq_true less⟩
  have sub : (b :: (back ++ (drops (accepted cost fits) (byKey key (movable ++ fixed))).2)).Subperm
      (shadowed key movable fixed) := by
    rw [inside]
    refine List.Subperm.trans (List.Sublist.subperm ?_)
      (shadowed_perm key cost fits isFixed movable fixed kinds).subperm
    refine List.Sublist.filter _ ?_
    nth_rewrite 2 [← whole]
    exact List.sublist_append_right _ _
  rw [accepted_subperm key cost fits isFixed movable fixed kinds _ _ sub fine] at refused
  cases refused

theorem kept_movable_perm (none : ∀ b ∈ (drops (accepted cost fits) (byKey key (movable ++ fixed))).1, isFixed b = false) :
    (keptMovable key cost fits isFixed movable fixed ++ fixed).Perm
      (drops (accepted cost fits) (byKey key (movable ++ fixed))).2 := by
  have whole := drops_append (accepted cost fits) (byKey key (movable ++ fixed))
  have fixedKept : ((drops (accepted cost fits) (byKey key (movable ++ fixed))).2.filter isFixed).Perm fixed := by
    have all := sorted_fixed key cost fits isFixed movable fixed kinds
    rw [← whole, List.filter_append, List.filter_eq_nil_iff.mpr, List.nil_append] at all
    · exact all
    · intro b member
      rw [none b member]
      exact Bool.false_ne_true
  exact (fixedKept.symm.append_left _).trans (List.perm_append_comm.trans (List.filter_append_perm isFixed _))

-- What is accepted with the fixed items holds, or nothing movable is kept.
def Respected (left : List α) : Prop := left = [] ∨ accepted cost fits (left ++ fixed) = true

theorem respected_of_shadowed (fine : accepted cost fits (shadowed key movable fixed) = true) :
    Respected cost fits fixed (keptMovable key cost fits isFixed movable fixed) := by
  have none := shadowed_keeps_fixed key cost fits isFixed movable fixed kinds fine
  have perm := kept_movable_perm key cost fits isFixed movable fixed kinds none
  rcases drops_rest (accepted cost fits) (byKey key (movable ++ fixed)) with empty | fits
  · left
    rw [keptMovable, empty]
    rfl
  · exact Or.inr (accepted_subperm key cost _ isFixed movable fixed kinds _ _ perm.subperm fits)

-- A movable item is kept only when it is accepted with the fixed items that do not rank above it.
theorem kept_accepted (a : α) (kept : a ∈ keptMovable key cost fits isFixed movable fixed) :
    accepted cost fits (a :: notAbove key fixed a) = true := by
  obtain ⟨inRest, aMovable⟩ := List.mem_filter.mp kept
  simp only [Bool.not_eq_true'] at aMovable
  obtain ⟨front, back, split⟩ := List.append_of_mem inRest
  have whole := drops_append (accepted cost fits) (byKey key (movable ++ fixed))
  rw [split, ← List.append_assoc] at whole
  have restFine : accepted cost fits (front ++ a :: back) = true := by
    rcases drops_rest (accepted cost fits) (byKey key (movable ++ fixed)) with empty | fine
    · rw [split] at empty
      exact absurd empty (List.append_ne_nil_of_right_ne_nil front (List.cons_ne_nil a back))
    · rw [← split]
      exact fine
  have behind : ((byKey key (movable ++ fixed)).filter fun b => isFixed b && decide (key b ≤ key a)).Perm
      (notAbove key fixed a) := by
    have perm := (sorted_fixed key cost fits isFixed movable fixed kinds).filter fun b => decide (key b ≤ key a)
    rw [List.filter_filter] at perm
    simpa only [Bool.and_comm, notAbove] using perm
  have inBack : ((byKey key (movable ++ fixed)).filter fun b => isFixed b && decide (key b ≤ key a)).Sublist back := by
    rw [← whole, List.filter_append, List.filter_eq_nil_iff.mpr, List.nil_append, List.filter_cons, aMovable]
    · exact List.filter_sublist
    · intro b member
      simp only [Bool.and_eq_true, decide_eq_true_eq, not_and, not_le]
      intro bFixed
      obtain ⟨before, after, place⟩ := List.append_of_mem member
      rw [place, List.append_assoc, List.cons_append] at whole
      exact behind_fixed key cost fits isFixed movable fixed kinds before (after ++ a :: back) b a whole.symm bFixed
        (List.mem_append_right _ List.mem_cons_self) aMovable
  have sub : (a :: notAbove key fixed a).Subperm (front ++ a :: back) := by
    have inner : (notAbove key fixed a).Subperm back := (behind.symm.subperm).trans inBack.subperm
    exact ((List.subperm_cons a).mpr inner).trans (List.sublist_append_right front _).subperm
  exact accepted_subperm key cost fits isFixed movable fixed kinds _ _ sub restFine

theorem last_movable_kept (a : α) (member : a ∈ movable) (fine : accepted cost fits (a :: notAbove key fixed a) = true) :
    keptMovable key cost fits isFixed movable fixed ≠ [] := by
  have inSorted : a ∈ byKey key (movable ++ fixed) :=
    (by_key_perm key (movable ++ fixed)).mem_iff.mpr (List.mem_append_left _ member)
  obtain ⟨front, last, back, split, lastMovable, fixedBack⟩ := last_split (fun b => !isFixed b) (byKey key (movable ++ fixed))
    ⟨a, inSorted, by rw [kinds.movables a member]; rfl⟩
  have sorted := by_key_sorted key (movable ++ fixed)
  rw [split] at sorted inSorted
  obtain ⟨_, tailSorted, across⟩ := List.pairwise_append.mp sorted
  have lastLe : key last ≤ key a := by
    rcases List.mem_append.mp inSorted with before | here
    · exact across a before last List.mem_cons_self
    · rcases List.mem_cons.mp here with same | behind
      · rw [same]
      · have isFixedA := fixedBack a behind
        rw [kinds.movables a member] at isFixedA
        cases isFixedA
  have backFixed : back.filter (fun b => isFixed b && decide (key b ≤ key a)) = back := by
    refine List.filter_eq_self.mpr fun b bMember => ?_
    have bFixed := fixedBack b bMember
    simp only [Bool.not_eq_false'] at bFixed
    rw [bFixed, Bool.true_and]
    exact decide_eq_true ((List.rel_of_pairwise_cons tailSorted bMember).trans lastLe)
  have backSub : back.Subperm (notAbove key fixed a) := by
    have perm := (sorted_fixed key cost fits isFixed movable fixed kinds).filter fun b => decide (key b ≤ key a)
    rw [List.filter_filter] at perm
    refine List.Subperm.trans (List.Sublist.subperm ?_) perm.subperm
    simp only [Bool.and_comm _ (isFixed _)]
    rw [← backFixed, split]
    exact ((List.sublist_cons_self last back).trans (List.sublist_append_right front _)).filter _
  have loads : load cost (last :: back) ≤ load cost (a :: notAbove key fixed a) := by
    rw [load_cons, load_cons]
    exact add_le_add (kinds.grows last a lastLe) (load_subperm cost kinds.nonneg _ _ backSub)
  have tailFine := accepted_le key cost fits isFixed movable fixed kinds _ _ loads fine
  have kept := drops_longest (accepted cost fits) (byKey key (movable ++ fixed)) (last :: back)
    ⟨front, split.symm⟩ tailFine
  have inRest := kept.subset List.mem_cons_self
  exact List.ne_nil_of_mem (List.mem_filter.mpr ⟨inRest, lastMovable⟩)

theorem fixed_dropped_of_refused (refused : accepted cost fits (shadowed key movable fixed) = false)
    (someKept : keptMovable key cost fits isFixed movable fixed ≠ []) :
    ∃ b ∈ (drops (accepted cost fits) (byKey key (movable ++ fixed))).1, isFixed b = true := by
  by_contra noFixed
  have none : ∀ b ∈ (drops (accepted cost fits) (byKey key (movable ++ fixed))).1, isFixed b = false := fun b member =>
    Bool.eq_false_of_not_eq_true fun bFixed => noFixed ⟨b, member, bFixed⟩
  have whole := drops_append (accepted cost fits) (byKey key (movable ++ fixed))
  have sorted := by_key_sorted key (movable ++ fixed)
  rw [← whole] at sorted
  have across := (List.pairwise_append.mp sorted).2.2
  have shadowedKept : (shadowed key movable fixed).Subperm
      (drops (accepted cost fits) (byKey key (movable ++ fixed))).2 := by
    refine (shadowed_perm key cost fits isFixed movable fixed kinds).symm.subperm.trans (List.Sublist.subperm ?_)
    nth_rewrite 1 [← whole]
    rw [List.filter_append, List.filter_eq_nil_iff.mpr, List.nil_append]
    · exact List.filter_sublist
    · intro a member
      rw [none a member, Bool.false_or, Bool.not_eq_true, List.any_eq_false]
      intro b bMember
      rw [decide_eq_true_eq, not_lt]
      have bFixed := kinds.fixeds b bMember
      have inSorted : b ∈ byKey key (movable ++ fixed) :=
        (by_key_perm key (movable ++ fixed)).mem_iff.mpr (List.mem_append_right _ bMember)
      rw [← whole] at inSorted
      rcases List.mem_append.mp inSorted with dropped | kept
      · rw [none b dropped] at bFixed
        cases bFixed
      · exact across a member b kept
  rcases drops_rest (accepted cost fits) (byKey key (movable ++ fixed)) with empty | fine
  · apply someKept
    rw [keptMovable, empty]
    rfl
  · rw [accepted_subperm key cost fits isFixed movable fixed kinds _ _ shadowedKept fine] at refused
    cases refused

theorem dropped_fixed_overloads (b : α) (bFixed : isFixed b = true)
    (dropped : b ∈ (drops (accepted cost fits) (byKey key (movable ++ fixed))).1) :
    accepted cost fits (keptMovable key cost fits isFixed movable fixed ++ fixed) = false := by
  have whole := drops_append (accepted cost fits) (byKey key (movable ++ fixed))
  have sorted := by_key_sorted key (movable ++ fixed)
  rw [← whole] at sorted
  have dropsSorted := (List.pairwise_append.mp sorted).1
  obtain ⟨front, last, split⟩ : ∃ front last,
      (drops (accepted cost fits) (byKey key (movable ++ fixed))).1 = front ++ [last] := by
    obtain ⟨front, last, same⟩ := (List.eq_nil_or_concat _).resolve_left (List.ne_nil_of_mem dropped)
    exact ⟨front, last, by rw [same, List.concat_eq_append]⟩
  have refused := dropped_refused (accepted cost fits) _ front [] last split
  rw [List.nil_append] at refused
  have lastLe : key last ≤ key b := by
    rw [split] at dropped dropsSorted
    rcases List.mem_append.mp dropped with before | here
    · exact (List.pairwise_append.mp dropsSorted).2.2 b before last List.mem_cons_self
    · rw [List.mem_singleton.mp here]
  have fixedPerm := sorted_fixed key cost fits isFixed movable fixed kinds
  rw [← whole, List.filter_append] at fixedPerm
  have loads : load cost (last :: (drops (accepted cost fits) (byKey key (movable ++ fixed))).2) ≤
      load cost (keptMovable key cost fits isFixed movable fixed ++ fixed) := by
    have rest := load_perm cost _ _
      (List.filter_append_perm isFixed (drops (accepted cost fits) (byKey key (movable ++ fixed))).2)
    rw [load_concat] at rest
    have inDropped : cost b ≤ load cost ((drops (accepted cost fits) (byKey key (movable ++ fixed))).1.filter isFixed) := by
      have sub := List.singleton_sublist.mpr (List.mem_filter.mpr ⟨dropped, bFixed⟩)
      have le := load_sublist cost kinds.nonneg _ _ sub
      rw [load_cons] at le
      simpa only [load, List.map_nil, List.sum_nil, add_zero] using le
    rw [load_cons, load_concat, ← load_perm cost _ _ fixedPerm, load_concat, ← rest, keptMovable]
    calc cost last + (load cost ((drops (accepted cost fits) (byKey key (movable ++ fixed))).2.filter isFixed) +
          load cost ((drops (accepted cost fits) (byKey key (movable ++ fixed))).2.filter fun a => !isFixed a))
        ≤ load cost ((drops (accepted cost fits) (byKey key (movable ++ fixed))).1.filter isFixed) +
          (load cost ((drops (accepted cost fits) (byKey key (movable ++ fixed))).2.filter isFixed) +
          load cost ((drops (accepted cost fits) (byKey key (movable ++ fixed))).2.filter fun a => !isFixed a)) :=
          add_le_add_left ((kinds.grows last b lastLe).trans inDropped) _
      _ = _ := by abel
  refine Bool.eq_false_of_not_eq_true fun fine => ?_
  rw [accepted_le key cost fits isFixed movable fixed kinds _ _ loads fine] at refused
  cases refused

-- When what is kept of the movable items is accepted together with all fixed ones.
theorem respected_iff :
    Respected cost fits fixed (keptMovable key cost fits isFixed movable fixed) ↔
      accepted cost fits (shadowed key movable fixed) = true ∨
        ∀ a ∈ movable, accepted cost fits (a :: notAbove key fixed a) = false := by
  constructor
  · intro respected
    by_contra neither
    rw [not_or] at neither
    obtain ⟨refused, some⟩ := neither
    simp only [not_forall, Bool.not_eq_false] at some
    obtain ⟨a, member, fine⟩ := some
    have someKept := last_movable_kept key cost fits isFixed movable fixed kinds a member fine
    obtain ⟨b, dropped, bFixed⟩ := fixed_dropped_of_refused key cost fits isFixed movable fixed kinds
      (Bool.eq_false_of_not_eq_true refused) someKept
    have beyond := dropped_fixed_overloads key cost fits isFixed movable fixed kinds b bFixed dropped
    rcases respected with empty | fine
    · exact someKept empty
    · rw [beyond] at fine
      cases fine
  · rintro (fine | none)
    · exact respected_of_shadowed key cost fits isFixed movable fixed kinds fine
    · left
      refine List.eq_nil_iff_forall_not_mem.mpr fun a kept => ?_
      have fine := kept_accepted key cost fits isFixed movable fixed kinds a kept
      have member : a ∈ movable := by
        obtain ⟨inRest, aMovable⟩ := List.mem_filter.mp kept
        have inSorted : a ∈ byKey key (movable ++ fixed) := by
          rw [← drops_append (accepted cost fits) (byKey key (movable ++ fixed))]
          exact List.mem_append_right _ inRest
        rcases List.mem_append.mp ((by_key_perm key (movable ++ fixed)).mem_iff.mp inSorted) with isMovable | isFixedA
        · exact isMovable
        · rw [kinds.fixeds a isFixedA] at aMovable
          cases aMovable
      rw [none a member] at fine
      cases fine

end TwoKinds

-- Largest first, no other choice of the items that go is shorter.
section Fewest

variable [AddCommMonoid K] [LinearOrder K] [IsOrderedAddMonoid K] (cost : α → K) (fits : K → Bool)

theorem last_lightest (items rest : List α) (sub : rest.Sublist items)
    (sorted : items.Pairwise fun a b => cost b ≤ cost a) :
    load cost (items.drop (items.length - rest.length)) ≤ load cost rest := by
  induction sub with
  | slnil => exact le_refl _
  | cons item inner ih =>
      rename_i rest items
      have lengths := inner.length_le
      have skip : (item :: items).length - rest.length = (items.length - rest.length) + 1 := by
        rw [List.length_cons]
        omega
      rw [skip, List.drop_succ_cons]
      exact ih sorted.of_cons
  | cons_cons item inner ih =>
      rename_i rest items
      have tails := ih sorted.of_cons
      have lengths := inner.length_le
      rw [List.length_cons, List.length_cons, Nat.add_sub_add_right, load_cons]
      cases gap : items.length - rest.length with
      | zero =>
          rw [gap, List.drop_zero] at tails
          rw [List.drop_zero, load_cons]
          exact add_le_add le_rfl tails
      | succ skipped =>
          have inside : skipped < items.length := by omega
          rw [gap] at tails
          rw [List.drop_succ_cons, List.drop_eq_getElem_cons inside, load_cons]
          exact add_le_add (List.rel_of_pairwise_cons sorted (List.getElem_mem inside)) tails

theorem drops_fewest (antitone : ∀ low high, low ≤ high → fits high = true → fits low = true)
    (items other rest : List α) (sorted : items.Pairwise fun a b => cost b ≤ cost a)
    (whole : (other ++ rest).Perm items) (fine : accepted cost fits rest = true) :
    (drops (accepted cost fits) items).1.length ≤ other.length := by
  have subperm : rest.Subperm items := (List.sublist_append_right other rest).subperm.trans whole.subperm
  obtain ⟨chosen, perm, sub⟩ := subperm
  have light := last_lightest cost items chosen sub sorted
  rw [load_perm cost chosen rest perm] at light
  have tailFine : accepted cost fits (items.drop (items.length - chosen.length)) = true := antitone _ _ light fine
  have inner := (drops_longest (accepted cost fits) items _ (List.drop_suffix _ items) tailFine).length_le
  have lengths := whole.length_eq
  have parts := congrArg List.length (drops_append (accepted cost fits) items)
  rw [List.length_append] at lengths parts
  rw [List.length_drop, perm.length_eq] at inner
  omega

theorem dropped_largest (items : List α) (sorted : items.Pairwise fun a b => cost b ≤ cost a) (accepts : List α → Bool)
    (moved left : α) (isMoved : moved ∈ (drops accepts items).1) (isLeft : left ∈ (drops accepts items).2) :
    cost left ≤ cost moved := by
  rw [← drops_append accepts items] at sorted
  exact (List.pairwise_append.mp sorted).2.2 moved isMoved left isLeft

theorem drops_nil_iff (accepts : List α → Bool) (empty : accepts [] = true) (items : List α) :
    (drops accepts items).1 = [] ↔ accepts items = true := by
  cases items with
  | nil => exact iff_of_true rfl empty
  | cons item rest =>
      simp only [drops]
      split
      · rename_i fine
        exact iff_of_true rfl fine
      · rename_i refused
        exact iff_of_false (List.cons_ne_nil _ _) refused

end Fewest

end SasCore.Greedy
