import Mathlib.Order.Interval.Set.Basic
import Mathlib.Order.CompletePartialOrder
import Mathlib.Data.Set.BooleanAlgebra

set_option autoImplicit false

namespace SasCore.Ranges

variable {α β : Type} [Preorder α]

-- A range is half open, and a list of ranges stands for the points of all of them.
def span (range : α × α) : Set α := Set.Ico range.1 range.2

def points (ranges : List (α × α)) : Set α := {point | ∃ range ∈ ranges, point ∈ span range}

def Apart (first second : α × α) : Prop := Disjoint (span first) (span second)

theorem mem_span (range : α × α) (point : α) : point ∈ span range ↔ range.1 ≤ point ∧ point < range.2 := Iff.rfl

theorem points_nil : points ([] : List (α × α)) = ∅ := by
  ext point
  simp [points]

theorem points_cons (range : α × α) (rest : List (α × α)) : points (range :: rest) = span range ∪ points rest := by
  ext point
  simp [points]

theorem points_append (first second : List (α × α)) : points (first ++ second) = points first ∪ points second := by
  ext point
  simp only [points, List.mem_append, Set.mem_ofPred_eq, Set.mem_union, or_and_right, exists_or]

theorem points_perm (first second : List (α × α)) (perm : first.Perm second) : points first = points second := by
  ext point
  exact exists_congr fun range => and_congr_left fun _ => perm.mem_iff

theorem apart_symm (first second : α × α) (apart : Apart first second) : Apart second first := Disjoint.symm apart

theorem apart_within (first second outerFirst outerSecond : α × α) (inFirst : span first ⊆ span outerFirst)
    (inSecond : span second ⊆ span outerSecond) (apart : Apart outerFirst outerSecond) : Apart first second :=
  Set.disjoint_of_subset inFirst inSecond apart

theorem apart_ordered (first second : α × α) (ordered : first.2 ≤ second.1) : Apart first second := by
  rw [Apart, Set.disjoint_left]
  intro point inFirst inSecond
  exact absurd (inFirst.2.trans_le (ordered.trans inSecond.1)) (lt_irrefl point)

-- A cut replaces a range by pieces apart from each other that hold its points in a fixed set.
structure Cuts (cut : α × α → List (α × α)) (kept : Set α) : Prop where
  exact : ∀ range, points (cut range) = span range ∩ kept
  apart : ∀ range, (cut range).Pairwise Apart

section Cutting

variable (cut : α × α → List (α × α)) (kept : Set α)

theorem cut_points (exact : ∀ range, points (cut range) = span range ∩ kept) (ranges : List (α × α)) :
    points (ranges.flatMap cut) = points ranges ∩ kept := by
  induction ranges with
  | nil => rw [List.flatMap_nil, points_nil, Set.empty_inter]
  | cons range rest ih =>
      rw [List.flatMap_cons, points_append, points_cons, exact, ih, Set.union_inter_distrib_right]

theorem piece_within (exact : ∀ range, points (cut range) = span range ∩ kept) (range piece : α × α) (member : piece ∈ cut range) :
    span piece ⊆ span range := by
  intro point inside
  have found : point ∈ points (cut range) := ⟨piece, member, inside⟩
  rw [exact] at found
  exact found.1

theorem cut_apart (cuts : Cuts cut kept) (ranges : List (α × α)) (apart : ranges.Pairwise Apart) :
    (ranges.flatMap cut).Pairwise Apart := by
  rw [List.pairwise_flatMap]
  refine ⟨fun range _ => cuts.apart range, apart.imp fun {outerFirst outerSecond} distinct first inFirst second inSecond => ?_⟩
  exact apart_within first second outerFirst outerSecond (piece_within cut kept cuts.exact outerFirst first inFirst)
    (piece_within cut kept cuts.exact outerSecond second inSecond) distinct

end Cutting

section Folding

variable (step : List (α × α) → β → List (α × α))

-- Taking out one set after the other takes out their union.
theorem fold_points (gone : β → Set α) (each : ∀ ranges item, points (step ranges item) = points ranges \ gone item)
    (items : List β) (ranges : List (α × α)) :
    points (items.foldl step ranges) = points ranges \ {point | ∃ item ∈ items, point ∈ gone item} := by
  induction items generalizing ranges with
  | nil => simp
  | cons item rest ih =>
      rw [List.foldl_cons, ih, each]
      ext point
      simp only [Set.mem_sdiff, Set.mem_ofPred_eq, List.mem_cons, exists_eq_or_imp, not_or, and_assoc]

theorem fold_apart (allowed : β → Prop) (each : ∀ ranges item, allowed item → ranges.Pairwise Apart → (step ranges item).Pairwise Apart)
    (items : List β) (good : ∀ item ∈ items, allowed item) (ranges : List (α × α)) (apart : ranges.Pairwise Apart) :
    (items.foldl step ranges).Pairwise Apart := by
  induction items generalizing ranges with
  | nil => exact apart
  | cons item rest ih =>
      rw [List.forall_mem_cons] at good
      exact ih good.2 (step ranges item) (each ranges item good.1 apart)

end Folding

section Counting

-- A point lies in at most one of the ranges that are apart.
theorem apart_count (point : α) (holds : α × α → Bool) (exact : ∀ range, holds range = true ↔ point ∈ span range)
    (ranges : List (α × α)) (apart : ranges.Pairwise Apart) (inside : point ∈ points ranges) : ranges.countP holds = 1 := by
  induction ranges with
  | nil =>
      rw [points_nil] at inside
      cases inside
  | cons range rest ih =>
      obtain ⟨distinct, apartRest⟩ := List.pairwise_cons.mp apart
      rw [List.countP_cons]
      by_cases here : point ∈ span range
      · have others : rest.countP holds = 0 := by
          refine List.countP_eq_zero.mpr fun other member within => ?_
          exact Set.disjoint_left.mp (distinct other member) here ((exact other).mp within)
        rw [others, if_pos ((exact range).mpr here)]
      · rw [points_cons] at inside
        rw [ih apartRest (inside.resolve_left here), if_neg fun within => here ((exact range).mp within)]

end Counting

end SasCore.Ranges
