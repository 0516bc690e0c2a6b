import Mathlib.Analysis.SpecialFunctions.Log.Base
import SasCore.Lib.Greedy
import SasCore.Dpa.Protection

set_option autoImplicit false
set_option linter.unusedSectionVars false

namespace SasCore.Dpa

variable {K : Type} [Field K] [LinearOrder K]

def PointInterference.countedMw (contribution : PointInterference K) : K := max 0 contribution.interferenceMw

section Aggregates

variable (backends : DpaBackends K)

def levelOf (totalMw : K) : AggregateDbm K := if 0 < totalMw then mwToDbm backends totalMw else .negInf

-- The aggregate of some contributions in dBm, minus infinity when nothing arrives.
def aggregateOf (contributions : List (PointInterference K)) : AggregateDbm K :=
  levelOf backends (Headroom.load PointInterference.countedMw contributions)

def KeepsTo (limit : K) (contributions : List (PointInterference K)) : Prop :=
  (aggregateOf backends contributions).within limit = true ∨ contributions = []

def leftBy (movelist : List String) (contributions : List (PointInterference K)) : List (PointInterference K) :=
  contributions.filter fun c => !movelist.contains c.grantId

-- A choice of what is moved that leaves an aggregate within the limit.
structure Leaves (limit : K) (contributions moved kept : List (PointInterference K)) : Prop where
  whole : (moved ++ kept).Perm contributions
  within : KeepsTo backends limit kept

-- Grant ids may repeat, so the movelist names contributions that are moved one by one.
structure MinimalMovelist (limit : K) (contributions : List (PointInterference K)) (movelist : List String) : Prop where
  split : ∃ moved kept, movelist = moved.map (·.grantId) ∧ Leaves backends limit contributions moved kept ∧
    ∀ m ∈ moved, ∀ k ∈ kept, k.interferenceMw ≤ m.interferenceMw
  left : KeepsTo backends limit (leftBy movelist contributions)
  fewest : ∀ moved kept, Leaves backends limit contributions moved kept → movelist.length ≤ moved.length
  empty : movelist = [] ↔ KeepsTo backends limit contributions

def acceptable (limit totalMw : K) : Bool := (levelOf backends totalMw).within limit

theorem keeps_accepted (limit : K) (contributions : List (PointInterference K)) :
    KeepsTo backends limit contributions ↔
      Greedy.accepted PointInterference.countedMw (acceptable backends limit) contributions = true := by
  constructor
  · rintro (within | nothing)
    · exact within
    · rw [nothing, Greedy.accepted, Headroom.load, List.map_nil, List.sum_nil, acceptable, levelOf, if_neg (lt_irrefl _)]
      rfl
  · exact Or.inl

variable (thresholdDbm marginDb : K)

theorem within_threshold_accepted (contributions : List (PointInterference K)) :
    (aggregateWithinThreshold backends contributions thresholdDbm marginDb).2 =
      Greedy.accepted PointInterference.countedMw (acceptable backends (thresholdDbm + marginDb + comparisonSlackDb))
        contributions := by
  have total : Iap.sumInterferenceMw (contributions.map (·.interferenceMw)) =
      Headroom.load PointInterference.countedMw contributions := by
    rw [Iap.sumInterferenceMw, Headroom.load, List.map_map]
    rfl
  rw [aggregateWithinThreshold, total]
  rfl

theorem moved_until_dropped (contributions : List (PointInterference K)) :
    moveUntilWithin backends thresholdDbm marginDb contributions =
      (Greedy.drops (Greedy.accepted PointInterference.countedMw
        (acceptable backends (thresholdDbm + marginDb + comparisonSlackDb))) contributions).1.map (·.grantId) := by
  induction contributions with
  | nil => rfl
  | cons victim rest ih =>
      simp only [moveUntilWithin, Greedy.drops, within_threshold_accepted, ih]
      split
      · rfl
      · rfl

theorem built_dropped (contributions : List (PointInterference K)) :
    buildMovelist backends contributions thresholdDbm marginDb =
      (Greedy.drops (Greedy.accepted PointInterference.countedMw
        (acceptable backends (thresholdDbm + marginDb + comparisonSlackDb)))
          (Greedy.byKey (·.interferenceMw) contributions)).1.map (·.grantId) :=
  moved_until_dropped backends thresholdDbm marginDb _

theorem acceptable_antitone (grows : MonotoneOn backends.log10 (Set.Ioi 0)) [IsStrictOrderedRing K] (limit : K)
    (low high : K) (le : low ≤ high) (fine : acceptable backends limit high = true) : acceptable backends limit low = true := by
  by_cases lowPos : 0 < low
  · have highPos := lowPos.trans_le le
    simp only [acceptable, levelOf, mwToDbm, if_pos lowPos, if_pos highPos, if_neg (not_le.mpr lowPos),
      if_neg (not_le.mpr highPos), AggregateDbm.within, decide_eq_true_eq] at fine ⊢
    have scale : (0 : K) ≤ decibelsPerBel := Nat.cast_nonneg 10
    exact (mul_le_mul_of_nonneg_left (grows lowPos highPos le) scale).trans fine
  · rw [acceptable, levelOf, if_neg lowPos]
    rfl

variable [IsStrictOrderedRing K]

theorem counted_nonneg (contribution : PointInterference K) : 0 ≤ contribution.countedMw := le_max_left _ _

theorem counted_sorted (contributions : List (PointInterference K)) :
    (Greedy.byKey (fun c : PointInterference K => c.interferenceMw) contributions).Pairwise
      fun a b => b.countedMw ≤ a.countedMw :=
  (Greedy.by_key_sorted _ contributions).imp fun le => max_le_max le_rfl le

theorem built_minimal (grows : MonotoneOn backends.log10 (Set.Ioi 0)) (contributions : List (PointInterference K)) :
    MinimalMovelist backends (thresholdDbm + marginDb + comparisonSlackDb) contributions
      (buildMovelist backends contributions thresholdDbm marginDb) := by
  let fits := acceptable backends (thresholdDbm + marginDb + comparisonSlackDb)
  let sorted := Greedy.byKey (fun c : PointInterference K => c.interferenceMw) contributions
  let parts := Greedy.drops (Greedy.accepted PointInterference.countedMw fits) sorted
  have antitone : ∀ low high, low ≤ high → fits high = true → fits low = true :=
    fun low high => acceptable_antitone backends grows _ low high
  have built : buildMovelist backends contributions thresholdDbm marginDb = parts.1.map (·.grantId) :=
    built_dropped backends thresholdDbm marginDb contributions
  have perm : sorted.Perm contributions := Greedy.by_key_perm _ contributions
  have whole : parts.1 ++ parts.2 = sorted := Greedy.drops_append _ sorted
  have nothingFits : Greedy.accepted PointInterference.countedMw fits [] = true :=
    (keeps_accepted backends _ []).mp (Or.inr rfl)
  have kept : Greedy.accepted PointInterference.countedMw fits parts.2 = true := by
    rcases Greedy.drops_rest (Greedy.accepted PointInterference.countedMw fits) sorted with nothing | fine
    · exact nothing ▸ nothingFits
    · exact fine
  constructor
  case split =>
    refine ⟨parts.1, parts.2, built, ⟨whole ▸ perm, (keeps_accepted backends _ _).mpr kept⟩, ?_⟩
    intro m isMoved k isKept
    have order := Greedy.by_key_sorted (fun c : PointInterference K => c.interferenceMw) contributions
    exact Greedy.dropped_largest (·.interferenceMw) sorted order _ m k isMoved isKept
  case left =>
    have sub : (leftBy (buildMovelist backends contributions thresholdDbm marginDb) contributions).Subperm parts.2 := by
      have named : parts.1.filter (fun c => !(parts.1.map (·.grantId)).contains c.grantId) = [] := by
        refine List.filter_eq_nil_iff.mpr fun c isMoved => ?_
        have inside : c.grantId ∈ parts.1.map (·.grantId) := List.mem_map_of_mem isMoved
        rw [List.contains_iff_mem.mpr inside]
        exact Bool.false_ne_true
      have through := (perm.symm.filter fun c => !(parts.1.map (·.grantId)).contains c.grantId).subperm
      rw [← whole, List.filter_append, named, List.nil_append] at through
      rw [leftBy, built]
      exact through.trans List.filter_sublist.subperm
    have light := Greedy.load_subperm PointInterference.countedMw counted_nonneg _ _ sub
    exact (keeps_accepted backends _ _).mpr (antitone _ _ light kept)
  case fewest =>
    intro moved left leaves
    have fine := (keeps_accepted backends _ _).mp leaves.within
    rw [built, List.length_map]
    exact Greedy.drops_fewest PointInterference.countedMw fits antitone sorted moved left (counted_sorted contributions)
      (leaves.whole.trans perm.symm) fine
  case empty =>
    rw [built, List.map_eq_nil_iff, Greedy.drops_nil_iff _ nothingFits, keeps_accepted]
    rw [Greedy.accepted, Greedy.accepted, Greedy.load_perm _ sorted contributions perm]

end Aggregates

-- The backends with the real logarithm.
noncomputable def exactBackends (outside : DpaBackends ℝ) : DpaBackends ℝ :=
  { outside with log10 := Real.logb (10 : Nat), pow10 := fun x => ((10 : Nat) : ℝ) ^ x }

theorem log10_monotone (outside : DpaBackends ℝ) : MonotoneOn (exactBackends outside).log10 (Set.Ioi 0) := by
  intro low lowPos high _ le
  exact Real.logb_le_logb_of_le (by norm_num) lowPos le

theorem movelist_minimal (outside : DpaBackends ℝ) (contributions : List (PointInterference ℝ)) (thresholdDbm marginDb : ℝ) :
    MinimalMovelist (exactBackends outside) (thresholdDbm + marginDb + comparisonSlackDb) contributions
      (buildMovelist (exactBackends outside) contributions thresholdDbm marginDb) :=
  built_minimal (exactBackends outside) thresholdDbm marginDb (log10_monotone outside) contributions

-- Half of the slack above a threshold of zero.
noncomputable def slackLevelDbm : ℝ := comparisonSlackDb / (2 : Nat)

noncomputable def slackContribution : PointInterference ℝ :=
  ⟨"grant-1", slackLevelDbm, ((10 : Nat) : ℝ) ^ (slackLevelDbm / decibelsPerBel), 0⟩

def bareBackends : DpaBackends ℝ := ⟨id, id, fun _ _ _ _ => false, fun _ _ => none, fun _ _ _ _ => none⟩

theorem slack_level_pos : 0 < slackLevelDbm := by
  norm_num [slackLevelDbm, comparisonSlackDb]

theorem slack_aggregate : aggregateOf (exactBackends bareBackends) [slackContribution] = .dbm slackLevelDbm := by
  have positive : (0 : ℝ) < ((10 : Nat) : ℝ) ^ (slackLevelDbm / decibelsPerBel) := Real.rpow_pos_of_pos (by norm_num) _
  have counted : Headroom.load PointInterference.countedMw [slackContribution] = ((10 : Nat) : ℝ) ^ (slackLevelDbm / decibelsPerBel) := by
    simp only [Headroom.load, List.map_cons, List.map_nil, List.sum_cons, List.sum_nil, add_zero]
    exact max_eq_right positive.le
  have level : (exactBackends bareBackends).log10 (((10 : Nat) : ℝ) ^ (slackLevelDbm / decibelsPerBel)) = slackLevelDbm / decibelsPerBel :=
    Real.logb_rpow (by norm_num) (by norm_num)
  have scale : (decibelsPerBel : ℝ) ≠ 0 := by norm_num [decibelsPerBel]
  rw [aggregateOf, counted, levelOf, if_pos positive, mwToDbm, if_neg (not_le.mpr positive), level,
    mul_div_cancel₀ _ scale]

-- A contribution inside the slack stays although it is above the threshold.
theorem slack_contribution_kept : 0 ≤ slackContribution.interferenceMw ∧
    ¬ MinimalMovelist (exactBackends bareBackends) (0 + 0) [slackContribution]
      (buildMovelist (exactBackends bareBackends) [slackContribution] 0 0) := by
  have nonneg : 0 ≤ slackContribution.interferenceMw := Real.rpow_nonneg (by norm_num) _
  refine ⟨nonneg, fun minimal => ?_⟩
  have fine : Greedy.accepted PointInterference.countedMw
      (acceptable (exactBackends bareBackends) (0 + 0 + comparisonSlackDb)) [slackContribution] = true := by
    rw [← keeps_accepted]
    left
    rw [slack_aggregate, AggregateDbm.within, decide_eq_true_eq]
    norm_num [slackLevelDbm, comparisonSlackDb]
  have nothing : buildMovelist (exactBackends bareBackends) [slackContribution] 0 0 = [] := by
    rw [built_dropped, Greedy.byKey, List.mergeSort_singleton, Greedy.drops, if_pos fine, List.map_nil]
  rcases minimal.empty.mp nothing with within | absent
  · rw [slack_aggregate, AggregateDbm.within, decide_eq_true_eq, add_zero] at within
    exact absurd slack_level_pos (not_lt.mpr within)
  · cases absent

end SasCore.Dpa
