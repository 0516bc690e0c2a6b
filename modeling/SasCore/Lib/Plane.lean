import Mathlib.Analysis.Convex.Topology
import Mathlib.Topology.Instances.Real.Lemmas
import Mathlib.Topology.Algebra.Order.Field
import Mathlib.Topology.Order.Compact
import Mathlib.Tactic.Linarith
import Mathlib.Tactic.Ring
import SasCore.Lib.Parity

set_option autoImplicit false
set_option linter.unusedSectionVars false

namespace SasCore.Plane

open Parity Filter Topology

section Orientation

variable {K : Type} [CommRing K] [LinearOrder K] [IsStrictOrderedRing K]

-- Positive when c lies to the left of the way from a to b.
def orient (a b c : K × K) : K := (b.1 - a.1) * (c.2 - a.2) - (b.2 - a.2) * (c.1 - a.1)

-- Whether the ray from p towards larger first coordinates meets the edge; the upper end does not count.
def rayHits (p : K × K) (edge : (K × K) × (K × K)) : Bool :=
  decide (edge.1.2 ≤ p.2 ∧ p.2 < edge.2.2 ∧ 0 < orient edge.1 edge.2 p) ||
    decide (edge.2.2 ≤ p.2 ∧ p.2 < edge.1.2 ∧ orient edge.1 edge.2 p < 0)

-- The ends of each of two segments lie on opposite sides of the other.
def Opposite (a b : K) : Prop := (0 < a ∧ b < 0) ∨ (a < 0 ∧ 0 < b)

def Crosses (e f : (K × K) × (K × K)) : Prop :=
  Opposite (orient e.1 e.2 f.1) (orient e.1 e.2 f.2) ∧ Opposite (orient f.1 f.2 e.1) (orient f.1 f.2 e.2)

theorem orient_swap (a b c : K × K) : orient b a c = -orient a b c := by
  simp only [orient]
  ring

theorem ray_hits_swap (p : K × K) (edge : (K × K) × (K × K)) : rayHits p (edge.2, edge.1) = rayHits p edge := by
  simp only [rayHits, orient_swap edge.1 edge.2 p, Left.neg_pos_iff, Left.neg_neg_iff]
  exact Bool.or_comm _ _

theorem ray_hits_rising (p u v : K × K) (rises : u.2 ≤ v.2) :
    rayHits p (u, v) = decide (u.2 ≤ p.2 ∧ p.2 < v.2 ∧ 0 < orient u v p) := by
  have never : ¬ (v.2 ≤ p.2 ∧ p.2 < u.2 ∧ orient u v p < 0) := by
    rintro ⟨low, high, _⟩
    exact absurd (low.trans_lt high) (not_lt.mpr rises)
  simp only [rayHits, decide_eq_false never, Bool.or_false]

end Orientation

section Segments

theorem mem_segment (a b z : ℝ × ℝ) :
    z ∈ segment ℝ a b ↔ ∃ t, 0 ≤ t ∧ t ≤ 1 ∧ z.1 = a.1 + t * (b.1 - a.1) ∧ z.2 = a.2 + t * (b.2 - a.2) := by
  rw [segment_eq_image', Set.mem_image]
  constructor
  · rintro ⟨t, ⟨low, high⟩, rfl⟩
    exact ⟨t, low, high, rfl, rfl⟩
  · rintro ⟨t, low, high, first, second⟩
    exact ⟨t, ⟨low, high⟩, Prod.ext first.symm second.symm⟩

theorem orient_on_segment (a b z : ℝ × ℝ) (on : z ∈ segment ℝ a b) : orient a b z = 0 := by
  obtain ⟨t, _, _, first, second⟩ := (mem_segment a b z).mp on
  rw [orient, first, second]
  ring

-- A point at a height between those of the ends is on the segment when it is on its line.
theorem on_segment_level (u v z : ℝ × ℝ) (rises : u.2 < v.2) (low : u.2 ≤ z.2) (high : z.2 ≤ v.2) (line : orient u v z = 0) :
    z ∈ segment ℝ u v := by
  have gap : 0 < v.2 - u.2 := sub_pos.mpr rises
  refine (mem_segment u v z).mpr ⟨(z.2 - u.2) / (v.2 - u.2), ?_, ?_, ?_, ?_⟩
  · exact div_nonneg (sub_nonneg.mpr low) gap.le
  · exact (div_le_one gap).mpr (by linarith)
  · rw [orient] at line
    field_simp
    linarith
  · field_simp
    ring

theorem on_segment_flat (u v z : ℝ × ℝ) (flat : u.2 = v.2) (level : z.2 = u.2) (low : min u.1 v.1 ≤ z.1) (high : z.1 ≤ max u.1 v.1) :
    z ∈ segment ℝ u v := by
  rcases lt_trichotomy u.1 v.1 with less | same | less
  · rw [min_eq_left less.le] at low
    rw [max_eq_right less.le] at high
    have gap : 0 < v.1 - u.1 := sub_pos.mpr less
    refine (mem_segment u v z).mpr ⟨(z.1 - u.1) / (v.1 - u.1), div_nonneg (by linarith) gap.le, (div_le_one gap).mpr (by linarith), ?_, ?_⟩
    · field_simp
      ring
    · rw [level, flat, sub_self, mul_zero, add_zero]
  · rw [same, min_self] at low
    rw [same, max_self] at high
    refine (mem_segment u v z).mpr ⟨0, le_rfl, zero_le_one, ?_, ?_⟩
    · rw [zero_mul, add_zero, same]
      exact le_antisymm high low
    · rw [zero_mul, add_zero, level]
  · rw [min_eq_right less.le] at low
    rw [max_eq_left less.le] at high
    have gap : 0 < u.1 - v.1 := sub_pos.mpr less
    refine (mem_segment u v z).mpr ⟨(u.1 - z.1) / (u.1 - v.1), div_nonneg (by linarith) gap.le, (div_le_one gap).mpr (by linarith), ?_, ?_⟩
    · field_simp
      ring
    · rw [level, flat, sub_self, mul_zero, add_zero]

theorem segment_closed (a b : ℝ × ℝ) : IsClosed (segment ℝ a b) := by
  rw [segment_eq_image']
  have compact : IsCompact ((fun t : ℝ => a + t • (b - a)) '' Set.Icc 0 1) :=
    isCompact_Icc.image (by fun_prop)
  exact compact.isClosed

end Segments

section Nearby

variable (q : ℝ × ℝ)

-- A vertex at the height of q and to its right, seen from a point below.
noncomputable def passes (p v : ℝ × ℝ) : Bool := decide (v.2 = q.2 ∧ p.2 < q.2 ∧ q.1 < v.1)

theorem near_above (height : ℝ) (above : height < q.2) : ∀ᶠ p in 𝓝 q, height < p.2 :=
  continuous_snd.continuousAt.eventually (lt_mem_nhds above)

theorem near_below (height : ℝ) (below : q.2 < height) : ∀ᶠ p in 𝓝 q, p.2 < height :=
  continuous_snd.continuousAt.eventually (gt_mem_nhds below)

theorem orient_continuous (u v : ℝ × ℝ) : Continuous fun p : ℝ × ℝ => orient u v p := by
  simp only [orient]
  fun_prop

theorem near_side (u v : ℝ × ℝ) (off : orient u v q ≠ 0) : ∀ᶠ p in 𝓝 q, (0 < orient u v p ↔ 0 < orient u v q) := by
  rcases lt_or_gt_of_ne off with negative | positive
  · filter_upwards [(orient_continuous u v).continuousAt.eventually (gt_mem_nhds negative)] with p below
    exact iff_of_false (not_lt.mpr (le_of_lt below)) (not_lt.mpr negative.le)
  · filter_upwards [(orient_continuous u v).continuousAt.eventually (lt_mem_nhds positive)] with p above
    exact iff_of_true above positive

theorem passes_off (p v : ℝ × ℝ) (apart : v.2 ≠ q.2) : passes q p v = false := by
  simp [passes, apart]

theorem passes_level (p v : ℝ × ℝ) (level : v.2 = q.2) : passes q p v = decide (p.2 < q.2 ∧ q.1 < v.1) := by
  simp [passes, level]

-- Near a point off an edge, the ray test changes only by the vertices that the ray passes over.
theorem near_off_rising (u v : ℝ × ℝ) (rises : u.2 ≤ v.2) (off : q ∉ segment ℝ u v) :
    ∀ᶠ p in 𝓝 q, rayHits p (u, v) = (rayHits q (u, v) != (passes q p u != passes q p v)) := by
  have sloped : u.2 < v.2 → u.2 ≤ q.2 → q.2 ≤ v.2 → orient u v q ≠ 0 := fun less low high line =>
    off (on_segment_level u v q less low high line)
  rcases lt_trichotomy q.2 u.2 with below | level | above
  · filter_upwards [near_below q u.2 below] with p under
    have high := below.trans_le rises
    simp only [ray_hits_rising _ u v rises, passes_off q p u below.ne', passes_off q p v high.ne', not_le.mpr under,
      not_le.mpr below, false_and, decide_false, bne_self_eq_false]
  · rcases rises.lt_or_eq with less | flat
    · have line := sloped less level.ge (level.trans_le rises)
      have side : 0 < orient u v q ↔ q.1 < u.1 := by
        have gap := sub_pos.mpr less
        have same : orient u v q = (v.2 - u.2) * (u.1 - q.1) := by
          rw [orient, level]
          ring
        rw [same, mul_pos_iff_of_pos_left gap, sub_pos]
      filter_upwards [near_side q u v line, near_below q v.2 (level.trans_lt less)] with p keeps under
      rw [ray_hits_rising p u v rises, ray_hits_rising q u v rises, passes_level q p u level.symm,
        passes_off q p v (level.trans_lt less).ne', Bool.bne_false]
      by_cases lower : p.2 < q.2
      · have short : ¬ u.2 ≤ p.2 := by
          rw [← level]
          exact not_le.mpr lower
        simp [short, level.ge, level.trans_lt less, side, lower]
      · have long : u.2 ≤ p.2 := by
          rw [← level]
          exact not_lt.mp lower
        simp [long, level.ge, level.trans_lt less, keeps, under, lower]
    · have sides : q.1 < u.1 ↔ q.1 < v.1 := by
        constructor
        · intro left
          by_contra right
          exact off (on_segment_flat u v q flat level ((min_le_right _ _).trans (not_lt.mp right)) (left.le.trans (le_max_left _ _)))
        · intro left
          by_contra right
          exact off (on_segment_flat u v q flat level ((min_le_left _ _).trans (not_lt.mp right)) (left.le.trans (le_max_right _ _)))
      have never : ∀ p : ℝ × ℝ, ¬ (u.2 ≤ p.2 ∧ p.2 < v.2 ∧ 0 < orient u v p) := by
        rintro p ⟨low, high, _⟩
        rw [← flat] at high
        exact absurd high (not_lt.mpr low)
      refine Eventually.of_forall fun p => ?_
      rw [ray_hits_rising p u v rises, ray_hits_rising q u v rises, decide_eq_false (never p), decide_eq_false (never q),
        passes_level q p u level.symm, passes_level q p v (flat.symm.trans level.symm)]
      simp only [sides, bne_self_eq_false]
  · rcases lt_trichotomy q.2 v.2 with under | level | beyond
    · have line := sloped (above.trans under) above.le under.le
      filter_upwards [near_side q u v line, near_above q u.2 above, near_below q v.2 under] with p keeps low high
      rw [ray_hits_rising p u v rises, ray_hits_rising q u v rises, passes_off q p u above.ne, passes_off q p v under.ne']
      simp [low.le, high, above.le, under, keeps]
    · have less := above.trans_eq level
      have line := sloped less above.le level.le
      have side : 0 < orient u v q ↔ q.1 < v.1 := by
        have gap := sub_pos.mpr less
        have same : orient u v q = (v.2 - u.2) * (v.1 - q.1) := by
          rw [orient, level]
          ring
        rw [same, mul_pos_iff_of_pos_left gap, sub_pos]
      filter_upwards [near_side q u v line, near_above q u.2 above] with p keeps low
      rw [ray_hits_rising p u v rises, ray_hits_rising q u v rises, passes_off q p u above.ne, passes_level q p v level.symm]
      by_cases lower : p.2 < q.2
      · have short : p.2 < v.2 := lower.trans_eq level
        simp [low.le, short, keeps, side, level]
      · have long : ¬ p.2 < v.2 := by
          rw [← level]
          exact lower
        simp [long, level]
    · filter_upwards [near_above q v.2 beyond] with p past
      have high : ¬ q.2 < v.2 := not_lt.mpr beyond.le
      have far : ¬ p.2 < v.2 := not_lt.mpr (le_of_lt past)
      rw [ray_hits_rising p u v rises, ray_hits_rising q u v rises, passes_off q p u above.ne, passes_off q p v beyond.ne]
      simp [high, far]

theorem near_off (edge : (ℝ × ℝ) × (ℝ × ℝ)) (off : q ∉ segment ℝ edge.1 edge.2) :
    ∀ᶠ p in 𝓝 q, p ∉ segment ℝ edge.1 edge.2 ∧
      rayHits p edge = (rayHits q edge != (passes q p edge.1 != passes q p edge.2)) := by
  have away := (segment_closed edge.1 edge.2).isOpen_compl.eventually_mem off
  rcases le_total edge.1.2 edge.2.2 with rises | falls
  · filter_upwards [away, near_off_rising q edge.1 edge.2 rises off] with p outside same
    exact ⟨outside, same⟩
  · have swapped : q ∉ segment ℝ edge.2 edge.1 := by
      rw [segment_symm]
      exact off
    filter_upwards [away, near_off_rising q edge.2 edge.1 falls swapped] with p outside same
    rw [ray_hits_swap, ray_hits_swap, bne_comm (a := passes q p edge.2)] at same
    exact ⟨outside, same⟩

-- Strictly between the ends of a segment.
def Within (u v : ℝ × ℝ) : Prop := ∃ t, 0 < t ∧ t < 1 ∧ q.1 = u.1 + t * (v.1 - u.1) ∧ q.2 = u.2 + t * (v.2 - u.2)

theorem near_through_rising (u v : ℝ × ℝ) (rises : u.2 ≤ v.2) (apart : u ≠ v) (within : Within q u v) :
    ∃ flip, ∀ᶠ p in 𝓝 q, orient u v p ≠ 0 →
      (rayHits p (u, v) != (passes q p u != passes q p v)) = (decide (0 < orient u v p) != flip) := by
  obtain ⟨t, low, high, first, second⟩ := within
  rcases rises.lt_or_eq with less | flat
  · have gap := sub_pos.mpr less
    have above : u.2 < q.2 := by
      rw [second]
      linarith [mul_pos low gap]
    have under : q.2 < v.2 := by
      rw [second]
      linarith [mul_lt_mul_of_pos_right high gap]
    refine ⟨false, ?_⟩
    filter_upwards [near_above q u.2 above, near_below q v.2 under] with p past below _
    rw [ray_hits_rising p u v rises, passes_off q p u above.ne, passes_off q p v under.ne']
    simp [past.le, below]
  · have level : u.2 = q.2 := by
      rw [second, flat, sub_self, mul_zero, add_zero]
    have hitless : ∀ p, rayHits p (u, v) = false := by
      intro p
      rw [ray_hits_rising p u v rises, decide_eq_false]
      rintro ⟨lower, upper, _⟩
      rw [← flat] at upper
      exact absurd upper (not_lt.mpr lower)
    have product : ∀ p : ℝ × ℝ, orient u v p = (v.1 - u.1) * (p.2 - q.2) := by
      intro p
      rw [orient, ← flat, level]
      ring
    have distinct : u.1 ≠ v.1 := fun same => apart (Prod.ext same flat)
    refine ⟨decide (u.1 < v.1), Eventually.of_forall fun p off => ?_⟩
    rw [hitless, Bool.false_bne, passes_level q p u level, passes_level q p v (flat.symm.trans level), product]
    rw [product] at off
    have apartHeight : p.2 ≠ q.2 := fun same => off (by rw [same, sub_self, mul_zero])
    rcases lt_or_gt_of_ne distinct with east | west
    · have gap := sub_pos.mpr east
      have left : ¬ q.1 < u.1 := by
        rw [first, not_lt]
        linarith [mul_pos low gap]
      have right : q.1 < v.1 := by
        rw [first]
        linarith [mul_lt_mul_of_pos_right high gap]
      have side : 0 < (v.1 - u.1) * (p.2 - q.2) ↔ q.2 < p.2 := (mul_pos_iff_of_pos_left gap).trans sub_pos
      rcases lt_or_gt_of_ne apartHeight with lower | higher
      · simp [side, left, right, lower, lower.le, east]
      · simp [side, left, right, higher, higher.le, east]
    · have gap := sub_neg.mpr west
      have left : q.1 < u.1 := by
        rw [first]
        linarith [mul_neg_of_pos_of_neg low gap]
      have right : ¬ q.1 < v.1 := by
        rw [first, not_lt]
        linarith [mul_lt_mul_of_neg_right high gap]
      have side : 0 < (v.1 - u.1) * (p.2 - q.2) ↔ p.2 < q.2 := by
        rw [← neg_mul_neg]
        exact (mul_pos_iff_of_pos_left (neg_pos.mpr gap)).trans (neg_pos.trans sub_neg)
      have notEast : ¬ u.1 < v.1 := not_lt.mpr west.le
      simp [side, left, right, notEast]

theorem within_swap (u v : ℝ × ℝ) (within : Within q u v) : Within q v u := by
  obtain ⟨t, low, high, first, second⟩ := within
  refine ⟨1 - t, by linarith, by linarith, ?_, ?_⟩
  · rw [first]
    ring
  · rw [second]
    ring

theorem within_segment (u v : ℝ × ℝ) (within : Within q u v) : q ∈ segment ℝ u v := by
  obtain ⟨t, low, high, first, second⟩ := within
  exact (mem_segment u v q).mpr ⟨t, low.le, high.le, first, second⟩

theorem within_ends (u v : ℝ × ℝ) (apart : u ≠ v) (within : Within q u v) : ¬ (q = u ∨ q = v) := by
  obtain ⟨t, low, high, first, second⟩ := within
  rintro (rfl | rfl)
  · apply apart
    apply Prod.ext
    · have zero : t * (v.1 - q.1) = 0 := by linarith
      linarith [(mul_eq_zero.mp zero).resolve_left low.ne']
    · have zero : t * (v.2 - q.2) = 0 := by linarith
      linarith [(mul_eq_zero.mp zero).resolve_left low.ne']
  · apply apart
    apply Prod.ext
    · have zero : (1 - t) * (q.1 - u.1) = 0 := by linarith
      linarith [(mul_eq_zero.mp zero).resolve_left (sub_pos.mpr high).ne']
    · have zero : (1 - t) * (q.2 - u.2) = 0 := by linarith
      linarith [(mul_eq_zero.mp zero).resolve_left (sub_pos.mpr high).ne']

theorem near_through (edge : (ℝ × ℝ) × (ℝ × ℝ)) (apart : edge.1 ≠ edge.2) (within : Within q edge.1 edge.2) :
    ∃ flip, ∀ᶠ p in 𝓝 q, orient edge.1 edge.2 p ≠ 0 →
      (rayHits p edge != (passes q p edge.1 != passes q p edge.2)) = (decide (0 < orient edge.1 edge.2 p) != flip) := by
  rcases le_total edge.1.2 edge.2.2 with rises | falls
  · exact near_through_rising q edge.1 edge.2 rises apart within
  · obtain ⟨flip, near⟩ := near_through_rising q edge.2 edge.1 falls apart.symm (within_swap q _ _ within)
    refine ⟨!flip, ?_⟩
    filter_upwards [near] with p same off
    have offSwapped : orient edge.2 edge.1 p ≠ 0 := by
      rw [orient_swap]
      exact neg_ne_zero.mpr off
    have known := same offSwapped
    rw [ray_hits_swap, bne_comm (a := passes q p edge.2)] at known
    rw [known]
    have sides : decide (0 < orient edge.2 edge.1 p) = !decide (0 < orient edge.1 edge.2 p) := by
      rcases lt_or_gt_of_ne off with negative | positive
      · simp [orient_swap edge.1 edge.2 p, negative, negative.le]
      · simp [orient_swap edge.1 edge.2 p, positive, positive.le]
    rw [sides]
    cases decide (0 < orient edge.1 edge.2 p) <;> cases flip <;> rfl

end Nearby

section Crossings

theorem opposite_part (a b : ℝ) (opposite : Opposite a b) : a - b ≠ 0 ∧ 0 < a / (a - b) ∧ a / (a - b) < 1 := by
  rcases opposite with ⟨first, second⟩ | ⟨first, second⟩
  · have gap : 0 < a - b := by linarith
    exact ⟨gap.ne', div_pos first gap, (div_lt_one gap).mpr (by linarith)⟩
  · have gap : a - b < 0 := by linarith
    exact ⟨gap.ne, div_pos_of_neg_of_neg first gap, (div_lt_one_of_neg gap).mpr (by linarith)⟩

theorem crossing_point (e f : (ℝ × ℝ) × (ℝ × ℝ)) (crosses : Crosses e f) : ∃ q, Within q e.1 e.2 ∧ Within q f.1 f.2 := by
  obtain ⟨apartF, lowF, highF⟩ := opposite_part _ _ crosses.1
  obtain ⟨apartE, lowE, highE⟩ := opposite_part _ _ crosses.2
  have gaps : orient f.1 f.2 e.1 - orient f.1 f.2 e.2 = -(orient e.1 e.2 f.1 - orient e.1 e.2 f.2) := by
    simp only [orient]
    ring
  generalize partE : orient f.1 f.2 e.1 / (orient f.1 f.2 e.1 - orient f.1 f.2 e.2) = t at lowE highE
  generalize partF : orient e.1 e.2 f.1 / (orient e.1 e.2 f.1 - orient e.1 e.2 f.2) = s at lowF highF
  refine ⟨(e.1.1 + t * (e.2.1 - e.1.1), e.1.2 + t * (e.2.2 - e.1.2)), ⟨t, lowE, highE, rfl, rfl⟩, s, lowF, highF, ?_, ?_⟩
  · rw [← partE, ← partF, gaps]
    field_simp
    simp only [orient]
    ring
  · rw [← partE, ← partF, gaps]
    field_simp
    simp only [orient]
    ring

theorem on_line (u v p : ℝ × ℝ) (apart : u ≠ v) (line : orient u v p = 0) :
    ∃ t, p.1 = u.1 + t * (v.1 - u.1) ∧ p.2 = u.2 + t * (v.2 - u.2) := by
  rw [orient] at line
  by_cases flat : v.1 - u.1 = 0
  · have steep : v.2 - u.2 ≠ 0 := fun same => apart (Prod.ext (by linarith) (by linarith))
    rw [flat, zero_mul, zero_sub, neg_eq_zero] at line
    refine ⟨(p.2 - u.2) / (v.2 - u.2), ?_, ?_⟩
    · rw [flat, mul_zero]
      linarith [(mul_eq_zero.mp line).resolve_left steep]
    · field_simp
      ring
  · refine ⟨(p.1 - u.1) / (v.1 - u.1), ?_, ?_⟩
    · field_simp
      ring
    · field_simp
      linarith

theorem opposite_of_balance (x y r : ℝ) (low : 0 < r) (high : r < 1) (balance : (1 - r) * x + r * y = 0) (off : x ≠ 0) :
    Opposite x y := by
  have rest : 0 < 1 - r := sub_pos.mpr high
  rcases lt_or_gt_of_ne off with negative | positive
  · right
    refine ⟨negative, ?_⟩
    have pull := mul_neg_of_pos_of_neg rest negative
    exact pos_of_mul_pos_right (by linarith : 0 < r * y) low.le
  · left
    refine ⟨positive, ?_⟩
    have pull := mul_pos rest positive
    exact neg_of_mul_neg_right (by linarith : r * y < 0) low.le

-- Two numbers outside the unit interval with a blend inside it lie on its two sides.
theorem outside_opposite (x y r : ℝ) (rLow : 0 ≤ r) (rHigh : r ≤ 1) (low : 0 ≤ (1 - r) * x + r * y)
    (high : (1 - r) * x + r * y ≤ 1) (xOut : ¬ (0 ≤ x ∧ x ≤ 1)) (yOut : ¬ (0 ≤ y ∧ y ≤ 1)) :
    (x < 0 ∧ 1 < y) ∨ (y < 0 ∧ 1 < x) := by
  have rest : 0 ≤ 1 - r := by linarith
  rcases lt_or_ge x 0 with xNeg | xNonneg
  · rcases lt_or_ge y 0 with yNeg | yNonneg
    · have strict : (1 - r) * x + r * y < 0 := by
        rcases rLow.lt_or_eq with positive | zero
        · have pullX := mul_nonpos_of_nonneg_of_nonpos rest xNeg.le
          have pullY := mul_neg_of_pos_of_neg positive yNeg
          linarith
        · rw [← zero]
          linarith
      linarith
    · exact Or.inl ⟨xNeg, not_le.mp fun le => yOut ⟨yNonneg, le⟩⟩
  · have xBig : 1 < x := not_le.mp fun le => xOut ⟨xNonneg, le⟩
    rcases lt_or_ge y 0 with yNeg | yNonneg
    · exact Or.inr ⟨yNeg, xBig⟩
    · have yBig : 1 < y := not_le.mp fun le => yOut ⟨yNonneg, le⟩
      have strict : 0 < (1 - r) * (x - 1) + r * (y - 1) := by
        rcases rLow.lt_or_eq with positive | zero
        · have pullX := mul_nonneg rest (sub_nonneg.mpr xBig.le)
          have pullY := mul_pos positive (sub_pos.mpr yBig)
          linarith
        · rw [← zero]
          linarith
      linarith

theorem zero_between (x y : ℝ) (opposite : (x < 0 ∧ 1 < y) ∨ (y < 0 ∧ 1 < x)) :
    ∃ s, 0 ≤ s ∧ s ≤ 1 ∧ x + s * (y - x) = 0 := by
  have gap : y - x ≠ 0 := by
    rcases opposite with ⟨low, high⟩ | ⟨low, high⟩
    · exact (by linarith : (0 : ℝ) < y - x).ne'
    · exact (by linarith : y - x < 0).ne
  refine ⟨-x / (y - x), ?_, ?_, ?_⟩
  · rcases opposite with ⟨low, high⟩ | ⟨low, high⟩
    · exact div_nonneg (by linarith) (by linarith)
    · exact div_nonneg_of_nonpos (by linarith) (by linarith)
  · rcases opposite with ⟨low, high⟩ | ⟨low, high⟩
    · exact (div_le_one (by linarith)).mpr (by linarith)
    · exact (div_le_one_of_neg (by linarith)).mpr (by linarith)
  · field_simp
    ring

-- A point of a line has one place on it.
theorem place_unique (u v : ℝ × ℝ) (apart : u ≠ v) (s t : ℝ) (first : u.1 + s * (v.1 - u.1) = u.1 + t * (v.1 - u.1))
    (second : u.2 + s * (v.2 - u.2) = u.2 + t * (v.2 - u.2)) : s = t := by
  have zeroFirst : (s - t) * (v.1 - u.1) = 0 := by linarith
  have zeroSecond : (s - t) * (v.2 - u.2) = 0 := by linarith
  by_contra differ
  have gap : s - t ≠ 0 := sub_ne_zero.mpr differ
  apply apart
  apply Prod.ext
  · linarith [(mul_eq_zero.mp zeroFirst).resolve_left gap]
  · linarith [(mul_eq_zero.mp zeroSecond).resolve_left gap]

-- Two segments on one line that share a point: an end of one lies on the other.
theorem collinear_ends (e f : (ℝ × ℝ) × (ℝ × ℝ)) (apart : e.1 ≠ e.2) (t r : ℝ) (tLow : 0 ≤ t) (tHigh : t ≤ 1)
    (rLow : 0 ≤ r) (rHigh : r ≤ 1)
    (first : e.1.1 + t * (e.2.1 - e.1.1) = f.1.1 + r * (f.2.1 - f.1.1))
    (second : e.1.2 + t * (e.2.2 - e.1.2) = f.1.2 + r * (f.2.2 - f.1.2))
    (lineFirst : orient e.1 e.2 f.1 = 0) (lineSecond : orient e.1 e.2 f.2 = 0) :
    f.1 ∈ segment ℝ e.1 e.2 ∨ f.2 ∈ segment ℝ e.1 e.2 ∨ e.1 ∈ segment ℝ f.1 f.2 := by
  obtain ⟨x, xFirst, xSecond⟩ := on_line e.1 e.2 f.1 apart lineFirst
  obtain ⟨y, yFirst, ySecond⟩ := on_line e.1 e.2 f.2 apart lineSecond
  have blend : t = (1 - r) * x + r * y := by
    rw [xFirst, yFirst] at first
    rw [xSecond, ySecond] at second
    exact place_unique e.1 e.2 apart _ _ (by linarith) (by linarith)
  by_cases xIn : 0 ≤ x ∧ x ≤ 1
  · exact Or.inl ((mem_segment _ _ _).mpr ⟨x, xIn.1, xIn.2, xFirst, xSecond⟩)
  by_cases yIn : 0 ≤ y ∧ y ≤ 1
  · exact Or.inr (Or.inl ((mem_segment _ _ _).mpr ⟨y, yIn.1, yIn.2, yFirst, ySecond⟩))
  have opposite := outside_opposite x y r rLow rHigh (blend ▸ tLow) (blend ▸ tHigh) xIn yIn
  obtain ⟨s, sLow, sHigh, reached⟩ := zero_between x y opposite
  refine Or.inr (Or.inr ((mem_segment _ _ _).mpr ⟨s, sLow, sHigh, ?_, ?_⟩))
  · rw [xFirst, yFirst]
    linear_combination (-(e.2.1 - e.1.1)) * reached
  · rw [xSecond, ySecond]
    linear_combination (-(e.2.2 - e.1.2)) * reached

-- Segments that share a point, with no end of one on the other, cross.
theorem shared_crosses (e f : (ℝ × ℝ) × (ℝ × ℝ)) (apart : e.1 ≠ e.2) (q : ℝ × ℝ) (onE : q ∈ segment ℝ e.1 e.2)
    (onF : q ∈ segment ℝ f.1 f.2) (freeE : e.1 ∉ segment ℝ f.1 f.2 ∧ e.2 ∉ segment ℝ f.1 f.2)
    (freeF : f.1 ∉ segment ℝ e.1 e.2 ∧ f.2 ∉ segment ℝ e.1 e.2) : Crosses e f := by
  obtain ⟨t, tLow, tHigh, tFirst, tSecond⟩ := (mem_segment _ _ _).mp onE
  obtain ⟨r, rLow, rHigh, rFirst, rSecond⟩ := (mem_segment _ _ _).mp onF
  have tPos : 0 < t := by
    refine lt_of_le_of_ne tLow fun zero => freeE.1 ?_
    rw [← zero, zero_mul, add_zero] at tFirst tSecond
    rwa [← Prod.ext tFirst tSecond]
  have tLess : t < 1 := by
    refine lt_of_le_of_ne tHigh fun one => freeE.2 ?_
    rw [one, one_mul, add_sub_cancel] at tFirst tSecond
    rwa [← Prod.ext tFirst tSecond]
  have rPos : 0 < r := by
    refine lt_of_le_of_ne rLow fun zero => freeF.1 ?_
    rw [← zero, zero_mul, add_zero] at rFirst rSecond
    rwa [← Prod.ext rFirst rSecond]
  have rLess : r < 1 := by
    refine lt_of_le_of_ne rHigh fun one => freeF.2 ?_
    rw [one, one_mul, add_sub_cancel] at rFirst rSecond
    rwa [← Prod.ext rFirst rSecond]
  have balanceE : (1 - r) * orient e.1 e.2 f.1 + r * orient e.1 e.2 f.2 = 0 := by
    have zero := orient_on_segment e.1 e.2 q onE
    have shape : orient e.1 e.2 q = (1 - r) * orient e.1 e.2 f.1 + r * orient e.1 e.2 f.2 := by
      simp only [orient, rFirst, rSecond]
      ring
    rwa [shape] at zero
  have balanceF : (1 - t) * orient f.1 f.2 e.1 + t * orient f.1 f.2 e.2 = 0 := by
    have zero := orient_on_segment f.1 f.2 q onF
    have shape : orient f.1 f.2 q = (1 - t) * orient f.1 f.2 e.1 + t * orient f.1 f.2 e.2 := by
      simp only [orient, tFirst, tSecond]
      ring
    rwa [shape] at zero
  have offE : orient e.1 e.2 f.1 ≠ 0 := by
    intro line
    have lineSecond : orient e.1 e.2 f.2 = 0 := by
      rw [line, mul_zero, zero_add] at balanceE
      exact (mul_eq_zero.mp balanceE).resolve_left rPos.ne'
    rcases collinear_ends e f apart t r tLow tHigh rLow rHigh (tFirst.symm.trans rFirst) (tSecond.symm.trans rSecond) line lineSecond
      with on | on | on
    · exact freeF.1 on
    · exact freeF.2 on
    · exact freeE.1 on
  have crossE := opposite_of_balance _ _ r rPos rLess balanceE offE
  refine ⟨crossE, opposite_of_balance _ _ t tPos tLess balanceF ?_⟩
  intro line
  rw [line, mul_zero, zero_add] at balanceF
  have lineSecond := (mul_eq_zero.mp balanceF).resolve_left tPos.ne'
  have gaps : orient f.1 f.2 e.1 - orient f.1 f.2 e.2 = -(orient e.1 e.2 f.1 - orient e.1 e.2 f.2) := by
    simp only [orient]
    ring
  rw [line, lineSecond, sub_self] at gaps
  exact (opposite_part _ _ crossE).1 (by linarith)

-- Far to the east no ray meets an edge.
theorem far_misses (p : ℝ × ℝ) (edge : (ℝ × ℝ) × (ℝ × ℝ)) (first : edge.1.1 ≤ p.1) (second : edge.2.1 ≤ p.1) :
    rayHits p edge = false := by
  have rising : ∀ u v : ℝ × ℝ, u.1 ≤ p.1 → v.1 ≤ p.1 → u.2 ≤ v.2 → rayHits p (u, v) = false := by
    intro u v uWest vWest rises
    rw [ray_hits_rising p u v rises, decide_eq_false]
    rintro ⟨low, high, left⟩
    rw [orient] at left
    have height : 0 ≤ p.2 - u.2 := sub_nonneg.mpr low
    have room : 0 ≤ v.2 - p.2 := (sub_pos.mpr high).le
    have farU : 0 ≤ p.1 - u.1 := sub_nonneg.mpr uWest
    have farV : 0 ≤ p.1 - v.1 := sub_nonneg.mpr vWest
    linarith [mul_nonneg farV height, mul_nonneg room farU]
  rcases le_total edge.1.2 edge.2.2 with rises | falls
  · exact rising edge.1 edge.2 first second rises
  · rw [← ray_hits_swap]
    exact rising edge.2 edge.1 second first falls

-- A way out of a point in a direction stays in a neighbourhood for a while.
theorem toward (q d : ℝ × ℝ) (holds : ℝ × ℝ → Prop) (near : ∀ᶠ p in 𝓝 q, holds p) :
    ∃ s, 0 < s ∧ s < 1 ∧ holds (q.1 + s * d.1, q.2 + s * d.2) := by
  have way : Continuous fun s : ℝ => (q.1 + s * d.1, q.2 + s * d.2) := by fun_prop
  have start : (fun s : ℝ => (q.1 + s * d.1, q.2 + s * d.2)) 0 = q := by
    simp
  have reached : ∀ᶠ s in 𝓝 (0 : ℝ), holds (q.1 + s * d.1, q.2 + s * d.2) := by
    apply way.continuousAt.eventually
    rw [start]
    exact near
  have small : ∀ᶠ s in 𝓝 (0 : ℝ), s < 1 := gt_mem_nhds zero_lt_one
  have right : ∀ᶠ s in 𝓝[>] (0 : ℝ), 0 < s ∧ s < 1 ∧ holds (q.1 + s * d.1, q.2 + s * d.2) := by
    filter_upwards [self_mem_nhdsWithin, small.filter_mono nhdsWithin_le_nhds, reached.filter_mono nhdsWithin_le_nhds]
      with s positive less found
    exact ⟨positive, less, found⟩
  exact right.exists

-- From the ends of the segment, the first point that lies in a closed set.
theorem first_met (p z : ℝ × ℝ) (target : Set (ℝ × ℝ)) (closed : IsClosed target) (met : ∃ w ∈ segment ℝ p z, w ∈ target) :
    ∃ w ∈ segment ℝ p z, w ∈ target ∧ ∀ v ∈ segment ℝ p w, v ∈ target → v = w := by
  have way : Continuous fun t : ℝ => p + t • (z - p) := by fun_prop
  have times : IsCompact {t : ℝ | t ∈ Set.Icc 0 1 ∧ p + t • (z - p) ∈ target} :=
    isCompact_Icc.inter_right (closed.preimage way)
  have nonempty : {t : ℝ | t ∈ Set.Icc 0 1 ∧ p + t • (z - p) ∈ target}.Nonempty := by
    obtain ⟨w, on, inTarget⟩ := met
    rw [segment_eq_image'] at on
    obtain ⟨t, range, rfl⟩ := on
    exact ⟨t, range, inTarget⟩
  obtain ⟨t, ⟨range, inTarget⟩, least⟩ := times.exists_isLeast nonempty
  refine ⟨p + t • (z - p), ?_, inTarget, ?_⟩
  · rw [segment_eq_image']
    exact ⟨t, range, rfl⟩
  · intro v on hits
    rw [segment_eq_image'] at on
    obtain ⟨part, partRange, rfl⟩ := on
    have shape : p + part • (p + t • (z - p) - p) = p + (part * t) • (z - p) := by
      rw [add_sub_cancel_left, smul_smul]
    simp only [shape] at hits ⊢
    have low : part * t ≤ t := mul_le_of_le_one_left range.1 partRange.2
    have early : part * t ∈ {t : ℝ | t ∈ Set.Icc 0 1 ∧ p + t • (z - p) ∈ target} :=
      ⟨⟨mul_nonneg partRange.1 range.1, low.trans range.2⟩, hits⟩
    have same : part * t = t := le_antisymm low (least early)
    rw [same]

end Crossings

end SasCore.Plane
