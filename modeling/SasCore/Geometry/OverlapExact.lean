import SasCore.Geometry.AreaOverlap

set_option autoImplicit false
set_option linter.unusedSectionVars false

namespace SasCore.Geometry

open Parity SasCore.Polygon

-- Longitudes so close that the nudge of the ray test is less than what integers resolve.
def EpsilonSeparates (points vertices : List (Int × Int)) : Prop :=
  ∀ p ∈ points, ∀ v ∈ vertices, |p.1 - v.1| < 10 ^ 30

section Points

variable {K : Type} [Field K] [LinearOrder K] [IsStrictOrderedRing K]

theorem edges_steps (ring : Ring K) : edges ring = steps ring := rfl

-- The segment test in exact integers.
theorem on_segment_integers (p a b : Int × Int) (apart : a ≠ b) :
    (castPoint p : ℝ × ℝ) ∈ segment ℝ (castPoint a : ℝ × ℝ) (castPoint b) ↔
      (p.1 - a.1) * (b.2 - a.2) - (p.2 - a.2) * (b.1 - a.1) = 0 ∧
        0 ≤ (p.1 - a.1) * (b.1 - a.1) + (p.2 - a.2) * (b.2 - a.2) ∧
        (p.1 - a.1) * (b.1 - a.1) + (p.2 - a.2) * (b.2 - a.2) ≤ (b.1 - a.1) * (b.1 - a.1) + (b.2 - a.2) * (b.2 - a.2) := by
  have square : 0 < (b.1 - a.1) * (b.1 - a.1) + (b.2 - a.2) * (b.2 - a.2) := by
    refine lt_of_le_of_ne (add_nonneg (mul_self_nonneg _) (mul_self_nonneg _)) fun zero => apart ?_
    have first : b.1 - a.1 = 0 := mul_self_eq_zero.mp (by linarith [mul_self_nonneg (b.1 - a.1), mul_self_nonneg (b.2 - a.2)])
    have second : b.2 - a.2 = 0 := mul_self_eq_zero.mp (by linarith [mul_self_nonneg (b.1 - a.1), mul_self_nonneg (b.2 - a.2)])
    exact Prod.ext (by omega) (by omega)
  constructor
  · intro on
    have line := Plane.orient_on_segment _ _ _ on
    rw [cast_orient, Int.cast_eq_zero, Plane.orient] at line
    obtain ⟨t, low, high, first, second⟩ := (Plane.mem_segment _ _ _).mp on
    simp only [castPoint] at first second
    have squareReal : (0 : ℝ) < (b.1 - a.1) * (b.1 - a.1) + (b.2 - a.2) * (b.2 - a.2) := by exact_mod_cast square
    have dot : ((p.1 : ℝ) - a.1) * (b.1 - a.1) + (p.2 - a.2) * (b.2 - a.2) =
        t * ((b.1 - a.1) * (b.1 - a.1) + (b.2 - a.2) * (b.2 - a.2)) := by
      rw [first, second]
      ring
    refine ⟨by linarith, ?_, ?_⟩
    · have nonneg := mul_nonneg low squareReal.le
      rw [← dot] at nonneg
      exact_mod_cast nonneg
    · have bounded := mul_le_of_le_one_left squareReal.le high
      rw [← dot] at bounded
      exact_mod_cast bounded
  · rintro ⟨line, low, high⟩
    have castApart : (castPoint a : ℝ × ℝ) ≠ castPoint b := by
      intro same
      simp only [castPoint, Prod.mk.injEq, Int.cast_inj] at same
      exact apart (Prod.ext same.1 same.2)
    have castLine : Plane.orient (castPoint a : ℝ × ℝ) (castPoint b) (castPoint p) = 0 := by
      rw [cast_orient, Int.cast_eq_zero, Plane.orient]
      linarith
    obtain ⟨t, first, second⟩ := Plane.on_line _ _ _ castApart castLine
    refine (Plane.mem_segment _ _ _).mpr ⟨t, ?_, ?_, first, second⟩
    all_goals
      simp only [castPoint] at first second
      have squareReal : (0 : ℝ) < (b.1 - a.1) * (b.1 - a.1) + (b.2 - a.2) * (b.2 - a.2) := by exact_mod_cast square
      have lowReal : (0 : ℝ) ≤ (p.1 - a.1) * (b.1 - a.1) + (p.2 - a.2) * (b.2 - a.2) := by exact_mod_cast low
      have highReal : ((p.1 : ℝ) - a.1) * (b.1 - a.1) + (p.2 - a.2) * (b.2 - a.2) ≤
          (b.1 - a.1) * (b.1 - a.1) + (b.2 - a.2) * (b.2 - a.2) := by exact_mod_cast high
      have dot : ((p.1 : ℝ) - a.1) * (b.1 - a.1) + (p.2 - a.2) * (b.2 - a.2) =
          t * ((b.1 - a.1) * (b.1 - a.1) + (b.2 - a.2) * (b.2 - a.2)) := by
        rw [first, second]
        ring
      rw [dot] at lowReal highReal
    · exact nonneg_of_mul_nonneg_left lowReal squareReal
    · exact (mul_le_iff_le_one_left squareReal).mp highReal

theorem cross_eps_bound (n : Int) : |(n : K)| > crossEps ↔ n ≠ 0 := by
  have positive : (0 : K) < crossEps := by
    rw [crossEps]
    positivity
  have less : (crossEps : K) < 1 := small_lt_one _ (by norm_num)
  constructor
  · rintro above rfl
    rw [Int.cast_zero, abs_zero] at above
    exact absurd above (not_lt.mpr positive.le)
  · intro nonzero
    have one : (1 : K) ≤ |(n : K)| := by
      rw [← Int.cast_abs]
      exact_mod_cast Int.one_le_abs nonzero
    exact less.trans_le one

theorem le_eps_bound (m n : Int) : (m : K) ≤ (n : K) + eps ↔ m ≤ n := by
  constructor
  · intro le
    have less : (m : K) < ((n + 1 : Int) : K) := by
      push_cast
      linarith [eps_lt_one (K := K)]
    exact Int.lt_add_one_iff.mp (Int.cast_lt.mp less)
  · intro le
    have castLe : (m : K) ≤ n := Int.cast_le.mpr le
    linarith [eps_pos (K := K)]

theorem point_on_segment_exact (p a b : Int × Int) (apart : a ≠ b) :
    pointOnSegment (castPoint p : K × K) (castPoint a) (castPoint b) = true ↔
      (castPoint p : ℝ × ℝ) ∈ segment ℝ (castPoint a : ℝ × ℝ) (castPoint b) := by
  have cross : ((p.1 : K) - a.1) * (b.2 - a.2) - (p.2 - a.2) * (b.1 - a.1) =
      (((p.1 - a.1) * (b.2 - a.2) - (p.2 - a.2) * (b.1 - a.1) : Int) : K) := by push_cast; ring
  have dot : ((p.1 : K) - a.1) * (b.1 - a.1) + (p.2 - a.2) * (b.2 - a.2) =
      (((p.1 - a.1) * (b.1 - a.1) + (p.2 - a.2) * (b.2 - a.2) : Int) : K) := by push_cast; ring
  have square : ((b.1 : K) - a.1) * (b.1 - a.1) + (b.2 - a.2) * (b.2 - a.2) =
      (((b.1 - a.1) * (b.1 - a.1) + (b.2 - a.2) * (b.2 - a.2) : Int) : K) := by push_cast; ring
  rw [on_segment_integers p a b apart]
  simp only [pointOnSegment, castPoint, cross, dot, square, cross_eps_bound, below_eps, le_eps_bound]
  by_cases line : (p.1 - a.1) * (b.2 - a.2) - (p.2 - a.2) * (b.1 - a.1) = 0
  · by_cases low : (p.1 - a.1) * (b.1 - a.1) + (p.2 - a.2) * (b.2 - a.2) < 0
    · simp [line, low]
    · simp [line, low, not_lt.mp low]
  · simp [line]

-- A nudge that is less than one unit does not change the sign of an integer.
theorem nudged_sign (o m : Int) (off : o ≠ 0) (near : |m| < 10 ^ 30) :
    (0 < (o : K) + m * rayNudge ↔ 0 < o) ∧ ((o : K) + m * rayNudge < 0 ↔ o < 0) := by
  have nudge : (0 : K) < rayNudge := nudge_pos
  have whole : (rayNudge : K) * ((10 ^ 30 : Nat) : K) = 1 := by
    have nonzero : ((10 ^ 30 : Nat) : K) ≠ 0 := Nat.cast_ne_zero.mpr (by positivity)
    rw [rayNudge, one_div, inv_mul_cancel₀ nonzero]
  have bound : |(m : K)| * rayNudge < 1 := by
    rw [← whole, mul_comm]
    apply mul_lt_mul_of_pos_left _ nudge
    rw [← Int.cast_abs]
    exact_mod_cast near
  have spread : |(m : K) * rayNudge| < 1 := by
    rw [abs_mul, abs_of_pos nudge]
    exact bound
  obtain ⟨low, high⟩ := abs_lt.mp spread
  rcases lt_or_gt_of_ne off with negative | positive
  · have least : (o : K) ≤ -1 := by exact_mod_cast Int.le_sub_one_of_lt negative
    refine ⟨iff_of_false (not_lt.mpr (by linarith)) (by omega), iff_of_true (by linarith) negative⟩
  · have least : (1 : K) ≤ o := by exact_mod_cast positive
    refine ⟨iff_of_true (by linarith) positive, iff_of_false (not_lt.mpr (by linarith)) (by omega)⟩

theorem crosses_right_exact (p j i : Int × Int) (near : |p.1 - i.1| < 10 ^ 30)
    (off : (castPoint p : ℝ × ℝ) ∉ segment ℝ (castPoint j : ℝ × ℝ) (castPoint i)) :
    crossesRight (p.1 : K) (p.2 : K) (castPoint j) (castPoint i) = Plane.rayHits p (j, i) := by
  have sloped : (j.2 ≤ p.2 ∧ p.2 < i.2) ∨ (i.2 ≤ p.2 ∧ p.2 < j.2) → Plane.orient j i p ≠ 0 := by
    intro straddle line
    have castLine : Plane.orient (castPoint j : ℝ × ℝ) (castPoint i) (castPoint p) = 0 := by
      rw [cast_orient, line, Int.cast_zero]
    apply off
    rcases straddle with ⟨low, high⟩ | ⟨low, high⟩
    · apply Plane.on_segment_level
      · exact Int.cast_lt.mpr (low.trans_lt high)
      · exact Int.cast_le.mpr low
      · exact Int.cast_le.mpr high.le
      · exact castLine
    · rw [segment_symm]
      apply Plane.on_segment_level
      · exact Int.cast_lt.mpr (low.trans_lt high)
      · exact Int.cast_le.mpr low
      · exact Int.cast_le.mpr high.le
      · rw [Plane.orient_swap, castLine, neg_zero]
  have shape : ((Plane.orient j i p : Int) : K) =
      ((p.1 : K) - i.1) * (j.2 - i.2) - ((j.1 : K) - i.1) * (p.2 - i.2) := by
    simp only [Plane.orient]
    push_cast
    ring
  have gap : (((p.1 - i.1 : Int)) : K) = (p.1 : K) - i.1 := Int.cast_sub _ _
  simp only [crossesRight, castPoint, gt_iff_lt, Int.cast_lt, Plane.rayHits]
  by_cases upperI : p.2 < i.2
  · by_cases upperJ : p.2 < j.2
    · simp [upperI, upperJ, not_le.mpr upperI, not_le.mpr upperJ]
    · have low := not_lt.mp upperJ
      have signs := (nudged_sign (K := K) (Plane.orient j i p) (p.1 - i.1) (sloped (Or.inl ⟨low, upperI⟩)) near).1
      have below : (j.2 : K) - i.2 + rayNudge < 0 := by
        have units : (j.2 : K) - i.2 ≤ -1 := by exact_mod_cast (by omega : j.2 - i.2 ≤ -1)
        have nudge : (rayNudge : K) < 1 := small_lt_one _ (by norm_num)
        linarith
      have test : (p.1 : K) < (j.1 - i.1) * (p.2 - i.2) / (j.2 - i.2 + rayNudge) + i.1 ↔ 0 < Plane.orient j i p := by
        rw [← signs, shape, gap, ← sub_lt_iff_lt_add, lt_div_iff_of_neg below]
        constructor
        · intro less
          linarith
        · intro less
          linarith
      simp [upperI, upperJ, low, test]
  · have low := not_lt.mp upperI
    by_cases upperJ : p.2 < j.2
    · have signs := (nudged_sign (K := K) (Plane.orient j i p) (p.1 - i.1) (sloped (Or.inr ⟨low, upperJ⟩)) near).2
      have above : 0 < (j.2 : K) - i.2 + rayNudge := by
        have units : (1 : K) ≤ j.2 - i.2 := by exact_mod_cast (by omega : 1 ≤ j.2 - i.2)
        linarith [nudge_pos (K := K)]
      have test : (p.1 : K) < (j.1 - i.1) * (p.2 - i.2) / (j.2 - i.2 + rayNudge) + i.1 ↔ Plane.orient j i p < 0 := by
        rw [← signs, shape, gap, ← sub_lt_iff_lt_add, lt_div_iff₀ above]
        constructor
        · intro less
          linarith
        · intro less
          linarith
      simp [upperI, upperJ, low, test]
    · simp [upperI, upperJ]

end Points

section Rings

variable {K : Type} [Field K] [LinearOrder K] [IsStrictOrderedRing K]
variable (ring : List (Int × Int)) (simple : Simple (castRing ring : Ring ℝ))

theorem cast_point_injective : Function.Injective (castPoint : Int × Int → K × K) := by
  intro p q same
  simp only [castPoint, Prod.mk.injEq, Int.cast_inj] at same
  exact Prod.ext same.1 same.2

include simple

theorem integer_closed : ring.head? = ring.getLast? := by
  have closed := simple.closed
  rw [castRing, List.head?_map, List.getLast?_map] at closed
  exact Option.map_injective cast_point_injective closed

theorem integer_edge_apart (edge : (Int × Int) × (Int × Int)) (member : edge ∈ steps ring) : edge.1 ≠ edge.2 := by
  intro same
  have inCast : (castEdge edge : (ℝ × ℝ) × (ℝ × ℝ)) ∈ steps (castRing ring) := by
    rw [cast_steps]
    exact List.mem_map_of_mem member
  apply edge_apart _ simple _ inCast
  simp only [castEdge, same]

theorem on_boundary_exact (p : Int × Int) :
    pointOnRingBoundary (p.1 : K) (p.2 : K) (castRing ring) = true ↔ OnBoundary (castRing ring) (castPoint p) := by
  rw [pointOnRingBoundary, edges_steps, cast_steps, List.any_map, List.any_eq_true, OnBoundary, cast_steps]
  simp only [List.mem_map, exists_exists_and_eq_and, Function.comp_apply]
  constructor
  · rintro ⟨edge, member, on⟩
    exact ⟨edge, member, (point_on_segment_exact p edge.1 edge.2 (integer_edge_apart ring simple edge member)).mp on⟩
  · rintro ⟨edge, member, on⟩
    exact ⟨edge, member, (point_on_segment_exact p edge.1 edge.2 (integer_edge_apart ring simple edge member)).mpr on⟩

theorem point_in_ring_exact (p : Int × Int) (near : ∀ v ∈ ring, |p.1 - v.1| < 10 ^ 30)
    (off : ¬ OnBoundary (castRing ring) (castPoint p)) :
    pointInRing (p.1 : K) (p.2 : K) (castRing ring) = odd (castRing ring) (castPoint p) := by
  have long := simple.long
  rw [castRing, List.length_map] at long
  have closed : (castRing ring : Ring K).head? = (castRing ring : Ring K).getLast? := by
    rw [castRing, List.head?_map, List.getLast?_map, integer_closed ring simple]
  have nonempty : (castRing ring : Ring K) ≠ [] := by
    intro empty
    rw [castRing, List.map_eq_nil_iff] at empty
    rw [empty] at long
    cases long
  obtain ⟨v, turned⟩ := turns_closed (castRing ring : Ring K) closed nonempty
  have still : crossesRight (p.1 : K) (p.2 : K) v v = false := by
    rw [crossesRight, bne_self_eq_false, Bool.false_and]
  rw [point_in_ring_parity _ _ _ (by rw [castRing, List.length_map]; omega), turned, parity, still, Bool.false_bne, odd,
    cast_steps, cast_steps, parity_map, parity_map]
  apply parity_congr
  intro edge member
  have outside : (castPoint p : ℝ × ℝ) ∉ segment ℝ (castPoint edge.1 : ℝ × ℝ) (castPoint edge.2) := by
    intro on
    apply off
    refine ⟨castEdge edge, ?_, on⟩
    rw [cast_steps]
    exact List.mem_map_of_mem member
  have hits := cast_ray_hits (K := ℝ) p edge
  rw [hits]
  exact crosses_right_exact p edge.1 edge.2 (near edge.2 (steps_mem ring edge member).2) outside

theorem strictly_inside_exact (p : Int × Int) (near : ∀ v ∈ ring, |p.1 - v.1| < 10 ^ 30) :
    pointStrictlyInsideRing (p.1 : K) (p.2 : K) (castRing ring) = true ↔ (castPoint p : ℝ × ℝ) ∈ interiorOf (castRing ring) := by
  have boundary := on_boundary_exact (K := K) ring simple p
  rw [pointStrictlyInsideRing]
  by_cases on : pointOnRingBoundary (p.1 : K) (p.2 : K) (castRing ring) = true
  · rw [if_pos on]
    exact iff_of_false Bool.false_ne_true fun inside => inside.1 (boundary.mp on)
  · have off := fun hits => on (boundary.mpr hits)
    rw [if_neg on, point_in_ring_exact ring simple p near off]
    exact (and_iff_right off).symm

variable [FloorRing K]

omit simple in
theorem round_integer (n : Int) : round12 (n : K) = n * 10 ^ 12 := by
  have whole : (n : K) * ((10 ^ 12 : Nat) : K) = ((n * 10 ^ 12 : Int) : K) := by push_cast; ring
  have half : (0 : K) < 1 / ((2 : Nat) : K) := by positivity
  rw [round12, whole, roundHalfEven, Int.floor_intCast, sub_self, if_pos half]

theorem integer_ring_valid : ringIsValid (coordinatesOf (castRing ring : Ring K)) = true := by
  have long := simple.long
  rw [castRing, List.length_map] at long
  have distinct : ring.dropLast.Nodup := by
    have mapped := simple.distinct
    rw [castRing, ← List.map_dropLast] at mapped
    exact mapped.of_map
  have rounded : ((castRing ring : Ring K).dropLast.map fun p => (round12 p.1, round12 p.2)) =
      ring.dropLast.map fun p => (p.1 * 10 ^ 12, p.2 * 10 ^ 12) := by
    rw [castRing, ← List.map_dropLast, List.map_map]
    refine List.map_congr_left fun p _ => ?_
    simp only [Function.comp_apply, castPoint, round_integer]
  have apart : (ring.dropLast.map fun p => (p.1 * 10 ^ 12, p.2 * 10 ^ 12)).Nodup := by
    refine distinct.map fun p q same => ?_
    simp only [Prod.mk.injEq] at same
    exact Prod.ext (by omega) (by omega)
  have closed : (castRing ring : Ring K).head? = (castRing ring : Ring K).getLast? := by
    rw [castRing, List.head?_map, List.getLast?_map, integer_closed ring simple]
  have length : ¬ (coordinatesOf (castRing ring : Ring K)).length < 4 := by
    rw [coordinatesOf, List.length_map, castRing, List.length_map]
    omega
  rw [ringIsValid, if_neg length, coordinates_points]
  simp only [rounded, apart.dedup, closed, List.length_map, List.length_dropLast, ne_eq, not_true_eq_false, if_false,
    decide_eq_true_eq]
  omega

end Rings

section Areas

variable {K : Type} [Field K] [LinearOrder K] [IsStrictOrderedRing K] [FloorRing K]
variable (a b : List (Int × Int)) (simpleA : Simple (castRing a : Ring ℝ)) (simpleB : Simple (castRing b : Ring ℝ))

def IntegersOverlap (K : Type) [Field K] [LinearOrder K] [FloorRing K] (a b : List (Int × Int)) : Prop :=
  ringsAreaOverlap (coordinatesOf (castRing a : Ring K)) (coordinatesOf (castRing b : Ring K)) = true

include simpleB in
theorem vertex_inside_exact (near : EpsilonSeparates a b) :
    ((castRing a : Ring K).dropLast.any fun p => pointStrictlyInsideRing p.1 p.2 (castRing b)) = true ↔
      VertexInside (castRing a) (castRing b) := by
  simp only [VertexInside, castRing, ← List.map_dropLast, List.any_map, List.any_eq_true, List.mem_map,
    exists_exists_and_eq_and, Function.comp_apply]
  constructor
  · rintro ⟨p, member, inside⟩
    exact ⟨p, member, (strictly_inside_exact b simpleB p (near p (List.mem_of_mem_dropLast member))).mp inside⟩
  · rintro ⟨p, member, inside⟩
    exact ⟨p, member, (strictly_inside_exact b simpleB p (near p (List.mem_of_mem_dropLast member))).mpr inside⟩

theorem edges_cross_exact :
    ((edges (castRing a : Ring K)).any fun e => (edges (castRing b : Ring K)).any fun f =>
      segmentsProperlyIntersect e.1 e.2 f.1 f.2) = true ↔ EdgesCross (castRing a) (castRing b) := by
  simp only [edges_steps, EdgesCross, cast_steps, List.any_map, List.any_eq_true, List.mem_map, exists_exists_and_eq_and,
    Function.comp_apply]
  constructor
  · rintro ⟨e, inA, f, inB, proper⟩
    exact ⟨e, inA, f, inB, (cast_crosses e f).mpr ((properly_crosses e f).mp proper)⟩
  · rintro ⟨e, inA, f, inB, crosses⟩
    exact ⟨e, inA, f, inB, (properly_crosses e f).mpr ((cast_crosses e f).mp crosses)⟩

include simpleA simpleB in
theorem integers_overlap_iff (nearA : EpsilonSeparates a b) (nearB : EpsilonSeparates b a) :
    IntegersOverlap K a b ↔ EdgesCross (castRing a) (castRing b) ∨ VertexInside (castRing a) (castRing b) ∨
      VertexInside (castRing b) (castRing a) := by
  rw [IntegersOverlap, ringsAreaOverlap, integer_ring_valid a simpleA, integer_ring_valid b simpleB, coordinates_points,
    coordinates_points]
  simp only [Bool.not_true, Bool.or_self, Bool.false_eq_true, if_false, ringPointsOverlap, Bool.or_eq_true,
    edges_cross_exact, vertex_inside_exact a b simpleB nearA, vertex_inside_exact b a simpleA nearB]

include simpleA simpleB in
-- Two simple rings of integers are told right unless their areas meet although all that touches are
-- vertices on the other ring.
theorem areas_overlap_exact_iff (nearA : EpsilonSeparates a b) (nearB : EpsilonSeparates b a) :
    ((IntegersOverlap K a b ↔ Meet (castRing a) (castRing b)) ↔
      (Meet (castRing a) (castRing b) → EdgesCross (castRing a) (castRing b) ∨ VertexInside (castRing a) (castRing b) ∨
        VertexInside (castRing b) (castRing a))) ∧
    (GeneralPosition (castRing a) (castRing b) → (IntegersOverlap K a b ↔ Meet (castRing a) (castRing b))) ∧
    ∀ zone other : Zone K, geojsonAreasOverlap zone other = geojsonAreasOverlap other zone := by
  have tests := integers_overlap_iff (K := K) a b simpleA simpleB nearA nearB
  have sound : IntegersOverlap K a b → Meet (castRing a) (castRing b) := by
    rw [tests]
    rintro (cross | vertex | vertex)
    · exact crossing_meets _ _ simpleA simpleB cross
    · exact vertex_meets _ _ simpleA simpleB vertex
    · obtain ⟨p, inB, inA⟩ := vertex_meets _ _ simpleB simpleA vertex
      exact ⟨p, inA, inB⟩
  refine ⟨⟨fun same meet => tests.mp (same.mpr meet), fun enough => ⟨sound, fun meet => tests.mpr (enough meet)⟩⟩, ?_, ?_⟩
  · intro general
    exact ⟨sound, fun meet => tests.mpr (general_meets _ _ simpleA simpleB general meet)⟩
  · exact areas_overlap_symm

end Areas

section Rectangles

def rectangle (x0 y0 x1 y1 : Int) : List (Int × Int) := [(x0, y0), (x1, y0), (x1, y1), (x0, y1), (x0, y0)]

variable (x0 y0 x1 y1 : Int) (wide : x0 < x1) (high : y0 < y1)

theorem segment_upright (x y y' : ℝ) (z : ℝ × ℝ) (on : z ∈ segment ℝ (x, y) (x, y')) : z.1 = x := by
  obtain ⟨t, _, _, first, _⟩ := (Plane.mem_segment _ _ z).mp on
  rw [first, sub_self, mul_zero, add_zero]

theorem segment_flat (x x' y : ℝ) (z : ℝ × ℝ) (on : z ∈ segment ℝ (x, y) (x', y)) : z.2 = y := by
  obtain ⟨t, _, _, _, second⟩ := (Plane.mem_segment _ _ z).mp on
  rw [second, sub_self, mul_zero, add_zero]

include wide high

theorem rectangle_simple : Simple (castRing (rectangle x0 y0 x1 y1) : Ring ℝ) := by
  have wideReal : (x0 : ℝ) < x1 := Int.cast_lt.mpr wide
  have highReal : (y0 : ℝ) < y1 := Int.cast_lt.mpr high
  constructor
  case closed => rfl
  case long => exact le_of_eq_of_le rfl (by decide : 4 ≤ 5)
  case distinct =>
    simp only [castRing, rectangle, castPoint, List.map_cons, List.map_nil, List.dropLast_cons_cons, List.dropLast_singleton,
      List.nodup_cons, List.mem_cons, List.not_mem_nil, or_false, Prod.mk.injEq, List.nodup_nil, and_true,
      not_false_eq_true, wideReal.ne, wideReal.ne', highReal.ne, and_false, and_self]
  case apart =>
    simp only [castRing, rectangle, castPoint, steps, List.map_cons, List.map_nil, List.tail_cons, List.zip_cons_cons,
      List.zip_nil_right, List.pairwise_cons, List.mem_cons, List.not_mem_nil, or_false, forall_eq_or_imp, forall_eq,
      List.Pairwise.nil, and_true, IsEmpty.forall_iff, implies_true]
    refine ⟨⟨?_, ?_, ?_⟩, ⟨?_, ?_⟩, ?_⟩
    · intro z onFirst onSecond
      have second := segment_flat _ _ _ z onFirst
      have first := segment_upright _ _ _ z onSecond
      exact ⟨Or.inr (Prod.ext first second), Or.inl (Prod.ext first second)⟩
    · intro z onFirst onSecond
      have low := segment_flat _ _ _ z onFirst
      have top := segment_flat _ _ _ z onSecond
      exact absurd (low.symm.trans top) highReal.ne
    · intro z onFirst onSecond
      have second := segment_flat _ _ _ z onFirst
      have first := segment_upright _ _ _ z onSecond
      exact ⟨Or.inl (Prod.ext first second), Or.inr (Prod.ext first second)⟩
    · intro z onFirst onSecond
      have first := segment_upright _ _ _ z onFirst
      have second := segment_flat _ _ _ z onSecond
      exact ⟨Or.inr (Prod.ext first second), Or.inl (Prod.ext first second)⟩
    · intro z onFirst onSecond
      have right := segment_upright _ _ _ z onFirst
      have left := segment_upright _ _ _ z onSecond
      exact absurd (left.symm.trans right) wideReal.ne
    · intro z onFirst onSecond
      have second := segment_flat _ _ _ z onFirst
      have first := segment_upright _ _ _ z onSecond
      exact ⟨Or.inr (Prod.ext first second), Or.inl (Prod.ext first second)⟩

theorem rectangle_interior (p : ℝ × ℝ) (west : (x0 : ℝ) < p.1) (east : p.1 < x1) (south : (y0 : ℝ) < p.2) (north : p.2 < y1) :
    p ∈ interiorOf (castRing (rectangle x0 y0 x1 y1)) := by
  have highReal : (y0 : ℝ) < y1 := Int.cast_lt.mpr high
  constructor
  · rintro ⟨edge, member, on⟩
    simp only [castRing, rectangle, castPoint, steps, List.map_cons, List.map_nil, List.tail_cons, List.zip_cons_cons,
      List.zip_nil_right, List.mem_cons, List.not_mem_nil, or_false] at member
    rcases member with rfl | rfl | rfl | rfl
    · exact absurd (segment_flat _ _ _ p on) south.ne'
    · exact absurd (segment_upright _ _ _ p on) east.ne
    · exact absurd (segment_flat _ _ _ p on) north.ne
    · exact absurd (segment_upright _ _ _ p on) west.ne'
  · have listed : steps (castRing (rectangle x0 y0 x1 y1) : Ring ℝ) =
        [(castPoint (x0, y0), castPoint (x1, y0)), (castPoint (x1, y0), castPoint (x1, y1)),
          (castPoint (x1, y1), castPoint (x0, y1)), (castPoint (x0, y1), castPoint (x0, y0))] := rfl
    have right : 0 < Plane.orient ((x1 : ℝ), (y0 : ℝ)) (x1, y1) p := by
      simp only [Plane.orient, sub_self, zero_mul, zero_sub]
      linarith [mul_pos (sub_pos.mpr highReal) (sub_pos.mpr east)]
    have left : ¬ Plane.orient ((x0 : ℝ), (y1 : ℝ)) (x0, y0) p < 0 := by
      simp only [Plane.orient, sub_self, zero_mul, zero_sub]
      linarith [mul_pos (sub_pos.mpr highReal) (sub_pos.mpr west)]
    simp [odd, listed, parity, Plane.rayHits, castPoint, right, left, south.le, north, not_le.mpr north, not_lt.mpr south.le]

end Rectangles

-- The same area twice is no overlap for the code.
theorem equal_squares_missed : Simple (castRing (rectangle 0 0 1 1) : Ring ℝ) ∧
    ¬ (IntegersOverlap ℚ (rectangle 0 0 1 1) (rectangle 0 0 1 1) ↔
      Meet (castRing (rectangle 0 0 1 1)) (castRing (rectangle 0 0 1 1))) := by
  refine ⟨rectangle_simple 0 0 1 1 (by decide) (by decide), fun same => ?_⟩
  have middle : ((1 / 2, 1 / 2) : ℝ × ℝ) ∈ interiorOf (castRing (rectangle 0 0 1 1)) := by
    apply rectangle_interior 0 0 1 1 (by decide) (by decide) <;> norm_num
  have missed : ¬ IntegersOverlap ℚ (rectangle 0 0 1 1) (rectangle 0 0 1 1) := by
    rw [IntegersOverlap]
    decide +kernel
  exact missed (same.mpr ⟨_, middle, middle⟩)

theorem areas_overlap_exact_squares :
    (IntegersOverlap ℚ (rectangle 0 0 2 2) (rectangle 1 1 3 3) ↔
      Meet (castRing (rectangle 0 0 2 2)) (castRing (rectangle 1 1 3 3))) := by
  have corner : VertexInside (castRing (rectangle 1 1 3 3)) (castRing (rectangle 0 0 2 2)) := by
    refine ⟨castPoint (1, 1), List.mem_cons_self, ?_⟩
    apply rectangle_interior 0 0 2 2 (by decide) (by decide) <;> norm_num [castPoint]
  refine (areas_overlap_exact_iff (rectangle 0 0 2 2) (rectangle 1 1 3 3) (rectangle_simple 0 0 2 2 (by decide) (by decide))
    (rectangle_simple 1 1 3 3 (by decide) (by decide)) ?_ ?_).1.mpr fun _ => Or.inr (Or.inr corner)
  · rw [EpsilonSeparates]
    decide
  · rw [EpsilonSeparates]
    decide

end SasCore.Geometry
