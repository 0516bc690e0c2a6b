import Mathlib.Analysis.SpecialFunctions.Trigonometric.Inverse
import Mathlib.Analysis.Real.Pi.Bounds
import SasCore.Geometry.RingFacts

set_option autoImplicit false
set_option linter.unusedSectionVars false

namespace SasCore.Geometry

section Rings

variable {K : Type} [Field K] [LinearOrder K] [IsStrictOrderedRing K] [FloorRing K]

def validRings (zone : Zone K) : List (Ring K) := ((iterGeojsonRings zone).filter ringIsValid).filterMap ringPoints

-- Anything but a bare Point, which is compared by its own distance.
def OfRings (zone : Zone K) : Prop := ∀ position, zone ≠ .geometry (.point position)

variable (math : MathModule K) (lat lon bufferM : K)

-- The vertices of the ring are near enough in degrees.
def BoxReaches (ring : Ring K) : Prop :=
  Reaches lat lon ((bufferM + bufferSlackM) / metresPerDegree)
    ((bufferM + bufferSlackM) / (metresPerDegree * max cosFloor |math.cos (radians math lat)|)) ring

def Near (ring : Ring K) : Prop := distanceToRingM math lat lon ring ≤ (bufferM : WithTop K)

def BufferTestExact (zone : Zone K) : Prop :=
  withinGeojsonBufferM math lat lon zone bufferM = true ↔ ∃ ring ∈ validRings zone, Near math lat lon bufferM ring

theorem valid_points (coordinates : List (List K)) (valid : ringIsValid coordinates = true) :
    ∃ ring, ringPoints coordinates = some ring ∧ ring ≠ [] := by
  rw [ringIsValid] at valid
  split at valid
  · cases valid
  · split at valid
    · cases valid
    · rename_i ring points
      refine ⟨ring, points, fun empty => ?_⟩
      rw [empty] at valid
      simp at valid

theorem ring_within_iff (coordinates : List (List K)) :
    ringWithinBuffer math lat lon bufferM coordinates = true ↔
      ringIsValid coordinates = true ∧ ∃ ring, ringPoints coordinates = some ring ∧
        BoxReaches math lat lon bufferM ring ∧ Near math lat lon bufferM ring := by
  rw [ringWithinBuffer]
  by_cases valid : ringIsValid coordinates = true
  · obtain ⟨ring, points, nonempty⟩ := valid_points coordinates valid
    obtain ⟨bbox, found⟩ := bbox_found ring nonempty
    have reaches := expanded_reaches math ring bbox found lat lon (bufferM + bufferSlackM)
    simp only [valid, points, found, Bool.not_true, Bool.false_eq_true, if_false, true_and, Option.some.injEq,
      exists_eq_left', BoxReaches, Near]
    rw [← reaches]
    cases inBbox lon lat (expandBboxM math bbox (bufferM + bufferSlackM) lat) with
    | true => simp
    | false => simp
  · simp [valid]

theorem within_iff (zone : Zone K) (ofRings : OfRings zone) :
    withinGeojsonBufferM math lat lon zone bufferM = true ↔
      ∃ ring ∈ validRings zone, BoxReaches math lat lon bufferM ring ∧ Near math lat lon bufferM ring := by
  have scanned : withinGeojsonBufferM math lat lon zone bufferM =
      (iterGeojsonRings zone).any (ringWithinBuffer math lat lon bufferM) := by
    cases zone with
    | geometry shape =>
        cases shape with
        | point position => exact absurd rfl (ofRings position)
        | _ => rfl
    | _ => rfl
  simp only [scanned, List.any_eq_true, ring_within_iff, validRings, List.mem_filterMap, List.mem_filter]
  constructor
  · rintro ⟨coordinates, member, valid, ring, points, reaches, near⟩
    exact ⟨ring, ⟨coordinates, ⟨member, valid⟩, points⟩, reaches, near⟩
  · rintro ⟨ring, ⟨coordinates, ⟨member, valid⟩, points⟩, reaches, near⟩
    exact ⟨coordinates, member, valid, ring, points, reaches, near⟩

theorem exact_iff (zone : Zone K) (ofRings : OfRings zone) :
    BufferTestExact math lat lon bufferM zone ↔
      ((∃ ring ∈ validRings zone, Near math lat lon bufferM ring) →
        ∃ ring ∈ validRings zone, Near math lat lon bufferM ring ∧ BoxReaches math lat lon bufferM ring) := by
  rw [BufferTestExact, within_iff math lat lon bufferM zone ofRings]
  constructor
  · intro same some
    obtain ⟨ring, member, reaches, near⟩ := same.mpr some
    exact ⟨ring, member, near, reaches⟩
  · intro enough
    constructor
    · rintro ⟨ring, member, _, near⟩
      exact ⟨ring, member, near⟩
    · intro some
      obtain ⟨ring, member, near, reaches⟩ := enough some
      exact ⟨ring, member, reaches, near⟩

end Rings

noncomputable def realMath : MathModule ℝ := ⟨Real.pi, Real.sin, Real.cos, Real.arcsin, Real.sqrt⟩

-- Metres per degree along a meridian in the projection of the distance.
noncomputable def projectedMetresPerDegree : ℝ := Real.pi / degreesPerHalfTurn * earthRadiusM

noncomputable def cosAt (lat : ℝ) : ℝ := |realMath.cos (radians realMath lat)|

-- The degrees that the box allows are at least those that the buffer spans in the projection.
def BoxCovers (lat bufferM : ℝ) : Prop :=
  cosAt lat ≠ 0 ∧
    bufferM * (metresPerDegree * max cosFloor (cosAt lat)) ≤ (bufferM + bufferSlackM) * (projectedMetresPerDegree * cosAt lat)

section Projection

variable (lat lon : ℝ)

theorem projected_pos : 0 < projectedMetresPerDegree := by
  have pi := Real.pi_pos
  rw [projectedMetresPerDegree, degreesPerHalfTurn, earthRadiusM]
  positivity

theorem to_xy_real (la lo : ℝ) :
    toXy realMath lat lon la lo =
      ((lo - lon) * projectedMetresPerDegree * realMath.cos (radians realMath lat), (la - lat) * projectedMetresPerDegree) := by
  simp only [toXy, radians, realMath, projectedMetresPerDegree, Prod.mk.injEq]
  constructor
  · ring
  · ring

-- How far along the segment the nearest point is.
noncomputable def footParameter (a b : ℝ × ℝ) : ℝ :=
  max 0 (min 1 ((-a.1 * (b.1 - a.1) + -a.2 * (b.2 - a.2)) /
    ((b.1 - a.1) * (b.1 - a.1) + (b.2 - a.2) * (b.2 - a.2))))

theorem edge_distance_at (edge : (ℝ × ℝ) × (ℝ × ℝ)) :
    ∃ t : ℝ, 0 ≤ t ∧ t ≤ 1 ∧ edgeDistanceM realMath lat lon edge =
      hypot realMath (toXy realMath lat lon (edge.1.2 + t * (edge.2.2 - edge.1.2)) (edge.1.1 + t * (edge.2.1 - edge.1.1))).1
        (toXy realMath lat lon (edge.1.2 + t * (edge.2.2 - edge.1.2)) (edge.1.1 + t * (edge.2.1 - edge.1.1))).2 := by
  rw [edgeDistanceM, distPointSegmentM]
  simp only
  split
  · refine ⟨0, le_rfl, zero_le_one, ?_⟩
    rw [zero_mul, add_zero, zero_mul, add_zero]
  · refine ⟨footParameter (toXy realMath lat lon edge.1.2 edge.1.1) (toXy realMath lat lon edge.2.2 edge.2.1),
      le_max_left _ _, max_le zero_le_one (min_le_left _ _), ?_⟩
    rw [← footParameter]
    generalize footParameter (toXy realMath lat lon edge.1.2 edge.1.1) (toXy realMath lat lon edge.2.2 edge.2.1) = t
    congr 1
    · simp only [to_xy_real]
      ring
    · simp only [to_xy_real]
      ring

theorem hypot_parts (x y bound : ℝ) (le : hypot realMath x y ≤ bound) : |x| ≤ bound ∧ |y| ≤ bound := by
  constructor
  · exact (Real.abs_le_sqrt (by nlinarith [mul_self_nonneg y])).trans le
  · exact (Real.abs_le_sqrt (by nlinarith [mul_self_nonneg x])).trans le

-- The foot of the shortest way is at least as near as the first end.
theorem edge_distance_first (edge : (ℝ × ℝ) × (ℝ × ℝ)) :
    edgeDistanceM realMath lat lon edge ≤
      hypot realMath (toXy realMath lat lon edge.1.2 edge.1.1).1 (toXy realMath lat lon edge.1.2 edge.1.1).2 := by
  rw [edgeDistanceM, distPointSegmentM]
  generalize toXy realMath lat lon edge.1.2 edge.1.1 = a
  generalize toXy realMath lat lon edge.2.2 edge.2.1 = b
  simp only
  split
  · exact le_rfl
  · rename_i apart
    have square : 0 < (b.1 - a.1) * (b.1 - a.1) + (b.2 - a.2) * (b.2 - a.2) :=
      lt_of_le_of_ne (add_nonneg (mul_self_nonneg _) (mul_self_nonneg _)) (Ne.symm apart)
    refine Real.sqrt_le_sqrt ?_
    generalize squared : (b.1 - a.1) * (b.1 - a.1) + (b.2 - a.2) * (b.2 - a.2) = d at square
    generalize along : -a.1 * (b.1 - a.1) + -a.2 * (b.2 - a.2) = s
    generalize chosen : max 0 (min 1 (s / d)) = t
    -- The squared length changes by t * (t * d - 2 * s), which the clamp keeps from being positive.
    have change : t * (t * d - 2 * s) ≤ 0 := by
      rw [← chosen]
      rcases le_total s 0 with low | high
      · have clamp : max 0 (min 1 (s / d)) = 0 := max_eq_left ((min_le_right _ _).trans (div_nonpos_of_nonpos_of_nonneg low square.le))
        rw [clamp, zero_mul]
      · have nonneg : 0 ≤ s / d := div_nonneg high square.le
        rw [max_eq_right (le_min zero_le_one nonneg)]
        rcases le_total 1 (s / d) with far | inner
        · rw [min_eq_left far]
          have big := (one_le_div square).mp far
          linarith
        · rw [min_eq_right inner, div_mul_cancel₀ _ square.ne']
          exact mul_nonpos_of_nonneg_of_nonpos nonneg (by linarith)
    calc (a.1 + t * (b.1 - a.1)) * (a.1 + t * (b.1 - a.1)) + (a.2 + t * (b.2 - a.2)) * (a.2 + t * (b.2 - a.2))
        = a.1 * a.1 + a.2 * a.2 + t * (t * ((b.1 - a.1) * (b.1 - a.1) + (b.2 - a.2) * (b.2 - a.2)) -
            2 * (-a.1 * (b.1 - a.1) + -a.2 * (b.2 - a.2))) := by ring
      _ ≤ a.1 * a.1 + a.2 * a.2 := by
          rw [squared, along]
          linarith

end Projection

section Coverage

variable (lat lon bufferM : ℝ)

theorem degrees_bound (gap unit width spanned allowed : ℝ) (unitPos : 0 < unit) (widthNonneg : 0 ≤ width)
    (spans : gap * unit ≤ spanned) (covers : spanned * width ≤ allowed * unit) : gap * width ≤ allowed := by
  have scaled := mul_le_mul_of_nonneg_right spans widthNonneg
  refine le_of_mul_le_mul_right ?_ unitPos
  calc gap * width * unit = gap * unit * width := by ring
    _ ≤ spanned * width := scaled
    _ ≤ allowed * unit := covers

theorem width_pos : 0 < (metresPerDegree : ℝ) * max cosFloor (cosAt lat) := by
  have floor : (0 : ℝ) < cosFloor := by norm_num [cosFloor]
  have metres : (0 : ℝ) < metresPerDegree := by norm_num [metresPerDegree]
  exact mul_pos metres (lt_max_of_lt_left floor)

theorem width_le : (metresPerDegree : ℝ) * max cosFloor (cosAt lat) ≤ metresPerDegree := by
  have metres : (0 : ℝ) ≤ metresPerDegree := by norm_num [metresPerDegree]
  have cosine : cosAt lat ≤ 1 := Real.abs_cos_le_one _
  have floor : (cosFloor : ℝ) ≤ 1 := by norm_num [cosFloor]
  exact mul_le_of_le_one_right metres (max_le floor cosine)

theorem part_between (x y t : ℝ) (low : 0 ≤ t) (high : t ≤ 1) :
    (x ≤ x + t * (y - x) ∨ y ≤ x + t * (y - x)) ∧ (x + t * (y - x) ≤ x ∨ x + t * (y - x) ≤ y) := by
  rcases le_total x y with le | le
  · have up := mul_nonneg low (sub_nonneg.mpr le)
    have down := mul_le_of_le_one_left (sub_nonneg.mpr le) high
    exact ⟨Or.inl (by linarith), Or.inr (by linarith)⟩
  · have up := mul_nonneg low (sub_nonneg.mpr le)
    have down := mul_le_of_le_one_left (sub_nonneg.mpr le) high
    exact ⟨Or.inr (by linarith), Or.inl (by linarith)⟩

theorem edge_reaches (ring : Ring ℝ) (edge : (ℝ × ℝ) × (ℝ × ℝ)) (member : edge ∈ edges ring) (dlat dlon t : ℝ) (low : 0 ≤ t)
    (high : t ≤ 1) (latNear : |edge.1.2 + t * (edge.2.2 - edge.1.2) - lat| ≤ dlat)
    (lonNear : |edge.1.1 + t * (edge.2.1 - edge.1.1) - lon| ≤ dlon) : Reaches lat lon dlat dlon ring := by
  obtain ⟨first, second⟩ := Parity.steps_mem ring edge member
  obtain ⟨latBelow, latAbove⟩ := abs_le.mp latNear
  obtain ⟨lonBelow, lonAbove⟩ := abs_le.mp lonNear
  obtain ⟨lonLow, lonHigh⟩ := part_between edge.1.1 edge.2.1 t low high
  obtain ⟨latLow, latHigh⟩ := part_between edge.1.2 edge.2.2 t low high
  constructor
  case west =>
    rcases lonLow with le | le
    · exact ⟨edge.1, first, by linarith⟩
    · exact ⟨edge.2, second, by linarith⟩
  case east =>
    rcases lonHigh with le | le
    · exact ⟨edge.1, first, by linarith⟩
    · exact ⟨edge.2, second, by linarith⟩
  case south =>
    rcases latLow with le | le
    · exact ⟨edge.1, first, by linarith⟩
    · exact ⟨edge.2, second, by linarith⟩
  case north =>
    rcases latHigh with le | le
    · exact ⟨edge.1, first, by linarith⟩
    · exact ⟨edge.2, second, by linarith⟩

theorem covered_reaches (nonneg : 0 ≤ bufferM) (covers : BoxCovers lat bufferM) (ring : Ring ℝ) (resolved : Resolved ring)
    (near : Near realMath lat lon bufferM ring) : BoxReaches realMath lat lon bufferM ring := by
  have metres : (0 : ℝ) < metresPerDegree := by norm_num [metresPerDegree]
  have slack : bufferSlackM = (5 : ℝ) := by norm_num [bufferSlackM]
  have width := width_pos lat
  have cosine : 0 < cosAt lat := lt_of_le_of_ne (abs_nonneg _) (Ne.symm covers.1)
  have unit : 0 < projectedMetresPerDegree * cosAt lat := mul_pos projected_pos cosine
  rcases (distance_le_iff realMath lat lon ring bufferM nonneg).mp near with inside | ⟨edge, member, within⟩
  · refine inside_reaches ring resolved lon lat _ _ (div_nonneg (by linarith) metres.le) ?_ inside
    refine (le_div_iff₀ width).mpr ?_
    have narrow := mul_le_mul_of_nonneg_left (width_le lat) (tolerance_pos (K := ℝ)).le
    have small : crossingToleranceDeg * (metresPerDegree : ℝ) ≤ 5 := by norm_num [crossingToleranceDeg, metresPerDegree]
    linarith
  · obtain ⟨t, low, high, same⟩ := edge_distance_at lat lon edge
    rw [same] at within
    obtain ⟨lonSpan, latSpan⟩ := hypot_parts _ _ _ within
    rw [to_xy_real] at lonSpan latSpan
    simp only [abs_mul, abs_of_pos projected_pos] at lonSpan latSpan
    have wide : bufferM * metresPerDegree ≤ (bufferM + bufferSlackM) * projectedMetresPerDegree := by
      refine le_of_mul_le_mul_right ?_ (lt_max_of_lt_right cosine : 0 < max cosFloor (cosAt lat))
      have grown : (bufferM + bufferSlackM) * projectedMetresPerDegree * cosAt lat ≤
          (bufferM + bufferSlackM) * projectedMetresPerDegree * max cosFloor (cosAt lat) :=
        mul_le_mul_of_nonneg_left (le_max_right _ _) (mul_nonneg (by linarith) projected_pos.le)
      linarith [covers.2]
    refine edge_reaches lat lon ring edge member _ _ t low high ?_ ?_
    · exact (le_div_iff₀ metres).mpr (degrees_bound _ _ _ _ _ projected_pos metres.le latSpan wide)
    · rw [mul_assoc] at lonSpan
      exact (le_div_iff₀ width).mpr (degrees_bound _ _ _ _ _ unit width.le lonSpan covers.2)

end Coverage

section EastRing

-- A triangle whose western tip lies on the parallel of the point, a gap of degrees to its east.
def eastRing (lat gap : ℝ) : List (List ℝ) := [[gap, lat], [gap + 1, lat + 1], [gap + 1, lat - 1], [gap, lat]]

def eastPoints (lat gap : ℝ) : Ring ℝ := [(gap, lat), (gap + 1, lat + 1), (gap + 1, lat - 1), (gap, lat)]

def eastZone (lat gap : ℝ) : Zone ℝ := .geometry (.polygon [eastRing lat gap])

variable (lat gap bufferM : ℝ)

theorem round_shifted (x : ℝ) : round12 (x + 1) = round12 x + 10 ^ 12 := by
  have moved : (x + 1) * ((10 ^ 12 : Nat) : ℝ) = x * ((10 ^ 12 : Nat) : ℝ) + ((10 ^ 12 : Int) : ℝ) := by
    push_cast
    ring
  rw [round12, round12, moved, roundHalfEven, roundHalfEven, Int.floor_add_intCast]
  have rest : x * ((10 ^ 12 : Nat) : ℝ) + ((10 ^ 12 : Int) : ℝ) - ((⌊x * ((10 ^ 12 : Nat) : ℝ)⌋ + 10 ^ 12 : Int) : ℝ) =
      x * ((10 ^ 12 : Nat) : ℝ) - (⌊x * ((10 ^ 12 : Nat) : ℝ)⌋ : ℝ) := by
    push_cast
    ring
  have even : (⌊x * ((10 ^ 12 : Nat) : ℝ)⌋ + 10 ^ 12) % 2 = ⌊x * ((10 ^ 12 : Nat) : ℝ)⌋ % 2 := by omega
  simp only [rest, even]
  split
  · rfl
  · split
    · omega
    · split
      · rfl
      · omega

theorem east_valid : ringIsValid (eastRing lat gap) = true := by
  have up := round_shifted lat
  have down := round_shifted (lat - 1)
  rw [sub_add_cancel] at down
  have points : ringPoints (eastRing lat gap) = some (eastPoints lat gap) := rfl
  have apart : [(round12 gap, round12 lat), (round12 (gap + 1), round12 (lat + 1)),
      (round12 (gap + 1), round12 (lat - 1))].Nodup := by
    simp only [List.nodup_cons, List.mem_cons, List.not_mem_nil, or_false, Prod.mk.injEq, not_or, not_and,
      not_false_eq_true, List.nodup_nil, and_true]
    refine ⟨⟨fun _ => by omega, fun _ => by omega⟩, fun _ => by omega⟩
  have three := congrArg List.length apart.dedup
  rw [ringIsValid, points]
  simp only [eastRing, eastPoints, List.length_cons, List.length_nil, List.head?_cons, List.getLast?_cons_cons,
    List.getLast?_singleton, List.dropLast_cons_cons, List.dropLast_singleton, List.map_cons, List.map_nil] at three ⊢
  rw [three, if_neg (by omega), if_neg (not_not.mpr rfl)]
  rfl

theorem east_valid_rings : validRings (eastZone lat gap) = [eastPoints lat gap] := by
  rw [validRings, eastZone, iterGeojsonRings, geometryRings, List.filter_cons_of_pos (east_valid lat gap)]
  rfl

theorem east_resolved : ∀ ring ∈ validRings (eastZone lat gap), Resolved ring := by
  intro ring member
  rw [east_valid_rings, List.mem_singleton] at member
  rw [member]
  intro turn inside falls
  have nudge : (rayNudge : ℝ) = 1 / 10 ^ 30 := by norm_num [rayNudge]
  have tolerance : (crossingToleranceDeg : ℝ) = 1 / 10 ^ 5 := by norm_num [crossingToleranceDeg]
  have listed : turns (eastPoints lat gap) =
      [((gap, lat), (gap, lat)), ((gap, lat), (gap + 1, lat + 1)), ((gap + 1, lat + 1), (gap + 1, lat - 1)),
        ((gap + 1, lat - 1), (gap, lat))] := rfl
  rw [listed] at inside
  simp only [List.mem_cons, List.not_mem_nil, or_false] at inside
  rcases inside with rfl | rfl | rfl | rfl
  · exact absurd falls (lt_irrefl _)
  · rw [nudge, tolerance]
    simp only [sub_add_cancel_left, abs_neg, abs_one, add_sub_cancel_left]
    norm_num
  · exact absurd falls (by simp only [not_lt]; linarith)
  · rw [nudge, tolerance]
    simp only [add_sub_cancel_left, abs_one, sub_sub_cancel]
    norm_num

theorem east_near (nonneg : 0 ≤ bufferM) (gapNonneg : 0 ≤ gap)
    (spans : gap * (projectedMetresPerDegree * cosAt lat) ≤ bufferM) : Near realMath lat 0 bufferM (eastPoints lat gap) := by
  refine (distance_le_iff realMath lat 0 _ bufferM nonneg).mpr (Or.inr ?_)
  refine ⟨((gap, lat), (gap + 1, lat + 1)), List.mem_cons_self, ?_⟩
  refine (edge_distance_first lat 0 _).trans ?_
  rw [to_xy_real]
  simp only [sub_self, zero_mul, sub_zero]
  rw [hypot, mul_zero, add_zero]
  refine (Real.sqrt_mul_self_eq_abs _).le.trans ?_
  rw [abs_mul, abs_of_nonneg (mul_nonneg gapNonneg projected_pos.le), mul_assoc]
  exact spans

theorem east_missed (beyond : bufferM + bufferSlackM < gap * (metresPerDegree * max cosFloor (cosAt lat))) :
    ¬ BoxReaches realMath lat 0 bufferM (eastPoints lat gap) := by
  intro reaches
  obtain ⟨v, member, west⟩ := reaches.west
  have least : gap ≤ v.1 := by
    simp only [eastPoints, List.mem_cons, List.not_mem_nil, or_false] at member
    rcases member with rfl | rfl | rfl | rfl
    · exact le_rfl
    · simp
    · simp
    · exact le_rfl
  have outside := (div_lt_iff₀ (width_pos lat)).mpr beyond
  rw [cosAt] at outside
  linarith

theorem east_zone_fails (nonneg : 0 ≤ bufferM) (gapNonneg : 0 ≤ gap)
    (spans : gap * (projectedMetresPerDegree * cosAt lat) ≤ bufferM)
    (beyond : bufferM + bufferSlackM < gap * (metresPerDegree * max cosFloor (cosAt lat))) :
    ¬ BufferTestExact realMath lat 0 bufferM (eastZone lat gap) := by
  have ofRings : OfRings (eastZone lat gap) := by
    intro position same
    cases same
  rw [exact_iff realMath lat 0 bufferM _ ofRings, east_valid_rings]
  intro enough
  obtain ⟨ring, member, _, reaches⟩ := enough ⟨_, List.mem_singleton.mpr rfl, east_near lat gap bufferM nonneg gapNonneg spans⟩
  rw [List.mem_singleton.mp member] at reaches
  exact east_missed lat gap bufferM beyond reaches

end EastRing

theorem cos_at_equator : cosAt 0 = 1 := by
  rw [cosAt, radians, zero_mul, zero_div]
  exact (congrArg abs Real.cos_zero).trans abs_one

-- Ten kilometres on the equator: the box ends a few metres before the buffer does.
theorem far_buffer_missed : ¬ BufferTestExact realMath 0 0 10000 (eastZone 0 (899 / 10000)) := by
  have pi := Real.pi_lt_d4
  refine east_zone_fails 0 (899 / 10000) 10000 (by norm_num) (by norm_num) ?_ ?_
  · rw [cos_at_equator, projectedMetresPerDegree, degreesPerHalfTurn, earthRadiusM]
    norm_num
    linarith
  · rw [cos_at_equator, bufferSlackM, metresPerDegree, cosFloor]
    norm_num

-- At a latitude and a buffer, the test is right for every point and zone exactly when the box covers the buffer.
theorem buffer_test_exact_iff (lat bufferM : ℝ) (nonneg : 0 ≤ bufferM) :
    (∀ lon zone, OfRings zone →
      (BufferTestExact realMath lat lon bufferM zone ↔
        ((∃ ring ∈ validRings zone, Near realMath lat lon bufferM ring) →
          ∃ ring ∈ validRings zone, Near realMath lat lon bufferM ring ∧ BoxReaches realMath lat lon bufferM ring))) ∧
    ((∀ lon zone, OfRings zone → (∀ ring ∈ validRings zone, Resolved ring) →
      BufferTestExact realMath lat lon bufferM zone) ↔ BoxCovers lat bufferM) := by
  refine ⟨fun lon zone ofRings => exact_iff realMath lat lon bufferM zone ofRings, ?_⟩
  constructor
  · intro always
    by_contra uncovered
    have slack : bufferSlackM = (5 : ℝ) := by norm_num [bufferSlackM]
    have width := width_pos lat
    have ofRings : ∀ gap, OfRings (eastZone lat gap) := by
      intro gap position same
      cases same
    have fails : ∀ gap, 0 ≤ gap → gap * (projectedMetresPerDegree * cosAt lat) ≤ bufferM →
        bufferM + bufferSlackM < gap * (metresPerDegree * max cosFloor (cosAt lat)) → False := by
      intro gap gapNonneg spans beyond
      exact east_zone_fails lat gap bufferM nonneg gapNonneg spans beyond
        (always 0 (eastZone lat gap) (ofRings gap) (east_resolved lat gap))
    by_cases pole : cosAt lat = 0
    · have wide : 0 ≤ (bufferM + bufferSlackM) / (metresPerDegree * max cosFloor (cosAt lat)) :=
        div_nonneg (by linarith) width.le
      refine fails ((bufferM + bufferSlackM) / (metresPerDegree * max cosFloor (cosAt lat)) + 1) (by linarith) ?_ ?_
      · rw [pole, mul_zero, mul_zero]
        exact nonneg
      · rw [add_mul, div_mul_cancel₀ _ width.ne']
        linarith
    · have cosine : 0 < cosAt lat := lt_of_le_of_ne (abs_nonneg _) (Ne.symm pole)
      have unit : 0 < projectedMetresPerDegree * cosAt lat := mul_pos projected_pos cosine
      have short : (bufferM + bufferSlackM) * (projectedMetresPerDegree * cosAt lat) <
          bufferM * (metresPerDegree * max cosFloor (cosAt lat)) := by
        by_contra covered
        exact uncovered ⟨pole, not_lt.mp covered⟩
      refine fails (bufferM / (projectedMetresPerDegree * cosAt lat)) (div_nonneg nonneg unit.le) ?_ ?_
      · rw [div_mul_cancel₀ _ unit.ne']
      · rw [div_mul_eq_mul_div, lt_div_iff₀ unit]
        exact short
  · intro covers lon zone ofRings resolved
    rw [exact_iff realMath lat lon bufferM zone ofRings]
    rintro ⟨ring, member, near⟩
    exact ⟨ring, member, near, covered_reaches lat lon bufferM nonneg covers ring (resolved ring member) near⟩

theorem buffer_test_exact_kilometre :
    BoxCovers 0 1000 ∧ BufferTestExact realMath 0 0 1000 (eastZone 0 (1 / 1000)) := by
  have covers : BoxCovers 0 1000 := by
    have pi := Real.pi_gt_d4
    rw [BoxCovers, cos_at_equator, projectedMetresPerDegree, degreesPerHalfTurn, earthRadiusM, bufferSlackM,
      metresPerDegree, cosFloor]
    refine ⟨one_ne_zero, ?_⟩
    norm_num
    linarith
  have ofRings : OfRings (eastZone 0 (1 / 1000)) := by
    intro position same
    cases same
  exact ⟨covers, (buffer_test_exact_iff 0 1000 (by norm_num)).2.mpr covers 0 _ ofRings (east_resolved 0 (1 / 1000))⟩

end SasCore.Geometry
