import SasCore.Lib.Skim
import SasCore.Geometry.BufferBox

set_option autoImplicit false
set_option linter.unusedSectionVars false

namespace SasCore.Geometry

section Search

variable {K : Type} [Field K] [LinearOrder K] (math : MathModule K) (lat lon : K)

-- The rings of a zone, where every position has a longitude and a latitude.
def zoneRings (zone : Zone K) : Option (List (Ring K)) := (iterGeojsonRings zone).mapM ringPoints

def smallestDistanceM (rings : List (Ring K)) : WithTop K := Skim.least (distanceToRingM math lat lon) ⊤ rings

-- The rings that are not passed over.
def lookedRings (rings : List (Ring K)) : List (Ring K) :=
  Skim.looked (distanceToRingM math lat lon) (skipsRing math lat lon) ⊤ rings

theorem skips_antitone (ring : Ring K) (low high : WithTop K) (le : low ≤ high) (skips : skipsRing math lat lon ring high = true) :
    skipsRing math lat lon ring low = true := by
  rw [skipsRing] at skips ⊢
  split at skips
  · cases skips
  · simp only [Bool.and_eq_true, decide_eq_true_eq] at skips ⊢
    exact ⟨skips.1, le.trans_lt skips.2⟩

theorem skips_fresh (ring : Ring K) : skipsRing math lat lon ring ⊤ = false := by
  rw [skipsRing]
  split
  · rfl
  · simp

theorem nearest_skims (nonneg : ∀ ring, 0 ≤ distanceToRingM math lat lon ring) (coordinates : List (List (List K)))
    (rings : List (Ring K)) (points : coordinates.mapM ringPoints = some rings) (best : WithTop K) :
    nearestRingM math lat lon best coordinates =
      some (Skim.skim (distanceToRingM math lat lon) (skipsRing math lat lon) best rings) := by
  induction coordinates generalizing rings best with
  | nil =>
      rw [List.mapM_nil] at points
      cases points
      rfl
  | cons first rest ih =>
      simp only [List.mapM_cons, Option.bind_eq_bind, Option.bind_eq_some_iff, Option.pure_def, Option.some.injEq] at points
      obtain ⟨ring, found, others, foundOthers, rfl⟩ := points
      rw [nearestRingM, found]
      simp only [Skim.skim]
      split
      · exact ih others foundOthers best
      · by_cases less : distanceToRingM math lat lon ring < best
        · rw [if_pos less, min_eq_right less.le]
          by_cases zero : distanceToRingM math lat lon ring = 0
          · rw [if_pos zero, zero, Skim.skim_zero]
            exact fun other _ => nonneg other
          · rw [if_neg zero]
            exact ih others foundOthers _
        · rw [if_neg less, min_eq_left (not_lt.mp less)]
          exact ih others foundOthers best

def coordinatesOf (ring : Ring K) : List (List K) := ring.map fun p => [p.1, p.2]

-- Rings as one MultiPolygon.
def multiPolygonOf (rings : List (Ring K)) : Zone K := .geometry (.multiPolygon (rings.map fun ring => [coordinatesOf ring]))

theorem coordinates_points (ring : Ring K) : ringPoints (coordinatesOf ring) = some ring := by
  induction ring with
  | nil => rfl
  | cons p rest ih =>
      rw [ringPoints, coordinatesOf] at ih
      rw [ringPoints, coordinatesOf, List.map_cons, List.mapM_cons, ih]
      rfl

theorem multi_polygon_rings (rings : List (Ring K)) : zoneRings (multiPolygonOf rings) = some rings := by
  rw [zoneRings, multiPolygonOf, iterGeojsonRings, geometryRings]
  induction rings with
  | nil => rfl
  | cons ring rest ih =>
      rw [List.map_cons, List.filterMap_cons, List.head?_cons, List.mapM_cons, coordinates_points, ih]
      rfl

end Search

section Exactness

variable (lat lon : ℝ)

theorem edge_distance_nonneg (edge : (ℝ × ℝ) × (ℝ × ℝ)) : 0 ≤ edgeDistanceM realMath lat lon edge := by
  obtain ⟨t, _, _, same⟩ := edge_distance_at lat lon edge
  rw [same]
  exact Real.sqrt_nonneg _

theorem nearer_bounded (values : List ℝ) (bound : ℝ) (below : ∀ d ∈ values, bound ≤ d) (start : WithTop ℝ)
    (startBelow : bound ≤ start) : bound ≤ values.foldl nearer start := by
  induction values generalizing start with
  | nil => exact startBelow
  | cons d rest ih =>
      refine ih (fun other member => below other (List.mem_cons_of_mem d member)) _ ?_
      rw [nearer]
      split
      · exact WithTop.coe_le_coe.mpr (below d List.mem_cons_self)
      · exact startBelow

theorem distance_ge (ring : Ring ℝ) (bound : ℝ) (outside : pointInRing lon lat ring = false)
    (below : ∀ edge ∈ edges ring, bound ≤ edgeDistanceM realMath lat lon edge) :
    bound ≤ distanceToRingM realMath lat lon ring := by
  rw [distanceToRingM, if_neg (by rw [outside]; exact Bool.false_ne_true)]
  split
  · exact le_top
  · refine nearer_bounded _ bound ?_ ⊤ le_top
    intro d member
    obtain ⟨edge, inside, rfl⟩ := List.mem_map.mp member
    exact below edge inside

theorem distance_nonneg (ring : Ring ℝ) : 0 ≤ distanceToRingM realMath lat lon ring := by
  cases inside : pointInRing lon lat ring with
  | true => rw [distanceToRingM, if_pos inside]
  | false => exact distance_ge lat lon ring 0 inside fun edge _ => edge_distance_nonneg lat lon edge

theorem distance_skims (zone : Zone ℝ) (rings : List (Ring ℝ)) (known : zoneRings zone = some rings) :
    distanceToGeojsonM realMath lat lon zone =
      some (Skim.skim (distanceToRingM realMath lat lon) (skipsRing realMath lat lon) ⊤ rings) :=
  nearest_skims realMath lat lon (distance_nonneg lat lon) _ rings known ⊤

theorem looked_matches_iff (rings : List (Ring ℝ)) :
    Skim.skim (distanceToRingM realMath lat lon) (skipsRing realMath lat lon) ⊤ rings = smallestDistanceM realMath lat lon rings ↔
      ∀ ring ∈ rings, ∃ seen ∈ lookedRings realMath lat lon rings,
        distanceToRingM realMath lat lon seen ≤ distanceToRingM realMath lat lon ring := by
  rw [smallestDistanceM, Skim.skim_exact_iff]
  constructor
  · intro matched ring member
    rcases matched ring member with far | seen
    · cases rings with
      | nil => cases member
      | cons first rest =>
          refine ⟨first, ?_, le_top.trans far⟩
          rw [lookedRings, Skim.looked, if_neg (by rw [skips_fresh]; exact Bool.false_ne_true)]
          exact List.mem_cons_self
    · exact seen
  · intro matched ring member
    exact Or.inr (matched ring member)

-- In the order given, and for all orders of the same rings.
theorem nearest_ring_exact_iff (zone : Zone ℝ) (rings : List (Ring ℝ)) (known : zoneRings zone = some rings) :
    (distanceToGeojsonM realMath lat lon zone = some (smallestDistanceM realMath lat lon rings) ↔
      ∀ ring ∈ rings, ∃ seen ∈ lookedRings realMath lat lon rings,
        distanceToRingM realMath lat lon seen ≤ distanceToRingM realMath lat lon ring) ∧
    ((∀ other otherRings, zoneRings other = some otherRings → otherRings.Perm rings →
      distanceToGeojsonM realMath lat lon other = some (smallestDistanceM realMath lat lon otherRings)) ↔
      ∀ far ∈ rings, smallestDistanceM realMath lat lon rings < distanceToRingM realMath lat lon far →
        ∃ nearest ∈ rings, distanceToRingM realMath lat lon nearest = smallestDistanceM realMath lat lon rings ∧
          skipsRing realMath lat lon nearest (distanceToRingM realMath lat lon far) = false) := by
  constructor
  · rw [distance_skims lat lon zone rings known, Option.some.injEq]
    exact looked_matches_iff lat lon rings
  · have orders := Skim.skim_orders_iff (distanceToRingM realMath lat lon) (skipsRing realMath lat lon)
      (skips_antitone realMath lat lon) (skips_fresh realMath lat lon) rings
    rw [smallestDistanceM, ← orders]
    constructor
    · intro always order perm
      have whole := always (multiPolygonOf order) order (multi_polygon_rings order) perm
      rw [distance_skims lat lon _ order (multi_polygon_rings order), Option.some.injEq] at whole
      rw [whole, smallestDistanceM, Skim.least_perm _ order rings perm]
    · intro always other otherRings otherKnown perm
      rw [distance_skims lat lon other otherRings otherKnown, always otherRings perm, smallestDistanceM,
        Skim.least_perm _ otherRings rings perm]

end Exactness

section WideRing

-- A triangle of 120 degrees width that points at the equator.
noncomputable def widePoints : Ring ℝ :=
  [(0, 1 / (50 : Nat)), ((60 : Nat), (60 : Nat)), (-(60 : Nat), (60 : Nat)), (0, 1 / (50 : Nat))]

noncomputable def wideRing : List (List ℝ) := coordinatesOf widePoints

noncomputable def wideZone : Zone ℝ := .geometry (.multiPolygon [[eastRing 0 (3 / 100)], [wideRing]])

theorem wide_rings : zoneRings wideZone = some [eastPoints 0 (3 / 100), widePoints] := rfl

theorem wide_box : ringBbox widePoints = some ⟨-60, 1 / 50, 60, 60⟩ := by
  simp only [ringBbox, widePoints, List.map_cons, List.map_nil]
  norm_num [List.min?_cons, List.max?_cons]

theorem wide_resolved : Resolved widePoints := by
  have nudge : (rayNudge : ℝ) = 1 / 10 ^ 30 := by norm_num [rayNudge]
  have tolerance : (crossingToleranceDeg : ℝ) = 1 / 10 ^ 5 := by norm_num [crossingToleranceDeg]
  have listed : turns widePoints =
      [((0, 1 / 50), (0, 1 / 50)), ((0, 1 / 50), (60, 60)), ((60, 60), (-60, 60)), ((-60, 60), (0, 1 / 50))] := rfl
  intro turn inside falls
  rw [listed] at inside
  simp only [List.mem_cons, List.not_mem_nil, or_false] at inside
  rcases inside with rfl | rfl | rfl | rfl
  · exact absurd falls (lt_irrefl _)
  · rw [nudge, tolerance]
    norm_num
  · exact absurd falls (lt_irrefl _)
  · norm_num at falls

theorem wide_outside : pointInRing 0 0 widePoints = false := by
  by_contra inside
  have reaches := inside_reaches widePoints wide_resolved 0 0 0 crossingToleranceDeg le_rfl le_rfl
    (Bool.eq_true_of_not_eq_false inside)
  obtain ⟨v, member, south⟩ := reaches.south
  simp only [widePoints, List.mem_cons, List.not_mem_nil, or_false] at member
  rcases member with rfl | rfl | rfl | rfl
  all_goals norm_num at south

theorem haversine_far (lat2 lon2 : ℝ) (cosine : 1 / 2 ≤ Real.cos (radians realMath lat2))
    (sine : Real.sin (radians realMath lon2 / 2) ^ 2 = 1 / 4) : (earthRadiusM : ℝ) / 2 ≤ haversineM realMath 0 0 lat2 lon2 := by
  have radius : (0 : ℝ) < earthRadiusM := by norm_num [earthRadiusM]
  have equator : Real.cos (radians realMath 0) = 1 := by
    rw [radians, zero_mul, zero_div, Real.cos_zero]
  have inner : (1 / 4 : ℝ) ^ 2 ≤ Real.sin (radians realMath (lat2 - 0) / 2) ^ 2 +
      Real.cos (radians realMath 0) * Real.cos (radians realMath lat2) * Real.sin (radians realMath (lon2 - 0) / 2) ^ 2 := by
    rw [equator, one_mul, sub_zero, sub_zero, sine]
    have square := sq_nonneg (Real.sin (radians realMath lat2 / 2))
    linarith
  have root : (1 / 4 : ℝ) ≤ Real.sqrt (Real.sin (radians realMath (lat2 - 0) / 2) ^ 2 +
      Real.cos (radians realMath 0) * Real.cos (radians realMath lat2) * Real.sin (radians realMath (lon2 - 0) / 2) ^ 2) :=
    Real.le_sqrt_of_sq_le inner
  have arc : (1 / 4 : ℝ) ≤ Real.arcsin (1 / 4) := by
    have sine := Real.sin_le (Real.arcsin_nonneg.mpr (by norm_num : (0 : ℝ) ≤ 1 / 4))
    rwa [Real.sin_arcsin (by norm_num) (by norm_num)] at sine
  have whole := arc.trans (Real.monotone_arcsin root)
  have scaled := mul_le_mul_of_nonneg_left whole (by linarith : 0 ≤ 2 * (earthRadiusM : ℝ))
  calc (earthRadiusM : ℝ) / 2 = 2 * earthRadiusM * (1 / 4) := by ring
    _ ≤ _ := scaled

theorem wide_corners (lat2 lon2 : ℝ) (low : 0 ≤ lat2) (high : lat2 ≤ 60) (edge : lon2 = -60 ∨ lon2 = 60) :
    (earthRadiusM : ℝ) / 2 ≤ haversineM realMath 0 0 lat2 lon2 := by
  have pi := Real.pi_pos
  refine haversine_far lat2 lon2 ?_ ?_
  · rw [← Real.cos_pi_div_three]
    refine Real.cos_le_cos_of_nonneg_of_le_pi ?_ ?_ ?_
    · simp only [radians, realMath, degreesPerHalfTurn]
      positivity
    · linarith
    · simp only [radians, realMath, degreesPerHalfTurn]
      push_cast
      nlinarith
  · have half : Real.sin (Real.pi / 6) ^ 2 = 1 / 4 := by
      rw [Real.sin_pi_div_six]
      norm_num
    rcases edge with rfl | rfl
    · have angle : radians realMath (-60) / 2 = -(Real.pi / 6) := by
        simp only [radians, realMath, degreesPerHalfTurn]
        push_cast
        ring
      rw [angle, Real.sin_neg, neg_sq, half]
    · have angle : radians realMath 60 / 2 = Real.pi / 6 := by
        simp only [radians, realMath, degreesPerHalfTurn]
        push_cast
        ring
      rw [angle, half]

theorem wide_skipped (best : ℝ) (near : best < (earthRadiusM : ℝ) / 2) :
    skipsRing realMath 0 0 widePoints (best : WithTop ℝ) = true := by
  have away : inBbox 0 0 (expandBboxM realMath ⟨-60, 1 / 50, 60, 60⟩ skipBoxM 0) = false := by
    have below : ¬ ((1 / 50 : ℝ) - skipBoxM / metresPerDegree ≤ 0) := by norm_num [skipBoxM, metresPerDegree]
    simp only [inBbox, expandBboxM, below, decide_false, Bool.false_and, Bool.and_false]
  have rough : (earthRadiusM : ℝ) / 2 ≤ roughM realMath 0 0 ⟨-60, 1 / 50, 60, 60⟩ := by
    refine le_min (le_min ?_ ?_) (le_min ?_ ?_)
    · exact wide_corners _ _ (by norm_num) (by norm_num) (Or.inl rfl)
    · exact wide_corners _ _ (by norm_num) (by norm_num) (Or.inr rfl)
    · exact wide_corners _ _ (by norm_num) (by norm_num) (Or.inl rfl)
    · exact wide_corners _ _ (by norm_num) (by norm_num) (Or.inr rfl)
  rw [skipsRing, wide_box]
  simp only [away, wide_outside, Bool.not_false, Bool.true_and, decide_eq_true_eq]
  exact WithTop.coe_lt_coe.mpr (near.trans_le rough)

theorem wide_near : distanceToRingM realMath 0 0 widePoints ≤ ((1 / 50 * projectedMetresPerDegree : ℝ) : WithTop ℝ) := by
  have nonneg : 0 ≤ 1 / 50 * projectedMetresPerDegree := mul_nonneg (by norm_num) projected_pos.le
  refine (distance_le_iff realMath 0 0 widePoints _ nonneg).mpr (Or.inr ?_)
  refine ⟨((0, 1 / 50), (60, 60)), List.mem_cons_self, ?_⟩
  refine (edge_distance_first 0 0 _).trans ?_
  rw [to_xy_real]
  simp only [sub_self, zero_mul, sub_zero]
  rw [hypot, mul_zero, zero_add]
  exact ((Real.sqrt_mul_self_eq_abs _).trans (abs_of_nonneg nonneg)).le

-- A ring whose vertices are all a gap of degrees to the east, or to the north, is that gap away.
theorem ring_apart (ring : Ring ℝ) (gap : ℝ) (outside : pointInRing 0 0 ring = false)
    (beyond : (∀ v ∈ ring, gap ≤ v.1) ∨ ∀ v ∈ ring, gap ≤ v.2) :
    ((gap * projectedMetresPerDegree : ℝ) : WithTop ℝ) ≤ distanceToRingM realMath 0 0 ring := by
  refine distance_ge 0 0 _ _ outside fun edge member => ?_
  obtain ⟨first, second⟩ := Parity.steps_mem _ edge member
  obtain ⟨t, low, high, same⟩ := edge_distance_at 0 0 edge
  have equator : realMath.cos (radians realMath 0) = 1 := by
    rw [radians, zero_mul, zero_div]
    exact Real.cos_zero
  have part : ∀ a b : ℝ, gap ≤ a → gap ≤ b → gap ≤ a + t * (b - a) := by
    intro a b aBeyond bBeyond
    rcases (part_between a b t low high).1 with le | le
    · exact aBeyond.trans le
    · exact bBeyond.trans le
  obtain ⟨east, north⟩ := hypot_parts _ _ _ same.ge
  rw [to_xy_real, equator, sub_zero, mul_one] at east
  rw [to_xy_real] at north
  simp only [sub_zero] at north
  rcases beyond with vertices | vertices
  · have far := part _ _ (vertices _ first) (vertices _ second)
    exact (mul_le_mul_of_nonneg_right far projected_pos.le).trans ((le_abs_self _).trans east)
  · have far := part _ _ (vertices _ first) (vertices _ second)
    exact (mul_le_mul_of_nonneg_right far projected_pos.le).trans ((le_abs_self _).trans north)

theorem wide_apart : ((1 / 50 * projectedMetresPerDegree : ℝ) : WithTop ℝ) ≤ distanceToRingM realMath 0 0 widePoints := by
  refine ring_apart widePoints _ wide_outside (Or.inr fun v member => ?_)
  simp only [widePoints, List.mem_cons, List.not_mem_nil, or_false] at member
  rcases member with rfl | rfl | rfl | rfl
  all_goals norm_num

theorem east_distance (gap : ℝ) (clear : 1 / 1000 ≤ gap) :
    distanceToRingM realMath 0 0 (eastPoints 0 gap) = ((gap * projectedMetresPerDegree : ℝ) : WithTop ℝ) := by
  have tolerance : (crossingToleranceDeg : ℝ) < 1 / 1000 := by norm_num [crossingToleranceDeg]
  have gapPositive : 0 < gap := lt_of_lt_of_le (by norm_num) clear
  have spans : gap * (projectedMetresPerDegree * cosAt 0) ≤ gap * projectedMetresPerDegree := by
    rw [cos_at_equator, mul_one]
  refine le_antisymm (east_near 0 gap _ (mul_pos gapPositive projected_pos).le gapPositive.le spans) ?_
  have vertices : ∀ v ∈ eastPoints 0 gap, gap ≤ v.1 := by
    intro v member
    simp only [eastPoints, List.mem_cons, List.not_mem_nil, or_false] at member
    rcases member with rfl | rfl | rfl | rfl
    all_goals simp
  refine ring_apart (eastPoints 0 gap) gap ?_ (Or.inl vertices)
  by_contra inside
  have resolved := east_resolved 0 gap (eastPoints 0 gap) (by rw [east_valid_rings]; exact List.mem_singleton.mpr rfl)
  obtain ⟨v, member, west⟩ := (inside_reaches _ resolved 0 0 0 crossingToleranceDeg le_rfl le_rfl
    (Bool.eq_true_of_not_eq_false inside)).west
  have far := vertices v member
  linarith

theorem three_hundredths_near : 3 / 100 * projectedMetresPerDegree < (earthRadiusM : ℝ) / 2 := by
  have pi := Real.pi_lt_d4
  rw [projectedMetresPerDegree, degreesPerHalfTurn, earthRadiusM]
  norm_num
  linarith

end WideRing

-- The second ring is the nearer one, but its corners are far away.
theorem wide_ring_skipped : distanceToGeojsonM realMath 0 0 wideZone ≠
    some (smallestDistanceM realMath 0 0 [eastPoints 0 (3 / 100), widePoints]) := by
  have unit := projected_pos
  rw [distance_skims 0 0 wideZone _ wide_rings, Skim.skim, if_neg (by rw [skips_fresh]; exact Bool.false_ne_true),
    min_eq_right le_top, Skim.skim, east_distance _ (by norm_num), if_pos (wide_skipped _ three_hundredths_near), Skim.skim]
  intro same
  have smaller : smallestDistanceM realMath 0 0 [eastPoints 0 (3 / 100), widePoints] ≤
      ((1 / 50 * projectedMetresPerDegree : ℝ) : WithTop ℝ) := by
    rw [smallestDistanceM, Skim.least_le]
    exact Or.inr ⟨widePoints, List.mem_cons_of_mem _ List.mem_cons_self, wide_near⟩
  rw [← Option.some.inj same, WithTop.coe_le_coe] at smaller
  linarith

section PassedOver

-- The wide ring is passed over behind the first one, and the last one is the nearest.
noncomputable def passedRings : List (Ring ℝ) := [eastPoints 0 (3 / 100), widePoints, eastPoints 0 (1 / 200)]

theorem nearest_not_skipped (best : WithTop ℝ) : skipsRing realMath 0 0 (eastPoints 0 (1 / 200)) best = false := by
  have box : ringBbox (eastPoints 0 (1 / 200)) = some ⟨1 / 200, -1, 1 / 200 + 1, 1⟩ := by
    simp only [ringBbox, eastPoints, List.map_cons, List.map_nil]
    norm_num [List.min?_cons, List.max?_cons]
  have equator : realMath.cos (radians realMath 0) = 1 := by
    rw [radians, zero_mul, zero_div]
    exact Real.cos_zero
  have around : inBbox 0 0 (expandBboxM realMath ⟨1 / 200, -1, 1 / 200 + 1, 1⟩ skipBoxM (0 : ℝ)) = true := by
    simp only [inBbox, expandBboxM, equator, Bool.and_eq_true, decide_eq_true_eq]
    norm_num [skipBoxM, metresPerDegree, cosFloor]
  rw [skipsRing, box]
  simp only [around, Bool.not_true, Bool.false_and]

theorem passed_looked : lookedRings realMath 0 0 passedRings = [eastPoints 0 (3 / 100), eastPoints 0 (1 / 200)] := by
  rw [lookedRings, passedRings, Skim.looked, if_neg (by rw [skips_fresh]; exact Bool.false_ne_true), min_eq_right le_top,
    Skim.looked, east_distance _ (by norm_num), if_pos (wide_skipped _ three_hundredths_near), Skim.looked,
    if_neg (by rw [nearest_not_skipped]; exact Bool.false_ne_true), Skim.looked]

theorem passed_nearest (ring : Ring ℝ) (member : ring ∈ passedRings) :
    distanceToRingM realMath 0 0 (eastPoints 0 (1 / 200)) ≤ distanceToRingM realMath 0 0 ring := by
  have unit := projected_pos
  rw [east_distance _ (by norm_num)]
  simp only [passedRings, List.mem_cons, List.not_mem_nil, or_false] at member
  rcases member with rfl | rfl | rfl
  · rw [east_distance _ (by norm_num)]
    exact WithTop.coe_le_coe.mpr (by linarith)
  · exact (WithTop.coe_le_coe.mpr (by linarith)).trans wide_apart
  · rw [east_distance _ (by norm_num)]

theorem passed_smallest :
    distanceToRingM realMath 0 0 (eastPoints 0 (1 / 200)) = smallestDistanceM realMath 0 0 passedRings := by
  have last : eastPoints 0 (1 / 200) ∈ passedRings := List.mem_cons_of_mem _ (List.mem_cons_of_mem _ List.mem_cons_self)
  refine le_antisymm ?_ ((Skim.least_le _ _ _ _).mpr (Or.inr ⟨_, last, le_rfl⟩))
  rcases (Skim.least_le (distanceToRingM realMath 0 0) passedRings ⊤ _).mp le_rfl with unbounded | ⟨ring, member, le⟩
  · exact le_top.trans unbounded
  · exact (passed_nearest ring member).trans le

end PassedOver

-- The wide ring is not looked at, and yet the result is the smallest distance in every order.
theorem nearest_ring_exact_passed : widePoints ∉ lookedRings realMath 0 0 passedRings ∧
    distanceToGeojsonM realMath 0 0 (multiPolygonOf passedRings) = some (smallestDistanceM realMath 0 0 passedRings) ∧
    ∀ other otherRings, zoneRings other = some otherRings → otherRings.Perm passedRings →
      distanceToGeojsonM realMath 0 0 other = some (smallestDistanceM realMath 0 0 otherRings) := by
  obtain ⟨asGiven, inAnyOrder⟩ := nearest_ring_exact_iff 0 0 (multiPolygonOf passedRings) passedRings (multi_polygon_rings _)
  refine ⟨?_, asGiven.mpr fun ring member => ?_, inAnyOrder.mpr fun far _ _ => ?_⟩
  · intro seen
    rw [passed_looked, List.mem_pair] at seen
    rcases seen with first | last
    · have tips := congrArg List.head? first
      norm_num [widePoints, eastPoints] at tips
    · have tips := congrArg List.head? last
      norm_num [widePoints, eastPoints] at tips
  · rw [passed_looked]
    exact ⟨_, List.mem_cons_of_mem _ List.mem_cons_self, passed_nearest ring member⟩
  · exact ⟨_, List.mem_cons_of_mem _ (List.mem_cons_of_mem _ List.mem_cons_self), passed_smallest, nearest_not_skipped _⟩

end SasCore.Geometry
