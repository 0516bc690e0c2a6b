import SasCore.Lib.Circle
import SasCore.Lib.Json
import SasCore.Geometry.Distance
import Mathlib.Analysis.Real.Pi.Bounds
import Mathlib.Analysis.SpecialFunctions.Complex.Arg
import Mathlib.Analysis.SpecialFunctions.Trigonometric.Inverse

set_option autoImplicit false
set_option linter.unusedSectionVars false

-- Whether the beam of an antenna points at the border.
namespace SasCore.Geometry

open SasCore.Circle

variable {K : Type} [Field K] [LinearOrder K] [FloorRing K]

structure BorderMath (K : Type) extends MathModule K where
  atan2 : K → K → K

-- What the test takes from outside: math, float of a text, and the vertices of the border file, which may be missing.
structure BorderEnv (K : Type) where
  math : BorderMath K
  readers : PyReaders K
  borderVertices : Except String (List (K × K))

structure BorderPoint (K : Type) where
  latitude : K
  longitude : K
  distanceKm : K
  bearingDeg : K
deriving DecidableEq, Repr

def sharingZoneMaxKm : K := (56 : Nat)
def sharingZoneInnerKm : K := (8 : Nat)
def earthRadiusKm : K := (6371 : Nat)
def kmPerDegree : K := (11132 : Nat) / (100 : Nat)
def prefilterSlack : K := (11 : Nat) / (10 : Nat)
def fullTurn : K := (360 : Nat)
def coneDeg : K := (100 : Nat)

section Closest

variable (math : BorderMath K)

def haversineKm (lat1 lon1 lat2 lon2 : K) : K :=
  let p1 := radians math.toMathModule lat1
  let p2 := radians math.toMathModule lat2
  let dphi := radians math.toMathModule (lat2 - lat1)
  let dlmb := radians math.toMathModule (lon2 - lon1)
  let a := math.sin (dphi / (2 : Nat)) ^ 2 + math.cos p1 * math.cos p2 * math.sin (dlmb / (2 : Nat)) ^ 2
  (2 : Nat) * earthRadiusKm * math.asin (min 1 (math.sqrt a))

def initialBearingDeg (lat1 lon1 lat2 lon2 : K) : K :=
  let phi1 := radians math.toMathModule lat1
  let phi2 := radians math.toMathModule lat2
  let dlon := radians math.toMathModule (lon2 - lon1)
  let x := math.sin dlon * math.cos phi2
  let y := math.cos phi1 * math.sin phi2 - math.sin phi1 * math.cos phi2 * math.cos dlon
  wrapped fullTurn (math.atan2 x y * degreesPerHalfTurn / math.pi + fullTurn)

-- One vertex of the border, longitude first.
def closerVertex (latitude longitude maxDistKm maxDelta : K) (best : Option (BorderPoint K)) (vertex : K × K) :
    Option (BorderPoint K) :=
  if maxDelta < |vertex.2 - latitude| ∨ maxDelta < |vertex.1 - longitude| then best
  else
    let dist := haversineKm math latitude longitude vertex.2 vertex.1
    if maxDistKm < dist then best
    else
      let found : BorderPoint K := ⟨vertex.2, vertex.1, dist, initialBearingDeg math latitude longitude vertex.2 vertex.1⟩
      match best with
      | none => some found
      | some held => if dist < held.distanceKm then some found else some held

def closestCanadianBorderPoint (borderVertices : Except String (List (K × K))) (latitude longitude maxDistKm : K) :
    Except String (Option (BorderPoint K)) :=
  let cosLat := max cosFloor |math.cos (radians math.toMathModule latitude)|
  let maxDelta := maxDistKm / (kmPerDegree * cosLat) * prefilterSlack
  borderVertices.map fun vertices => vertices.foldl (closerVertex math latitude longitude maxDistKm maxDelta) none

end Closest

section SharingZone

variable (env : BorderEnv K)

-- None, 0 and 360 stand for an antenna that sends all around.
def sendsAround (antAzimuth antBeamwidth : Json K) : Bool :=
  antBeamwidth.isNull || antAzimuth.isNull || antBeamwidth.equal (.int 0) || antBeamwidth.equal (.int 360)

-- The edges of the beam and its middle are looked at.
def beamInCone (azi bw borderBearing : K) : Bool :=
  let minCone := borderBearing - coneDeg
  let maxCone := borderBearing + coneDeg
  let minBeam := azi - bw / (2 : Nat)
  let maxBeam := azi + bw / (2 : Nat)
  angleBetween fullTurn minBeam minCone maxCone || angleBetween fullTurn maxBeam minCone maxCone ||
    angleBetween fullTurn azi minCone maxCone

def checkCbsdInBorderSharingZone (latitude longitude : K) (antAzimuth antBeamwidth : Json K) :
    Except String (Bool × Option K × Option K) :=
  (closestCanadianBorderPoint env.math env.borderVertices latitude longitude sharingZoneMaxKm).map fun closest =>
    match closest with
    | none => (false, none, none)
    | some border =>
        let inZone := (true, some border.latitude, some border.longitude)
        if sharingZoneMaxKm < border.distanceKm then (false, none, none)
        else if border.distanceKm ≤ sharingZoneInnerKm then inZone
        else if sendsAround antAzimuth antBeamwidth then inZone
        else
          match antAzimuth.toFloat env.readers, antBeamwidth.toFloat env.readers with
          | some azi, some bw => if beamInCone azi bw border.bearingDeg then inZone else (false, none, none)
          | _, _ => inZone

end SharingZone

variable [IsStrictOrderedRing K]

theorem cone_between_iff (angle borderBearing : K) :
    angleBetween fullTurn angle (borderBearing - coneDeg) (borderBearing + coneDeg) = true ↔
      angle ∈ arc fullTurn (borderBearing - coneDeg) (borderBearing + coneDeg) := by
  apply between_iff
  · norm_num [fullTurn]
  · norm_num [coneDeg]
    linarith
  · norm_num [coneDeg, fullTurn]
    linarith

theorem beam_in_cone_iff (azi bw borderBearing : K) (positive : 0 < bw) (short : bw < fullTurn) :
    beamInCone azi bw borderBearing = true ↔
      (arc fullTurn (azi - bw / (2 : Nat)) (azi + bw / (2 : Nat)) ∩
        arc fullTurn (borderBearing - coneDeg) (borderBearing + coneDeg)).Nonempty := by
  have nonneg : 0 ≤ bw / (2 : Nat) := div_nonneg positive.le (Nat.cast_nonneg 2)
  have wide : bw / (2 : Nat) ≤ 2 * coneDeg := by
    norm_num [coneDeg, fullTurn] at short ⊢
    linarith
  rw [arcs_meet_iff fullTurn azi (bw / (2 : Nat)) borderBearing coneDeg nonneg wide, beamInCone]
  simp only [Bool.or_eq_true, cone_between_iff, or_assoc]

theorem equal_int_false (readers : PyReaders K) (value : Json K) (number : K) (other : Int) (reads : value.toFloat readers = some number)
    (apart : number ≠ other) : value.equal (.int other) = false := by
  cases value with
  | null => cases reads
  | bool flag =>
      have same : (if flag then 1 else 0 : K) = number := Option.some.inj reads
      simp [Json.equal, Json.number, same, apart]
  | int held =>
      have same : (held : K) = number := Option.some.inj reads
      simp [Json.equal, Json.number, same, apart]
  | float held =>
      have same : held = number := Option.some.inj reads
      simp [Json.equal, Json.number, same, apart]
  | text held => simp [Json.equal, Json.number]
  | array held => cases reads
  | object held => cases reads

theorem float_not_null (readers : PyReaders K) (value : Json K) (number : K) (reads : value.toFloat readers = some number) :
    value.isNull = false := by
  cases value with
  | null => cases reads
  | _ => rfl

-- A beamwidth between 0 and 360 is no sign of an antenna that sends all around.
theorem beam_not_around (readers : PyReaders K) (antAzimuth antBeamwidth : Json K) (azi bw : K)
    (azimuth : antAzimuth.toFloat readers = some azi) (beamwidth : antBeamwidth.toFloat readers = some bw)
    (positive : 0 < bw) (short : bw < fullTurn) : sendsAround antAzimuth antBeamwidth = false := by
  have notZero : bw ≠ ((0 : Int) : K) := by
    rw [Int.cast_zero]
    exact ne_of_gt positive
  have notFull : bw ≠ ((360 : Int) : K) := by
    norm_num [fullTurn] at short ⊢
    exact ne_of_lt short
  rw [sendsAround, float_not_null readers antAzimuth azi azimuth, float_not_null readers antBeamwidth bw beamwidth,
    equal_int_false readers antBeamwidth bw 0 beamwidth notZero, equal_int_false readers antBeamwidth bw 360 beamwidth notFull]
  rfl

theorem border_cone_complete (env : BorderEnv K) (latitude longitude : K) (antAzimuth antBeamwidth : Json K) (azi bw : K)
    (azimuth : antAzimuth.toFloat env.readers = some azi) (beamwidth : antBeamwidth.toFloat env.readers = some bw)
    (positive : 0 < bw) (short : bw < fullTurn) (border : BorderPoint K)
    (closest : closestCanadianBorderPoint env.math env.borderVertices latitude longitude sharingZoneMaxKm = .ok (some border))
    (outer : border.distanceKm ≤ sharingZoneMaxKm) (inner : sharingZoneInnerKm < border.distanceKm) :
    (checkCbsdInBorderSharingZone env latitude longitude antAzimuth antBeamwidth).map (·.1) = .ok true ↔
      (arc fullTurn (azi - bw / (2 : Nat)) (azi + bw / (2 : Nat)) ∩
        arc fullTurn (border.bearingDeg - coneDeg) (border.bearingDeg + coneDeg)).Nonempty := by
  have notAround := beam_not_around env.readers antAzimuth antBeamwidth azi bw azimuth beamwidth positive short
  rw [checkCbsdInBorderSharingZone, closest, ← beam_in_cone_iff azi bw border.bearingDeg positive short]
  simp only [Except.map, if_neg (not_lt.mpr outer), if_neg (not_le.mpr inner), notAround, azimuth, beamwidth, Bool.false_eq_true,
    if_false]
  cases beamInCone azi bw border.bearingDeg with
  | true => simp
  | false => simp

noncomputable def realBorderMath : BorderMath ℝ where
  pi := Real.pi
  sin := Real.sin
  cos := Real.cos
  asin := Real.arcsin
  sqrt := Real.sqrt
  atan2 y x := Complex.arg ⟨x, y⟩

-- A border of one vertex, a fifth of a degree to the north of the origin.
noncomputable def northEnv : BorderEnv ℝ where
  math := realBorderMath
  readers := ⟨fun _ => none, fun _ => none, fun _ => none, fun value => ⌊value⌋, fun _ => ""⟩
  borderVertices := .ok [(0, 1 / (5 : Nat))]

-- Half of the angle between the origin and the vertex, in radians.
noncomputable def northHalf : ℝ := Real.pi / 1800

theorem north_half_range : 1 / 600 < northHalf ∧ northHalf ≤ 1 / 450 := by
  have low := Real.pi_gt_three
  have high := Real.pi_le_four
  rw [northHalf]
  constructor
  · linarith
  · linarith

theorem north_distance : haversineKm realBorderMath 0 0 (1 / 5) 0 = 2 * 6371 * northHalf := by
  obtain ⟨positive, small⟩ := north_half_range
  have threePi := Real.pi_gt_three
  have sine : 0 ≤ Real.sin northHalf := Real.sin_nonneg_of_nonneg_of_le_pi (by linarith) (by linarith)
  have inverse : Real.arcsin (Real.sin northHalf) = northHalf := Real.arcsin_sin (by linarith) (by linarith)
  have root : Real.sqrt (Real.sin northHalf ^ 2) = Real.sin northHalf := Real.sqrt_sq sine
  have angle : 5⁻¹ * Real.pi / 180 / 2 = northHalf := by
    rw [northHalf]
    ring
  simp [haversineKm, realBorderMath, radians, degreesPerHalfTurn, earthRadiusKm, angle, root, inverse, Real.sin_le_one]

theorem north_bearing : initialBearingDeg realBorderMath 0 0 (1 / 5) 0 = 0 := by
  obtain ⟨positive, small⟩ := north_half_range
  have threePi := Real.pi_gt_three
  have angle : 5⁻¹ * Real.pi / 180 = 2 * northHalf := by
    rw [northHalf]
    ring
  have sine : 0 ≤ Real.sin (2 * northHalf) := Real.sin_nonneg_of_nonneg_of_le_pi (by linarith) (by linarith)
  have straight : Complex.arg ⟨Real.sin (2 * northHalf), 0⟩ = 0 := Complex.arg_ofReal_of_nonneg sine
  simp [initialBearingDeg, realBorderMath, radians, degreesPerHalfTurn, angle, straight, wrapped, fullTurn]

theorem north_closest :
    closestCanadianBorderPoint northEnv.math northEnv.borderVertices 0 0 sharingZoneMaxKm =
      .ok (some ⟨1 / 5, 0, 2 * 6371 * northHalf, 0⟩) := by
  obtain ⟨positive, small⟩ := north_half_range
  have near : ¬ sharingZoneMaxKm < 2 * 6371 * northHalf := by
    norm_num [sharingZoneMaxKm]
    linarith
  have unit : max cosFloor |realBorderMath.cos (radians realBorderMath.toMathModule 0)| = (1 : ℝ) := by
    norm_num [realBorderMath, radians, cosFloor]
  have inside : ¬ ((sharingZoneMaxKm : ℝ) / (kmPerDegree * 1) * prefilterSlack < |1 / 5 - 0| ∨
      (sharingZoneMaxKm : ℝ) / (kmPerDegree * 1) * prefilterSlack < |0 - 0|) := by
    norm_num [sharingZoneMaxKm, kmPerDegree, prefilterSlack, abs_of_pos]
  rw [closestCanadianBorderPoint]
  simp only [northEnv, Except.map, List.foldl_cons, List.foldl_nil, Nat.cast_ofNat, unit, closerVertex]
  rw [if_neg inside, north_distance, if_neg near, north_bearing]

-- An antenna that looks away from the border, with a beam wide enough to reach its cone.
theorem border_cone_complete_sample :
    (checkCbsdInBorderSharingZone northEnv 0 0 (.int 180) (.int 200)).map (·.1) = .ok true ↔
      (arc fullTurn ((180 : ℝ) - 200 / (2 : Nat)) (180 + 200 / (2 : Nat)) ∩ arc fullTurn (0 - coneDeg) (0 + coneDeg)).Nonempty := by
  obtain ⟨positive, small⟩ := north_half_range
  have outer : 2 * 6371 * northHalf ≤ sharingZoneMaxKm := by
    norm_num [sharingZoneMaxKm]
    linarith
  have inner : sharingZoneInnerKm < 2 * 6371 * northHalf := by
    norm_num [sharingZoneInnerKm]
    linarith
  have azimuth : (Json.int 180).toFloat northEnv.readers = some (180 : ℝ) := by norm_num [Json.toFloat]
  have beamwidth : (Json.int 200).toFloat northEnv.readers = some (200 : ℝ) := by norm_num [Json.toFloat]
  exact border_cone_complete northEnv 0 0 (.int 180) (.int 200) 180 200 azimuth beamwidth (by norm_num) (by norm_num [fullTurn])
    ⟨1 / 5, 0, 2 * 6371 * northHalf, 0⟩ north_closest outer inner

end SasCore.Geometry
