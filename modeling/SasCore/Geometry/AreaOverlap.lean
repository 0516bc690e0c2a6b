import SasCore.Lib.Polygon
import SasCore.Geometry.NearestRing

set_option autoImplicit false
set_option linter.unusedSectionVars false

namespace SasCore.Geometry

section Code

variable {K : Type} [Field K] [LinearOrder K]

def eps : K := 1 / (10 ^ 12 : Nat)
def crossEps : K := 1 / (10 ^ 9 : Nat)

def pointOnSegment (p a b : K × K) : Bool :=
  let cross := (p.1 - a.1) * (b.2 - a.2) - (p.2 - a.2) * (b.1 - a.1)
  if |cross| > crossEps then false
  else
    let dot := (p.1 - a.1) * (b.1 - a.1) + (p.2 - a.2) * (b.2 - a.2)
    if dot < -eps then false
    else
      let lenSq := (b.1 - a.1) * (b.1 - a.1) + (b.2 - a.2) * (b.2 - a.2)
      decide (dot ≤ lenSq + eps)

def pointOnRingBoundary (lon lat : K) (ring : Ring K) : Bool :=
  (edges ring).any fun edge => pointOnSegment (lon, lat) edge.1 edge.2

def pointStrictlyInsideRing (lon lat : K) (ring : Ring K) : Bool :=
  if pointOnRingBoundary lon lat ring then false else pointInRing lon lat ring

def orient (a b c : K × K) : K := (b.1 - a.1) * (c.2 - a.2) - (b.2 - a.2) * (c.1 - a.1)

def segmentsProperlyIntersect (a1 a2 b1 b2 : K × K) : Bool :=
  let o1 := orient a1 a2 b1
  let o2 := orient a1 a2 b2
  let o3 := orient b1 b2 a1
  let o4 := orient b1 b2 a2
  (decide (o1 > eps ∧ o2 < -eps) || decide (o1 < -eps ∧ o2 > eps)) &&
    (decide (o3 > eps ∧ o4 < -eps) || decide (o3 < -eps ∧ o4 > eps))

-- The tests on two valid rings, in the order of the source.
def ringPointsOverlap (a b : Ring K) : Bool :=
  (edges a).any (fun e => (edges b).any fun f => segmentsProperlyIntersect e.1 e.2 f.1 f.2) ||
    (a.dropLast.any (fun p => pointStrictlyInsideRing p.1 p.2 b) || b.dropLast.any fun p => pointStrictlyInsideRing p.1 p.2 a)

variable [FloorRing K]

def ringsAreaOverlap (ringA ringB : List (List K)) : Bool :=
  if !ringIsValid ringA || !ringIsValid ringB then false
  else
    match ringPoints ringA with
    | none => false
    | some a =>
        match ringPoints ringB with
        | none => false
        | some b => ringPointsOverlap a b

def geojsonAreasOverlap (a b : Zone K) : Bool :=
  let ringsA := (iterGeojsonRings a).filter ringIsValid
  let ringsB := (iterGeojsonRings b).filter ringIsValid
  if ringsA.isEmpty || ringsB.isEmpty then false
  else ringsA.any fun ra => ringsB.any fun rb => ringsAreaOverlap ra rb

theorem any_exchange {α β : Type} (first : List α) (second : List β) (test : α → β → Bool) :
    first.any (fun x => second.any fun y => test x y) = second.any fun y => first.any fun x => test x y := by
  rw [Bool.eq_iff_iff]
  simp only [List.any_eq_true]
  constructor
  · rintro ⟨x, inFirst, y, inSecond, holds⟩
    exact ⟨y, inSecond, x, inFirst, holds⟩
  · rintro ⟨y, inSecond, x, inFirst, holds⟩
    exact ⟨x, inFirst, y, inSecond, holds⟩

theorem properly_symm (a1 a2 b1 b2 : K × K) : segmentsProperlyIntersect a1 a2 b1 b2 = segmentsProperlyIntersect b1 b2 a1 a2 :=
  Bool.and_comm _ _

theorem ring_points_symm (a b : Ring K) : ringPointsOverlap a b = ringPointsOverlap b a := by
  rw [ringPointsOverlap, ringPointsOverlap, any_exchange, Bool.or_comm (a.dropLast.any _)]
  congr 1
  refine congrArg _ (funext fun f => congrArg _ (funext fun e => ?_))
  exact properly_symm e.1 e.2 f.1 f.2

theorem rings_area_symm (ringA ringB : List (List K)) : ringsAreaOverlap ringA ringB = ringsAreaOverlap ringB ringA := by
  rw [ringsAreaOverlap, ringsAreaOverlap, Bool.or_comm]
  split
  · rfl
  · cases ringPoints ringA with
    | none => cases ringPoints ringB <;> rfl
    | some a =>
        cases ringPoints ringB with
        | none => rfl
        | some b => exact ring_points_symm a b

theorem areas_overlap_symm (a b : Zone K) : geojsonAreasOverlap a b = geojsonAreasOverlap b a := by
  rw [geojsonAreasOverlap, geojsonAreasOverlap]
  simp only [Bool.or_comm (List.isEmpty (List.filter _ (iterGeojsonRings a)))]
  split
  · rfl
  · rw [any_exchange]
    refine congrArg _ (funext fun rb => congrArg _ (funext fun ra => ?_))
    exact rings_area_symm ra rb

end Code

-- Rings whose coordinates are integers.
section Integers

variable {K : Type} [Field K] [LinearOrder K]

def castPoint (p : Int × Int) : K × K := (p.1, p.2)

def castRing (ring : List (Int × Int)) : Ring K := ring.map castPoint

def castEdge (edge : (Int × Int) × (Int × Int)) : (K × K) × (K × K) := (castPoint edge.1, castPoint edge.2)

theorem cast_steps (ring : List (Int × Int)) : Parity.steps (castRing ring : Ring K) = (Parity.steps ring).map castEdge := by
  rw [Parity.steps, Parity.steps, castRing, ← List.map_tail, List.zip_map]
  rfl

variable [IsStrictOrderedRing K]

theorem cast_orient (a b c : Int × Int) :
    Plane.orient (castPoint a : K × K) (castPoint b) (castPoint c) = ((Plane.orient a b c : Int) : K) := by
  simp only [Plane.orient, castPoint]
  push_cast
  ring

theorem cast_ray_hits (p : Int × Int) (edge : (Int × Int) × (Int × Int)) :
    Plane.rayHits (castPoint p : K × K) (castEdge edge) = Plane.rayHits p edge := by
  simp only [Plane.rayHits, castEdge, cast_orient, Int.cast_pos, Int.cast_lt_zero]
  simp only [castPoint, Int.cast_le, Int.cast_lt]

theorem cast_crosses (e f : (Int × Int) × (Int × Int)) :
    Plane.Crosses (castEdge e : (K × K) × (K × K)) (castEdge f) ↔ Plane.Crosses e f := by
  simp only [Plane.Crosses, Plane.Opposite, castEdge, cast_orient, Int.cast_pos, Int.cast_lt_zero]

theorem eps_pos : (0 : K) < eps := by
  rw [eps]
  positivity

theorem small_lt_one (n : Nat) (big : 1 < n) : (1 : K) / (n : K) < 1 := by
  have positive : (0 : K) < n := Nat.cast_pos.mpr (by omega)
  exact (div_lt_one positive).mpr (Nat.one_lt_cast.mpr big)

theorem eps_lt_one : (eps : K) < 1 := small_lt_one _ (by norm_num)

theorem above_eps (n : Int) : (n : K) > eps ↔ 0 < n := by
  constructor
  · intro above
    exact Int.cast_pos.mp (eps_pos.trans above)
  · intro positive
    exact eps_lt_one.trans_le (by exact_mod_cast positive)

theorem below_eps (n : Int) : (n : K) < -eps ↔ n < 0 := by
  rw [lt_neg, ← Int.cast_neg, ← gt_iff_lt, above_eps, neg_pos]

theorem properly_crosses (e f : (Int × Int) × (Int × Int)) :
    segmentsProperlyIntersect (castPoint e.1 : K × K) (castPoint e.2) (castPoint f.1) (castPoint f.2) = true ↔
      Plane.Crosses e f := by
  have same : ∀ a b c : Int × Int, orient (castPoint a : K × K) (castPoint b) (castPoint c) = ((Plane.orient a b c : Int) : K) :=
    cast_orient
  simp only [segmentsProperlyIntersect, same, above_eps, below_eps, Bool.and_eq_true, Bool.or_eq_true, decide_eq_true_eq,
    Plane.Crosses, Plane.Opposite]

end Integers

end SasCore.Geometry
