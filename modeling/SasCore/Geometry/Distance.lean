import Mathlib.Algebra.Order.Floor.Ring
import Mathlib.Algebra.Order.Ring.WithTop
import Mathlib.Data.List.Dedup
import SasCore.Dpa.Protection

set_option autoImplicit false
set_option linter.unusedSectionVars false

namespace SasCore.Geometry

variable {K : Type} [Field K] [LinearOrder K]

-- What is taken from math; hypot is the square root of the sum of the squares.
structure MathModule (K : Type) where
  pi : K
  sin : K → K
  cos : K → K
  asin : K → K
  sqrt : K → K

-- Positions as the code reads them: longitude and latitude.
abbrev Ring (K : Type) := List (K × K)

structure Bbox (K : Type) where
  minLon : K
  minLat : K
  maxLon : K
  maxLat : K
deriving DecidableEq, Repr

-- None and {} are absent; a feature whose geometry is no object has none.
inductive Zone (K : Type) where
  | absent
  | geometry (geometry : Dpa.Geometry K)
  | feature (geometry : Option (Dpa.Geometry K))
  | featureCollection (features : List (Option (Dpa.Geometry K)))

def earthRadiusM : K := (6371000 : Nat)
def metresPerDegree : K := (111320 : Nat)
def rayNudge : K := 1 / (10 ^ 30 : Nat)
def cosFloor : K := 1 / (5 : Nat)
def bufferSlackM : K := (5 : Nat)
def skipBoxM : K := (1000 : Nat)
def degreesPerHalfTurn : K := (180 : Nat)

-- `none` where p[0] or p[1] raises IndexError.
def ringPoints (ring : List (List K)) : Option (Ring K) :=
  ring.mapM fun position =>
    match position with
    | lon :: lat :: _ => some (lon, lat)
    | _ => none

-- ring[i] and ring[i + 1].
def edges (ring : Ring K) : List ((K × K) × (K × K)) := ring.zip ring.tail

-- ring[i - 1] and ring[i], the last vertex before the first.
def turns (ring : Ring K) : List ((K × K) × (K × K)) := (ring.getLast?.toList ++ ring.dropLast).zip ring

-- An edge that falls by exactly the nudge divides by zero in the code; here the quotient is zero.
def crossesRight (lon lat : K) (j i : K × K) : Bool :=
  (decide (i.2 > lat) != decide (j.2 > lat)) &&
    decide (lon < (j.1 - i.1) * (lat - i.2) / (j.2 - i.2 + rayNudge) + i.1)

def pointInRing (lon lat : K) (ring : Ring K) : Bool :=
  if ring.length < 3 then false
  else (turns ring).foldl (fun inside turn => if crossesRight lon lat turn.1 turn.2 then !inside else inside) false

section Distances

variable (math : MathModule K)

def radians (degrees : K) : K := degrees * math.pi / degreesPerHalfTurn

def hypot (x y : K) : K := math.sqrt (x * x + y * y)

def haversineM (lat1 lon1 lat2 lon2 : K) : K :=
  let p1 := radians math lat1
  let p2 := radians math lat2
  let dphi := radians math (lat2 - lat1)
  let dlmb := radians math (lon2 - lon1)
  let a := math.sin (dphi / (2 : Nat)) ^ 2 + math.cos p1 * math.cos p2 * math.sin (dlmb / (2 : Nat)) ^ 2
  (2 : Nat) * earthRadiusM * math.asin (math.sqrt a)

-- The local projection around (lat, lon).
def toXy (lat lon la lo : K) : K × K :=
  ((radians math lo - radians math lon) * math.cos (radians math lat) * earthRadiusM,
    (radians math la - radians math lat) * earthRadiusM)

def distPointSegmentM (lat lon lat1 lon1 lat2 lon2 : K) : K :=
  let a := toXy math lat lon lat1 lon1
  let b := toXy math lat lon lat2 lon2
  let abx := b.1 - a.1
  let aby := b.2 - a.2
  let denom := abx * abx + aby * aby
  if denom = 0 then hypot math a.1 a.2
  else
    let t := max 0 (min 1 ((-a.1 * abx + -a.2 * aby) / denom))
    hypot math (a.1 + t * abx) (a.2 + t * aby)

def edgeDistanceM (lat lon : K) (edge : (K × K) × (K × K)) : K :=
  distPointSegmentM math lat lon edge.1.2 edge.1.1 edge.2.2 edge.2.1

-- `⊤` is float("inf").
def nearer (best : WithTop K) (d : K) : WithTop K := if (d : WithTop K) < best then (d : WithTop K) else best

def distanceToRingM (lat lon : K) (ring : Ring K) : WithTop K :=
  if pointInRing lon lat ring then 0
  else if ring.length < 2 then ⊤
  else
    ((edges ring).map (edgeDistanceM math lat lon)).foldl nearer ⊤

def ringBbox (ring : Ring K) : Option (Bbox K) := do
  let minLon ← (ring.map (·.1)).min?
  let minLat ← (ring.map (·.2)).min?
  let maxLon ← (ring.map (·.1)).max?
  let maxLat ← (ring.map (·.2)).max?
  some ⟨minLon, minLat, maxLon, maxLat⟩

def expandBboxM (bbox : Bbox K) (meters latRef : K) : Bbox K :=
  let dlat := meters / metresPerDegree
  let cosLat := max cosFloor |math.cos (radians math latRef)|
  let dlon := meters / (metresPerDegree * cosLat)
  ⟨bbox.minLon - dlon, bbox.minLat - dlat, bbox.maxLon + dlon, bbox.maxLat + dlat⟩

def inBbox (lon lat : K) (bbox : Bbox K) : Bool :=
  bbox.minLon ≤ lon && lon ≤ bbox.maxLon && (bbox.minLat ≤ lat && lat ≤ bbox.maxLat)

def geometryRings : Dpa.Geometry K → List (List (List K))
  | .polygon (ring :: _) => [ring]
  | .multiPolygon polygons => polygons.filterMap (·.head?)
  | _ => []

def iterGeojsonRings : Zone K → List (List (List K))
  | .absent => []
  | .geometry geometry => geometryRings geometry
  | .feature geometry => geometry.toList.flatMap geometryRings
  | .featureCollection features => features.flatMap fun geometry => geometry.toList.flatMap geometryRings

-- The nearest corner of the bounding box.
def roughM (lat lon : K) (bbox : Bbox K) : K :=
  min (min (haversineM math lat lon bbox.minLat bbox.minLon) (haversineM math lat lon bbox.minLat bbox.maxLon))
    (min (haversineM math lat lon bbox.maxLat bbox.minLon) (haversineM math lat lon bbox.maxLat bbox.maxLon))

-- Whether the ring is passed over when `best` is the smallest distance so far.
def skipsRing (lat lon : K) (ring : Ring K) (best : WithTop K) : Bool :=
  match ringBbox ring with
  | none => false
  | some bbox =>
      !inBbox lon lat (expandBboxM math bbox skipBoxM lat) && !pointInRing lon lat ring &&
        decide (best < ((roughM math lat lon bbox : K) : WithTop K))

-- `none` is an IndexError.
def nearestRingM (lat lon : K) (best : WithTop K) : List (List (List K)) → Option (WithTop K)
  | [] => some best
  | coordinates :: rest =>
      match ringPoints coordinates with
      | none => none
      | some ring =>
          if skipsRing math lat lon ring best then nearestRingM lat lon best rest
          else if distanceToRingM math lat lon ring < best then
            if distanceToRingM math lat lon ring = 0 then some 0
            else nearestRingM lat lon (distanceToRingM math lat lon ring) rest
          else nearestRingM lat lon best rest

def distanceToGeojsonM (lat lon : K) (zone : Zone K) : Option (WithTop K) :=
  nearestRingM math lat lon ⊤ (iterGeojsonRings zone)

section Buffers

variable [FloorRing K]

def roundHalfEven (x : K) : Int :=
  let rest := x - ⌊x⌋
  if rest < 1 / (2 : Nat) then ⌊x⌋
  else if 1 / (2 : Nat) < rest then ⌊x⌋ + 1
  else if ⌊x⌋ % 2 = 0 then ⌊x⌋
  else ⌊x⌋ + 1

-- round(x, 12), in units of the twelfth decimal.
def round12 (x : K) : Int := roundHalfEven (x * (10 ^ 12 : Nat))

def ringIsValid (ring : List (List K)) : Bool :=
  if ring.length < 4 then false
  else
    match ringPoints ring with
    | none => false
    | some points =>
        if points.head? ≠ points.getLast? then false
        else decide (3 ≤ (points.dropLast.map fun p => (round12 p.1, round12 p.2)).dedup.length)

def ringWithinBuffer (lat lon bufferM : K) (coordinates : List (List K)) : Bool :=
  if !ringIsValid coordinates then false
  else
    match ringPoints coordinates with
    | none => false
    | some ring =>
        match ringBbox ring with
        | none => decide (distanceToRingM math lat lon ring ≤ (bufferM : WithTop K))
        | some bbox =>
            if !inBbox lon lat (expandBboxM math bbox (bufferM + bufferSlackM) lat) then false
            else decide (distanceToRingM math lat lon ring ≤ (bufferM : WithTop K))

def withinGeojsonBufferM (lat lon : K) (zone : Zone K) (bufferM : K) : Bool :=
  match zone with
  | .geometry (.point (zlon :: zlat :: _)) => haversineM math lat lon zlat zlon ≤ bufferM
  | .geometry (.point _) => false
  | zone => (iterGeojsonRings zone).any (ringWithinBuffer math lat lon bufferM)

end Buffers

end Distances

end SasCore.Geometry
