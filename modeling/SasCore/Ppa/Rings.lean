import SasCore.Spectrum.Channels
import SasCore.Lib.Scan
import Mathlib.Data.Set.Basic

set_option autoImplicit false
set_option linter.unusedSectionVars false

namespace SasCore.Ppa

open Injection

variable {K : Type} [Field K] [LinearOrder K]

section Rings

-- data[0] of a list or a text, an error for anything else.
def firstItem : Json K → Except String (Json K)
  | .array (first :: _) => .ok first
  | .array [] => .error "IndexError"
  | .text value =>
      match value.toList with
      | first :: _ => .ok (.text (String.singleton first))
      | [] => .error "IndexError"
  | .object _ => .error "KeyError"
  | _ => .error "TypeError"

-- for item in data or []
def loopItems (data : Json K) : Except String (List (Json K)) :=
  match data.iterated with
  | some items => .ok items
  | none => .error "TypeError"

def geometryRings (geometry : Json K) : Except String (List (Json K)) :=
  if (geometry.field "type").isText "Polygon" && (geometry.field "coordinates").truthy then
    (firstItem (geometry.field "coordinates")).map fun ring => [ring]
  else if (geometry.field "type").isText "MultiPolygon" then do
    let polygons ← loopItems (geometry.field "coordinates")
    (polygons.filter (·.truthy)).mapM firstItem
  else .ok []

-- What is no object below "geometry" has no rings.
def featureRings (feature : Json K) : Except String (List (Json K)) :=
  if !feature.isObject then .error "AttributeError"
  else if (feature.field "geometry").isObject then geometryRings (feature.field "geometry")
  else .ok []

def polygonal (geometry : Json K) : Bool :=
  (geometry.field "type").isText "Polygon" || (geometry.field "type").isText "MultiPolygon"

def iterGeojsonRings (zone : Json K) : Except String (List (Json K)) :=
  if !zone.truthy then .ok []
  else if !zone.isObject then .error "AttributeError"
  else if (zone.field "type").isText "FeatureCollection" then do
    let features ← loopItems (zone.field "features")
    let rings ← features.mapM featureRings
    .ok rings.flatten
  else if (zone.field "type").isText "Feature" then featureRings zone
  else if polygonal zone then geometryRings zone
  else .ok []

def feature (properties geometry : Json K) : Json K :=
  .object [("type", .text "Feature"), ("properties", properties), ("geometry", geometry)]

def collection (features : List (Json K)) : Json K :=
  .object [("type", .text "FeatureCollection"), ("features", .array features)]

def asFeatureCollection (geometry : Json K) : Json K :=
  if (geometry.field "type").isText "FeatureCollection" then geometry
  else if (geometry.field "type").isText "Feature" then collection [geometry]
  else collection [feature (.object []) geometry]

theorem present_truthy (data : Json K) (key value : String) (typed : (data.field key).isText value = true) :
    data.truthy = true ∧ data.isObject = true := by
  cases data with
  | object fields =>
      cases fields with
      | nil => cases typed
      | cons entry rest => exact ⟨rfl, rfl⟩
  | _ => cases typed

theorem single_collection_rings (zone feat : Json K) (typed : (zone.field "type").isText "FeatureCollection" = true)
    (single : zone.field "features" = .array [feat]) : iterGeojsonRings zone = featureRings feat := by
  obtain ⟨full, isDict⟩ := present_truthy zone "type" "FeatureCollection" typed
  rw [iterGeojsonRings, full, isDict, typed, single]
  simp only [Bool.not_true, Bool.false_eq_true, if_false, if_true]
  have listed : loopItems (.array [feat]) = .ok [feat] := rfl
  rw [listed]
  change ([feat].mapM featureRings >>= fun rings => Except.ok rings.flatten) = featureRings feat
  rw [List.mapM_cons, List.mapM_nil]
  cases featureRings feat with
  | error error => rfl
  | ok rings =>
      change Except.ok ([rings].flatten) = Except.ok rings
      rw [List.flatten_singleton]

theorem feature_rings (feat : Json K) (isDict : feat.isObject = true) (geometry : (feat.field "geometry").isObject = true) :
    featureRings feat = geometryRings (feat.field "geometry") := by
  rw [featureRings, isDict, geometry]
  rfl

-- The single feature of a contour, put into a collection of its own, has the rings of the contour.
theorem single_feature_rings (contour feat properties : Json K)
    (single : (asFeatureCollection contour).field "features" = .array [feat]) (isDict : feat.isObject = true)
    (geometry : (feat.field "geometry").isObject = true) (shape : polygonal (feat.field "geometry") = true) :
    iterGeojsonRings (collection [feature properties (feat.field "geometry")]) = iterGeojsonRings contour := by
  have own : iterGeojsonRings (collection [feature properties (feat.field "geometry")]) = geometryRings (feat.field "geometry") := by
    rw [single_collection_rings _ (feature properties (feat.field "geometry")) rfl rfl,
      feature_rings (feature properties (feat.field "geometry")) rfl geometry]
    rfl
  rw [own]
  by_cases whole : (contour.field "type").isText "FeatureCollection" = true
  · rw [asFeatureCollection, if_pos whole] at single
    rw [single_collection_rings contour feat whole single, feature_rings feat isDict geometry]
  · rw [asFeatureCollection, if_neg whole] at single
    by_cases one : (contour.field "type").isText "Feature" = true
    · rw [if_pos one] at single
      cases single
      obtain ⟨full, _⟩ := present_truthy contour "type" "Feature" one
      rw [iterGeojsonRings, full, isDict, if_neg (by simp), if_neg (by simp), if_neg whole, if_pos one,
        feature_rings contour isDict geometry]
    · rw [if_neg one] at single
      cases single
      have bare : polygonal contour = true := shape
      have contourDict : contour.isObject = true := geometry
      have full : contour.truthy = true := by
        rcases Bool.or_eq_true_iff.mp bare with typed | typed
        · exact (present_truthy contour "type" _ typed).1
        · exact (present_truthy contour "type" _ typed).1
      rw [iterGeojsonRings, full, contourDict, if_neg (by simp), if_neg (by simp), if_neg whole, if_neg one]
      exact (if_pos bare).symm

end Rings

-- The test of one ring, which may raise, and the test whether two valid rings enclose a common area.
structure RingTests (K : Type) where
  ringIsValid : Json K → Except String Bool
  ringsAreaOverlap : Json K → Json K → Bool

section Areas

variable (tests : RingTests K)

def validRings : List (Json K) → Except String (List (Json K))
  | [] => .ok []
  | ring :: rest => do
      let valid ← tests.ringIsValid ring
      let others ← validRings rest
      .ok (if valid then ring :: others else others)

def zoneRings (zone : Json K) : Except String (List (Json K)) := (iterGeojsonRings zone).bind (validRings tests)

def geojsonGeometryUsable (zone : Json K) : Except String Bool :=
  if !zone.isObject then .ok false else (iterGeojsonRings zone).bind fun rings => rings.anyM tests.ringIsValid

def geojsonAreasOverlap (first second : Json K) : Except String Bool :=
  if !first.truthy || !second.truthy then .ok false
  else do
    let rings ← zoneRings tests first
    let others ← zoneRings tests second
    .ok (rings.any fun ring => others.any (tests.ringsAreaOverlap ring))

-- The area of a zone is that of its valid rings.
def area (inside : Json K → Set (K × K)) (zone : Json K) : Set (K × K) :=
  {point | ∃ rings, zoneRings tests zone = .ok rings ∧ ∃ ring ∈ rings, point ∈ inside ring}

def AreasMeet (inside : Json K → Set (K × K)) (first second : Json K) : Prop :=
  (area tests inside first ∩ area tests inside second).Nonempty

-- The overlap test of valid rings is that of the areas inside them.
def ExactOverlap (inside : Json K → Set (K × K)) : Prop :=
  ∀ first second, tests.ringIsValid first = .ok true → tests.ringIsValid second = .ok true →
    (tests.ringsAreaOverlap first second = true ↔ (inside first ∩ inside second).Nonempty)

theorem valid_rings_valid (rings valid : List (Json K)) (read : validRings tests rings = .ok valid) (ring : Json K)
    (member : ring ∈ valid) : tests.ringIsValid ring = .ok true := by
  induction rings generalizing valid with
  | nil =>
      cases read
      exact absurd member List.not_mem_nil
  | cons head rest ih =>
      obtain ⟨isValid, asked, others⟩ := Collect.bind_ok _ _ valid read
      obtain ⟨tail, isTail, same⟩ := Collect.bind_ok _ _ valid others
      cases same
      cases isValid with
      | false => exact ih tail isTail member
      | true =>
          rcases List.mem_cons.mp member with here | later
          · rw [here, asked]
          · exact ih tail isTail later

theorem zone_rings_valid (zone : Json K) (rings : List (Json K)) (read : zoneRings tests zone = .ok rings) (ring : Json K)
    (member : ring ∈ rings) : tests.ringIsValid ring = .ok true := by
  obtain ⟨listed, _, filtered⟩ := Collect.bind_ok _ _ rings read
  exact valid_rings_valid tests listed rings filtered ring member

theorem falsy_no_area (inside : Json K → Set (K × K)) (zone : Json K) (falsy : zone.truthy = false) (point : K × K) :
    point ∉ area tests inside zone := by
  rintro ⟨rings, read, ring, member, _⟩
  have noRings : zoneRings tests zone = .ok [] := by
    rw [zoneRings, iterGeojsonRings, falsy]
    rfl
  cases noRings.symm.trans read
  exact List.not_mem_nil member

-- Where it does not raise, the test of two zones is that of their areas.
theorem areas_overlap_exact (inside : Json K → Set (K × K)) (exact : ExactOverlap tests inside) (first second : Json K)
    (answer : Bool) (asked : geojsonAreasOverlap tests first second = .ok answer) :
    answer = true ↔ AreasMeet tests inside first second := by
  rw [geojsonAreasOverlap] at asked
  by_cases falsy : (!first.truthy || !second.truthy) = true
  · rw [if_pos falsy] at asked
    cases asked
    refine iff_of_false nofun ?_
    rintro ⟨point, inFirst, inSecond⟩
    rcases Bool.or_eq_true_iff.mp falsy with empty | empty
    · exact falsy_no_area tests inside first (by simpa using empty) point inFirst
    · exact falsy_no_area tests inside second (by simpa using empty) point inSecond
  · rw [if_neg falsy] at asked
    obtain ⟨rings, isFirst, next⟩ := Collect.bind_ok _ _ answer asked
    obtain ⟨others, isSecond, same⟩ := Collect.bind_ok _ _ answer next
    cases same
    simp only [List.any_eq_true]
    constructor
    · rintro ⟨ring, inRings, other, inOthers, overlap⟩
      have valid := zone_rings_valid tests first rings isFirst ring inRings
      have otherValid := zone_rings_valid tests second others isSecond other inOthers
      obtain ⟨point, inRing, inOther⟩ := (exact ring other valid otherValid).mp overlap
      exact ⟨point, ⟨rings, isFirst, ring, inRings, inRing⟩, ⟨others, isSecond, other, inOthers, inOther⟩⟩
    · rintro ⟨point, ⟨found, readFirst, ring, inFound, inRing⟩, ⟨seen, readSecond, other, inSeen, inOther⟩⟩
      cases isFirst.symm.trans readFirst
      cases isSecond.symm.trans readSecond
      have valid := zone_rings_valid tests first rings isFirst ring inFound
      have otherValid := zone_rings_valid tests second others isSecond other inSeen
      exact ⟨ring, inFound, other, inSeen, (exact ring other valid otherValid).mpr ⟨point, inRing, inOther⟩⟩

end Areas

end SasCore.Ppa
