import SasCore.Iap.EntityPoints
import SasCore.Lib.KeyOrder
import SasCore.Lib.Outcomes

set_option autoImplicit false
set_option linter.unusedSectionVars false

-- The builders on a record and on the record with its keys sorted.
namespace SasCore.Iap

open JsonText Outcomes

variable {K : Type} [Field K] [LinearOrder K] (source : PointSource K)

def BuildError.isEntity : BuildError K → Bool
  | .entity _ => true
  | .other => false

def SameKind (first second : BuildError K) : Prop := first.isEntity = second.isEntity

theorem same_kind_refl (error : BuildError K) : SameKind error error := rfl

section Readers

variable (data : Json K) (plain : Plain data)

theorem empty_plain : Plain (.object [] : Json K) := ⟨List.nodup_nil, trivial⟩

include plain in
theorem or_empty_plain (op : Json K) (read : data.orEmpty = some op) : Plain op := by
  rw [Json.orEmpty] at read
  split at read
  · cases read
    exact empty_plain
  · split at read
    · cases read
      exact plain
    · cases read

include plain in
theorem zone_record_plain : Plain (zoneRecord data) := by
  rw [zoneRecord]
  cases found : data.dictField "record" with
  | none => exact plain
  | some record => exact plain_dict_field data record plain "record" found

include plain in
theorem zone_record_sorted : zoneRecord (sortKeys data) = sortKeys (zoneRecord data) := by
  rw [zoneRecord, dict_field_sorted data plain, zoneRecord]
  cases data.dictField "record" <;> rfl

include plain in
theorem freq_pair_sorted : freqPair source (sortKeys data) = freqPair source data := by
  rw [freqPair, field_sorted data plain, field_sorted data plain, to_int_sorted, to_int_sorted, freqPair]

include plain in
theorem point_sorted : pointFromInstallation source (sortKeys data) = pointFromInstallation source data := by
  rw [pointFromInstallation, field_sorted data plain, field_sorted data plain, to_float_sorted, to_float_sorted,
    pointFromInstallation]

include plain in
theorem has_range_sorted : hasRange (sortKeys data) = hasRange data := by
  rw [hasRange, has_sorted data plain, has_sorted data plain, hasRange]

include plain in
theorem deployment_plain (first : Json K) (found : deployment data = some first) : Plain first := by
  rw [deployment] at found
  have head := (Option.filter_eq_some_iff.mp found).1
  exact plain_items_each _ (plain_of_field data plain "deploymentParam") first (List.mem_of_head? head)

include plain in
theorem deployment_sorted : deployment (sortKeys data) = (deployment data).map sortKeys := by
  rw [deployment, field_sorted data plain, items_sorted, List.head?_map, deployment]
  cases (data.field "deploymentParam").items.head? with
  | none => rfl
  | some first =>
      rw [Option.map_some, Option.filter_some, Option.filter_some, is_object_sorted]
      split <;> rfl

include plain in
theorem deployment_range_plain (range : Json K) (read : deploymentRange data = .ok range) : Plain range := by
  rw [deploymentRange] at read
  cases op : (data.field "operationParam").orEmpty with
  | none =>
      rw [op] at read
      cases read
  | some param =>
      rw [op] at read
      cases read
      exact plain_of_field param (or_empty_plain _ (plain_of_field data plain "operationParam") param op) _

include plain in
theorem deployment_range_sorted : deploymentRange (sortKeys data) = (deploymentRange data).map sortKeys := by
  rw [deploymentRange, field_sorted data plain, or_empty_sorted, deploymentRange]
  cases op : (data.field "operationParam").orEmpty with
  | none => rfl
  | some param =>
      have inner := or_empty_plain _ (plain_of_field data plain "operationParam") param op
      change Except.ok ((sortKeys param).field "operationFrequencyRange") = _
      rw [field_sorted param inner]
      rfl

end Readers

section Renaming

variable {α : Type} (sorted moved here : Built K (List α)) (kept : Prop)

-- What is built from a sorted record: as from the record, under the id that the sorted one has.
theorem renamed_alike (same : Alike SameKind (fun a b => a = b) sorted moved)
    (renamed : Alike SameKind (fun a b => a = [] ↔ b = []) moved here)
    (keeps : kept → ∀ a rest, here = .ok (a :: rest) → moved = here) :
    Alike SameKind (fun a b => kept → a = b) sorted here := by
  cases same with
  | error e d sameError =>
      cases renamed with
      | error _ f otherError => exact .error e f (sameError.trans otherError)
  | ok a b equal =>
      cases renamed with
      | ok _ c empty =>
          refine .ok a c fun holds => equal.trans ?_
          cases c with
          | nil => exact empty.mpr rfl
          | cons first rest => exact Except.ok.inj (keeps holds first rest rfl)

end Renaming

section Fss

variable (payload : Json K) (plain : Plain payload)

include plain in
theorem fss_loc_freq_sorted : fssLocAndFreq source (sortKeys payload) = fssLocAndFreq source payload := by
  have recordPlain := zone_record_plain payload plain
  rw [fssLocAndFreq, zone_record_sorted payload plain, deployment_sorted _ recordPlain, fssLocAndFreq]
  cases found : deployment (zoneRecord payload) with
  | none => rfl
  | some first =>
      have firstPlain := deployment_plain _ recordPlain first found
      rw [Option.map_some]
      dsimp only
      rw [deployment_range_sorted first firstPlain, field_sorted first firstPlain,
        point_sorted source _ (plain_of_field first firstPlain _)]
      cases read : deploymentRange first with
      | error error => rfl
      | ok range =>
          have rangePlain := deployment_range_plain first firstPlain range read
          change (if hasRange (sortKeys range) = true then _ else _) = if hasRange range = true then _ else _
          rw [has_range_sorted range rangePlain, freq_pair_sorted source range rangePlain]

include plain in
theorem fss_ttc_sorted : Alike SameKind (fun a b => a = b) (parseFssTtc (sortKeys payload)) (parseFssTtc payload) := by
  rw [parseFssTtc, has_sorted payload plain, field_sorted payload plain, parseFssTtc]
  split
  · exact alike_refl same_kind_refl _
  · cases payload.field "ttc" with
    | array items => exact .error _ _ rfl
    | object fields => exact .error _ _ rfl
    | _ => exact alike_refl same_kind_refl _

-- The points of an FSS record under an id of one's choice.
def fssAt (pointId : String) : Built K (List (ProtectionPoint K)) :=
  (fssLocAndFreq source payload).bind fun parsed =>
    match parsed with
    | none => .ok []
    | some (loc, fr) =>
        if fr.1 ≤ 0 || fr.2 ≤ fr.1 then .error (.entity .fssRange)
        else (parseFssTtc payload).bind fun ttc => fssPoints source pointId loc fr ttc

theorem fss_at : protectionPointsFromFssPayload source payload =
    fssAt source payload (idText source ((zoneRecord payload).field "id") "fss") := rfl

include plain in
theorem fss_at_sorted (pointId : String) :
    Alike SameKind (fun a b => a = b) (fssAt source (sortKeys payload) pointId) (fssAt source payload pointId) := by
  rw [fssAt, fss_loc_freq_sorted source payload plain, fssAt]
  refine alike_bind _ _ _ _ (alike_refl same_kind_refl _) fun parsed other same => ?_
  cases same
  cases parsed with
  | none => exact .ok [] [] rfl
  | some found =>
      dsimp only
      split
      · exact .error _ _ rfl
      · refine alike_bind _ _ _ _ (fss_ttc_sorted payload plain) fun ttc other same => ?_
        cases same
        exact alike_refl same_kind_refl _

-- The id decides neither whether there is a point nor what is refused.
theorem fss_points_renamed (first second : String) (loc : K × K) (fr : Int × Int) (ttc : Option Bool) :
    Alike SameKind (fun a b => a = [] ↔ b = []) (fssPoints source first loc fr ttc) (fssPoints source second loc fr ttc) := by
  have cochannel : (fssCochannelPoint source first loc fr).toList = [] ↔ (fssCochannelPoint source second loc fr).toList = [] := by
    rw [fssCochannelPoint, fssCochannelPoint]
    split
    · rw [Option.toList_eq_nil_iff, Option.map_eq_none_iff, Option.toList_eq_nil_iff, Option.map_eq_none_iff]
    · exact Iff.rfl
  have blocking : (fssBlockingPoint source first loc fr).toList = [] ↔ (fssBlockingPoint source second loc fr).toList = [] := by
    rw [fssBlockingPoint, fssBlockingPoint]
    split
    · exact Iff.intro (fun absurdity => by cases absurdity) (fun absurdity => by cases absurdity)
    · exact Iff.rfl
  rw [fssPoints, fssPoints]
  split
  · exact .ok _ _ cochannel
  · split
    · exact .error _ _ rfl
    · exact .ok _ _ (by rw [List.append_eq_nil_iff, List.append_eq_nil_iff, cochannel, blocking])

theorem fss_renamed (first second : String) :
    Alike SameKind (fun a b => a = [] ↔ b = []) (fssAt source payload first) (fssAt source payload second) := by
  refine alike_bind _ _ _ _ (alike_refl same_kind_refl _) fun parsed other same => ?_
  cases same
  cases parsed with
  | none => exact .ok [] [] Iff.rfl
  | some found =>
      dsimp only
      split
      · exact .error _ _ rfl
      · refine alike_bind _ _ _ _ (alike_refl same_kind_refl _) fun ttc other same => ?_
        cases same
        exact fss_points_renamed source first second found.1 found.2 ttc

-- Where the record builds a point, sorting the keys of its id does not change its text.
def FssKept : Prop :=
  ∀ point rest, protectionPointsFromFssPayload source payload = .ok (point :: rest) →
    idText source (sortKeys ((zoneRecord payload).field "id")) "fss" = idText source ((zoneRecord payload).field "id") "fss"

include plain in
theorem fss_sorted : Alike SameKind (fun a b => FssKept source payload → a = b)
    (protectionPointsFromFssPayload source (sortKeys payload)) (protectionPointsFromFssPayload source payload) := by
  have recordPlain := zone_record_plain payload plain
  rw [fss_at source (sortKeys payload), zone_record_sorted payload plain, field_sorted _ recordPlain]
  refine renamed_alike _ (fssAt source payload (idText source (sortKeys ((zoneRecord payload).field "id")) "fss")) _ _
    (fss_at_sorted source payload plain _) (fss_renamed source payload _ _) ?_
  intro kept point rest built
  rw [kept point rest built]
  rfl

end Fss

section Places

theorem head_plain (items : List (Json K)) (each : ∀ item ∈ items, Plain item) (first : Json K) (head : items.head? = some first) :
    Plain first := each first (List.mem_of_head? head)

theorem geometry_plain (zone : Json K) (plain : Plain zone) (shape : Json K)
    (found : geometryFromZoneBlob zone = some (some shape)) : Plain shape := by
  have choice : ∀ kind : Json K, some (if kind.isText "Polygon" || kind.isText "MultiPolygon" then some zone
      else if kind.isText "Feature" then zone.dictField "geometry"
      else if kind.isText "FeatureCollection" then (zone.field "features").items.head?.bind (·.dictField "geometry")
      else none) = some (some shape) → Plain shape := by
    intro kind chosen
    have whole := Option.some.inj chosen
    split at whole
    · cases whole
      exact plain
    · split at whole
      · exact plain_dict_field zone shape plain "geometry" whole
      · split at whole
        · obtain ⟨first, head, inside⟩ := Option.bind_eq_some_iff.mp whole
          have firstPlain := head_plain _ (plain_items_each _ (plain_of_field zone plain "features")) first head
          exact plain_dict_field first shape firstPlain "geometry" inside
        · cases whole
  rw [geometryFromZoneBlob] at found
  split at found
  · cases found
  · cases kind : zone.field "type" with
    | array items => rw [kind] at found; cases found
    | object fields => rw [kind] at found; cases found
    | _ => rw [kind] at found; exact choice _ found

theorem geometry_sorted (zone : Json K) (plain : Plain zone) :
    geometryFromZoneBlob (sortKeys zone) = (geometryFromZoneBlob zone).map fun geometry => geometry.map sortKeys := by
  have collection : (((sortKeys zone).field "features").items.head?.bind (·.dictField "geometry")) =
      ((zone.field "features").items.head?.bind (·.dictField "geometry")).map sortKeys := by
    rw [field_sorted zone plain, items_sorted, List.head?_map]
    cases head : (zone.field "features").items.head? with
    | none => rfl
    | some first =>
        have firstPlain := head_plain _ (plain_items_each _ (plain_of_field zone plain "features")) first head
        exact dict_field_sorted first firstPlain "geometry"
  have choice : ∀ kind : Json K, (if kind.isText "Polygon" || kind.isText "MultiPolygon" then some (sortKeys zone)
      else if kind.isText "Feature" then (sortKeys zone).dictField "geometry"
      else if kind.isText "FeatureCollection" then ((sortKeys zone).field "features").items.head?.bind (·.dictField "geometry")
      else none) = (if kind.isText "Polygon" || kind.isText "MultiPolygon" then some zone
      else if kind.isText "Feature" then zone.dictField "geometry"
      else if kind.isText "FeatureCollection" then (zone.field "features").items.head?.bind (·.dictField "geometry")
      else none).map sortKeys := by
    intro kind
    rw [collection, dict_field_sorted zone plain]
    split
    · rfl
    · split
      · rfl
      · split <;> rfl
  rw [geometryFromZoneBlob, is_object_sorted, geometryFromZoneBlob]
  split
  · rfl
  · rw [field_sorted zone plain "type"]
    cases zone.field "type" with
    | array items => rfl
    | object fields => rfl
    | _ => exact congrArg some (choice _)

def ringCloses (ring : List (Json K)) : Bool :=
  match ring.head?, ring.getLast? with
  | some first, some last => first.equal last
  | _, _ => false

def readPosition (position : Json K) : Option (K × Option K) :=
  match position.items with
  | lon :: lat :: _ => (lon.toFloat source.readers).map fun x => (x, lat.toFloat source.readers)
  | _ => none

def centreOf (positions : List (K × Option K)) : Option (Option (K × K)) :=
  let lons := positions.map (·.1)
  let lats := positions.filterMap (·.2)
  if lons.isEmpty then some none
  else if lats.isEmpty then none
  else some (some (lats.sum / lats.length, lons.sum / lons.length))

theorem ring_centre (ring : List (Json K)) : ringCentreOf source ring =
    if ring.length < 3 then some none
    else centreOf ((if ringCloses ring then ring.dropLast else ring).filterMap (readPosition source)) := rfl

theorem position_sorted (position : Json K) : readPosition source (sortKeys position) = readPosition source position := by
  rw [readPosition, items_sorted, readPosition]
  rcases position.items with _ | ⟨lon, _ | ⟨lat, rest⟩⟩
  · rfl
  · rfl
  · simp only [List.map_cons, to_float_sorted]

theorem closes_sorted (ring : List (Json K)) (each : ∀ item ∈ ring, Plain item) :
    ringCloses (ring.map sortKeys) = ringCloses ring := by
  rw [ringCloses, List.head?_map, List.getLast?_map, ringCloses]
  cases ring.head? with
  | none => rfl
  | some first =>
      cases last : ring.getLast? with
      | none => rfl
      | some final => exact equal_sorted first final (each final (List.mem_of_getLast? last))

theorem ring_sorted (ring : List (Json K)) (each : ∀ item ∈ ring, Plain item) :
    ringCentreOf source (ring.map sortKeys) = ringCentreOf source ring := by
  have positions : ∀ items : List (Json K),
      (items.map sortKeys).filterMap (readPosition source) = items.filterMap (readPosition source) := by
    intro items
    rw [List.filterMap_map]
    exact List.filterMap_congr fun item _ => position_sorted source item
  rw [ring_centre, ring_centre, List.length_map, closes_sorted ring each, ← List.map_dropLast]
  by_cases closed : ringCloses ring = true
  · rw [if_pos closed, if_pos closed, positions]
  · rw [if_neg closed, if_neg closed, positions]

def pairOf (coords : List (Json K)) : Option (K × K) :=
  match coords with
  | lon :: lat :: _ => (lat.toFloat source.readers).bind fun y => (lon.toFloat source.readers).map fun x => (y, x)
  | _ => none

def firstItems (ring : Option (Json K)) : List (Json K) := (ring.map (·.items)).getD []

def placeOf (kind : Json K) (coords : List (Json K)) : Option (Option (K × K)) :=
  if kind.isText "Point" then some (pairOf source coords)
  else if kind.isText "Polygon" then ringCentreOf source (firstItems coords.head?)
  else if kind.isText "MultiPolygon" then ringCentreOf source (firstItems (coords.head?.bind (·.items.head?)))
  else some none

theorem place_of (shape : Json K) : representativePoint source (some shape) =
    placeOf source (shape.field "type") (shape.field "coordinates").items := by
  rw [representativePoint, placeOf]
  refine if_congr Iff.rfl ?_ rfl
  rcases (shape.field "coordinates").items with _ | ⟨lon, _ | ⟨lat, rest⟩⟩ <;> rfl

theorem pair_sorted (coords : List (Json K)) : pairOf source (coords.map sortKeys) = pairOf source coords := by
  rcases coords with _ | ⟨lon, _ | ⟨lat, rest⟩⟩
  · rfl
  · rfl
  · simp only [pairOf, List.map_cons, to_float_sorted]

theorem first_items_plain (ring : Option (Json K)) (plain : ∀ data, ring = some data → Plain data) :
    ∀ item ∈ firstItems ring, Plain item := by
  cases ring with
  | none => exact fun item member => absurd member List.not_mem_nil
  | some data => exact plain_items_each data (plain data rfl)

theorem first_ring_sorted (ring : Option (Json K)) (plain : ∀ data, ring = some data → Plain data) :
    ringCentreOf source (firstItems (ring.map sortKeys)) = ringCentreOf source (firstItems ring) := by
  have same : firstItems (ring.map sortKeys) = (firstItems ring).map sortKeys := by
    cases ring with
    | none => rfl
    | some data => exact items_sorted data
  rw [same, ring_sorted source _ (first_items_plain ring plain)]

theorem head_items_sorted (ring : Option (Json K)) : ((ring.map sortKeys).bind (·.items.head?)) =
    (ring.bind (·.items.head?)).map sortKeys := by
  cases ring with
  | none => rfl
  | some data =>
      change (sortKeys data).items.head? = data.items.head?.map sortKeys
      rw [items_sorted, List.head?_map]

theorem representative_sorted (geometry : Option (Json K)) (plain : ∀ shape, geometry = some shape → Plain shape) :
    representativePoint source (geometry.map sortKeys) = representativePoint source geometry := by
  cases geometry with
  | none => rfl
  | some shape =>
      have shapePlain := plain shape rfl
      have coordsPlain := plain_items_each _ (plain_of_field shape shapePlain "coordinates")
      have polygonPlain := head_plain (shape.field "coordinates").items coordsPlain
      have multiPlain : ∀ data, ((shape.field "coordinates").items.head?.bind (·.items.head?)) = some data → Plain data := by
        intro data found
        obtain ⟨polygon, head, first⟩ := Option.bind_eq_some_iff.mp found
        exact head_plain _ (plain_items_each polygon (polygonPlain polygon head)) data first
      rw [Option.map_some, place_of, place_of, field_sorted shape shapePlain, field_sorted shape shapePlain, items_sorted, placeOf,
        is_text_sorted, is_text_sorted, is_text_sorted, pair_sorted, List.head?_map, first_ring_sorted source _ polygonPlain,
        head_items_sorted, first_ring_sorted source _ multiPlain, placeOf]

theorem zone_place_sorted (zone : Json K) (plain : Plain zone) : zonePlace source (sortKeys zone) = zonePlace source zone := by
  have same : (geometryFromZoneBlob (sortKeys zone)).bind (representativePoint source) =
      (geometryFromZoneBlob zone).bind (representativePoint source) := by
    rw [geometry_sorted zone plain]
    cases found : geometryFromZoneBlob zone with
    | none => rfl
    | some geometry =>
        exact representative_sorted source geometry fun shape isShape => geometry_plain zone plain shape (isShape ▸ found)
  rw [zonePlace, same, zonePlace]

end Places

section Wisp

variable (payload : Json K) (plain : Plain payload)

theorem gwpz_range_sorted (record : Json K) (recordPlain : Plain record) :
    gwpzRange source (sortKeys record) = gwpzRange source record := by
  rw [gwpzRange, deployment_sorted record recordPlain, gwpzRange]
  cases found : deployment record with
  | none => rfl
  | some first =>
      have firstPlain := deployment_plain record recordPlain first found
      rw [Option.map_some]
      dsimp only
      rw [deployment_range_sorted first firstPlain]
      cases read : deploymentRange first with
      | error error => rfl
      | ok range =>
          change Except.ok ((freqPair source (sortKeys range)).getD _) = _
          rw [freq_pair_sorted source range (deployment_range_plain first firstPlain range read)]
          rfl

-- The place and the range of a zone record, before its point gets an id.
def gwpzSpot : Built K (Option ((K × K) × (Int × Int))) :=
  let record := payload.field "record"
  if !record.isObject then .ok none
  else
    (zonePlace source (payload.field "zone")).bind fun place =>
      match place with
      | none => .ok none
      | some loc => (gwpzRange source record).map fun fr => some (loc, fr)

theorem wisp_spot : protectionPointFromWispPayload source payload = (gwpzSpot source payload).map fun spot =>
    spot.bind fun found => gwpzPoint source (idText source ((payload.field "record").field "id") "gwpz") found.1 found.2 := by
  rw [protectionPointFromWispPayload, gwpzSpot]
  split
  · rfl
  · cases zonePlace source (payload.field "zone") with
    | error error => rfl
    | ok place =>
        cases place with
        | none => rfl
        | some loc =>
            change (gwpzRange source (payload.field "record")).map _ = ((gwpzRange source (payload.field "record")).map _).map _
            cases gwpzRange source (payload.field "record") <;> rfl

include plain in
theorem gwpz_spot_sorted : gwpzSpot source (sortKeys payload) = gwpzSpot source payload := by
  rw [gwpzSpot, field_sorted payload plain, field_sorted payload plain, is_object_sorted,
    zone_place_sorted source _ (plain_of_field payload plain "zone"),
    gwpz_range_sorted source _ (plain_of_field payload plain "record"), gwpzSpot]

def WispKept : Prop :=
  ∀ point, protectionPointFromWispPayload source payload = .ok (some point) →
    idText source (sortKeys ((payload.field "record").field "id")) "gwpz" =
      idText source ((payload.field "record").field "id") "gwpz"

theorem gwpz_none (first second : String) (loc : K × K) (fr : Int × Int) (absent : gwpzPoint source first loc fr = none) :
    gwpzPoint source second loc fr = none := by
  rw [gwpzPoint, Option.map_eq_none_iff] at absent ⊢
  exact absent

include plain in
theorem wisp_sorted : Alike SameKind (fun a b => WispKept source payload → a = b)
    (protectionPointFromWispPayload source (sortKeys payload)) (protectionPointFromWispPayload source payload) := by
  have kept : WispKept source payload → ∀ point, protectionPointFromWispPayload source payload = .ok (some point) →
      idText source (sortKeys ((payload.field "record").field "id")) "gwpz" =
        idText source ((payload.field "record").field "id") "gwpz" := fun holds => holds
  rw [wisp_spot] at kept
  rw [wisp_spot, wisp_spot, gwpz_spot_sorted source payload plain, field_sorted payload plain,
    field_sorted _ (plain_of_field payload plain "record")]
  cases spot : gwpzSpot source payload with
  | error error => exact .error _ _ rfl
  | ok found =>
      rw [spot] at kept
      refine .ok _ _ fun holds => ?_
      cases found with
      | none => rfl
      | some place =>
          change gwpzPoint source _ place.1 place.2 = gwpzPoint source _ place.1 place.2
          cases built : gwpzPoint source (idText source ((payload.field "record").field "id") "gwpz") place.1 place.2 with
          | none => exact gwpz_none source _ _ _ _ built
          | some point =>
              rw [kept holds point (congrArg Except.ok built)]
              exact built

end Wisp

section Zones

variable (payload : Json K) (plain : Plain payload)

-- The place and the ppaInfo of a record that is a PPA.
def ppaSpot : Built K (Option ((K × K) × Json K)) :=
  let record := zoneRecord payload
  if (record.field "terminated").isTrue then .ok none
  else if !(record.field "usage").isText "PPA" && !record.has "ppaInfo" then .ok none
  else
    (zonePlace source (record.field "zone")).bind fun place =>
      match place with
      | none => .ok none
      | some loc =>
          match (record.field "ppaInfo").orEmpty with
          | none => .error .other
          | some ppaInfo => .ok (some (loc, ppaInfo))

-- The frequencies that the PALs of a PPA span.
def ppaBand (palById : List (String × Json K)) (palIds : List (Json K)) : Option (Int × Int) :=
  let ranges := palRanges source palById palIds
  match (ranges.map (·.1)).min?, (ranges.map (·.2)).max? with
  | some low, some high => clipFrequencyToCbrs source low high
  | _, _ => none

def ppaPoint (pointId : String) (loc : K × K) (band : Int × Int) : ProtectionPoint K where
  pointId := "ppa:" ++ pointId
  latitude := loc.1
  longitude := loc.2
  lowHz := band.1
  highHz := band.2
  thresholdDbm := ppaThresholdDbm
  entityKind := .ppa
  preIapMarginDb := preIapMarginDb
  neighborhoodKm := some neighborhoodPpaKm

theorem zone_spot (palById : List (String × Json K)) : zonePoint source palById payload =
    (ppaSpot source payload).map fun spot => spot.bind fun found =>
      (ppaBand source palById (found.2.field "palId").items).map
        (ppaPoint (idText source ((zoneRecord payload).field "id") "ppa") found.1) := by
  rw [zonePoint, protectionPointFromZonePayload, ppaSpot, zonePlace]
  dsimp only
  by_cases ended : ((zoneRecord payload).field "terminated").isTrue = true
  · rw [if_pos ended, if_pos ended]
    rfl
  · rw [if_neg ended, if_neg ended]
    by_cases other : (!((zoneRecord payload).field "usage").isText "PPA" && !(zoneRecord payload).has "ppaInfo") = true
    · rw [if_pos other, if_pos other]
      rfl
    · rw [if_neg other, if_neg other]
      cases geometryFromZoneBlob ((zoneRecord payload).field "zone") with
      | none => rfl
      | some geometry =>
          rw [Option.bind_some, Option.bind_some]
          cases representativePoint source geometry with
          | none => rfl
          | some place =>
              cases place with
              | none => rfl
              | some loc =>
                  rw [Option.bind_some]
                  dsimp only
                  cases ((zoneRecord payload).field "ppaInfo").orEmpty with
                  | none => rfl
                  | some ppaInfo =>
                      refine congrArg Except.ok ?_
                      change _ = (ppaBand source palById (ppaInfo.field "palId").items).map _
                      rw [ppaBand]
                      dsimp only
                      cases ((palRanges source palById (ppaInfo.field "palId").items).map (·.1)).min? with
                      | none => rfl
                      | some low =>
                          cases ((palRanges source palById (ppaInfo.field "palId").items).map (·.2)).max? with
                          | none => rfl
                          | some high => rfl

theorem ppa_spot_plain (recordPlain : Plain payload) (spot : (K × K) × Json K)
    (found : ppaSpot source payload = .ok (some spot)) : Plain spot.2 := by
  rw [ppaSpot] at found
  split at found
  · cases found
  · split at found
    · cases found
    · cases placed : zonePlace source ((zoneRecord payload).field "zone") with
      | error error => rw [placed] at found; cases found
      | ok place =>
          rw [placed] at found
          cases place with
          | none => cases found
          | some loc =>
              dsimp only [Except.bind] at found
              cases info : ((zoneRecord payload).field "ppaInfo").orEmpty with
              | none => rw [info] at found; cases found
              | some ppaInfo =>
                  rw [info] at found
                  cases found
                  exact or_empty_plain _ (plain_of_field _ (zone_record_plain payload recordPlain) "ppaInfo") ppaInfo info

include plain in
theorem ppa_spot_sorted : ppaSpot source (sortKeys payload) =
    (ppaSpot source payload).map fun spot => spot.map fun found => (found.1, sortKeys found.2) := by
  have recordPlain := zone_record_plain payload plain
  rw [ppaSpot, zone_record_sorted payload plain, field_sorted _ recordPlain, field_sorted _ recordPlain, field_sorted _ recordPlain,
    field_sorted _ recordPlain, is_true_sorted, is_text_sorted, has_sorted _ recordPlain,
    zone_place_sorted source _ (plain_of_field _ recordPlain "zone"), or_empty_sorted, ppaSpot]
  split
  · rfl
  · split
    · rfl
    · cases zonePlace source ((zoneRecord payload).field "zone") with
      | error error => rfl
      | ok place =>
          cases place with
          | none => rfl
          | some loc => cases ((zoneRecord payload).field "ppaInfo").orEmpty <;> rfl

-- Sorting the keys of the PAL ids does not change the frequencies of the PPA, nor sorting those of its id its text.
def ZoneKept (palById : List (String × Json K)) : Prop :=
  ∀ loc ppaInfo, ppaSpot source payload = .ok (some (loc, ppaInfo)) →
    ppaBand source palById ((ppaInfo.field "palId").items.map sortKeys) = ppaBand source palById (ppaInfo.field "palId").items ∧
    ∀ band, ppaBand source palById (ppaInfo.field "palId").items = some band →
      idText source (sortKeys ((zoneRecord payload).field "id")) "ppa" = idText source ((zoneRecord payload).field "id") "ppa"

theorem pal_freq_sorted (pal : Json K) (palPlain : Plain pal) : palFreqFromRecord source (sortKeys pal) = palFreqFromRecord source pal := by
  have channelPlain := plain_of_field pal palPlain "channelAssignment"
  have primaryPlain := plain_of_field _ channelPlain "primaryAssignment"
  simp only [palFreqFromRecord, field_sorted pal palPlain, field_sorted _ channelPlain, field_sorted _ primaryPlain,
    freq_pair_sorted source _ (plain_of_field _ primaryPlain "operationFrequencyRange"), freq_pair_sorted source _ primaryPlain,
    freq_pair_sorted source _ (plain_of_field _ channelPlain "operationFrequencyRange"),
    freq_pair_sorted source _ (plain_of_field _ palPlain "palBlock"),
    freq_pair_sorted source _ (plain_of_field _ palPlain "operationFrequencyRange")]

-- Two indexes that find the same PALs, in one of them with sorted keys.
theorem ppa_band_sorted (palById frozenPals : List (String × Json K)) (palIds : List (Json K))
    (each : ∀ key pal, PyDict.lookup palById key = some pal → Plain pal)
    (lookups : ∀ key, PyDict.lookup frozenPals key = (PyDict.lookup palById key).map sortKeys) :
    ppaBand source frozenPals palIds = ppaBand source palById palIds := by
  have ranges : palRanges source frozenPals palIds = palRanges source palById palIds := by
    refine List.filterMap_congr fun palId _ => ?_
    rw [lookups]
    cases found : PyDict.lookup palById (palId.toText source.readers) with
    | none => rfl
    | some pal =>
        rw [Option.map_some, Option.filter_some, Option.filter_some, is_object_sorted]
        split
        · exact pal_freq_sorted source pal (each _ pal found)
        · rfl
  rw [ppaBand, ranges, ppaBand]

include plain in
theorem zone_sorted (palById frozenPals : List (String × Json K))
    (each : ∀ key pal, PyDict.lookup palById key = some pal → Plain pal)
    (lookups : ∀ key, PyDict.lookup frozenPals key = (PyDict.lookup palById key).map sortKeys) :
    Alike SameKind (fun a b => ZoneKept source payload palById → a = b) (zonePoint source frozenPals (sortKeys payload))
      (zonePoint source palById payload) := by
  rw [zone_spot, zone_spot, ppa_spot_sorted source payload plain, zone_record_sorted payload plain,
    field_sorted _ (zone_record_plain payload plain)]
  cases spot : ppaSpot source payload with
  | error error => exact .error _ _ rfl
  | ok found =>
      refine .ok _ _ fun kept => ?_
      cases found with
      | none => rfl
      | some place =>
          obtain ⟨loc, ppaInfo⟩ := place
          have infoPlain := ppa_spot_plain source payload plain (loc, ppaInfo) spot
          obtain ⟨sameBand, sameText⟩ := kept loc ppaInfo spot
          change (ppaBand source frozenPals ((sortKeys ppaInfo).field "palId").items).map _ =
            (ppaBand source palById (ppaInfo.field "palId").items).map _
          rw [field_sorted ppaInfo infoPlain, items_sorted, ppa_band_sorted source palById frozenPals _ each lookups, sameBand]
          cases band : ppaBand source palById (ppaInfo.field "palId").items with
          | none => rfl
          | some range => rw [sameText range band]

end Zones

end SasCore.Iap
