import SasCore.Federal.Protection
import SasCore.Federal.ExclusionZones
import SasCore.Federal.Sites
import SasCore.Lib.Collect

set_option autoImplicit false
set_option linter.unusedSectionVars false

namespace SasCore.Federal

open Injection Registry

variable {K : Type} [Field K] [LinearOrder K] (env : FeedEnv K) (geometry : GeometryEnv K) (lat lon : K)

-- The records are read without a look at their geometry; get fails on a zone that is no object.
def exclusionFreqRangesAtPoint : List (Json K) → Except ZoneFault (List (Int × Int))
  | [] => .ok []
  | record :: rest =>
      if !record.isObject || ((record.field "zone").truthy && !(record.field "zone").isObject) then .error .other
      else if !geometry.withinGeojsonBufferM lat lon (record.field "zone") exzBufferM then exclusionFreqRangesAtPoint rest
      else
        match freqRanges env record with
        | none => .error .other
        | some ranges => (exclusionFreqRangesAtPoint rest).map (ranges ++ ·)

def overlapsAny (low high : Int) (ranges : List (Int × Int)) : Bool := ranges.any fun range => overlapsHz low high range.1 range.2

def covers (record : Json K) : Bool := geometry.withinGeojsonBufferM lat lon (record.field "zone") exzBufferM

-- The shapes that the store admits: an empty body, or a record with a zone object.
def StoredZone (record : Json K) : Prop := record = .object [] ∨ (record.isObject = true ∧ (record.field "zone").isObject = true)

-- Every record that covers the point has frequencyRanges to loop through.
def AllRead (records : List (Json K)) : Prop := ∀ record ∈ records, covers geometry lat lon record = true → (freqRanges env record).isSome

def Overlaps (low high : Int) (records : List (Json K)) : Prop :=
  ∃ record ∈ records, covers geometry lat lon record = true ∧
    ∃ ranges, freqRanges env record = some ranges ∧ overlapsAny low high ranges = true

-- Up to the first record that covers the point and has no range, an overlapping range or ranges that cannot be read,
-- every geometry is usable; and where ranges are read, those of every later record are, and one of them overlaps.
def ZonesAgree (low high : Int) : List (Json K) → Prop
  | [] => True
  | record :: rest =>
      (record.field "zone").isObject = true ∧ env.geometryUsable (record.field "zone") = true ∧
        if covers geometry lat lon record then
          match freqRanges env record with
          | none => True
          | some ranges =>
              if ranges.isEmpty || overlapsAny low high ranges then
                AllRead env geometry lat lon rest ∧ (overlapsAny low high ranges = true ∨ Overlaps env geometry lat lon low high rest)
              else ZonesAgree low high rest
        else ZonesAgree low high rest

section Stored

theorem stored_reads (record : Json K) (stored : StoredZone record) :
    (!record.isObject || ((record.field "zone").truthy && !(record.field "zone").isObject)) = false := by
  rcases stored with empty | ⟨isDict, zone⟩
  · rw [empty]
    rfl
  · rw [isDict, zone]
    simp

theorem valid_zone (record : Json K) (done : Unit) (valid : validateExclusionZoneRecord env record = .ok done) :
    (record.field "zone").isObject = true := by
  rw [validateExclusionZoneRecord] at valid
  by_cases zone : (record.field "zone").isObject = true
  · exact zone
  · by_cases missing : (record.field "zone").isNull = true
    · simp [missing] at valid
    · simp [missing, zone] at valid

theorem persisted_stored (payload : Json K) (committed after : Tables K)
    (before : ∀ row ∈ (committed.records .exclusionZone).settled, ∀ record, row = some record → StoredZone record)
    (done : persistExclusionZone env payload committed = .ok after) :
    ∀ row ∈ (after.records .exclusionZone).settled, ∀ record, row = some record → StoredZone record := by
  rw [persistExclusionZone] at done
  obtain ⟨valid, checked, written⟩ := Collect.map_ok _ _ after done
  have isDict : (if payload.isObject then payload else .object []).isObject = true := by
    by_cases dict : payload.isObject = true
    · rw [if_pos dict]
      exact dict
    · rw [if_neg dict]
      rfl
  intro row member record isRecord
  rw [← written, Tables.flush_records, Orm.settled_flush, Tables.set_records_same, Orm.settled_add] at member
  rcases List.mem_append.mp member with old | isNew
  · exact before row old record isRecord
  · rw [List.mem_singleton.mp isNew] at isRecord
    cases isRecord
    by_cases given : (if payload.isObject then payload else .object []).truthy = true
    · rw [if_pos given] at checked
      exact .inr ⟨isDict, valid_zone env _ valid checked⟩
    · left
      cases shape : (if payload.isObject then payload else .object []) with
      | object fields =>
          rw [shape] at given
          have empty : fields = [] := by simpa [Json.truthy] using given
          rw [empty]
      | _ =>
          rw [shape] at isDict
          cases isDict

theorem synced_stored (root : Xml) (record : Json K) (member : record ∈ zoneRecords env root) : StoredZone record := by
  obtain ⟨placemark, _, read⟩ := List.mem_filterMap.mp member
  rw [placemarkZone] at read
  by_cases short : (parseKmlRing env (outerRingText placemark)).length < 4
  · rw [if_pos short] at read
    cases read
  · rw [if_neg short] at read
    cases read
    exact .inr ⟨rfl, rfl⟩

end Stored

section Agreement

variable (low high : Int)

theorem ranges_read (records : List (Json K)) (stored : ∀ record ∈ records, StoredZone record) :
    (∃ all, exclusionFreqRangesAtPoint env geometry lat lon records = .ok all ∧ AllRead env geometry lat lon records ∧
        (overlapsAny low high all = true ↔ Overlaps env geometry lat lon low high records)) ∨
      (exclusionFreqRangesAtPoint env geometry lat lon records = .error .other ∧ ¬ AllRead env geometry lat lon records) := by
  induction records with
  | nil =>
      refine .inl ⟨[], rfl, fun record member => absurd member List.not_mem_nil, ?_⟩
      simp [overlapsAny, Overlaps]
  | cons record rest ih =>
      rw [List.forall_mem_cons] at stored
      rw [exclusionFreqRangesAtPoint, stored_reads record stored.1, if_neg Bool.false_ne_true]
      have tail := ih stored.2
      by_cases covering : covers geometry lat lon record = true
      · have within : (!geometry.withinGeojsonBufferM lat lon (record.field "zone") exzBufferM) = false := by
          rw [Bool.not_eq_false']
          exact covering
        rw [within, if_neg Bool.false_ne_true]
        cases ranges : freqRanges env record with
        | none =>
            refine .inr ⟨rfl, fun all => ?_⟩
            have read := all record List.mem_cons_self covering
            rw [ranges] at read
            cases read
        | some found =>
            rcases tail with ⟨all, isRest, reads, overlapping⟩ | ⟨raised, unread⟩
            · left
              refine ⟨found ++ all, by rw [isRest]; rfl, ?_, ?_⟩
              · intro other member isCovering
                rcases List.mem_cons.mp member with here | later
                · rw [here, ranges]
                  rfl
                · exact reads other later isCovering
              · rw [overlapsAny, List.any_append, Bool.or_eq_true, ← overlapsAny, ← overlapsAny, overlapping]
                simp [Overlaps, covering, ranges]
            · right
              refine ⟨by rw [raised]; rfl, fun all => unread fun other member => ?_⟩
              exact all other (List.mem_cons_of_mem record member)
      · have outside : (!geometry.withinGeojsonBufferM lat lon (record.field "zone") exzBufferM) = true := by
          rw [Bool.not_eq_true']
          exact Bool.eq_false_of_not_eq_true covering
        rw [outside, if_pos rfl]
        rcases tail with ⟨all, isRest, reads, overlapping⟩ | ⟨raised, unread⟩
        · refine .inl ⟨all, isRest, ?_, ?_⟩
          · intro other member isCovering
            rcases List.mem_cons.mp member with here | later
            · rw [here] at isCovering
              exact absurd isCovering covering
            · exact reads other later isCovering
          · rw [overlapping]
            simp [Overlaps, covering]
        · refine .inr ⟨raised, fun all => unread fun other member => ?_⟩
          exact all other (List.mem_cons_of_mem record member)

-- The two readings of one record list have one outcome, an exception included.
def ReadAlike (records : List (Json K)) : Prop :=
  pointHitsExclusionRecords env geometry lat lon low high records =
    (exclusionFreqRangesAtPoint env geometry lat lon records).map (overlapsAny low high)

theorem zones_agree_iff (records : List (Json K)) (stored : ∀ record ∈ records, StoredZone record) :
    ReadAlike env geometry lat lon low high records ↔ ZonesAgree env geometry lat lon low high records := by
  induction records with
  | nil => exact iff_of_true rfl trivial
  | cons record rest ih =>
      have whole := ranges_read env geometry lat lon low high (record :: rest) stored
      rw [List.forall_mem_cons] at stored
      have tail := ih stored.2
      have isDict : record.isObject = true := by
        rcases stored.1 with empty | given
        · rw [empty]
          rfl
        · exact given.1
      rw [ReadAlike, pointHitsExclusionRecords, ZonesAgree, isDict]
      simp only [Bool.not_true, Bool.false_eq_true, if_false]
      by_cases usable : (record.field "zone").isObject = true ∧ env.geometryUsable (record.field "zone") = true
      · obtain ⟨zone, usable⟩ := usable
        rw [exclusionFreqRangesAtPoint, stored_reads record stored.1]
        simp only [zone, usable, Bool.not_true, Bool.or_false, Bool.false_eq_true, if_false, true_and]
        by_cases covering : covers geometry lat lon record = true
        · have within : geometry.withinGeojsonBufferM lat lon (record.field "zone") exzBufferM = true := covering
          simp only [within, covering, Bool.not_true, Bool.false_eq_true, if_false, if_true]
          cases ranges : freqRanges env record with
          | none => exact iff_of_true rfl trivial
          | some found =>
              simp only
              have join : ∀ all, overlapsAny low high (found ++ all) = (overlapsAny low high found || overlapsAny low high all) :=
                fun all => List.any_append
              by_cases hit : (found.isEmpty || overlapsAny low high found) = true
              · have isHit : (found.isEmpty || found.any fun range => overlapsHz low high range.1 range.2) = true := hit
                rw [if_pos isHit, if_pos hit]
                rcases ranges_read env geometry lat lon low high rest stored.2 with
                  ⟨all, isRest, reads, overlapping⟩ | ⟨raised, unread⟩
                · rw [isRest]
                  simp only [Except.map, join, Except.ok.injEq]
                  rw [eq_comm, Bool.or_eq_true, overlapping]
                  exact ⟨fun either => ⟨reads, either⟩, And.right⟩
                · rw [raised]
                  exact iff_of_false nofun fun both => unread both.1
              · have noHit : ¬ (found.isEmpty || found.any fun range => overlapsHz low high range.1 range.2) = true := hit
                rw [if_neg noHit, if_neg hit, ← tail, ReadAlike]
                rw [Bool.or_eq_true, not_or, Bool.not_eq_true, Bool.not_eq_true] at hit
                cases exclusionFreqRangesAtPoint env geometry lat lon rest with
                | error fault => exact Iff.rfl
                | ok all => simp only [Except.map, join, hit.2, Bool.false_or]
        · have outside : geometry.withinGeojsonBufferM lat lon (record.field "zone") exzBufferM = false :=
            Bool.eq_false_of_not_eq_true covering
          simp only [outside, covering, Bool.not_false, if_true, Bool.false_eq_true, if_false]
          exact tail
      -- An unusable geometry raises in one of the two only.
      · have rejected : (!(record.field "zone").isObject || !env.geometryUsable (record.field "zone")) = true := by
          rw [Bool.or_eq_true, Bool.not_eq_true', Bool.not_eq_true', ← Bool.not_eq_true, ← Bool.not_eq_true, ← not_and_or]
          exact usable
        rw [if_pos rejected]
        refine iff_of_false (fun same => ?_) fun ⟨zone, geometric, _⟩ => usable ⟨zone, geometric⟩
        rcases whole with ⟨all, isAll, _⟩ | ⟨raised, _⟩
        · rw [isAll] at same
          cases same
        · rw [raised] at same
          cases same

end Agreement

def nearZones : GeometryEnv Rat where
  haversineM := fun _ _ _ _ => 0
  withinGeojsonBufferM := fun _ _ zone _ => zone.truthy
  ntiaZones := .ok []

-- A square around the point 40 north, 100 west.
def squareRing : Json Rat :=
  .array ([(-101, 39), (-99, 39), (-99, 41), (-101, 41), (-101, 39)].map fun (lon, lat) => .array [.int lon, .int lat])

def squareZone : Json Rat := .object [("type", .text "Polygon"), ("coordinates", .array [squareRing])]

def zoneOf (ranges : List (Json Rat)) : Json Rat := .object [("zone", squareZone), ("frequencyRanges", .array ranges)]

theorem rangeless_zone_differs :
    ¬ ∀ (lat lon : Rat) (low high : Int) (records : List (Json Rat)), (∀ record ∈ records, StoredZone record) →
      ReadAlike siteEnv nearZones lat lon low high records := by
  intro claim
  have alike := claim 40 (-100) 3550000000 3560000000 [zoneOf []] fun record member => by
    rw [List.mem_singleton.mp member]
    exact .inr ⟨rfl, rfl⟩
  have hits : pointHitsExclusionRecords siteEnv nearZones 40 (-100) 3550000000 3560000000 [zoneOf []] = .ok true := by
    decide +kernel
  have offered : exclusionFreqRangesAtPoint siteEnv nearZones 40 (-100) [zoneOf []] = .ok [] := by decide +kernel
  rw [ReadAlike, hits, offered] at alike
  cases alike

theorem zones_agree_iff_sample :
    ReadAlike siteEnv nearZones 40 (-100) 3550000000 3560000000 [zoneOf [rangeJson (3550000000, 3570000000)]] :=
  (zones_agree_iff siteEnv nearZones 40 (-100) 3550000000 3560000000 [zoneOf [rangeJson (3550000000, 3570000000)]]
    (fun record member => by rw [List.mem_singleton.mp member]; exact .inr ⟨rfl, rfl⟩)).mpr
      ⟨rfl, rfl, fun record member => absurd member List.not_mem_nil, .inl (by decide +kernel)⟩

end SasCore.Federal
