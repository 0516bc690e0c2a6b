import SasCore.Ppa.Creation
import SasCore.Spectrum.PalRules

set_option autoImplicit false
set_option linter.unusedSectionVars false

namespace SasCore.Ppa

open Injection Federal Registry Spectrum

variable {K : Type} [Field K] [LinearOrder K] (env : PpaEnv K) (tables : PpaTables K)

section World

-- A record that _validate_and_build returned, and how many of the created zones it was validated against.
structure PendingPpa (K : Type) where
  record : Json K
  seen : Nat

-- The records that create_ppa has committed, and what each session is about to commit.
structure PpaWorld (K : Type) where
  created : List (Json K)
  pending : Nat → Option (PendingPpa K)

inductive PpaStep (K : Type) where
  | validate (body : Json K) (token today : String)
  | persist

def zonePayload (record : Json K) : Json K := .object [("record", record)]

-- The zones of the table: those injected before, then the created ones.
def PpaWorld.zones (world : PpaWorld K) (injected : List (Json K)) : List (Json K) := injected ++ world.created.map zonePayload

-- _validate_and_build runs outside the admission lock, _persist_zone and the commit inside it.
def ppaStep (injected : List (Json K)) (world : PpaWorld K) (who : Nat) : PpaStep K → PpaWorld K
  | .validate body token today =>
      match world.pending who with
      | some _ => world
      | none =>
          match validateAndBuild env tables (world.zones injected) body token today with
          | .error _ => world
          | .ok built => { world with pending := Function.update world.pending who (some ⟨built.2, world.created.length⟩) }
  | .persist =>
      match world.pending who with
      | none => world
      | some ppa => ⟨world.created ++ [ppa.record], Function.update world.pending who none⟩

def ppaRun (injected : List (Json K)) (world : PpaWorld K) (steps : List (Nat × PpaStep K)) : PpaWorld K :=
  steps.foldl (fun held step => ppaStep env tables injected held step.1 step.2) world

def PpaWorld.start : PpaWorld K := ⟨[], fun _ => none⟩

end World

section Clash

variable (inside : Json K → Set (K × K))

-- The rule of _validate_and_build: ranges that overlap, or a PAL in common.
def SharesChannel (first second : Json K) : Prop :=
  ∃ pals ids others, loadPals tables.pals = .ok pals ∧ recordPalIds first = .ok ids ∧ recordPalIds second = .ok others ∧
    ((∃ ranges otherRanges, palRanges env pals ids = .ok ranges ∧ palRanges env pals others = .ok otherRanges ∧
        ∃ range ∈ ranges, ∃ other ∈ otherRanges, freqsOverlap range other = true) ∨
      ∃ palId : String, .text palId ∈ ids ∧ .text palId ∈ others)

def Live (record : Json K) : Prop := (record.field "terminated").truthy = false

def Clash (first second : Json K) : Prop :=
  Live first ∧ Live second ∧ SharesChannel env tables first second ∧
    AreasMeet env.tests inside (first.field "zone") (second.field "zone")

-- Any two of the created zones are apart; the later one comes first.
def Apart (created : List (Json K)) : Prop := created.Pairwise fun earlier later => ¬ Clash env tables inside later earlier

-- What a session commits clashes with nothing that was committed since the session validated it.
def StepClear (world : PpaWorld K) (who : Nat) (step : PpaStep K) : Prop :=
  match step with
  | .validate .. => True
  | .persist => ∀ ppa ∈ world.pending who, ∀ other ∈ world.created.drop ppa.seen, ¬ Clash env tables inside ppa.record other

def RunClear (injected : List (Json K)) : PpaWorld K → List (Nat × PpaStep K) → Prop
  | _, [] => True
  | world, step :: rest =>
      StepClear env tables inside world step.1 step.2 ∧ RunClear injected (ppaStep env tables injected world step.1 step.2) rest

end Clash

section Validation

theorem selected_known (pals : List (Json K)) (palIds : List String) (selected : List (Json K))
    (all : palIds.mapM (selectPal env pals) = .ok selected) :
    (palIds.map Json.text).mapM (knownPal pals) = .ok (selected.map some) := by
  induction palIds generalizing selected with
  | nil =>
      cases all
      rfl
  | cons palId rest ih =>
      rw [List.mapM_cons] at all
      obtain ⟨pal, isPal, others⟩ := Collect.bind_ok _ _ selected all
      obtain ⟨tail, isTail, same⟩ := Collect.bind_ok _ _ selected others
      cases same
      have known : knownPal pals (.text palId) = .ok (some pal) := by
        rw [selectPal] at isPal
        cases found : palById pals (.text palId) with
        | none =>
            rw [found] at isPal
            cases isPal
        | some held =>
            rw [found] at isPal
            simp only at isPal
            split at isPal
            · cases isPal
              rw [knownPal, found]
              rfl
            · cases isPal
      rw [List.map_cons, List.mapM_cons, known, ih tail isTail]
      rfl

-- The ranges of a validated request are those of the PALs that its record names.
theorem selected_ranges (pals : List (Json K)) (palIds : List String) (selected : List (Json K)) (ranges : List (Option (Int × Int)))
    (all : palIds.mapM (selectPal env pals) = .ok selected) (read : selected.mapM (ppaPalFreq env.feeds) = .ok ranges) :
    palRanges env pals (palIds.map Json.text) = .ok (ranges.filterMap id) := by
  rw [palRanges, selected_known env pals palIds selected all]
  change (((selected.map some).filterMap id).mapM (ppaPalFreq env.feeds) >>= fun found => Except.ok (found.filterMap id)) = _
  have same : (selected.map some).filterMap id = selected := by simp
  rw [same, read]
  rfl

theorem loop_array (items : List (Json K)) : loopItems (.array items) = .ok items := by
  cases items <;> rfl

theorem record_pal_ids (ppaId begin : String) (palIds cbsdIds : List String) (zone expiration : Json K) :
    recordPalIds (ppaRecord ppaId palIds cbsdIds zone expiration begin) = .ok (palIds.map Json.text) :=
  loop_array (palIds.map Json.text)

-- A row that creation has written is read back as that record.
def IsCreated (record : Json K) : Prop := existingPpaRecord (zonePayload record) = .ok (some record)

theorem record_created (ppaId begin : String) (palIds cbsdIds : List String) (zone expiration : Json K) :
    IsCreated (ppaRecord ppaId palIds cbsdIds zone expiration begin) := rfl

-- The zone of the record has the rings of the contour that was compared.
theorem ppa_zone_rings (contour zone : Json K) (built : ppaZone env contour = .ok zone) :
    iterGeojsonRings zone = iterGeojsonRings contour := by
  obtain ⟨feat, single, shaped⟩ := Collect.bind_ok _ _ zone built
  rw [singleFeature] at single
  split at single
  · rename_i held listed
    cases single
    split at shaped
    · cases shaped
    · rename_i polygon
      obtain ⟨rings, _, full⟩ := Collect.bind_ok _ _ zone shaped
      split at full
      · cases full
      · obtain ⟨properties, _, same⟩ := Collect.bind_ok _ _ zone full
        cases same
        simp only [Bool.or_eq_true, Bool.not_eq_true', not_or, Bool.not_eq_false] at polygon
        have isDict : feat.isObject = true := by
          cases feat with
          | object fields => rfl
          | _ => cases polygon.1
        exact single_feature_rings contour feat properties listed isDict polygon.1 polygon.2
  · cases single

-- What a validated record is: its PALs, its zone, and the comparison that it passed.
theorem build_record (zones : List (Json K)) (body : Json K) (token today : String) (built : String × Json K)
    (validated : validateAndBuild env tables zones body token today = .ok built) :
    ∃ pals palIds selected contour, loadPals tables.pals = .ok pals ∧ palIds.mapM (selectPal env pals) = .ok selected ∧
      overlapsExisting env pals palIds selected contour zones = .ok false ∧ recordPalIds built.2 = .ok (palIds.map Json.text) ∧
      iterGeojsonRings (built.2.field "zone") = iterGeojsonRings contour ∧ IsCreated built.2 := by
  obtain ⟨palIds, _, afterPals⟩ := Collect.bind_ok _ _ built validated
  obtain ⟨cbsdIds, _, afterCbsds⟩ := Collect.bind_ok _ _ built afterPals
  obtain ⟨pals, loaded, afterLoad⟩ := Collect.bind_ok _ _ built afterCbsds
  obtain ⟨selected, isSelected, afterSelect⟩ := Collect.bind_ok _ _ built afterLoad
  obtain ⟨holder, _, afterHolder⟩ := Collect.bind_ok _ _ built afterSelect
  obtain ⟨cbsds, _, afterRows⟩ := Collect.bind_ok _ _ built afterHolder
  obtain ⟨locations, _, afterPlaces⟩ := Collect.bind_ok _ _ built afterRows
  obtain ⟨contour, _, afterContour⟩ := Collect.bind_ok _ _ built afterPlaces
  obtain ⟨clash, compared, ending⟩ := Collect.bind_ok _ _ built afterContour
  cases clash with
  | true => cases ending
  | false =>
      obtain ⟨ppaId, _, withId⟩ := Collect.bind_ok _ _ built ending
      obtain ⟨zone, isZone, same⟩ := Collect.bind_ok _ _ built withId
      cases same
      exact ⟨pals, palIds, selected, contour, loaded, isSelected, compared, record_pal_ids _ _ _ _ _ _,
        ppa_zone_rings env contour zone isZone, record_created _ _ _ _ _ _⟩

-- A comparison without a conflict, for zones that share a channel.
theorem no_conflict_apart (inside : Json K → Set (K × K)) (exact : ExactOverlap env.tests inside) (pals : List (Json K))
    (palIds : List String) (ranges : List (Int × Int)) (contour record existing : Json K) (loaded : loadPals tables.pals = .ok pals)
    (isIds : recordPalIds record = .ok (palIds.map Json.text)) (isRanges : palRanges env pals (palIds.map Json.text) = .ok ranges)
    (passed : conflictsWith env pals palIds ranges contour existing = .ok false)
    (shares : SharesChannel env tables record existing) : ¬ AreasMeet env.tests inside contour (existing.field "zone") := by
  obtain ⟨others, isOthers, afterIds⟩ := Collect.bind_ok _ _ false passed
  obtain ⟨otherRanges, isOtherRanges, decided⟩ := Collect.bind_ok _ _ false afterIds
  obtain ⟨held, ids, existingIds, isHeld, isRecord, isExisting, common⟩ := shares
  cases loaded.symm.trans isHeld
  cases isIds.symm.trans isRecord
  cases isOthers.symm.trans isExisting
  have asked : geojsonAreasOverlap env.tests contour (existing.field "zone") = .ok false := by
    simp only at decided
    split at decided
    · rename_i unrelated
      simp only [Bool.and_eq_true, Bool.not_eq_true'] at unrelated
      exfalso
      rcases common with ⟨own, theirs, isOwn, isTheirs, range, inOwn, other, inTheirs, overlap⟩ | ⟨palId, inIds, inOthers⟩
      · cases isRanges.symm.trans isOwn
        cases isOtherRanges.symm.trans isTheirs
        have clash : (ranges.any fun range => otherRanges.any (freqsOverlap range)) = true :=
          List.any_eq_true.mpr ⟨range, inOwn, List.any_eq_true.mpr ⟨other, inTheirs, overlap⟩⟩
        exact absurd (unrelated.1.symm.trans clash) nofun
      · obtain ⟨text, inPalIds, same⟩ := List.mem_map.mp inIds
        have named : (others.any fun held => palIds.any fun palId => held.isText palId) = true :=
          List.any_eq_true.mpr ⟨.text palId, inOthers, List.any_eq_true.mpr ⟨text, inPalIds, by
            rw [← same]
            exact beq_self_eq_true text⟩⟩
        exact absurd (unrelated.2.symm.trans named) nofun
    · exact decided
  intro meet
  exact absurd ((areas_overlap_exact env.tests inside exact _ _ false asked).mpr meet) nofun

-- A validated record is apart from every PPA in the table it was validated against.
theorem validated_apart (inside : Json K → Set (K × K)) (exact : ExactOverlap env.tests inside) (zones : List (Json K))
    (body : Json K) (token today : String) (built : String × Json K)
    (validated : validateAndBuild env tables zones body token today = .ok built) (payload existing : Json K)
    (member : payload ∈ zones) (isPpa : existingPpaRecord payload = .ok (some existing)) :
    ¬ Clash env tables inside built.2 existing := by
  rintro ⟨_, _, shares, meet⟩
  obtain ⟨pals, palIds, selected, contour, loaded, isSelected, compared, isIds, sameRings, _⟩ :=
    build_record env tables zones body token today built validated
  obtain ⟨ranges, isRanges, afterRanges⟩ := Collect.bind_ok _ _ false compared
  obtain ⟨records, isRecords, scanned⟩ := Collect.bind_ok _ _ false afterRanges
  obtain ⟨result, inRecords, isResult⟩ := Collect.ok_result _ zones records isRecords payload member
  cases isPpa.symm.trans isResult
  have listed : existing ∈ records.filterMap id := List.mem_filterMap.mpr ⟨some existing, inRecords, rfl⟩
  have passed := (Scan.any_clear_iff _ _).mp scanned existing listed
  have sameArea : area env.tests inside (built.2.field "zone") = area env.tests inside contour := by
    simp only [area, zoneRings, sameRings]
  rw [AreasMeet, sameArea] at meet
  exact no_conflict_apart env tables inside exact pals palIds (ranges.filterMap id) contour built.2 existing loaded isIds
    (selected_ranges env pals palIds selected ranges isSelected isRanges) passed shares meet

end Validation

section Runs

variable (inside : Json K → Set (K × K)) (injected : List (Json K))

-- Every committed pair is apart, and each pending record is apart from what it was validated against.
structure PpaSound (world : PpaWorld K) : Prop where
  apart : Apart env tables inside world.created
  created : ∀ record ∈ world.created, IsCreated record
  pendingCreated : ∀ who ppa, world.pending who = some ppa → IsCreated ppa.record
  seen : ∀ who ppa, world.pending who = some ppa → ppa.seen ≤ world.created.length
  validated : ∀ who ppa, world.pending who = some ppa →
    ∀ other ∈ world.created.take ppa.seen, ¬ Clash env tables inside ppa.record other

theorem start_sound : PpaSound env tables inside (PpaWorld.start : PpaWorld K) where
  apart := List.Pairwise.nil
  created := fun _ member => absurd member List.not_mem_nil
  pendingCreated := fun _ _ isPending => by cases isPending
  seen := fun _ _ isPending => by cases isPending
  validated := fun _ _ isPending => by cases isPending

-- A property of the record that a session gets, and of every record that was pending before.
theorem updated_pending (pending : Nat → Option (PendingPpa K)) (who : Nat) (ppa : PendingPpa K) (holds : PendingPpa K → Prop)
    (own : holds ppa) (others : ∀ other held, pending other = some held → holds held) (other : Nat) (held : PendingPpa K)
    (isHeld : Function.update pending who (some ppa) other = some held) : holds held := by
  by_cases same : other = who
  · rw [same, Function.update_self] at isHeld
    cases isHeld
    exact own
  · rw [Function.update_of_ne same] at isHeld
    exact others other held isHeld

theorem released_pending (pending : Nat → Option (PendingPpa K)) (who other : Nat) (held : PendingPpa K)
    (isHeld : Function.update pending who none other = some held) : pending other = some held := by
  by_cases same : other = who
  · rw [same, Function.update_self] at isHeld
    cases isHeld
  · rw [Function.update_of_ne same] at isHeld
    exact isHeld

theorem validate_sound (exact : ExactOverlap env.tests inside) (world : PpaWorld K) (who : Nat) (body : Json K)
    (token today : String) (sound : PpaSound env tables inside world) :
    PpaSound env tables inside (ppaStep env tables injected world who (.validate body token today)) := by
  rw [ppaStep]
  split
  · exact sound
  · split
    · exact sound
    · rename_i built validated
      obtain ⟨_, _, _, _, _, _, _, _, _, isCreated⟩ := build_record env tables _ body token today built validated
      have fresh : ∀ other ∈ world.created.take world.created.length, ¬ Clash env tables inside built.2 other := by
        intro other member
        rw [List.take_length] at member
        have listed : zonePayload other ∈ world.zones injected := List.mem_append_right _ (List.mem_map_of_mem member)
        exact validated_apart env tables inside exact _ body token today built validated (zonePayload other) other listed
          (sound.created other member)
      exact
        { apart := sound.apart
          created := sound.created
          pendingCreated := updated_pending world.pending who _ (fun held => IsCreated held.record) isCreated sound.pendingCreated
          seen := updated_pending world.pending who _ (fun held => held.seen ≤ world.created.length) (le_refl _) sound.seen
          validated := updated_pending world.pending who _
            (fun held => ∀ other ∈ world.created.take held.seen, ¬ Clash env tables inside held.record other) fresh sound.validated }

-- A commit keeps the zones apart exactly when its record is apart from all that is committed.
theorem persist_apart (world : PpaWorld K) (who : Nat) (ppa : PendingPpa K) (isPending : world.pending who = some ppa)
    (sound : PpaSound env tables inside world) :
    Apart env tables inside (ppaStep env tables injected world who .persist).created ↔
      StepClear env tables inside world who .persist := by
  have after : (ppaStep env tables injected world who .persist).created = world.created ++ [ppa.record] := by
    rw [ppaStep, isPending]
  rw [after, Apart, List.pairwise_append]
  simp only [StepClear, isPending, Option.mem_some_iff, forall_eq']
  constructor
  · rintro ⟨_, _, apart⟩ other member
    exact apart other (List.mem_of_mem_drop member) ppa.record (List.mem_singleton_self _)
  · intro clear
    refine ⟨sound.apart, List.pairwise_singleton _ _, fun other member record isRecord => ?_⟩
    rw [List.mem_singleton.mp isRecord]
    rw [← List.take_append_drop ppa.seen world.created] at member
    rcases List.mem_append.mp member with earlier | later
    · exact sound.validated who ppa isPending other earlier
    · exact clear other later

theorem persist_sound (world : PpaWorld K) (who : Nat) (sound : PpaSound env tables inside world)
    (clear : StepClear env tables inside world who .persist) :
    PpaSound env tables inside (ppaStep env tables injected world who .persist) := by
  cases isPending : world.pending who with
  | none =>
      have same : ppaStep env tables injected world who .persist = world := by rw [ppaStep, isPending]
      rw [same]
      exact sound
  | some ppa =>
      have apart := (persist_apart env tables inside injected world who ppa isPending sound).mpr clear
      have after : ppaStep env tables injected world who .persist =
          ⟨world.created ++ [ppa.record], Function.update world.pending who none⟩ := by rw [ppaStep, isPending]
      rw [after] at apart ⊢
      refine ⟨apart, ?_, ?_, ?_, ?_⟩
      · intro record member
        rcases List.mem_append.mp member with old | new
        · exact sound.created record old
        · rw [List.mem_singleton.mp new]
          exact sound.pendingCreated who ppa isPending
      · exact fun other held isHeld => sound.pendingCreated other held (released_pending world.pending who other held isHeld)
      · intro other held isHeld
        have bound := sound.seen other held (released_pending world.pending who other held isHeld)
        rw [List.length_append]
        omega
      · intro other held isHeld
        have isOld := released_pending world.pending who other held isHeld
        rw [List.take_append_of_le_length (sound.seen other held isOld)]
        exact sound.validated other held isOld

theorem step_sound (exact : ExactOverlap env.tests inside) (world : PpaWorld K) (who : Nat) (step : PpaStep K)
    (sound : PpaSound env tables inside world) (clear : StepClear env tables inside world who step) :
    PpaSound env tables inside (ppaStep env tables injected world who step) := by
  cases step with
  | validate body token today => exact validate_sound env tables inside injected exact world who body token today sound
  | persist => exact persist_sound env tables inside injected world who sound clear

theorem step_clear (world : PpaWorld K) (who : Nat) (step : PpaStep K) (sound : PpaSound env tables inside world)
    (apart : Apart env tables inside (ppaStep env tables injected world who step).created) :
    StepClear env tables inside world who step := by
  cases step with
  | validate body token today => exact trivial
  | persist =>
      cases isPending : world.pending who with
      | none => simp [StepClear, isPending]
      | some ppa => exact (persist_apart env tables inside injected world who ppa isPending sound).mp apart

theorem run_apart_iff (exact : ExactOverlap env.tests inside) (steps : List (Nat × PpaStep K)) (world : PpaWorld K)
    (sound : PpaSound env tables inside world) :
    (∀ reached, reached <+: steps → Apart env tables inside (ppaRun env tables injected world reached).created) ↔
      RunClear env tables inside injected world steps := by
  induction steps generalizing world with
  | nil =>
      refine iff_of_true (fun reached prefixed => ?_) trivial
      rw [List.prefix_nil.mp prefixed]
      exact sound.apart
  | cons step rest ih =>
      constructor
      · intro apart
        have clear := step_clear env tables inside injected world step.1 step.2 sound
          (apart [step] (List.cons_prefix_cons.mpr ⟨rfl, List.nil_prefix⟩))
        refine ⟨clear, (ih _ (step_sound env tables inside injected exact world step.1 step.2 sound clear)).mp ?_⟩
        exact fun reached prefixed => apart (step :: reached) (List.cons_prefix_cons.mpr ⟨rfl, prefixed⟩)
      · rintro ⟨clear, later⟩ reached prefixed
        cases reached with
        | nil => exact sound.apart
        | cons first others =>
            obtain ⟨same, isRest⟩ := List.cons_prefix_cons.mp prefixed
            rw [same]
            exact (ih _ (step_sound env tables inside injected exact world step.1 step.2 sound clear)).mpr later others isRest

-- Over every interleaving of create_ppa calls: the created zones stay apart exactly when no commit meets a clashing zone
-- that was committed after its validation.
theorem created_ppas_apart_iff (exact : ExactOverlap env.tests inside) (steps : List (Nat × PpaStep K)) :
    (∀ reached, reached <+: steps → Apart env tables inside (ppaRun env tables injected PpaWorld.start reached).created) ↔
      RunClear env tables inside injected PpaWorld.start steps :=
  run_apart_iff env tables inside injected exact steps PpaWorld.start (start_sound env tables inside)

end Runs

-- Rings of boxes, given by their first and third corner.
structure Box where
  west : Rat
  south : Rat
  east : Rat
  north : Rat

def ringBox : Json Rat → Option Box
  | .array (.array [.int west, .int south] :: _ :: .array [.int east, .int north] :: _) => some ⟨west, south, east, north⟩
  | _ => none

def Box.overlaps (first second : Box) : Bool :=
  max first.west second.west < min first.east second.east && max first.south second.south < min first.north second.north

def boxTests : RingTests Rat where
  ringIsValid := fun ring => .ok (ringBox ring).isSome
  ringsAreaOverlap := fun ring other => (ringBox ring).any fun first => (ringBox other).any first.overlaps

def boxInside (ring : Json Rat) : Set (Rat × Rat) :=
  {point | ∃ box ∈ ringBox ring, (box.west < point.1 ∧ point.1 < box.east) ∧ box.south < point.2 ∧ point.2 < box.north}

theorem box_overlap_exact : ExactOverlap boxTests boxInside := by
  intro ring other _ _
  have read : boxTests.ringsAreaOverlap ring other = true ↔
      ∃ first ∈ ringBox ring, ∃ second ∈ ringBox other, first.overlaps second = true := by
    simp only [boxTests, Option.any_eq_true, Option.mem_def]
  rw [read]
  constructor
  · rintro ⟨first, isFirst, second, isSecond, met⟩
    simp only [Box.overlaps, Bool.and_eq_true, decide_eq_true_eq] at met
    obtain ⟨lon, lonLow, lonHigh⟩ := exists_between met.1
    obtain ⟨lat, latLow, latHigh⟩ := exists_between met.2
    rw [max_lt_iff] at lonLow latLow
    rw [lt_min_iff] at lonHigh latHigh
    exact ⟨(lon, lat), ⟨first, isFirst, ⟨lonLow.1, lonHigh.1⟩, latLow.1, latHigh.1⟩,
      second, isSecond, ⟨lonLow.2, lonHigh.2⟩, latLow.2, latHigh.2⟩
  · rintro ⟨point, ⟨first, isFirst, ⟨west, east⟩, south, north⟩, second, isSecond, ⟨otherWest, otherEast⟩, otherSouth, otherNorth⟩
    refine ⟨first, isFirst, second, isSecond, ?_⟩
    simp only [Box.overlaps, Bool.and_eq_true, decide_eq_true_eq]
    exact ⟨(max_lt west otherWest).trans (lt_min east otherEast), (max_lt south otherSouth).trans (lt_min north otherNorth)⟩

-- A PAL on 3550-3560 MHz and two CBSDs of its licensee, far from each other.
def plotEnv : PpaEnv Rat where
  feeds := palEnv
  tests := boxTests
  loadCountyGeometry := fun _ => none
  census := none
  unionGeojson := fun _ => .ok none
  intersectGeojson := fun contour _ => .ok (some contour)
  reshape := fun _ => .ok none
  pointCoveredByArea := fun _ _ _ => .ok true
  polygonWithinServiceArea := fun _ _ => .ok true
  polygonCoveredBy := fun _ _ => .ok true
  maximumRfPpaContour := fun cbsds =>
    .ok (collection [feature (.object []) (.object [("type", .text "Polygon"),
      ("coordinates", .array [if cbsds.any fun cbsd => cbsd.cbsdId = "fcc/sn" then squareRing else eastRing])])])
  dictOf := .ok

def eastCbsd : Cbsd Rat := { plainsCbsd with id := 1, cbsdId := "fcc/east", cbsdSerialNumber := "east" }

def plotTables : PpaTables Rat where
  pals := eastTables
  store := { (Store.empty : Store Rat) with cbsds := [plainsCbsd, eastCbsd] }
  config := none
  clusterLists := []

def clusterBody (cbsdId : String) : Json Rat :=
  .object [("palIds", .array [.text "pal/1"]), ("cbsdIds", .array [.text cbsdId])]

def plotRecord (ring : Json Rat) (cbsdId token : String) : Json Rat :=
  ppaRecord ("zone/ppa/" ++ palEnv.injection.settings.sasAdminId ++ "/pal/1/" ++ token) ["pal/1"] [cbsdId]
    (collection [feature (.object []) (.object [("type", .text "Polygon"), ("coordinates", .array [ring])])]) (.text "today") "today"

-- Both sessions validate before either commits.
def raceRun : List (Nat × PpaStep Rat) :=
  [(0, .validate (clusterBody "fcc/sn") "a" "today"), (1, .validate (clusterBody "fcc/sn") "b" "today"), (0, .persist), (1, .persist)]

theorem raced_ppas_overlap :
    ¬ ∀ (steps : List (Nat × PpaStep Rat)) (reached : List (Nat × PpaStep Rat)), reached <+: steps →
      Apart plotEnv plotTables boxInside (ppaRun plotEnv plotTables [] PpaWorld.start reached).created := by
  intro claim
  have apart := claim raceRun raceRun (List.prefix_refl _)
  have created : (ppaRun plotEnv plotTables [] PpaWorld.start raceRun).created =
      [plotRecord squareRing "fcc/sn" "a", plotRecord squareRing "fcc/sn" "b"] := rfl
  rw [created] at apart
  have corner : (-100, 40) ∈ boxInside squareRing := ⟨⟨-101, 39, -99, 41⟩, rfl, by decide +kernel⟩
  have within : ∀ token, (-100, 40) ∈ area boxTests boxInside ((plotRecord squareRing "fcc/sn" token).field "zone") :=
    fun token => ⟨[squareRing], rfl, squareRing, List.mem_singleton_self _, corner⟩
  have shares : SharesChannel plotEnv plotTables (plotRecord squareRing "fcc/sn" "b") (plotRecord squareRing "fcc/sn" "a") :=
    ⟨_, [.text "pal/1"], [.text "pal/1"], rfl, rfl, rfl, .inr ⟨"pal/1", List.mem_singleton_self _, List.mem_singleton_self _⟩⟩
  exact List.pairwise_pair.mp apart ⟨rfl, rfl, shares, (-100, 40), within "b", within "a"⟩

-- Two PPAs on the same PAL, one after the other.
def plotRun : List (Nat × PpaStep Rat) :=
  [(0, .validate (clusterBody "fcc/sn") "a" "today"), (0, .persist), (1, .validate (clusterBody "fcc/east") "b" "today"), (1, .persist)]

example : (ppaRun plotEnv plotTables [] PpaWorld.start plotRun).created.length = 2 := rfl

theorem created_ppas_apart_iff_sample :
    Apart plotEnv plotTables boxInside (ppaRun plotEnv plotTables [] PpaWorld.start plotRun).created := by
  apply (created_ppas_apart_iff plotEnv plotTables boxInside [] box_overlap_exact plotRun).mpr _ plotRun (List.prefix_refl _)
  refine ⟨trivial, fun ppa isPpa other member => ?_, trivial, fun ppa isPpa other member => ?_, trivial⟩
  · have none_before : other ∈ ([] : List (Json Rat)).drop ppa.seen := member
    rw [List.drop_nil] at none_before
    exact absurd none_before List.not_mem_nil
  · cases isPpa
    exact absurd member List.not_mem_nil

end SasCore.Ppa
