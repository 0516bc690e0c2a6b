import SasCore.Federal.Sites
import SasCore.Iap.FrozenPals
import SasCore.Fad.RoundTrip

set_option autoImplicit false
set_option linter.unusedSectionVars false

-- Points built from a freeze against points built from the tables.
namespace SasCore.Iap

open Federal Injection JsonText Outcomes

variable {K : Type} [Field K] [LinearOrder K]

section Outcomes

variable (source : PointSource K) (palById : List (String × Json K))

-- What each record comes to, in the order in which they are built.
def recordOutcomes (payloads : EntityPayloads K) : List (Built K (List (ProtectionPoint K))) :=
  payloads.fss.map (protectionPointsFromFssPayload source) ++
    payloads.wisp.map (fun payload => (protectionPointFromWispPayload source payload).map Option.toList) ++
    payloads.zones.map (fun payload => (zonePoint source palById payload).map Option.toList) ++
    payloads.escRecords.map fun sensor => (protectionPointFromEscSensorRecord source sensor.1 sensor.2).map Option.toList

theorem flatten_options {α : Type} (found : List (Option α)) : (found.map Option.toList).flatten = found.filterMap id := by
  induction found with
  | nil => rfl
  | cons first rest ih =>
      rw [List.map_cons, List.flatten_cons, ih]
      cases first <;> rfl

theorem build_outcomes (payloads : EntityPayloads K) (indexed : indexPals source payloads.pals = .ok palById) :
    buildProtectionPointsFromPayloads source payloads =
      (inTurn (recordOutcomes source palById payloads)).map fun found => found.flatten.mergeSort pointBefore := by
  rw [buildProtectionPointsFromPayloads, indexed, recordOutcomes, turn_append, turn_append, turn_append, turn_map, turn_mapped,
    turn_mapped, turn_mapped]
  change (payloads.fss.mapM (protectionPointsFromFssPayload source) >>= _) = _
  cases payloads.fss.mapM (protectionPointsFromFssPayload source) with
  | error error => rfl
  | ok fss =>
      change (payloads.wisp.mapM (protectionPointFromWispPayload source) >>= _) = _
      cases payloads.wisp.mapM (protectionPointFromWispPayload source) with
      | error error => rfl
      | ok wisp =>
          change (payloads.zones.mapM (zonePoint source palById) >>= _) = _
          cases payloads.zones.mapM (zonePoint source palById) with
          | error error => rfl
          | ok zones =>
              change ((payloads.escRecords.mapM fun sensor => protectionPointFromEscSensorRecord source sensor.1 sensor.2) >>= _) = _
              cases payloads.escRecords.mapM fun sensor => protectionPointFromEscSensorRecord source sensor.1 sensor.2 with
              | error error => rfl
              | ok esc =>
                  refine congrArg Except.ok ?_
                  simp only [List.flatten_append, flatten_options]

end Outcomes

section Agreement

def Refused {α : Type} (built : Built K α) : Prop := ∃ error, built = .error (.entity error)

-- Both refused with a ProtectionEntityError, or both built, with the same points.
def SamePoints (live frozen : Built K (List (ProtectionPoint K))) : Prop :=
  (Refused live ∧ Refused frozen) ∨ ∃ points others, live = .ok points ∧ frozen = .ok others ∧ points.Perm others

-- The first failure, where there is one, is a ProtectionEntityError.
def NoCrash (outcomes : List (Built K (List (ProtectionPoint K)))) : Prop := outcomes.findSome? fault? ≠ some .other

variable (here there frozen : List (Built K (List (ProtectionPoint K)))) (kept : Prop)

def pointsOf (outcomes : List (Built K (List (ProtectionPoint K)))) : Built K (List (ProtectionPoint K)) :=
  (inTurn outcomes).map fun found => found.flatten.mergeSort pointBefore

theorem points_crash (crashes : ¬ NoCrash here) : inTurn here = .error .other := by
  rw [NoCrash, not_not, ← turn_fault] at crashes
  cases ran : inTurn here with
  | ok found => rw [ran] at crashes; cases crashes
  | error error => rw [ran] at crashes; cases crashes; rfl

theorem points_refused (fine : NoCrash here) (error : BuildError K) (fails : inTurn here = .error error) :
    error.isEntity = true := by
  rw [NoCrash, ← turn_fault, fails] at fine
  cases error with
  | entity refusal => rfl
  | other => exact absurd rfl fine

theorem refused_points (error : BuildError K) (isEntity : error.isEntity = true) (fails : inTurn here = .error error) :
    Refused (pointsOf here) := by
  cases error with
  | entity refusal => exact ⟨refusal, by rw [pointsOf, fails]; rfl⟩
  | other => cases isEntity

theorem crash_neither (error : BuildError K) (fails : inTurn here = .error error) (crash : error.isEntity = false) :
    ¬ Refused (pointsOf here) ∧ ∀ points, pointsOf here ≠ .ok points := by
  have points : pointsOf here = .error error := by rw [pointsOf, fails]; rfl
  rw [points]
  constructor
  · rintro ⟨refusal, refused⟩
    cases refused
    cases crash
  · intro found built
    cases built

variable (alike : List.Forall₂ (Alike SameKind fun a b => kept → a = b) frozen there)

include alike

theorem same_no_crash (same : SamePoints (pointsOf here) (pointsOf frozen)) : NoCrash here ∧ NoCrash there := by
  constructor
  · by_contra crashes
    obtain ⟨notRefused, notBuilt⟩ := crash_neither here .other (points_crash here crashes) rfl
    rcases same with ⟨refused, _⟩ | ⟨points, _, built, _⟩
    · exact notRefused refused
    · exact notBuilt points built
  · by_contra crashes
    have turned := turn_alike frozen there alike
    rw [points_crash there crashes] at turned
    cases fails : inTurn frozen with
    | ok found => rw [fails] at turned; cases turned
    | error error =>
        rw [fails] at turned
        cases turned with
        | error _ _ kind =>
            obtain ⟨notRefused, notBuilt⟩ := crash_neither frozen error fails kind
            rcases same with ⟨_, refused⟩ | ⟨_, others, _, built, _⟩
            · exact notRefused refused
            · exact notBuilt others built

theorem no_crash_same (perm : there.Perm here) (fine : NoCrash here) (otherFine : NoCrash there)
    (keeps : (∀ outcome ∈ here, ∃ points, outcome = .ok points) → kept) : SamePoints (pointsOf here) (pointsOf frozen) := by
  have turned := turn_alike frozen there alike
  cases ran : inTurn here with
  | error error =>
      refine .inl ⟨refused_points here error (points_refused here fine error ran) ran, ?_⟩
      cases other : inTurn there with
      | ok found =>
          obtain ⟨_, built, _⟩ := turn_perm there here perm found other
          rw [ran] at built
          cases built
      | error fault =>
          have isEntity := points_refused there otherFine fault other
          rw [other] at turned
          cases fails : inTurn frozen with
          | ok found => rw [fails] at turned; cases turned
          | error frozenFault =>
              rw [fails] at turned
              cases turned with
              | error _ _ kind => exact refused_points frozen frozenFault (kind.trans isEntity) fails
  | ok found =>
      have built := (turn_ok_iff here found).mp ran
      have holds : kept := keeps fun outcome member => by
        rw [built] at member
        obtain ⟨points, _, same⟩ := List.mem_map.mp member
        exact ⟨points, same.symm⟩
      obtain ⟨others, otherBuilt, reordered⟩ := turn_perm here there perm.symm found ran
      rw [otherBuilt] at turned
      cases frozenRan : inTurn frozen with
      | error fault => rw [frozenRan] at turned; cases turned
      | ok points =>
          rw [frozenRan] at turned
          cases turned with
          | ok _ _ each =>
              have same : points = others := by
                rw [← List.forall₂_eq_eq_eq]
                exact each.imp fun a b equal => equal holds
              refine .inr ⟨found.flatten.mergeSort pointBefore, points.flatten.mergeSort pointBefore, ?_, ?_, ?_⟩
              · rw [pointsOf, ran]; rfl
              · rw [pointsOf, frozenRan]; rfl
              · rw [same]
                exact (List.mergeSort_perm _ _).trans (reordered.flatten.trans (List.mergeSort_perm _ _).symm)

end Agreement

section Tables

variable (env : FeedEnv K) (source : PointSource K) (tables : EntityTables K)

def livePoints : Built K (List (ProtectionPoint K)) := buildProtectionPointsFromDb (jsonFloats env) source tables

def frozenPoints : Built K (List (ProtectionPoint K)) :=
  (captureProtectionRecordsForFreeze env source.readers tables).bind (buildProtectionPointsFromFrozen (jsonFloats env) source)

-- The payloads as the tables hold them, in the order in which the snapshot lists them.
def snapshotEntities (pals : List (Json K)) : EntityPayloads K where
  fss := capturedOrder source.readers "fss" (loadInjected (jsonFloats env) tables.fss)
  wisp := capturedOrder source.readers "wisp" (loadInjected (jsonFloats env) tables.wisp)
  zones := capturedOrder source.readers "zone" (loadInjected (jsonFloats env) tables.zones)
  escRecords := loadSensors (jsonFloats env) (tables.escSensors.mergeSort idBefore)
  pals := pals

-- What the records come to in the order of the tables, and in the order of the snapshot.
def rowOutcomes (pals : List (Json K)) : List (Built K (List (ProtectionPoint K))) :=
  recordOutcomes source (palIndex source pals []) (liveEntities (jsonFloats env) tables pals)

def snapshotOutcomes (pals : List (Json K)) : List (Built K (List (ProtectionPoint K))) :=
  recordOutcomes source (palIndex source pals []) (snapshotEntities env source tables pals)

-- What the records of the snapshot come to, read back with their keys sorted.
def frozenOutcomes (pals : List (Json K)) : List (Built K (List (ProtectionPoint K))) :=
  recordOutcomes source (palIndex source ((capturedPals source.readers pals).map sortKeys) [])
    { fss := (capturedOrder source.readers "fss" (loadInjected (jsonFloats env) tables.fss)).map sortKeys
      wisp := (capturedOrder source.readers "wisp" (loadInjected (jsonFloats env) tables.wisp)).map sortKeys
      zones := (capturedOrder source.readers "zone" (loadInjected (jsonFloats env) tables.zones)).map sortKeys
      escRecords := loadSensors (jsonFloats env) (tables.escSensors.mergeSort idBefore)
      pals := (capturedPals source.readers pals).map sortKeys }

-- Every record that builds a point has the same id and the same frequencies when its keys are sorted.
def TextsKept (pals : List (Json K)) : Prop :=
  (∀ payload ∈ loadInjected (jsonFloats env) tables.fss, FssKept source payload) ∧
  (∀ payload ∈ loadInjected (jsonFloats env) tables.wisp, WispKept source payload) ∧
  ∀ payload ∈ loadInjected (jsonFloats env) tables.zones, ZoneKept source payload (palIndex source pals [])

variable (pals : List (Json K))

theorem snapshot_perm : (snapshotOutcomes env source tables pals).Perm (rowOutcomes env source tables pals) := by
  have sensors : (loadSensors (jsonFloats env) (tables.escSensors.mergeSort idBefore)).Perm
      (loadSensors (jsonFloats env) tables.escSensors) := (List.mergeSort_perm _ _).filterMap _
  exact ((((captured_perm source.readers "fss" _).map _).append ((captured_perm source.readers "wisp" _).map _)).append
    ((captured_perm source.readers "zone" _).map _)).append (sensors.map _)

theorem each_alike {α : Type} {R : α → α → Prop} (sorted : Json K → Built K α) (plain : Json K → Built K α)
    (items : List (Json K)) (each : ∀ item ∈ items, Alike SameKind R (sorted (sortKeys item)) (plain item)) :
    List.Forall₂ (Alike SameKind R) ((items.map sortKeys).map sorted) (items.map plain) := by
  rw [List.forall₂_map_left_iff, List.forall₂_map_left_iff, List.forall₂_map_right_iff, List.forall₂_same]
  exact each

-- Each record of the snapshot comes to what the record of the table does, if the texts are kept.
theorem snapshot_alike (indexed : ∀ pal ∈ pals, Indexed pal) :
    List.Forall₂ (Alike SameKind fun a b => TextsKept env source tables pals → a = b)
      (frozenOutcomes env source tables pals) (snapshotOutcomes env source tables pals) := by
  have loaded : ∀ kind texts, ∀ payload ∈ capturedOrder source.readers kind (loadInjected (jsonFloats env) texts),
      payload ∈ loadInjected (jsonFloats env) texts ∧ Plain payload := by
    intro kind texts payload member
    have inTexts := (captured_perm source.readers kind _).mem_iff.mp member
    exact ⟨inTexts, (load_injected_plain env texts payload inTexts).1⟩
  refine List.rel_append (List.rel_append (List.rel_append ?fss ?wisp) ?zones) ?esc
  case fss =>
    refine each_alike _ _ _ fun payload member => ?_
    obtain ⟨held, plain⟩ := loaded _ _ payload member
    exact alike_mono _ _ (fss_sorted source payload plain) fun a b _ _ related kept => related (kept.1 payload held)
  case wisp =>
    refine each_alike _ _ _ fun payload member => ?_
    obtain ⟨held, plain⟩ := loaded _ _ payload member
    exact alike_map _ _ _ _ (wisp_sorted source payload plain) fun a b related kept =>
      congrArg Option.toList (related (kept.2.1 payload held))
  case zones =>
    refine each_alike _ _ _ fun payload member => ?_
    obtain ⟨held, plain⟩ := loaded _ _ payload member
    exact alike_map _ _ _ _ (zone_sorted source payload plain _ _ (indexed_plain source pals indexed)
      (frozen_lookup source pals indexed)) fun a b related kept => congrArg Option.toList (related (kept.2.2 payload held))
  case esc =>
    rw [List.forall₂_map_left_iff, List.forall₂_map_right_iff]
    exact List.forall₂_same.mpr fun sensor _ => alike_mono _ _ (alike_refl same_kind_refl _) fun a b _ _ same _ => same

theorem live_built (loaded : loadPals (jsonFloats env) tables = .ok pals) :
    livePoints env source tables = pointsOf (rowOutcomes env source tables pals) := by
  rw [livePoints, buildProtectionPointsFromDb, loaded]
  exact build_outcomes source _ (liveEntities (jsonFloats env) tables pals)
    (index_built source pals (pals_indexed (jsonFloats env) tables pals loaded))

theorem frozen_built (lawful : (jsonFloats env).Lawful) (exclusions : List ProtectionRecord)
    (loadable : captureExclusionZoneRecordsForFreeze env tables = .ok exclusions)
    (valid : resolveEscConnectivity (jsonFloats env) tables ≠ .invalid) (loaded : loadPals (jsonFloats env) tables = .ok pals) :
    frozenPoints env source tables = pointsOf (frozenOutcomes env source tables pals) := by
  have indexed := pals_indexed (jsonFloats env) tables pals loaded
  have inPals : ∀ pal ∈ capturedPals source.readers pals, pal ∈ pals := by
    intro pal member
    obtain ⟨entry, inNamed, same⟩ := List.mem_map.mp member
    exact same ▸ named_pal source.readers pals entry (List.mem_mergeSort.mp inNamed)
  have sorted : ∀ pal ∈ (capturedPals source.readers pals).map sortKeys, Indexed pal := by
    intro pal member
    obtain ⟨original, inCaptured, same⟩ := List.mem_map.mp member
    exact same ▸ indexed_sorted original (indexed original (inPals original inCaptured))
  have records : captureProtectionRecordsForFreeze env source.readers tables =
      .ok ((capturedRows env source.readers tables pals exclusions).mergeSort recordBefore) := by
    rw [captureProtectionRecordsForFreeze, loaded, loadable]
    rfl
  rw [frozenPoints, records]
  change (assertFrozenEscConnectivity (jsonFloats env) source _).bind _ = _
  rw [state_accepted env source tables lawful pals exclusions loadable valid]
  change buildProtectionPointsFromPayloads source (frozenEntities (jsonFloats env) _) = _
  rw [frozen_entities env source.readers lawful tables pals exclusions
    (fun pal member => ⟨(indexed pal member).plain, (indexed pal member).isDict⟩) loadable]
  exact build_outcomes source _ _ (index_built source _ sorted)

-- Where the PALs cannot be read, neither can build.
theorem unloaded_crash (error : BuildError K) (failed : loadPals (jsonFloats env) tables = .error error) :
    ¬ SamePoints (livePoints env source tables) (frozenPoints env source tables) := by
  have other : error = .other := by
    rw [loadPals] at failed
    split at failed
    · cases failed
      rfl
    · cases failed
  have crash : livePoints env source tables = .error .other := by
    rw [livePoints, buildProtectionPointsFromDb, failed, other]
    rfl
  rw [crash]
  rintro (⟨⟨refusal, refused⟩, _⟩ | ⟨points, _, built, _⟩)
  · cases refused
  · cases built

theorem frozen_points_agree (lawful : (jsonFloats env).Lawful) (exclusions : List ProtectionRecord)
    (loadable : captureExclusionZoneRecordsForFreeze env tables = .ok exclusions)
    (valid : resolveEscConnectivity (jsonFloats env) tables ≠ .invalid) :
    (SamePoints (livePoints env source tables) (frozenPoints env source tables) →
      ∃ pals, loadPals (jsonFloats env) tables = .ok pals ∧ NoCrash (rowOutcomes env source tables pals) ∧
        NoCrash (snapshotOutcomes env source tables pals)) ∧
    ∀ pals, loadPals (jsonFloats env) tables = .ok pals → NoCrash (rowOutcomes env source tables pals) →
      NoCrash (snapshotOutcomes env source tables pals) →
      ((∀ outcome ∈ rowOutcomes env source tables pals, ∃ points, outcome = .ok points) → TextsKept env source tables pals) →
      SamePoints (livePoints env source tables) (frozenPoints env source tables) := by
  constructor
  · intro same
    cases loaded : loadPals (jsonFloats env) tables with
    | error error => exact absurd same (unloaded_crash env source tables error loaded)
    | ok pals =>
        rw [live_built env source tables pals loaded,
          frozen_built env source tables pals lawful exclusions loadable valid loaded] at same
        have alike := snapshot_alike env source tables pals (pals_indexed (jsonFloats env) tables pals loaded)
        exact ⟨pals, rfl, same_no_crash _ _ _ _ alike same⟩
  · intro pals loaded fine otherFine keeps
    rw [live_built env source tables pals loaded, frozen_built env source tables pals lawful exclusions loadable valid loaded]
    have alike := snapshot_alike env source tables pals (pals_indexed (jsonFloats env) tables pals loaded)
    exact no_crash_same _ _ _ _ alike (snapshot_perm env source tables pals) fine otherFine keeps

end Tables

section Sample

def textEnv : FeedEnv Rat := { siteEnv with injection := { siteEnv.injection with settings := Fad.dumpingSettings } }

-- str of an object of numbers.
def objectText : Json Rat → String
  | .object fields =>
      "\x7b" ++ ", ".intercalate (fields.map fun entry => "'" ++ entry.1 ++ "': " ++ match entry.2 with
        | .int value => toString value
        | _ => "") ++ "\x7d"
  | _ => ""

def textSource : PointSource Rat :=
  ⟨{ loads := fun _ => none, floatOfText := fun _ => none, intOfText := fun _ => none, truncate := fun value => value.floor,
     str := objectText }, 3550000000, 3700000000, fun _ => ""⟩

def stationOf (id : Json Rat) : Json Rat :=
  .object [("id", id), ("deploymentParam", .array [.object [
    ("installationParam", .object [("latitude", .int 40), ("longitude", .int (-100))]),
    ("operationParam", .object [("operationFrequencyRange",
      .object [("lowFrequency", .int 3550000000), ("highFrequency", .int 3700000000)])])]])]

def stationPoint (pointId : String) : ProtectionPoint Rat where
  pointId := "fss-cc:" ++ pointId
  latitude := 40
  longitude := -100
  lowHz := 3550000000
  highHz := 3700000000
  thresholdDbm := fssCochannelThresholdDbm
  entityKind := .fssCochannel
  preIapMarginDb := preIapMarginDb
  neighborhoodKm := some neighborhoodFssCochannelKm
  sourceEntityId := some pointId

def stationTables (id : Json Rat) : EntityTables Rat where
  fss := [dumps (jsonFloats textEnv) (stationOf id)]
  wisp := []
  zones := []
  gwbl := []
  pals := []
  plainPals := fun _ member => absurd member List.not_mem_nil
  legacyPals := []
  escSensors := []
  exclusionZones := []
  ntiaEnabled := false
  ntiaZones := []
  escAbsent := []
  escDisconnected := []
  scheduledDpas := []
  activeDpas := []

theorem station_plain (id : Json Rat) (plain : Plain id) : Plain (stationOf id) := by
  simp [stationOf, Plain, PlainFields, PlainItems, plain]

theorem station_loaded (id : Json Rat) (plain : Plain id) :
    loadInjected (jsonFloats textEnv) (stationTables id).fss = [stationOf id] := by
  have read : loadDict (jsonFloats textEnv) (dumps (jsonFloats textEnv) (stationOf id)) = some (stationOf id) := by
    rw [loadDict, read_dumped (jsonFloats textEnv) Fad.pointed_lawful _ (station_plain id plain)]
    rfl
  rw [loadInjected, stationTables, List.filterMap_cons, read]
  rfl

theorem station_at (id : Json Rat) (pointId : String) : fssAt textSource (stationOf id) pointId = .ok [stationPoint pointId] := by
  rfl

theorem points_single (points : List (ProtectionPoint Rat)) (point : ProtectionPoint Rat) (same : points = [point]) :
    pointsOf [.ok points] = .ok [point] := by
  rw [pointsOf, same]
  change Except.ok ([[point]].flatten.mergeSort pointBefore) = _
  rw [List.flatten_singleton, List.mergeSort_singleton]

theorem station_row (id : Json Rat) (plain : Plain id) :
    rowOutcomes textEnv textSource (stationTables id) [] = [.ok [stationPoint (idText textSource id "fss")]] := by
  rw [rowOutcomes, recordOutcomes, liveEntities]
  dsimp only
  rw [station_loaded id plain]
  rfl

theorem station_order (id : Json Rat) : capturedOrder textSource.readers "fss" [stationOf id] = [stationOf id] := by
  rw [capturedOrder, namedPayloads]
  change (List.mergeSort [(_, stationOf id)] idBefore).map _ = _
  rw [List.mergeSort_singleton]
  rfl

theorem station_live (id : Json Rat) (plain : Plain id) :
    livePoints textEnv textSource (stationTables id) = .ok [stationPoint (idText textSource id "fss")] := by
  rw [live_built textEnv textSource (stationTables id) [] rfl, station_row id plain, points_single _ _ rfl]

theorem station_frozen (id : Json Rat) (plain : Plain id) :
    frozenPoints textEnv textSource (stationTables id) = .ok [stationPoint (idText textSource (sortKeys id) "fss")] := by
  have built : protectionPointsFromFssPayload textSource (sortKeys (stationOf id)) =
      .ok [stationPoint (idText textSource (sortKeys id) "fss")] := by
    have stationPlain := station_plain id plain
    have named : (zoneRecord (stationOf id)).field "id" = id := rfl
    have sorted := fss_at_sorted textSource (stationOf id) stationPlain (idText textSource (sortKeys id) "fss")
    rw [station_at] at sorted
    rw [fss_at, zone_record_sorted _ stationPlain, field_sorted _ (zone_record_plain _ stationPlain), named]
    cases found : fssAt textSource (sortKeys (stationOf id)) (idText textSource (sortKeys id) "fss") with
    | error error => rw [found] at sorted; cases sorted
    | ok points =>
        rw [found] at sorted
        cases sorted with
        | ok _ _ same => rw [same]
  have outcomes : frozenOutcomes textEnv textSource (stationTables id) [] =
      [.ok [stationPoint (idText textSource (sortKeys id) "fss")]] := by
    rw [frozenOutcomes, station_loaded id plain, station_order, List.map_singleton, recordOutcomes, List.map_singleton, built]
    have empty : ∀ kind, capturedOrder textSource.readers kind (loadInjected (jsonFloats textEnv) []) = [] := by
      intro kind
      change (List.mergeSort [] idBefore).map _ = _
      rw [List.mergeSort_nil]
      rfl
    change [_] ++ ((capturedOrder textSource.readers "wisp" (loadInjected (jsonFloats textEnv) [])).map sortKeys).map _ ++
      ((capturedOrder textSource.readers "zone" (loadInjected (jsonFloats textEnv) [])).map sortKeys).map _ ++
      (loadSensors (jsonFloats textEnv) (List.mergeSort [] idBefore)).map _ = _
    rw [empty, empty, List.mergeSort_nil]
    rfl
  have connected : resolveEscConnectivity (jsonFloats textEnv) (stationTables id) = .connected := rfl
  rw [frozen_built textEnv textSource (stationTables id) [] Fad.pointed_lawful [] rfl (by rw [connected]; decide) rfl, outcomes,
    points_single _ _ rfl]

theorem frozen_points_agree_station :
    SamePoints (livePoints textEnv textSource (stationTables (.text "site")))
      (frozenPoints textEnv textSource (stationTables (.text "site"))) := by
  have loaded := station_loaded (.text "site") trivial
  have fine := station_row (.text "site") trivial
  have perm := snapshot_perm textEnv textSource (stationTables (.text "site")) []
  rw [fine] at perm
  have snapshot := List.perm_singleton.mp perm
  have connected : resolveEscConnectivity (jsonFloats textEnv) (stationTables (.text "site")) = .connected := rfl
  refine (frozen_points_agree textEnv textSource (stationTables (.text "site")) Fad.pointed_lawful [] rfl
    (by rw [connected]; decide)).2 [] rfl ?_ ?_ fun _ => ⟨?_, ?_, ?_⟩
  · rw [fine, NoCrash]
    simp [fault?]
  · rw [snapshot, NoCrash]
    simp [fault?]
  · rw [loaded]
    intro payload member _ _ _
    rw [List.mem_singleton.mp member]
    rfl
  · exact fun payload member => absurd member List.not_mem_nil
  · exact fun payload member => absurd member List.not_mem_nil

def swappedId : Json Rat := .object [("b", .int 1), ("a", .int 2)]

theorem swapped_sorted : sortKeys swappedId = .object [("a", .int 2), ("b", .int 1)] := by
  simp [swappedId, sortKeys, sortFields, byKey, List.mergeSort]

-- A station whose id is an object with its keys out of order.
theorem station_renamed :
    captureExclusionZoneRecordsForFreeze textEnv (stationTables swappedId) = .ok [] ∧
    resolveEscConnectivity (jsonFloats textEnv) (stationTables swappedId) ≠ .invalid ∧
    ¬ SamePoints (livePoints textEnv textSource (stationTables swappedId))
      (frozenPoints textEnv textSource (stationTables swappedId)) := by
  have plain : Plain swappedId := by simp [swappedId, Plain, PlainFields]
  refine ⟨rfl, by decide +kernel, ?_⟩
  rw [station_live swappedId plain, station_frozen swappedId plain, swapped_sorted]
  rintro (⟨⟨refusal, refused⟩, _⟩ | ⟨points, others, built, otherBuilt, perm⟩)
  · cases refused
  · cases built
    cases otherBuilt
    have same := congrArg ProtectionPoint.pointId (List.singleton_perm_singleton.mp perm)
    revert same
    decide +kernel

end Sample

end SasCore.Iap
