import SasCore.Lib.Collect
import SasCore.Cpas.Generations
import SasCore.Cpas.PipelineRules
import SasCore.Cpas.PeerPopulation
import SasCore.Cpas.Stages
import Mathlib.Data.List.Sort

set_option autoImplicit false
set_option linter.unusedSectionVars false

namespace SasCore.Cpas

open Registry Txn Txn.Prog

variable {K : Type} [Field K] [LinearOrder K]

-- What build_protection_points_from_db reads.
structure PointSources where
  fss : List String
  wisp : List String
  zones : List String
  escSensors : List (String × String)
  pals : List (String × String)
deriving DecidableEq, Repr

def pointSources (tables : ProtectionTables) : PointSources :=
  ⟨tables.fss.map (·.dataJson), tables.wisp.map (·.dataJson), tables.zones.map (·.dataJson), tables.escSensors, tables.pals⟩

-- What the freeze writes down of the rows, the points of one row of each kind, an exception's text where the row is
-- refused, and the order of the sort key.
structure PointBuilders (Point : Type) where
  capture : PointSources → PointSources
  fss : String → Except String (List Point)
  wisp : String → Except String (Option Point)
  zone : (String → Option String) → String → Except String (Option Point)
  escSensor : String → String → Except String (Option Point)
  before : Point → Point → Bool
  before_trans : ∀ first second third, before first second = true → before second third = true → before first third = true
  before_total : ∀ first second, (before first second || before second first) = true

def indexPals (pals : List (String × String)) : List (String × String) :=
  pals.foldl (fun index pal => PyDict.set pal.1 pal.2 index) []

def buildProtectionPointsFromPayloads {Point : Type} (builders : PointBuilders Point) (sources : PointSources) :
    Except String (List Point) := do
  let fss ← sources.fss.mapM builders.fss
  let wisp ← sources.wisp.mapM builders.wisp
  let zones ← sources.zones.mapM (builders.zone (PyDict.lookup (indexPals sources.pals)))
  let sensors ← sources.escSensors.mapM fun sensor => builders.escSensor sensor.1 sensor.2
  pure ((fss.flatten ++ wisp.filterMap id ++ zones.filterMap id ++ sensors.filterMap id).mergeSort builders.before)

def buildProtectionPointsFromDb {Point : Type} (builders : PointBuilders Point) (db : Database K) :
    Except String (List Point) := buildProtectionPointsFromPayloads builders (pointSources db.tables)

theorem built_sorted {Point : Type} (builders : PointBuilders Point) (sources : PointSources) (points : List Point)
    (built : buildProtectionPointsFromPayloads builders sources = .ok points) :
    points.Pairwise fun first second => builders.before first second = true := by
  obtain ⟨fss, _, wispBuilt⟩ := Collect.bind_ok _ _ _ built
  obtain ⟨wisp, _, zonesBuilt⟩ := Collect.bind_ok _ _ _ wispBuilt
  obtain ⟨zones, _, sensorsBuilt⟩ := Collect.bind_ok _ _ _ zonesBuilt
  obtain ⟨sensors, _, sorted⟩ := Collect.bind_ok _ _ _ sensorsBuilt
  rw [← Except.ok.inj sorted]
  exact List.pairwise_mergeSort builders.before_trans builders.before_total _

inductive EscConnectivity where
  | connected | disconnected | absent | invalid | unknown
deriving DecidableEq, Repr

def EscConnectivity.value : EscConnectivity → String
  | .connected => "connected"
  | .disconnected => "disconnected"
  | .absent => "absent"
  | .invalid => "invalid"
  | .unknown => "unknown"

-- The snapshot with the ESC state that is frozen among its protection records.
structure FrozenGeneration (K : Type) where
  snapshot : CpasSnapshot K
  escState : EscConnectivity

-- The peer sensors with the ids they get, as far as their rows read.
def peerEscSensors (readers : PyReaders K) (records : List (Nat × PeerFadRecord)) : List (String × String) :=
  let loaded := records.filterMap fun entry =>
    if entry.2.recordType = "esc_sensor" then (loadRecord readers entry.2.dataJson).map fun data => (data, entry.2.dataJson)
    else none
  loaded.zipIdx.map fun entry =>
    let data := entry.1.1
    let rid := if (data.field "id").truthy then (data.field "id").toText readers else "peer-esc:" ++ toString entry.2
    ("peer:" ++ rid, entry.1.2)

def buildProtectionPointsFromFrozen {Point : Type} (builders : PointBuilders Point) (tables : ProtectionTables)
    (escState : EscConnectivity) (peerEsc : List (String × String)) : Except String (List Point) :=
  if escState = .invalid ∨ escState = .unknown then
    .error ("ESC connectivity state " ++ escState.value ++ " cannot authorize RF")
  else
    match buildProtectionPointsFromPayloads builders (builders.capture (pointSources tables)) with
    | .error message => .error message
    | .ok points =>
        if peerEsc.isEmpty then .ok points
        else
          (peerEsc.mapM fun sensor => builders.escSensor sensor.1 sensor.2).map fun sensors =>
            (points ++ sensors.filterMap id).mergeSort builders.before

-- The points that the evaluation of a frozen generation protects, where IAP is enabled.
def evaluatedPoints {Point : Type} (builders : PointBuilders Point) (readers : PyReaders K) (generation : FrozenGeneration K) :
    Except String (List Point) :=
  buildProtectionPointsFromFrozen builders generation.snapshot.protectionRecords generation.escState
    (peerEscSensors readers generation.snapshot.peerRecords)

-- A CPAS run stands for execute_cpas_pipeline from the freeze on, which finds an ESC state; its syncs are operations
-- before it.
inductive Operation (K : Type) where
  | protection (op : ProtectionOp K)
  | cpas (ctx : CpasContext K) (now : Int) (escState : EscConnectivity)

-- The database of a successful evaluation, with what it froze.
structure Evaluated (K : Type) where
  db : Database K
  generation : FrozenGeneration K

-- The database, and the last successful evaluation.
structure Tracked (K : Type) where
  db : Database K
  evaluated : Option (Evaluated K)

def Tracked.start : Tracked K := ⟨Database.empty, none⟩

def cpasRun (ctx : CpasContext K) (now : Int) (db : Database K) : Session (Database K) × Option CpasError :=
  exec (executeAfterFreeze ctx (freezeCpasSnapshot now db)) (Session.start db)

def operate (tracked : Tracked K) : Operation K → Tracked K
  | .protection op => ⟨op.act tracked.db, tracked.evaluated⟩
  | .cpas ctx now escState =>
      let run := cpasRun ctx now tracked.db
      ⟨run.1.committed, if run.2.isNone then some ⟨tracked.db, freezeCpasSnapshot now tracked.db, escState⟩ else tracked.evaluated⟩

def trackedRun (ops : List (Operation K)) (tracked : Tracked K) : Tracked K := ops.foldl operate tracked

-- Incoherent until the next successful CPAS, whatever else happens.
def stale (db : Database K) : Bool :=
  cpasReevaluationRequired db ||
    match db.admission with
    | none => true
    | some marker => !PyDict.same marker.injectionGenerations db.injectionGenerations

section Coherence

variable {Point : Type} (builders : PointBuilders Point) (readers : PyReaders K)

-- What the freeze finds builds the points that the database builds: the ESC state lets them be built, the captured rows
-- build what the rows themselves do, and no sensor of a peer adds a point.
structure FrozenAsBuilt (db : Database K) (escState : EscConnectivity) : Prop where
  authorizes : escState ≠ .invalid ∧ escState ≠ .unknown
  captured : buildProtectionPointsFromPayloads builders (builders.capture (pointSources db.tables)) =
    buildProtectionPointsFromDb builders db
  unpeered : (∃ message, buildProtectionPointsFromDb builders db = .error message) ∨
    ∀ sensor ∈ peerEscSensors readers (peerRecords db.peers), builders.escSensor sensor.1 sensor.2 = .ok none

-- A PAL injection keeps the built points, and a peer sync brings no changed content under the evaluated
-- generation, unless the marker is stale anyway; a successful CPAS run evaluates what the database builds.
def StepHarmless (tracked : Tracked K) : Operation K → Prop
  | .protection (.pal records) =>
      stale tracked.db = true ∨
        buildProtectionPointsFromDb builders (upsertPalRecords records tracked.db) = buildProtectionPointsFromDb builders tracked.db
  | .protection (.peerSync snapshot) =>
      stale tracked.db = true ∨ ∀ evaluated, tracked.evaluated = some evaluated → NoReuse evaluated.db.peers snapshot
  | .cpas ctx now escState => (cpasRun ctx now tracked.db).2 = none → FrozenAsBuilt builders readers tracked.db escState
  | _ => True

def RunHarmless : Tracked K → List (Operation K) → Prop
  | _, [] => True
  | tracked, op :: rest => StepHarmless builders readers tracked op ∧ RunHarmless (operate tracked op) rest

-- The live points and peer records are those of the evaluation whose fingerprint is stamped.
structure SoundFor (db : Database K) (generation : FrozenGeneration K) : Prop where
  marker : db.admission = some generation.snapshot.authorizationGeneration
  points : buildProtectionPointsFromDb builders db = evaluatedPoints builders readers generation
  peers : ∀ entry, entry ∈ peerRecords db.peers ↔ entry ∈ generation.snapshot.peerRecords

structure Fresh (db evaluated : Database K) : Prop where
  points : buildProtectionPointsFromDb builders db = buildProtectionPointsFromDb builders evaluated
  peers : PeersTraced evaluated.peers db.peers

-- What was evaluated is what its database froze and builds.
structure Faithful (evaluated : Evaluated K) : Prop where
  frozen : ∃ now escState, evaluated.generation = ⟨freezeCpasSnapshot now evaluated.db, escState⟩
  points : evaluatedPoints builders readers evaluated.generation = buildProtectionPointsFromDb builders evaluated.db

structure MarkerKept (tracked : Tracked K) : Prop where
  keys : (tracked.db.peers.map (·.id)).Nodup
  faithful : ∀ evaluated, tracked.evaluated = some evaluated → Faithful builders readers evaluated
  stamped : ∀ marker, tracked.db.admission = some marker → ∃ evaluated, tracked.evaluated = some evaluated ∧
    marker = currentGenerationFingerprint evaluated.db ∧
    CountersGrown evaluated.db.injectionGenerations tracked.db.injectionGenerations ∧
    (stale tracked.db = true ∨ Fresh builders tracked.db evaluated.db)

theorem map_m_none {α β : Type} (build : α → Except String (Option β)) (items : List α)
    (silent : ∀ item ∈ items, build item = .ok none) : items.mapM build = .ok (items.map fun _ => none) := by
  induction items with
  | nil => rfl
  | cons item rest ih =>
      rw [List.mapM_cons, silent item List.mem_cons_self, ih fun other member => silent other (List.mem_cons_of_mem item member)]
      rfl

-- Sensors that give no point leave the list as it is sorted.
theorem frozen_as_built_points (now : Int) (db : Database K) (escState : EscConnectivity)
    (alike : FrozenAsBuilt builders readers db escState) :
    evaluatedPoints builders readers ⟨freezeCpasSnapshot now db, escState⟩ = buildProtectionPointsFromDb builders db := by
  have authorizes : ¬ (escState = .invalid ∨ escState = .unknown) := not_or.mpr alike.authorizes
  have captured : buildProtectionPointsFromPayloads builders (builders.capture
      (pointSources (freezeCpasSnapshot now db).protectionRecords)) = buildProtectionPointsFromDb builders db := alike.captured
  rw [evaluatedPoints, buildProtectionPointsFromFrozen, if_neg authorizes, captured]
  cases built : buildProtectionPointsFromDb builders db with
  | error message => rfl
  | ok points =>
      rcases alike.unpeered with ⟨message, raised⟩ | silent
      · rw [built] at raised
        cases raised
      · have sorted := List.mergeSort_of_pairwise (built_sorted builders _ points built)
        have sensors := map_m_none (fun sensor : String × String => builders.escSensor sensor.1 sensor.2)
          (peerEscSensors readers (freezeCpasSnapshot now db).peerRecords) silent
        simp only
        split
        · rfl
        · rw [sensors]
          simp [Except.map, sorted]

theorem stale_marked (db : Database K) (marked : db.reevaluation.isSome = true) : stale db = true := by
  rw [stale, cpasReevaluationRequired, marked]
  rfl

theorem stale_moved (db : Database K) (marker : Fingerprint) (stamped : db.admission = some marker)
    (moved : PyDict.same marker.injectionGenerations db.injectionGenerations = false) : stale db = true := by
  simp only [stale, stamped, moved, Bool.not_false, Bool.or_true]

theorem stale_congr (db d : Database K) (mark : d.reevaluation = db.reevaluation) (marker : d.admission = db.admission)
    (generations : d.injectionGenerations = db.injectionGenerations) : stale d = stale db := by
  simp only [stale, cpasReevaluationRequired, mark, marker, generations]

theorem stale_kept (before d : Database K) (kept : Kept before d) (old : stale before = true) : stale d = true := by
  simp only [stale, cpasReevaluationRequired, Bool.or_eq_true, kept.admission, kept.generations] at old ⊢
  exact old.imp_left kept.marked

-- The run on its own: what it commits besides the end of the section.
def noRivals : Rivals (Database K) Empty := ⟨fun op => op.elim, fun op => op.elim⟩

theorem no_history (history : List (Entry (Database K) Empty)) : history = [] :=
  List.eq_nil_iff_forall_not_mem.mpr fun entry => entry.op.elim

theorem cpas_effect (ctx : CpasContext K) (now : Int) (db : Database K) :
    match (cpasRun ctx now db).2 with
    | none => ∃ d run, Kept db d ∧ (cpasRun ctx now db).1.committed = finished (freezeCpasSnapshot now db) run d
    | some _ => Kept db (cpasRun ctx now db).1.committed := by
  let J : Nat → Database K → List (Entry (Database K) Empty) → Prop := fun _ d _ => Kept db d
  have carried : ∀ place, Carried noRivals (fun _ => True) J place := fun place =>
    ⟨fun _ _ op => op.elim, fun _ _ _ held keeps => kept_trans _ _ _ held keeps⟩
  have passage : Passage noRivals (fun _ => True) (freezeCpasSnapshot now db) J :=
    ⟨carried 0, carried 1, carried 2, fun _ _ held => held, fun _ _ held _ => held⟩
  have begun : Holding J 0 (World.start db) := ⟨rfl, kept_refl db, kept_refl⟩
  have outcome := pipeline_outcome noRivals (fun _ => True) ctx (freezeCpasSnapshot now db) J passage (World.start db) []
    begun fun _ _ => trivial
  have alone := weave_alone noRivals (executeAfterFreeze ctx (freezeCpasSnapshot now db)) (World.start db) []
    ((no_history _).trans (no_history _).symm)
  rw [alone.2] at outcome
  have ran : (weave noRivals (executeAfterFreeze ctx (freezeCpasSnapshot now db)) (World.start db) []).1.session =
      (cpasRun ctx now db).1 := alone.1
  cases ended : (cpasRun ctx now db).2 with
  | none =>
      rw [show (exec (executeAfterFreeze ctx (freezeCpasSnapshot now db)) (World.start db : World _ Empty).session).2 = none
        from ended] at outcome
      obtain ⟨d, run, held, committed⟩ := outcome
      exact ⟨d, run, held, ran ▸ committed⟩
  | some error =>
      rw [show (exec (executeAfterFreeze ctx (freezeCpasSnapshot now db)) (World.start db : World _ Empty).session).2 =
        some error from ended] at outcome
      obtain ⟨place, held⟩ := outcome
      exact ran ▸ held

-- An operation that neither bumps nor marks, and is harmless, keeps what was evaluated.
theorem untracked_fresh (tracked : Tracked K) (evaluated : Evaluated K) (op : ProtectionOp K)
    (known : tracked.evaluated = some evaluated) (unbumped : op.bumps tracked.db = none) (unmarked : op.marks = false)
    (lively : stale tracked.db = false) (harmless : StepHarmless builders readers tracked (.protection op))
    (fresh : Fresh builders tracked.db evaluated.db) : Fresh builders (op.act tracked.db) evaluated.db := by
  have notStale : ¬ stale tracked.db = true := by
    rw [lively]
    exact Bool.false_ne_true
  cases op with
  | pal records =>
      rcases harmless with old | keeps
      · exact absurd old notStale
      · exact ⟨keeps.trans fresh.points, fresh.peers⟩
  | exclusionZone dataJson => exact ⟨fresh.points, fresh.peers⟩
  | revokePal palId =>
      rw [ProtectionOp.bumps] at unbumped
      have absent : ¬ (tracked.db.tables.pals.any (·.1 = palId)) = true := by
        intro present
        rw [if_pos present] at unbumped
        cases unbumped
      rw [ProtectionOp.act, revokePalRecord, if_neg absent]
      exact fresh
  | peerSas => exact ⟨fresh.points, peers_traced_added _ _ fresh.peers⟩
  | peerSync snapshot =>
      rcases harmless with old | noReuse
      · exact absurd old notStale
      · exact ⟨fresh.points, peers_traced_synced _ _ snapshot fresh.peers (noReuse evaluated known)⟩
  | databaseUrl feed now => cases unmarked
  | _ => cases unbumped

theorem protection_kept (tracked : Tracked K) (op : ProtectionOp K)
    (harmless : StepHarmless builders readers tracked (.protection op)) (kept : MarkerKept builders readers tracked) :
    MarkerKept builders readers (operate tracked (.protection op)) := by
  refine ⟨act_keys op tracked.db kept.keys, kept.faithful, ?_⟩
  intro marker stamped
  have before : tracked.db.admission = some marker := (act_admission op tracked.db).symm.trans stamped
  obtain ⟨evaluated, known, same, grown, current⟩ := kept.stamped marker before
  have generations := act_generations op tracked.db
  refine ⟨evaluated, known, same, ?_, ?_⟩
  · show CountersGrown evaluated.db.injectionGenerations (op.act tracked.db).injectionGenerations
    rw [generations]
    cases op.bumps tracked.db with
    | none => exact grown
    | some kind => exact counters_grown_bumped _ _ kind grown
  · show stale (op.act tracked.db) = true ∨ Fresh builders (op.act tracked.db) evaluated.db
    cases marks : op.marks with
    | true => exact Or.inl (stale_marked _ (act_marked op tracked.db marks))
    | false =>
        cases bumps : op.bumps tracked.db with
        | some kind =>
            rw [bumps] at generations
            have moved : PyDict.same marker.injectionGenerations (op.act tracked.db).injectionGenerations = false := by
              rw [generations, same]
              exact bumped_not_same _ _ kind grown
            exact Or.inl (stale_moved _ marker stamped moved)
        | none =>
            rw [bumps] at generations
            have staleSame := stale_congr tracked.db (op.act tracked.db) (act_unmarked op tracked.db marks)
              (act_admission op tracked.db) generations
            cases lively : stale tracked.db with
            | true => exact Or.inl (staleSame.trans lively)
            | false =>
                rcases current with old | fresh
                · rw [lively] at old
                  cases old
                · exact Or.inr (untracked_fresh builders readers tracked evaluated op known bumps marks lively harmless fresh)

theorem cpas_kept (tracked : Tracked K) (ctx : CpasContext K) (now : Int) (escState : EscConnectivity)
    (harmless : StepHarmless builders readers tracked (.cpas ctx now escState)) (kept : MarkerKept builders readers tracked) :
    MarkerKept builders readers (operate tracked (.cpas ctx now escState)) := by
  have effect := cpas_effect ctx now tracked.db
  cases ended : (cpasRun ctx now tracked.db).2 with
  | none =>
      rw [ended] at effect
      obtain ⟨d, run, same, committed⟩ := effect
      have db : (operate tracked (.cpas ctx now escState)).db = finished (freezeCpasSnapshot now tracked.db) run d := committed
      have evaluated : (operate tracked (.cpas ctx now escState)).evaluated =
          some ⟨tracked.db, freezeCpasSnapshot now tracked.db, escState⟩ := by
        simp only [operate, ended, Option.isNone_none, if_true]
      have keys : (d.peers.map (·.id)).Nodup := by
        rw [same.peers]
        exact kept.keys
      refine ⟨?_, ?_, ?_⟩
      · rw [db]
        exact keys
      · intro last known
        rw [evaluated] at known
        rw [← Option.some.inj known]
        exact ⟨⟨now, escState, rfl⟩, frozen_as_built_points builders readers now tracked.db escState (harmless ended)⟩
      · intro marker stamped
        rw [db] at stamped ⊢
        refine ⟨_, evaluated, (Option.some.inj stamped).symm, ?_, Or.inr ⟨?_, ?_⟩⟩
        · show CountersGrown tracked.db.injectionGenerations d.injectionGenerations
          rw [same.generations]
          exact counters_grown_refl _
        · show buildProtectionPointsFromDb builders d = buildProtectionPointsFromDb builders tracked.db
          rw [buildProtectionPointsFromDb, same.tables]
          rfl
        · show PeersTraced tracked.db.peers d.peers
          rw [same.peers]
          exact peers_traced_refl _ kept.keys
  | some error =>
      rw [ended] at effect
      have same : Kept tracked.db (operate tracked (.cpas ctx now escState)).db := effect
      have evaluated : (operate tracked (.cpas ctx now escState)).evaluated = tracked.evaluated := by
        simp only [operate, ended, Option.isNone_some, Bool.false_eq_true, if_false]
      refine ⟨?_, ?_, ?_⟩
      · rw [same.peers]
        exact kept.keys
      · rw [evaluated]
        exact kept.faithful
      · intro marker stamped
        obtain ⟨before, known, fingerprint, grown, current⟩ := kept.stamped marker (same.admission.symm.trans stamped)
        refine ⟨before, evaluated.trans known, fingerprint, ?_, ?_⟩
        · rw [same.generations]
          exact grown
        · rcases current with old | fresh
          · exact Or.inl (stale_kept _ _ same old)
          · refine Or.inr ⟨?_, ?_⟩
            · rw [buildProtectionPointsFromDb, same.tables]
              exact fresh.points
            · rw [same.peers]
              exact fresh.peers

theorem operate_kept (tracked : Tracked K) (op : Operation K) (harmless : StepHarmless builders readers tracked op)
    (kept : MarkerKept builders readers tracked) : MarkerKept builders readers (operate tracked op) := by
  cases op with
  | protection op => exact protection_kept builders readers tracked op harmless kept
  | cpas ctx now escState => exact cpas_kept builders readers tracked ctx now escState harmless kept

theorem tracked_run_kept (ops : List (Operation K)) (tracked : Tracked K) (harmless : RunHarmless builders readers tracked ops)
    (kept : MarkerKept builders readers tracked) : MarkerKept builders readers (trackedRun ops tracked) := by
  induction ops generalizing tracked with
  | nil => exact kept
  | cons op rest ih =>
      exact ih (operate tracked op) harmless.2 (operate_kept builders readers tracked op harmless.1 kept)

theorem marker_kept_start : MarkerKept builders readers (Tracked.start : Tracked K) :=
  ⟨List.nodup_nil, (fun _ known => by cases known), fun _ stamped => by cases stamped⟩

-- A coherent marker: stamped, not stale, and the live generations of all peers are its own.
theorem coherent_cases (db : Database K) (coherent : coherentGenerationAvailable db = true) :
    ∃ marker, db.admission = some marker ∧ stale db = false ∧
      PyDict.same marker.peerGenerations (peerGenerations db.peers) = true := by
  cases marked : cpasReevaluationRequired db with
  | true =>
      rw [coherentGenerationAvailable, marked] at coherent
      cases coherent
  | false =>
      cases stamped : db.admission with
      | none =>
          rw [coherentGenerationAvailable, marked, stamped] at coherent
          cases coherent
      | some marker =>
          simp only [coherentGenerationAvailable, marked, stamped, Bool.false_eq_true, if_false,
            authorizationGenerationMatches, currentGenerationFingerprint, Bool.and_eq_true] at coherent
          refine ⟨marker, rfl, ?_, coherent.1⟩
          simp only [stale, marked, stamped, coherent.2, Bool.not_true, Bool.or_false]

theorem kept_sound (tracked : Tracked K) (kept : MarkerKept builders readers tracked)
    (coherent : coherentGenerationAvailable tracked.db = true) :
    ∃ evaluated, tracked.evaluated = some evaluated ∧ SoundFor builders readers tracked.db evaluated.generation := by
  obtain ⟨marker, stamped, lively, generations⟩ := coherent_cases tracked.db coherent
  obtain ⟨evaluated, known, same, -, current⟩ := kept.stamped marker stamped
  rcases current with old | fresh
  · rw [lively] at old
    cases old
  · obtain ⟨⟨now, escState, frozen⟩, points⟩ := kept.faithful evaluated known
    refine ⟨evaluated, known, ?_, fresh.points.trans points.symm, ?_⟩
    · rw [frozen]
      exact stamped.trans (congrArg some same)
    · rw [same] at generations
      rw [frozen]
      exact peers_traced_records _ _ fresh.peers generations

theorem coherent_sound (ops : List (Operation K)) (harmless : RunHarmless builders readers Tracked.start ops)
    (coherent : coherentGenerationAvailable (trackedRun ops Tracked.start).db = true) :
    ∃ evaluated, (trackedRun ops Tracked.start).evaluated = some evaluated ∧
      SoundFor builders readers (trackedRun ops Tracked.start).db evaluated.generation :=
  kept_sound builders readers _
    (tracked_run_kept builders readers ops Tracked.start harmless (marker_kept_start builders readers)) coherent

end Coherence

-- A PPA on the license pal/1: its point is known by the frequencies of that license.
def ppaBuilders : PointBuilders String where
  capture := id
  fss := fun _ => .ok []
  wisp := fun _ => .ok none
  zone := fun pals _ => .ok (pals "pal/1")
  escSensor := fun _ _ => .ok none
  before := fun _ _ => true
  before_trans := fun _ _ _ _ _ => rfl
  before_total := fun _ _ => rfl

def stampedOps : List (Operation Rat) :=
  [.protection (.zone "zone/ppa" "ppa"), .protection (.pal [("pal/1", "3550-3560")]), .cpas plainContext 0 .connected]

def movedPalOps : List (Operation Rat) := stampedOps ++ [.protection (.pal [("pal/1", "3560-3570")])]

theorem pal_injection_unseen :
    ¬ ∀ ops : List (Operation Rat), coherentGenerationAvailable (trackedRun ops Tracked.start).db = true →
      ∃ evaluated, (trackedRun ops Tracked.start).evaluated = some evaluated ∧
        SoundFor ppaBuilders peerReaders (trackedRun ops Tracked.start).db evaluated.generation := by
  intro claim
  obtain ⟨evaluated, known, sound⟩ := claim movedPalOps (by decide +kernel)
  have live : buildProtectionPointsFromDb ppaBuilders (trackedRun movedPalOps Tracked.start).db = .ok ["3560-3570"] := by
    decide +kernel
  have read : (trackedRun movedPalOps Tracked.start).evaluated.map (fun last =>
      evaluatedPoints ppaBuilders peerReaders last.generation) = some (.ok ["3550-3560"]) := by decide +kernel
  rw [known, Option.map_some] at read
  have points := live.symm.trans (sound.points.trans (Option.some.inj read))
  exact absurd points (by decide +kernel)

theorem coherent_sound_stamped :
    ∃ evaluated, (trackedRun stampedOps Tracked.start).evaluated = some evaluated ∧
      SoundFor ppaBuilders peerReaders (trackedRun stampedOps Tracked.start).db evaluated.generation :=
  coherent_sound ppaBuilders peerReaders stampedOps
    ⟨trivial, Or.inl (by decide +kernel), fun _ => ⟨by decide, rfl, Or.inr (by decide +kernel)⟩, trivial⟩ (by decide +kernel)

-- A peer's sensor gives the evaluation a point that the database never builds.
def sensorBuilders : PointBuilders String := { ppaBuilders with escSensor := fun recordId _ => .ok (some recordId) }

def peerSensorOps : List (Operation Rat) :=
  [.protection .peerSas, .protection (.peerSync ⟨1, "2024-05-01T00:00:00Z", [⟨"esc_sensor", "", "stored"⟩]⟩),
    .cpas plainContext 0 .connected]

theorem peer_sensor_unseen :
    coherentGenerationAvailable (trackedRun peerSensorOps Tracked.start).db = true ∧
      buildProtectionPointsFromDb sensorBuilders (trackedRun peerSensorOps Tracked.start).db = .ok [] ∧
      (trackedRun peerSensorOps Tracked.start).evaluated.map (fun last =>
        evaluatedPoints sensorBuilders peerReaders last.generation) = some (.ok ["peer:fcc/peer"]) := by
  decide +kernel

end SasCore.Cpas
