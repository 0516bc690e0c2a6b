import SasCore.Cpas.Generations
import SasCore.Cpas.PipelineRules
import SasCore.Cpas.Stages

set_option autoImplicit false
set_option linter.unusedSectionVars false

namespace SasCore.Cpas

open Registry Txn Txn.Prog

variable {K : Type} [Field K] [LinearOrder K]

abbrev History (K : Type) := List (Entry (Database K) (ProtectionOp K))

def otherSessions : Rivals (Database K) (ProtectionOp K) := ⟨ProtectionOp.act, ProtectionOp.waits⟩

-- One pipeline from its freeze on, among the commits of other sessions.
def pipelineRun (ctx : CpasContext K) (now : Int) (db : Database K) (schedule : List (List (ProtectionOp K))) :
    World (Database K) (ProtectionOp K) × Option CpasError :=
  weave otherSessions (executeAfterFreeze ctx (freezeCpasSnapshot now db)) (World.start db) schedule

-- The protection records and the peer records that a snapshot holds.
structure SameSources (first second : Database K) : Prop where
  tables : first.tables = second.tables
  peers : ∀ entry, entry ∈ peerRecords first.peers ↔ entry ∈ peerRecords second.peers

def Bumping (entry : Entry (Database K) (ProtectionOp K)) : Prop := entry.op.bumps entry.found ≠ none

-- It changes no source and sets no mark.
structure Quiet (entry : Entry (Database K) (ProtectionOp K)) : Prop where
  sources : SameSources (entry.op.act entry.found) entry.found
  unmarked : entry.op.marks = false

section Interference

variable (frozen : Database K)

-- The same, where a peer sync may bring anything but changed content under a frozen generation.
structure Traceable (entry : Entry (Database K) (ProtectionOp K)) : Prop where
  tables : (entry.op.act entry.found).tables = entry.found.tables
  unmarked : entry.op.marks = false
  peers : ∀ snapshot, entry.op = .peerSync snapshot → NoReuse frozen.peers snapshot

-- What may come in: before the drift check a bump shows whatever else came in, after it nothing may.
structure Admissible (history : History K) : Prop where
  early : (∃ entry ∈ history, entry.place ≤ 1 ∧ Bumping entry) ∨
    ∀ entry ∈ history, entry.place ≤ 1 → Traceable frozen entry
  late : ∀ entry ∈ history, 2 ≤ entry.place → Quiet entry

-- The law: sources that changed are refused, and no mark is lost.
structure NothingLost (world : World (Database K) (ProtectionOp K)) (outcome : Option CpasError) : Prop where
  applied : outcome = none → SameSources world.session.committed frozen
  marks : (∃ entry ∈ world.history, entry.op.marks = true) → world.session.committed.reevaluation.isSome = true

def MarksKept (d : Database K) (history : History K) : Prop :=
  (∃ entry ∈ history, entry.op.marks = true) → d.reevaluation.isSome = true

-- As long as the injection generations are the frozen ones, no bump came in, and traceable entries are traced.
structure Unbumped (d : Database K) (history : History K) : Prop where
  bumps : ∀ entry ∈ history, ¬ Bumping entry
  generations : d.injectionGenerations = frozen.injectionGenerations
  sources : (∀ entry ∈ history, Traceable frozen entry) →
    d.tables = frozen.tables ∧ PeersTraced frozen.peers d.peers ∧ ∀ entry ∈ history, entry.op.marks = false

structure Early (d : Database K) (history : History K) : Prop where
  keys : (d.peers.map (·.id)).Nodup
  places : ∀ entry ∈ history, entry.place ≤ 1
  grown : CountersGrown frozen.injectionGenerations d.injectionGenerations
  marks : MarksKept d history
  current : PyDict.same frozen.injectionGenerations d.injectionGenerations = false ∨ Unbumped frozen d history

structure Late (d : Database K) (history : History K) : Prop where
  marks : MarksKept d history
  bumps : ∀ entry ∈ history, entry.place ≤ 1 → ¬ Bumping entry
  sources : (∀ entry ∈ history, entry.place ≤ 1 → Traceable frozen entry) →
    SameSources d frozen ∧ ∀ entry ∈ history, entry.op.marks = false

def Watched : Nat → Database K → History K → Prop
  | 0 => Early frozen
  | 1 => Early frozen
  | _ => Late frozen

def lateQuiet (entry : Entry (Database K) (ProtectionOp K)) : Prop := 2 ≤ entry.place → Quiet entry

theorem same_sources_trans (first second third : Database K) (one : SameSources first second)
    (two : SameSources second third) : SameSources first third :=
  ⟨one.tables.trans two.tables, fun entry => (one.peers entry).trans (two.peers entry)⟩

theorem kept_sources (before d : Database K) (kept : Kept before d) : SameSources d before :=
  ⟨kept.tables, fun entry => by rw [kept.peers]⟩

theorem marks_entered (d : Database K) (history : History K) (entry : Entry (Database K) (ProtectionOp K))
    (kept : MarksKept d history) : MarksKept (entry.op.act d) (history ++ [entry]) := by
  rintro ⟨other, member, marking⟩
  rcases List.mem_append.mp member with earlier | last
  · exact act_keeps_mark entry.op d (kept ⟨other, earlier, marking⟩)
  · rw [List.mem_singleton.mp last] at marking
    exact act_marked entry.op d marking

theorem marks_kept (before d : Database K) (history : History K) (kept : Kept before d) (marks : MarksKept before history) :
    MarksKept d history := fun marking => kept.marked (marks marking)

-- A traceable operation keeps the trace of every peer.
theorem traceable_peers (entry : Entry (Database K) (ProtectionOp K)) (traceable : Traceable frozen entry)
    (traced : PeersTraced frozen.peers entry.found.peers) : PeersTraced frozen.peers (entry.op.act entry.found).peers := by
  rw [act_peers]
  cases same : entry.op with
  | peerSas => exact peers_traced_added _ _ traced
  | peerSync snapshot => exact peers_traced_synced _ _ snapshot traced (traceable.peers snapshot same)
  | _ => exact traced

theorem early_entered (d : Database K) (history : History K) (place : Nat) (op : ProtectionOp K) (early : place ≤ 1)
    (holds : Early frozen d history) : Early frozen (op.act d) (history ++ [⟨place, op, d⟩]) := by
  have generations := act_generations op d
  refine ⟨act_keys op d holds.keys, ?_, ?_, marks_entered d history ⟨place, op, d⟩ holds.marks, ?_⟩
  · intro entry member
    rcases List.mem_append.mp member with earlier | last
    · exact holds.places entry earlier
    · rw [List.mem_singleton.mp last]
      exact early
  · rw [generations]
    cases op.bumps d with
    | none => exact holds.grown
    | some kind => exact counters_grown_bumped _ _ kind holds.grown
  · cases bumps : op.bumps d with
    | some kind =>
        rw [bumps] at generations
        apply Or.inl
        rw [generations]
        exact bumped_not_same _ _ kind holds.grown
    | none =>
        rw [bumps] at generations
        rcases holds.current with advanced | unbumped
        · apply Or.inl
          rw [generations]
          exact advanced
        · refine Or.inr ⟨?_, generations.trans unbumped.generations, ?_⟩
          · intro entry member
            rcases List.mem_append.mp member with earlier | last
            · exact unbumped.bumps entry earlier
            · rw [List.mem_singleton.mp last]
              exact fun bumping => bumping bumps
          · intro traceable
            obtain ⟨tables, traced, unmarked⟩ := unbumped.sources fun entry member =>
              traceable entry (List.mem_append_left _ member)
            have own := traceable ⟨place, op, d⟩ (List.mem_append_right _ (List.mem_singleton_self _))
            refine ⟨own.tables.trans tables, traceable_peers frozen ⟨place, op, d⟩ own traced, ?_⟩
            intro entry member
            rcases List.mem_append.mp member with earlier | last
            · exact unmarked entry earlier
            · rw [List.mem_singleton.mp last]
              exact own.unmarked

theorem early_kept (before d : Database K) (history : History K) (holds : Early frozen before history)
    (kept : Kept before d) : Early frozen d history := by
  refine ⟨?_, holds.places, ?_, marks_kept before d history kept holds.marks, ?_⟩
  · rw [kept.peers]
    exact holds.keys
  · rw [kept.generations]
    exact holds.grown
  · rw [kept.generations]
    rcases holds.current with advanced | unbumped
    · exact Or.inl advanced
    · refine Or.inr ⟨unbumped.bumps, kept.generations.trans unbumped.generations, ?_⟩
      rw [kept.tables, kept.peers]
      exact unbumped.sources

theorem late_entered (d : Database K) (history : History K) (op : ProtectionOp K)
    (quiet : Quiet (⟨2, op, d⟩ : Entry (Database K) (ProtectionOp K))) (holds : Late frozen d history) :
    Late frozen (op.act d) (history ++ [⟨2, op, d⟩]) := by
  refine ⟨marks_entered d history ⟨2, op, d⟩ holds.marks, ?_, ?_⟩
  · intro entry member early
    rcases List.mem_append.mp member with earlier | last
    · exact holds.bumps entry earlier early
    · rw [List.mem_singleton.mp last] at early
      have small : 2 ≤ 1 := early
      omega
  · intro traceable
    obtain ⟨same, unmarked⟩ := holds.sources fun entry member => traceable entry (List.mem_append_left _ member)
    refine ⟨same_sources_trans _ _ _ quiet.sources same, ?_⟩
    intro entry member
    rcases List.mem_append.mp member with earlier | last
    · exact unmarked entry earlier
    · rw [List.mem_singleton.mp last]
      exact quiet.unmarked

theorem late_kept (before d : Database K) (history : History K) (holds : Late frozen before history)
    (kept : Kept before d) : Late frozen d history := by
  refine ⟨marks_kept before d history kept holds.marks, holds.bumps, ?_⟩
  intro traceable
  obtain ⟨same, unmarked⟩ := holds.sources traceable
  exact ⟨same_sources_trans _ _ _ (kept_sources before d kept) same, unmarked⟩

-- A drift check that passes: no injection generation moved, and all peers are at their frozen generation.
theorem early_checked (now : Int) (d : Database K) (history : History K) (holds : Early frozen d history)
    (passed : drifted (freezeCpasSnapshot now frozen) d = false) : Late frozen d history := by
  have matching : authorizationGenerationMatches (currentGenerationFingerprint frozen) (currentGenerationFingerprint d) =
      true := by
    rw [drifted, Bool.not_eq_false'] at passed
    exact passed
  rw [authorizationGenerationMatches, Bool.and_eq_true] at matching
  rcases holds.current with advanced | unbumped
  · exact absurd matching.2 (by rw [currentGenerationFingerprint, currentGenerationFingerprint, advanced]; exact Bool.false_ne_true)
  · refine ⟨holds.marks, fun entry member _ => unbumped.bumps entry member, ?_⟩
    intro traceable
    obtain ⟨tables, traced, unmarked⟩ := unbumped.sources fun entry member =>
      traceable entry member (holds.places entry member)
    exact ⟨⟨tables, peers_traced_records _ _ traced matching.1⟩, unmarked⟩

theorem watched_passage (now : Int) :
    Passage otherSessions lateQuiet (freezeCpasSnapshot now frozen) (Watched frozen) where
  preview := ⟨fun d history op holds _ => early_entered frozen d history 0 op (Nat.zero_le 1) holds,
    fun before d history holds kept => early_kept frozen before d history holds kept⟩
  entered := ⟨fun d history op holds _ => early_entered frozen d history 1 op (Nat.le_refl 1) holds,
    fun before d history holds kept => early_kept frozen before d history holds kept⟩
  checked := ⟨fun d history op holds quiet => late_entered frozen d history op (quiet (Nat.le_refl 2)) holds,
    fun before d history holds kept => late_kept frozen before d history holds kept⟩
  enter := fun _ _ holds => holds
  check := fun d history holds passed => early_checked frozen now d history holds passed

theorem watched_marks (place : Nat) (d : Database K) (history : History K) (holds : Watched frozen place d history) :
    MarksKept d history := by
  match place, holds with
  | 0, early => exact early.marks
  | 1, early => exact early.marks
  | _ + 2, late => exact late.marks

theorem nothing_lost (ctx : CpasContext K) (now : Int) (keys : (frozen.peers.map (·.id)).Nodup)
    (schedule : List (List (ProtectionOp K)))
    (admissible : Admissible frozen (pipelineRun ctx now frozen schedule).1.history) :
    NothingLost frozen (pipelineRun ctx now frozen schedule).1 (pipelineRun ctx now frozen schedule).2 := by
  have begun : Holding (Watched frozen) 0 (World.start frozen) := by
    refine ⟨rfl, ⟨keys, ?_, counters_grown_refl _, ?_, Or.inr ⟨?_, rfl, ?_⟩⟩, kept_refl⟩
    · exact fun entry member => absurd member List.not_mem_nil
    · rintro ⟨entry, member, -⟩
      exact absurd member List.not_mem_nil
    · exact fun entry member => absurd member List.not_mem_nil
    · exact fun _ => ⟨rfl, peers_traced_refl _ keys, fun entry member => absurd member List.not_mem_nil⟩
  have outcome := pipeline_outcome otherSessions lateQuiet ctx (freezeCpasSnapshot now frozen) (Watched frozen)
    (watched_passage frozen now) (World.start frozen) schedule begun admissible.late
  change Outcome _ _ (pipelineRun ctx now frozen schedule).1 (pipelineRun ctx now frozen schedule).2 at outcome
  cases ended : (pipelineRun ctx now frozen schedule).2 with
  | some error =>
      rw [ended] at outcome
      obtain ⟨place, holds⟩ := outcome
      exact ⟨fun none => (by cases none), watched_marks frozen place _ _ holds⟩
  | none =>
      rw [ended] at outcome
      obtain ⟨d, run, late, committed⟩ := outcome
      have traceable : ∀ entry ∈ (pipelineRun ctx now frozen schedule).1.history, entry.place ≤ 1 →
          Traceable frozen entry := by
        rcases admissible.early with ⟨entry, member, early, bumping⟩ | traceable
        · exact absurd bumping (late.bumps entry member early)
        · exact traceable
      obtain ⟨same, unmarked⟩ := late.sources traceable
      constructor
      · intro _
        rw [committed]
        exact ⟨same.tables, same.peers⟩
      · rintro ⟨entry, member, marking⟩
        rw [unmarked entry member] at marking
        cases marking

end Interference

-- A federal FSS feed is synced by another session between the freeze and the drift check.
def fssSynced : List (List (ProtectionOp Rat)) := [[.databaseUrl (.fss [(some "fss/1", "site")]) 0]]

theorem fss_sync_lost :
    ¬ ∀ schedule : List (List (ProtectionOp Rat)), NothingLost Database.empty
        (pipelineRun plainContext 0 Database.empty schedule).1 (pipelineRun plainContext 0 Database.empty schedule).2 := by
  intro claim
  have applied : (pipelineRun plainContext 0 Database.empty fssSynced).2 = none := by decide +kernel
  have tables := ((claim fssSynced).applied applied).tables
  exact absurd tables (by decide +kernel)

-- The same feed together with a zone injection, whose bump the drift check sees.
def zoneAndFssSynced : List (List (ProtectionOp Rat)) :=
  [[.databaseUrl (.fss [(some "fss/1", "site")]) 0, .zone "zone/1" "zone"]]

theorem nothing_lost_bumped : NothingLost Database.empty (pipelineRun plainContext 0 Database.empty zoneAndFssSynced).1
    (pipelineRun plainContext 0 Database.empty zoneAndFssSynced).2 := by
  have places : (pipelineRun plainContext 0 Database.empty zoneAndFssSynced).1.history.map (·.place) = [1, 1] := by
    decide +kernel
  have bumps : (pipelineRun plainContext 0 Database.empty zoneAndFssSynced).1.history.map (fun entry =>
      entry.op.bumps entry.found) = [none, some .zone] := by decide +kernel
  have early : ∀ entry ∈ (pipelineRun plainContext 0 Database.empty zoneAndFssSynced).1.history, entry.place = 1 := by
    intro entry member
    have place : entry.place ∈ (pipelineRun plainContext 0 Database.empty zoneAndFssSynced).1.history.map (·.place) :=
      List.mem_map_of_mem member
    rw [places] at place
    simpa using place
  apply nothing_lost Database.empty plainContext 0 List.nodup_nil zoneAndFssSynced
  constructor
  · have bumped : some InjectionKind.zone ∈ (pipelineRun plainContext 0 Database.empty zoneAndFssSynced).1.history.map
        (fun entry => entry.op.bumps entry.found) := by
      rw [bumps]
      exact List.mem_cons_of_mem _ (List.mem_singleton_self _)
    obtain ⟨entry, member, zone⟩ := List.mem_map.mp bumped
    refine Or.inl ⟨entry, member, ?_, ?_⟩
    · rw [early entry member]
    · rw [Bumping, zone]
      exact Option.some_ne_none _
  · intro entry member late
    rw [early entry member] at late
    exact absurd late (by decide)

end SasCore.Cpas
