import SasCore.Cpas.StageRules

set_option autoImplicit false
set_option linter.unusedSectionVars false

namespace SasCore.Cpas

open Registry Txn Txn.Prog

variable {K O : Type} [Field K] [LinearOrder K]

-- What no write before the bookkeeping touches: the sources of an evaluation, the marker, a mark that is set.
structure Kept (before d : Database K) : Prop where
  tables : d.tables = before.tables
  peers : d.peers = before.peers
  generations : d.injectionGenerations = before.injectionGenerations
  admission : d.admission = before.admission
  marked : before.reevaluation.isSome = true → d.reevaluation.isSome = true

theorem kept_refl (db : Database K) : Kept db db := ⟨rfl, rfl, rfl, rfl, id⟩

theorem kept_trans (first second third : Database K) (one : Kept first second) (two : Kept second third) :
    Kept first third :=
  ⟨two.tables.trans one.tables, two.peers.trans one.peers, two.generations.trans one.generations,
    two.admission.trans one.admission, two.marked ∘ one.marked⟩

theorem kept_drifted (snapshot : CpasSnapshot K) (before d : Database K) (kept : Kept before d) :
    drifted snapshot d = drifted snapshot before := by
  simp only [drifted, currentGenerationFingerprint, kept.peers, kept.generations]

section Pipeline

variable (rivals : Rivals (Database K) O) (rely : Entry (Database K) O → Prop)
variable (ctx : CpasContext K) (snapshot : CpasSnapshot K)
variable (J : Nat → Database K → List (Entry (Database K) O) → Prop)

-- At a place of the pipeline: J of what is committed, and pending writes that touch none of the above.
structure Holding (place : Nat) (world : World (Database K) O) : Prop where
  here : world.place = place
  durable : J place world.session.committed world.history
  pending : ∀ d, Kept d (world.session.pending d)

structure Carried (place : Nat) : Prop where
  lasting : ∀ d history op, J place d history → rely ⟨place, op, d⟩ →
    J place (rivals.act op d) (history ++ [⟨place, op, d⟩])
  kept : ∀ d d' history, J place d history → Kept d d' → J place d' history

def finished (run : CompletedRun) (db : Database K) : Database K :=
  appendCpasAudit (.completed run)
    (recordIapAdmissionGeneration snapshot.authorizationGeneration (clearCpasReevaluationRequired db))

def Outcome (world : World (Database K) O) : Option CpasError → Prop
  | some _ => ∃ place, J place world.session.committed world.history
  | none => ∃ d run, J 2 d world.history ∧ world.session.committed = finished snapshot run d

theorem holding_write (place : Nat) (change : Database K → Database K) (keeps : ∀ d, Kept d (change d))
    (world : World (Database K) O) (holds : Holding J place world) : Holding J place (world.write change) :=
  ⟨holds.here, holds.durable, fun d => kept_trans _ _ _ (holds.pending d) (keeps _)⟩

theorem holding_commit (place : Nat) (carried : Carried rivals rely J place) (world : World (Database K) O)
    (holds : Holding J place world) : Holding J place world.commit :=
  ⟨holds.here, carried.kept _ _ _ holds.durable (holds.pending _), kept_refl⟩

theorem holding_rollback (place : Nat) (world : World (Database K) O) (holds : Holding J place world) :
    Holding J place world.rollback := ⟨holds.here, holds.durable, kept_refl⟩

theorem holding_stable (place : Nat) (carried : Carried rivals rely J place) :
    Stable rivals rely (Holding J place) := by
  rintro ⟨⟨d, pending⟩, locked, here, history⟩ op ⟨rfl, durable, keeps⟩ free relied
  rw [World.enter, if_neg (by rw [free]; exact Bool.false_ne_true)]
  exact ⟨rfl, carried.lasting d history op durable relied, keeps⟩

theorem holding_work (place : Nat) : WorkKeeps ctx (Holding J place) where
  movelists := fun _ => holding_write J place _ fun _ => ⟨rfl, rfl, rfl, rfl, id⟩
  decisions := fun _ => holding_write J place _ fun _ => ⟨rfl, rfl, rfl, rfl, id⟩
  dump := fun _ => holding_write J place _ fun _ => ⟨rfl, rfl, rfl, rfl, id⟩

theorem failure_ends (place : Nat) (carried : Carried rivals rely J place) :
    HandlerEnds rivals rely (recordFailure ctx) (Holding J place) (Outcome snapshot J) := by
  have stable := holding_stable rivals rely J place carried
  intro error
  refine ends_rollback rivals rely (Holding J place) stable _ (holding_rollback J place) ?_
  refine ends_write rivals rely (Holding J place) stable _ _ (holding_write J place _ fun _ => ⟨rfl, rfl, rfl, rfl, id⟩) ?_
  refine ends_commit rivals rely (Holding J place) stable _ (holding_commit rivals rely J place carried) ?_
  exact ends_raise rivals rely error fun world holds => ⟨place, holds.durable⟩

-- The bookkeeping half done: its writes on top of the others.
structure Closing (change : Database K → Database K) (world : World (Database K) O) : Prop where
  here : world.place = 2
  durable : J 2 world.session.committed world.history
  pending : ∃ work, (∀ d, Kept d (work d)) ∧ world.session.pending = change ∘ work

theorem closing_stable (change : Database K → Database K) (carried : Carried rivals rely J 2) :
    Stable rivals rely (Closing J change) := by
  rintro ⟨⟨d, pending⟩, locked, here, history⟩ op ⟨rfl, durable, written⟩ free relied
  rw [World.enter, if_neg (by rw [free]; exact Bool.false_ne_true)]
  exact ⟨rfl, carried.lasting d history op durable relied, written⟩

theorem closing_write (first second : Database K → Database K) (world : World (Database K) O)
    (closing : Closing J first world) : Closing J (second ∘ first) (world.write second) := by
  obtain ⟨here, durable, work, keeps, written⟩ := closing
  refine ⟨here, durable, work, keeps, ?_⟩
  exact congrArg (second ∘ ·) written

theorem bookkeeping_finishes (carried : Carried rivals rely J 2) (result : WorkResult K) :
    Ends rivals rely (Holding J 2) (guarded (recordFailure ctx) (bookkeeping ctx snapshot result))
      (Outcome snapshot J) := by
  have stable : ∀ change, Stable rivals rely (Closing J change) := fun change =>
    closing_stable rivals rely J change carried
  refine ends_write rivals rely (Closing J clearCpasReevaluationRequired) (holding_stable rivals rely J 2 carried) _ _ ?_ ?_
  · intro world holds
    exact ⟨holds.here, holds.durable, world.session.pending, holds.pending, rfl⟩
  refine ends_write rivals rely _ (stable _) _ _ (closing_write J _ _) ?_
  refine ends_write rivals rely _ (stable _) _ _ (closing_write J _ _) ?_
  refine ends_commit rivals rely (fun world => Outcome snapshot J world none) (stable _) _ ?_ ?_
  · rintro world ⟨here, durable, work, keeps, written⟩
    refine ⟨work world.session.committed, completedRun ctx snapshot result, ?_, ?_⟩
    · exact carried.kept _ _ _ durable (keeps _)
    · exact congrFun written world.session.committed
  · exact ends_done rivals rely fun world holds => holds

theorem checked_ends (carried : Carried rivals rely J 2) :
    Ends rivals rely (Holding J 2)
      (guarded (recordFailure ctx) (checkedWork ctx snapshot fun result =>
        markScheduledSuccessIfApplicable ctx (ctx.clock 1) (bookkeeping ctx snapshot result))) (Outcome snapshot J) := by
  have stable := holding_stable rivals rely J 2 carried
  have fails := failure_ends rivals rely ctx snapshot J 2 carried
  apply ends_checked_work rivals rely ctx snapshot _ _ _ stable fails (holding_work ctx J 2)
  intro result
  have finishes := bookkeeping_finishes rivals rely ctx snapshot J carried result
  apply ends_schedule rivals rely ctx _ _ _ stable fails (ctx.clock 1) _ (Holding J 2) stable
  · exact fun time => holding_write J 2 _ fun _ => ⟨rfl, rfl, rfl, rfl, id⟩
  · exact holding_commit rivals rely J 2 carried
  · exact fun date => holding_write J 2 _ fun _ => ⟨rfl, rfl, rfl, rfl, id⟩
  · exact holding_commit rivals rely J 2 carried
  · exact finishes
  · exact finishes

-- The pipeline under interference: J carried through the preview, the entry of the section and the drift check.
structure Passage : Prop where
  preview : Carried rivals rely J 0
  entered : Carried rivals rely J 1
  checked : Carried rivals rely J 2
  enter : ∀ d history, J 0 d history → J 1 d history
  check : ∀ d history, J 1 d history → drifted snapshot d = false → J 2 d history

theorem section_outcome (passage : Passage rivals rely snapshot J) :
    Ends rivals rely (Holding J 0) (guarded (recordFailure ctx) (runPipelineCriticalSection ctx snapshot))
      (Outcome snapshot J) := by
  have stable := holding_stable rivals rely J 1 passage.entered
  refine ends_note rivals rely (Holding J 1) 1 _ ?_ ?_
  · exact fun world holds => ⟨rfl, passage.enter _ _ holds.durable, holds.pending⟩
  refine ends_lock rivals rely (Holding J 1) stable _ (fun world holds => ⟨holds.here, holds.durable, holds.pending⟩) ?_
  refine ends_read rivals rely stable _ fun seen => ?_
  cases drift : drifted snapshot seen with
  | false =>
      simp only [drift, Bool.not_false, if_true]
      refine ends_note rivals rely (Holding J 2) 2 _ ?_ (checked_ends rivals rely ctx snapshot J passage.checked)
      rintro world ⟨holds, viewed⟩
      have same : drifted snapshot world.session.committed = false := by
        rw [← kept_drifted snapshot _ _ (holds.pending world.session.committed), ← drift, ← viewed]
        rfl
      exact ⟨rfl, passage.check _ _ holds.durable same, holds.pending⟩
  | true =>
      simp only [drift, Bool.not_true, Bool.false_eq_true, if_false]
      refine ends_mono rivals rely (Holding J 1) _ _ (fun _ both => both.1) (fun _ _ post => post) ?_
      refine ends_write rivals rely (Holding J 1) stable _ _ (holding_write J 1 _ fun _ => ⟨rfl, rfl, rfl, rfl, fun _ => rfl⟩)
        ?_
      refine ends_commit rivals rely (Holding J 1) stable _ (holding_commit rivals rely J 1 passage.entered) ?_
      exact failure_ends rivals rely ctx snapshot J 1 passage.entered .generationDrift

theorem pipeline_outcome (passage : Passage rivals rely snapshot J) :
    Ends rivals rely (Holding J 0) (executeAfterFreeze ctx snapshot) (Outcome snapshot J) := by
  have stable := holding_stable rivals rely J 0 passage.preview
  have fails := failure_ends rivals rely ctx snapshot J 0 passage.preview
  apply ends_evaluate rivals rely ctx snapshot _ _ _ stable fails (holding_work ctx J 0)
  exact fun _ => section_outcome rivals rely ctx snapshot J passage

end Pipeline

end SasCore.Cpas
