import SasCore.Cpas.Pipeline

set_option autoImplicit false
set_option linter.unusedSectionVars false

namespace SasCore.Cpas

open Registry Txn Txn.Prog

variable {K : Type} [Field K] [LinearOrder K]

def completedRuns (db : Database K) : List CompletedRun :=
  db.cpasAudit.filterMap fun row =>
    match row with
    | .completed run => some run
    | .failed _ _ => none

-- What the work before the bookkeeping leaves alone, and the one dump it adds.
structure WorkDone (before d : Database K) : Prop where
  enabled : d.scheduleEnabled = before.scheduleEnabled
  reevaluation : d.reevaluation = before.reevaluation
  completed : completedRuns d = completedRuns before
  dumps : d.dumps.length = before.dumps.length + 1

structure OnlyMovelists (before d : Database K) : Prop where
  same : d = { before with activations := d.activations }

theorem only_movelists_refl (db : Database K) : OnlyMovelists db db := ⟨rfl⟩

section Work

variable (ctx : CpasContext K) (snapshot : CpasSnapshot K)

theorem evaluate_cases (session : Session (Database K)) :
    (∃ error, Stops (evaluateCpasProtections ctx snapshot) session error session) ∨
      ∃ decisions reached, Leads (evaluateCpasProtections ctx snapshot) session decisions reached ∧
        reached.committed = session.committed ∧ OnlyMovelists session.view reached.view := by
  have same := only_movelists_refl session.view
  by_cases nothing : (snapshot.activeGrantPks.isEmpty && snapshot.localGrants.isEmpty) = true
  · refine Or.inr ⟨[], session, fun next => ?_, rfl, same⟩
    rw [evaluateCpasProtections, if_pos nothing]
    exact ⟨rfl, rfl⟩
  · cases early : earlyDecisions ctx snapshot session.view with
    | error error =>
        refine Or.inl ⟨error, fun next => ?_⟩
        simp only [evaluateCpasProtections, if_neg nothing, published, exec, early, and_self]
    | ok decided =>
        by_cases resolved : (decided.allResolved ||
            ((frozenDpaGrants decided).isEmpty && (ctx.stages.peerDpaGrants snapshot).isEmpty)) = true
        · refine Or.inr ⟨mergeConstraintDecisions decided.peer decided.iap [], session, fun next => ?_, rfl, same⟩
          simp only [evaluateCpasProtections, if_neg nothing, published, exec, early, if_pos resolved, and_self]
        · cases fault : ctx.stages.dpaFault session.view (frozenDpaGrants decided ++ ctx.stages.peerDpaGrants snapshot) with
          | some error =>
              refine Or.inl ⟨error, fun next => ?_⟩
              simp only [evaluateCpasProtections, if_neg nothing, published, exec, early, if_neg resolved, fault, and_self]
          | none =>
              let written := session.write (writeMovelists ctx (refreshedMovelists ctx session.view
                (frozenDpaGrants decided ++ ctx.stages.peerDpaGrants snapshot)))
              refine Or.inr ⟨mergeWithMovelists decided written.view, written, fun next => ?_, rfl, ⟨rfl⟩⟩
              simp only [evaluateCpasProtections, if_neg nothing, published, exec, early, if_neg resolved, fault, written,
                and_self]

theorem apply_cases (decisions : List (CpasDecision K)) (session : Session (Database K)) :
    (∃ error left, Stops (applyDecisions ctx decisions) session error left ∧ left.committed = session.committed) ∨
      ∃ terminated, Leads (applyDecisions ctx decisions) session terminated (session.write (writeDecisions ctx decisions)) := by
  cases fault : if (applyCpasDecisions ctx.clock decisions 0 session.view.store).2 = 0 then none
      else ctx.flushFault (applyCpasDecisions ctx.clock decisions 0 session.view.store).1 with
  | some error =>
      refine Or.inl ⟨error, session.write (writeDecisions ctx decisions), fun next => ?_, rfl⟩
      simp only [applyDecisions, published, exec, fault, Session.write, and_self]
  | none =>
      refine Or.inr ⟨(applyCpasDecisions ctx.clock decisions 0 session.view.store).2, fun next => ?_⟩
      simp only [applyDecisions, published, exec, fault, and_self]

theorem dump_cases (session : Session (Database K)) :
    (∃ error, Stops (createFullActivityDump ctx) session error session) ∨
      ∃ payload dumpId, Leads (createFullActivityDump ctx) session dumpId (session.write (publishSnapshot payload)) := by
  cases built : ctx.buildPayload session.view with
  | error error =>
      refine Or.inl ⟨error, fun next => ?_⟩
      simp only [createFullActivityDump, published, exec, built, and_self]
  | ok payload =>
      refine Or.inr ⟨payload, session.view.nextDumpId, fun next => ?_⟩
      simp only [createFullActivityDump, published, exec, built, and_self]

theorem checked_work_cases (session : Session (Database K)) :
    (∃ error left, Stops (checkedWork ctx snapshot) session error left ∧ left.committed = session.committed) ∨
      ∃ result reached, Leads (checkedWork ctx snapshot) session result reached ∧
        reached.committed = session.committed ∧ WorkDone session.view reached.view := by
  rcases evaluate_cases ctx snapshot session with ⟨error, stops⟩ | ⟨decisions, evaluated, leads, same, movelists⟩
  · exact Or.inl ⟨error, session, fun next => stops _, rfl⟩
  · rcases apply_cases ctx decisions evaluated with ⟨error, left, stops, keeps⟩ | ⟨terminated, applied⟩
    · refine Or.inl ⟨error, left, fun next => ?_, keeps.trans same⟩
      rw [checkedWork, (leads _).1, (leads _).2, (stops _).1, (stops _).2, same]
      exact ⟨rfl, rfl⟩
    · rcases dump_cases ctx (evaluated.write (writeDecisions ctx decisions)) with
        ⟨error, stops⟩ | ⟨payload, dumpId, dumped⟩
      · refine Or.inl ⟨error, evaluated.write (writeDecisions ctx decisions), fun next => ?_, same⟩
        rw [checkedWork, (leads _).1, (leads _).2, (applied _).1, (applied _).2, (stops _).1, (stops _).2]
        exact ⟨congrArg (fun d => [d]) same, rfl⟩
      · refine Or.inr ⟨⟨decisions, terminated, dumpId⟩,
          (evaluated.write (writeDecisions ctx decisions)).write (publishSnapshot payload), fun next => ?_, same, ?_⟩
        · rw [checkedWork, (leads _).1, (leads _).2, (applied _).1, (applied _).2, (dumped _).1, (dumped _).2]
          exact ⟨rfl, rfl⟩
        · have view := movelists.same
          have enabled : evaluated.view.scheduleEnabled = session.view.scheduleEnabled := congrArg (·.scheduleEnabled) view
          have mark : evaluated.view.reevaluation = session.view.reevaluation := congrArg (·.reevaluation) view
          have runs : completedRuns evaluated.view = completedRuns session.view := by
            rw [view]
            rfl
          have dumps : evaluated.view.dumps = session.view.dumps := congrArg (·.dumps) view
          refine ⟨enabled, mark, runs, ?_⟩
          rw [← dumps]
          exact (List.length_append).trans (congrArg (· + 1) (List.length_map _))

theorem local_now_inside (config : ScheduleConfig) (now : Int) (inside : isWithinCpasWindow config now = .ok true) :
    ∃ time, localNow config now = .ok time := by
  cases read : localNow config now with
  | error error =>
      rw [isWithinCpasWindow, read] at inside
      cases inside
  | ok time => exact ⟨time, rfl⟩

-- The session after the two commits of the schedule bookkeeping.
def scheduled (time : LocalTime) (now : Int) (session : Session (Database K)) : Session (Database K) :=
  ((session.write (saveMeta time now)).commit.write (appendScheduleAudit "cpas_end_ok" time.date)).commit

-- The schedule bookkeeping raises, leaves everything as it is, or commits twice.
inductive ScheduleOutcome (now : Int) (next : Prog (Database K) CpasError) (session : Session (Database K)) : Prop where
  | raises (error : CpasError) (faulty : isWithinCpasWindow ctx.schedule now = .error error)
      (states : published (markScheduledSuccessIfApplicable ctx now next) session = [session.committed])
      (ends : exec (markScheduledSuccessIfApplicable ctx now next) session = (session, some error))
  | skips (outside : session.view.scheduleEnabled = false ∨ isWithinCpasWindow ctx.schedule now = .ok false)
      (states : published (markScheduledSuccessIfApplicable ctx now next) session = published next session)
      (ends : exec (markScheduledSuccessIfApplicable ctx now next) session = exec next session)
  | commits (time : LocalTime) (enabled : session.view.scheduleEnabled = true)
      (inside : isWithinCpasWindow ctx.schedule now = .ok true)
      (states : published (markScheduledSuccessIfApplicable ctx now next) session =
        session.committed :: saveMeta time now session.view :: published next (scheduled time now session))
      (ends : exec (markScheduledSuccessIfApplicable ctx now next) session = exec next (scheduled time now session))

theorem schedule_cases (now : Int) (next : Prog (Database K) CpasError) (session : Session (Database K)) :
    ScheduleOutcome ctx now next session := by
  cases enabled : session.view.scheduleEnabled with
  | false =>
      apply ScheduleOutcome.skips (Or.inl enabled)
      · simp only [markScheduledSuccessIfApplicable, published, enabled, Bool.false_eq_true, if_false]
      · simp only [markScheduledSuccessIfApplicable, exec, enabled, Bool.false_eq_true, if_false]
  | true =>
      cases inside : isWithinCpasWindow ctx.schedule now with
      | error error =>
          apply ScheduleOutcome.raises error inside
          · simp only [markScheduledSuccessIfApplicable, published, enabled, inside, if_true]
          · simp only [markScheduledSuccessIfApplicable, exec, enabled, inside, if_true]
      | ok within =>
          cases within with
          | false =>
              apply ScheduleOutcome.skips (Or.inr inside)
              · simp only [markScheduledSuccessIfApplicable, published, enabled, inside, if_true]
              · simp only [markScheduledSuccessIfApplicable, exec, enabled, inside, if_true]
          | true =>
              obtain ⟨time, read⟩ := local_now_inside ctx.schedule now inside
              apply ScheduleOutcome.commits time enabled inside
              · simp only [markScheduledSuccessIfApplicable, published, enabled, inside, read, if_true]
                rfl
              · simp only [markScheduledSuccessIfApplicable, exec, enabled, inside, read, if_true]
                rfl

end Work

-- Stages that decide nothing, backends that see no grant in any neighborhood, and a schedule from 1 to 5.
def plainStages : EvaluationStages Rat :=
  ⟨fun _ _ => none, fun _ _ _ => .ok [], fun _ _ _ _ => .ok [], fun _ => [], fun _ _ => none⟩

def plainBackends : Dpa.DpaBackends Rat :=
  ⟨fun x => x, fun x => x, fun _ _ _ _ => false, fun _ _ => none, fun _ _ _ _ => none⟩

def plainContext : CpasContext Rat :=
  { stages := plainStages
    backends := plainBackends
    schedule := ⟨some fun _ => ⟨"2024-05-01", 3⟩, 1, 5⟩
    clock := fun _ => 0
    flushFault := fun _ => none
    buildPayload := fun _ => .ok ⟨"2024-05-01T03:00:00Z", "[]", []⟩ }

end SasCore.Cpas
