import SasCore.Cpas.Stages

set_option autoImplicit false
set_option linter.unusedSectionVars false

namespace SasCore.Cpas

open Registry Txn Txn.Prog

variable {K : Type} [Field K] [LinearOrder K]

-- None of the section's six effects is there: a mark may be new or overwritten, but is not cleared.
structure Untouched (before d : Database K) : Prop where
  grants : d.store = before.store
  dumps : d.dumps = before.dumps
  scheduled : d.scheduleMeta.lastSuccessfulLocalDate = before.scheduleMeta.lastSuccessfulLocalDate
  marked : before.reevaluation.isSome = true → d.reevaluation.isSome = true
  admission : d.admission = before.admission
  completed : completedRuns d = completedRuns before

-- All six are, as in the database that a finished section leaves.
structure Complete (final d : Database K) : Prop where
  grants : d.store = final.store
  dumps : d.dumps = final.dumps
  scheduled : d.scheduleMeta.lastSuccessfulLocalDate = final.scheduleMeta.lastSuccessfulLocalDate
  marked : d.reevaluation = final.reevaluation
  admission : d.admission = final.admission
  completed : completedRuns d = completedRuns final

theorem only_movelists_untouched (before d : Database K) (movelists : OnlyMovelists before d) : Untouched before d := by
  rw [movelists.same]
  exact ⟨rfl, rfl, rfl, id, rfl, rfl⟩

theorem untouched_refl (db : Database K) : Untouched db db := ⟨rfl, rfl, rfl, id, rfl, rfl⟩

theorem untouched_mark (before d : Database K) (reason : String) (now : Int) (untouched : Untouched before d) :
    Untouched before (markCpasReevaluationRequired reason now d) :=
  ⟨untouched.grants, untouched.dumps, untouched.scheduled, fun _ => rfl, untouched.admission, untouched.completed⟩

theorem completed_runs_failed (db : Database K) (error : CpasError) (now : Int) :
    completedRuns (appendCpasAudit (.failed error now) db) = completedRuns db := by
  simp [completedRuns, appendCpasAudit]

theorem untouched_failed (before d : Database K) (error : CpasError) (now : Int) (untouched : Untouched before d) :
    Untouched before (appendCpasAudit (.failed error now) d) :=
  ⟨untouched.grants, untouched.dumps, untouched.scheduled, untouched.marked, untouched.admission,
    (completed_runs_failed d error now).trans untouched.completed⟩

theorem complete_failed (final d : Database K) (error : CpasError) (now : Int) (complete : Complete final d) :
    Complete final (appendCpasAudit (.failed error now) d) :=
  ⟨complete.grants, complete.dumps, complete.scheduled, complete.marked, complete.admission,
    (completed_runs_failed d error now).trans complete.completed⟩

theorem complete_refl (db : Database K) : Complete db db := ⟨rfl, rfl, rfl, rfl, rfl, rfl⟩

section Work

variable (ctx : CpasContext K) (snapshot : CpasSnapshot K)

def AllOrNothing (db d : Database K) : Prop :=
  Untouched db d ∨ ∃ final, exec (afterFreeze ctx snapshot) (Session.start db) = (final, none) ∧ Complete final.committed d

-- What the handler of the pipeline leaves when the n-th access raises.
def afterException (n : Nat) (error : CpasError) (db : Database K) : Database K :=
  (exec (recordFailure ctx error) (after n (afterFreeze ctx snapshot) (Session.start db)).2).1.committed

-- The exception, if any, of the work that comes before the schedule bookkeeping.
def workFault (db : Database K) : Option CpasError :=
  (exec (previewedWork ctx snapshot fun _ => .done) (Session.start db)).2

-- The schedule bookkeeping is reached and commits on its own.
structure CommitsInside (db : Database K) : Prop where
  works : workFault ctx snapshot db = none
  enabled : db.scheduleEnabled = true
  inside : isWithinCpasWindow ctx.schedule (ctx.clock 1) = .ok true

theorem previewed_work_cases (db : Database K) :
    (∃ error left, ∀ next, (∀ d ∈ published (previewedWork ctx snapshot next) (Session.start db), Untouched db d) ∧
        exec (previewedWork ctx snapshot next) (Session.start db) = (left, some error)) ∨
      ∃ result reached, Leads (previewedWork ctx snapshot) (Session.start db) result reached ∧
        reached.committed = db ∧ WorkDone db reached.view := by
  have itself := only_movelists_untouched db db (only_movelists_refl db)
  rcases evaluate_cases ctx snapshot (Session.start db) with ⟨error, stops⟩ | ⟨preview, previewed, leads, same, movelists⟩
  · refine Or.inl ⟨error, Session.start db, fun next => ⟨fun d member => ?_, (stops _).2⟩⟩
    rw [previewedWork, (stops _).1] at member
    rw [List.mem_singleton.mp member]
    exact itself
  · have viewed := only_movelists_untouched db previewed.view movelists
    cases drift : drifted snapshot previewed.view with
    | true =>
        refine Or.inl ⟨.generationDrift, (previewed.write (markCpasReevaluationRequired driftReason (ctx.clock 0))).commit,
          fun next => ⟨fun d member => ?_, ?_⟩⟩
        · rw [previewedWork, (leads _).1] at member
          simp only [sectionWork, published, drift, Bool.not_true, Bool.false_eq_true, if_false, List.mem_cons,
            List.not_mem_nil, or_false] at member
          rcases member with before | after
          · rw [before]
            exact same ▸ itself
          · rw [after]
            exact untouched_mark db previewed.view driftReason (ctx.clock 0) viewed
        · rw [previewedWork, (leads _).2]
          simp only [sectionWork, exec, drift, Bool.not_true, Bool.false_eq_true, if_false]
    | false =>
        have section_ : ∀ next, published (sectionWork ctx snapshot next) previewed =
            published (checkedWork ctx snapshot next) previewed ∧
              exec (sectionWork ctx snapshot next) previewed = exec (checkedWork ctx snapshot next) previewed := by
          intro next
          simp only [sectionWork, published, exec, drift, Bool.not_false, if_true, and_self]
        rcases checked_work_cases ctx snapshot previewed with
          ⟨error, left, stops, keeps⟩ | ⟨result, reached, goesOn, keeps, done⟩
        · refine Or.inl ⟨error, left, fun next => ⟨fun d member => ?_, ?_⟩⟩
          · rw [previewedWork, (leads _).1, (section_ _).1, (stops _).1] at member
            rw [List.mem_singleton.mp member, same]
            exact itself
          · rw [previewedWork, (leads _).2, (section_ _).2, (stops _).2]
        · refine Or.inr ⟨result, reached, fun next => ?_, keeps.trans same, ?_⟩
          · rw [previewedWork, (leads _).1, (leads _).2, (section_ _).1, (section_ _).2]
            exact goesOn next
          · have view : previewed.view = { db with activations := previewed.view.activations } := movelists.same
            rw [view] at done
            exact ⟨done.enabled, done.reevaluation, done.completed, done.dumps⟩

theorem after_exception (n : Nat) (error : CpasError) (db : Database K) :
    afterException ctx snapshot n error db =
      appendCpasAudit (.failed error (ctx.clock 3)) (after n (afterFreeze ctx snapshot) (Session.start db)).2.committed := rfl

theorem all_or_nothing_failed (db d : Database K) (error : CpasError) (now : Int)
    (atomic : AllOrNothing ctx snapshot db d) : AllOrNothing ctx snapshot db (appendCpasAudit (.failed error now) d) := by
  rcases atomic with untouched | ⟨final, ends, complete⟩
  · exact Or.inl (untouched_failed db d error now untouched)
  · exact Or.inr ⟨final, ends, complete_failed final.committed d error now complete⟩

-- Stops and exceptions anywhere see no more than the published states.
theorem stops_iff_published (db : Database K) :
    (∀ n error, AllOrNothing ctx snapshot db (after n (afterFreeze ctx snapshot) (Session.start db)).2.committed ∧
        AllOrNothing ctx snapshot db (afterException ctx snapshot n error db)) ↔
      ∀ d ∈ published (afterFreeze ctx snapshot) (Session.start db), AllOrNothing ctx snapshot db d := by
  constructor
  · intro stops d member
    obtain ⟨n, reached⟩ := published_after _ _ d member
    rw [← reached]
    exact (stops n .generationDrift).1
  · intro states n error
    have atomic := states _ (after_published n (afterFreeze ctx snapshot) (Session.start db))
    rw [after_exception]
    exact ⟨atomic, all_or_nothing_failed ctx snapshot db _ error _ atomic⟩

theorem bookkeeping_published (result : WorkResult K) (reached : Session (Database K)) :
    published (bookkeeping ctx snapshot result) reached =
      [reached.committed, (exec (bookkeeping ctx snapshot result) reached).1.committed] := rfl

-- After a finished work, the rest of the section is the schedule bookkeeping and then its own.
def closing (result : WorkResult K) : Prog (Database K) CpasError :=
  markScheduledSuccessIfApplicable ctx (ctx.clock 1) (bookkeeping ctx snapshot result)

theorem all_or_nothing_untouched (db d : Database K) (same : d = db) : AllOrNothing ctx snapshot db d := by
  rw [same]
  exact Or.inl (untouched_refl db)

theorem all_or_nothing_final (db d : Database K) (final : Session (Database K))
    (ends : exec (afterFreeze ctx snapshot) (Session.start db) = (final, none)) (same : d = final.committed) :
    AllOrNothing ctx snapshot db d := by
  rw [same]
  exact Or.inr ⟨final, ends, complete_refl final.committed⟩

-- The state of the inner commit has the new dump but no completed run.
theorem inner_commit_splits (db : Database K) (result : WorkResult K) (reached : Session (Database K)) (time : LocalTime)
    (done : WorkDone db reached.view)
    (ends : exec (afterFreeze ctx snapshot) (Session.start db) =
      exec (bookkeeping ctx snapshot result) (scheduled time (ctx.clock 1) reached)) :
    ¬ AllOrNothing ctx snapshot db (saveMeta time (ctx.clock 1) reached.view) := by
  rintro (untouched | ⟨final, last, complete⟩)
  · have length : reached.view.dumps.length = db.dumps.length := congrArg List.length untouched.dumps
    rw [done.dumps] at length
    omega
  · have runs : completedRuns reached.view = completedRuns final.committed := complete.completed
    have added : completedRuns final.committed = completedRuns reached.view ++ [completedRun ctx snapshot result] := by
      have same : final = (exec (bookkeeping ctx snapshot result) (scheduled time (ctx.clock 1) reached)).1 :=
        (congrArg Prod.fst (ends.symm.trans last)).symm
      rw [same]
      exact List.filterMap_append
    have length := congrArg List.length (runs.trans added)
    rw [List.length_append] at length
    simp only [List.length_singleton] at length
    omega

theorem published_all_or_nothing_iff (db : Database K) :
    (∀ d ∈ published (afterFreeze ctx snapshot) (Session.start db), AllOrNothing ctx snapshot db d) ↔
      ¬ CommitsInside ctx snapshot db := by
  rcases previewed_work_cases ctx snapshot db with ⟨error, left, stops⟩ | ⟨result, reached, leads, kept, done⟩
  · constructor
    · rintro - ⟨works, -, -⟩
      rw [workFault, (stops _).2] at works
      cases works
    · intro _ d member
      exact Or.inl ((stops (closing ctx snapshot)).1 d member)
  · have works : workFault ctx snapshot db = none := congrArg Prod.snd (leads fun _ => .done).2
    have states : published (afterFreeze ctx snapshot) (Session.start db) =
        published (closing ctx snapshot result) reached := (leads (closing ctx snapshot)).1
    have run : exec (afterFreeze ctx snapshot) (Session.start db) = exec (closing ctx snapshot result) reached :=
      (leads (closing ctx snapshot)).2
    rw [states]
    cases schedule_cases ctx (ctx.clock 1) (bookkeeping ctx snapshot result) reached with
    | raises error faulty only ends =>
        constructor
        · rintro - ⟨-, -, inside⟩
          rw [faulty] at inside
          cases inside
        · intro _ d member
          rw [closing, only] at member
          exact all_or_nothing_untouched ctx snapshot db d ((List.mem_singleton.mp member).trans kept)
    | skips outside only ends =>
        constructor
        · rintro - ⟨-, enabled, inside⟩
          rcases outside with disabled | beyond
          · rw [done.enabled, enabled] at disabled
            cases disabled
          · rw [inside] at beyond
            cases beyond
        · intro _ d member
          rw [closing, only, bookkeeping_published] at member
          rcases List.mem_cons.mp member with first | last
          · exact all_or_nothing_untouched ctx snapshot db d (first.trans kept)
          · exact all_or_nothing_final ctx snapshot db d _ (run.trans ends) (List.mem_singleton.mp last)
    | commits time enabled inside only ends =>
        constructor
        · intro atomic
          have member : saveMeta time (ctx.clock 1) reached.view ∈ published (closing ctx snapshot result) reached := by
            rw [closing, only]
            exact List.mem_cons_of_mem _ List.mem_cons_self
          exact absurd (atomic _ member)
            (inner_commit_splits ctx snapshot db result reached time done (run.trans ends))
        · intro outside
          exact absurd ⟨works, done.enabled.symm.trans enabled, inside⟩ outside

theorem section_atomic_iff (db : Database K) :
    (∀ n error, AllOrNothing ctx snapshot db (after n (afterFreeze ctx snapshot) (Session.start db)).2.committed ∧
        AllOrNothing ctx snapshot db (afterException ctx snapshot n error db)) ↔
      ¬ CommitsInside ctx snapshot db :=
  (stops_iff_published ctx snapshot db).trans (published_all_or_nothing_iff ctx snapshot db)

end Work

-- An enabled schedule and nothing to decide: the twelfth access is the commit of the schedule metadata.
def scheduledDatabase : Database Rat := { Database.empty with scheduleEnabled := true }

def splitRun : Database Rat :=
  (after 12 (afterFreeze plainContext (freezeCpasSnapshot 0 scheduledDatabase)) (Session.start scheduledDatabase)).2.committed

theorem scheduled_run_splits :
    ¬ AllOrNothing plainContext (freezeCpasSnapshot 0 scheduledDatabase) scheduledDatabase splitRun := by
  rintro (untouched | ⟨final, last, complete⟩)
  · exact absurd untouched.dumps (by decide)
  · have finished := congrArg (fun run => run.1.committed.admission) last
    have marker : splitRun.admission = final.committed.admission := complete.admission
    rw [← finished] at marker
    exact absurd marker (by decide)

end SasCore.Cpas
