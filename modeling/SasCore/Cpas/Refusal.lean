import SasCore.Cpas.Stages
import SasCore.Cpas.StageRules

set_option autoImplicit false
set_option linter.unusedSectionVars false

namespace SasCore.Cpas

open Registry Txn Txn.Prog

variable {K : Type} [Field K] [LinearOrder K]

abbrev Commit (K : Type) := Database K → Database K

abbrev Commits (K : Type) := List (Entry (Database K) (Commit K))

-- Other sessions commit whatever they like.
def anyCommit : Rivals (Database K) (Commit K) := ⟨id, fun _ => false⟩

-- The database with only their commits.
def replay (history : Commits K) (db : Database K) : Database K := history.foldl (fun d entry => entry.op d) db

-- All that a refused run may leave: the mark and rows of the audit.
structure OnlyMarkAndAudit (before d : Database K) : Prop where
  rest : d = { before with reevaluation := d.reevaluation, cpasAudit := d.cpasAudit }
  marked : before.reevaluation.isSome = true → d.reevaluation.isSome = true
  audit : before.cpasAudit <+: d.cpasAudit

theorem replay_append (history : Commits K) (entry : Entry (Database K) (Commit K)) (db : Database K) :
    replay (history ++ [entry]) db = entry.op (replay history db) := by
  rw [replay, List.foldl_append]
  rfl

section Refusal

variable (ctx : CpasContext K) (snapshot : CpasSnapshot K)

-- The movelists that an evaluation leaves in the open transaction.
def pendingMovelists (db : Database K) : List (Activation × List String) :=
  if snapshot.activeGrantPks.isEmpty && snapshot.localGrants.isEmpty then []
  else
    match earlyDecisions ctx snapshot db with
    | .error _ => []
    | .ok early =>
        let grants := frozenDpaGrants early ++ ctx.stages.peerDpaGrants snapshot
        if early.allResolved || ((frozenDpaGrants early).isEmpty && (ctx.stages.peerDpaGrants snapshot).isEmpty) then []
        else if (ctx.stages.dpaFault db grants).isSome then []
        else refreshedMovelists ctx db grants

-- The commit of the drift path takes along movelists other than the stored ones.
structure Leaks (found live : Database K) : Prop where
  drift : drifted snapshot live = true
  changed : (writeMovelists ctx (pendingMovelists ctx snapshot found) live).activations ≠ live.activations

def refusedRun (db : Database K) (schedule : List (List (Commit K))) : World (Database K) (Commit K) × Option CpasError :=
  weave anyCommit (executeAfterFreeze ctx snapshot) (World.start db) schedule

-- What the preview reads: the frozen database and what was committed by then.
def previewFound (db : Database K) (schedule : List (List (Commit K))) : Database K :=
  (schedule.headD []).foldl (fun d op => op d) db

def beforeSection (entry : Entry (Database K) (Commit K)) : Prop := entry.place = 0

variable (db found : Database K)

def SparedOrLeaks (world : World (Database K) (Commit K)) (outcome : Option CpasError) : Prop :=
  ∀ error, outcome = some error →
    (OnlyMarkAndAudit (replay world.history db) world.session.committed ↔
      ¬ Leaks ctx snapshot found (replay world.history db))

-- A condition on what is committed, on the place and on the history.
abbrev Durable (K : Type) := Database K → Nat → Commits K → Prop

def On (G : Durable K) (world : World (Database K) (Commit K)) : Prop :=
  G world.session.committed world.place world.history

def Lasting (G : Durable K) : Prop :=
  ∀ d history op, G d 0 history → G (op d) 0 (history ++ [⟨0, op, d⟩])

theorem stable_on (G : Durable K) (lasting : Lasting G) : Stable anyCommit beforeSection (On G) := by
  rintro ⟨⟨d, pending⟩, locked, place, history⟩ op holds free early
  cases early
  rw [World.enter, if_neg (by rw [free]; exact Bool.false_ne_true)]
  exact lasting d history op holds

def OnPending (G : Durable K) (change : Commit K) (world : World (Database K) (Commit K)) : Prop :=
  On G world ∧ world.session.pending = change

theorem stable_on_pending (G : Durable K) (change : Commit K) (lasting : Lasting G) :
    Stable anyCommit beforeSection (OnPending G change) :=
  stable_pending anyCommit beforeSection (On G) change (stable_on G lasting)

-- The handler adds its row to what is committed.
theorem failure_recorded (G : Durable K) (lasting : Lasting G)
    (post : ∀ d place history row, G d place history →
      (OnlyMarkAndAudit (replay history db) (appendCpasAudit row d) ↔ ¬ Leaks ctx snapshot found (replay history db))) :
    HandlerEnds anyCommit beforeSection (recordFailure ctx) (On G) (SparedOrLeaks ctx snapshot db found) := by
  intro error
  refine ends_rollback _ _ (OnPending G id) (stable_on G lasting) _ (fun world holds => ⟨holds, rfl⟩) ?_
  refine ends_write _ _ (OnPending G (appendCpasAudit (.failed error (ctx.clock 3)))) (stable_on_pending G id lasting) _ _
    ?_ ?_
  · rintro ⟨⟨d, pending⟩, locked, place, history⟩ ⟨holds, rfl⟩
    exact ⟨holds, rfl⟩
  · refine ends_commit _ _ (fun world => OnlyMarkAndAudit (replay world.history db) world.session.committed ↔
      ¬ Leaks ctx snapshot found (replay world.history db)) (stable_on_pending G _ lasting) _ ?_ ?_
    · rintro ⟨⟨d, pending⟩, locked, place, history⟩ ⟨holds, rfl⟩
      exact post d place history _ holds
    · exact ends_raise _ _ _ fun world holds _ _ => holds

-- Nothing of this run is committed.
def Clean : Durable K := fun d _ history => d = replay history db

-- Nothing is, and nothing will leak: no movelists are pending, or the drift check has passed.
def Spared : Durable K := fun d place history =>
  d = replay history db ∧
    (pendingMovelists ctx snapshot found = [] ∨ place ≠ 0 ∧ drifted snapshot (replay history db) = false)

def InSection (live : Bool) : Durable K := fun d place history =>
  place ≠ 0 ∧ d = replay history db ∧ drifted snapshot (replay history db) = live

-- The drift commit: the mark with the movelists of the preview.
def Drifted : Durable K := fun d place history =>
  place ≠ 0 ∧ drifted snapshot (replay history db) = true ∧
    d = markCpasReevaluationRequired driftReason (ctx.clock 0)
      (writeMovelists ctx (pendingMovelists ctx snapshot found) (replay history db))

theorem clean_lasting : Lasting (Clean db) := by
  intro d history op holds
  rw [Clean, replay_append, ← holds]

theorem spared_lasting : Lasting (Spared ctx snapshot db found) := by
  rintro d history op ⟨same, none | ⟨inside, -⟩⟩
  · exact ⟨clean_lasting db d history op same, Or.inl none⟩
  · exact absurd rfl inside

theorem in_section_lasting (live : Bool) : Lasting (InSection snapshot db live) :=
  fun _ _ _ holds => absurd rfl holds.1

theorem drifted_lasting : Lasting (Drifted ctx snapshot db found) := fun _ _ _ holds => absurd rfl holds.1

theorem only_audit (before : Database K) (row : CpasAudit) : OnlyMarkAndAudit before (appendCpasAudit row before) :=
  ⟨rfl, id, List.prefix_append _ _⟩

theorem spared_post (d : Database K) (place : Nat) (history : Commits K) (row : CpasAudit)
    (holds : Spared ctx snapshot db found d place history) :
    OnlyMarkAndAudit (replay history db) (appendCpasAudit row d) ↔ ¬ Leaks ctx snapshot found (replay history db) := by
  rw [holds.1]
  constructor
  · rintro - ⟨drift, changed⟩
    rcases holds.2 with none | ⟨-, passed⟩
    · rw [none] at changed
      exact changed rfl
    · rw [drift] at passed
      cases passed
  · intro _
    exact only_audit _ row

theorem drifted_post (d : Database K) (place : Nat) (history : Commits K) (row : CpasAudit)
    (holds : Drifted ctx snapshot db found d place history) :
    OnlyMarkAndAudit (replay history db) (appendCpasAudit row d) ↔ ¬ Leaks ctx snapshot found (replay history db) := by
  obtain ⟨-, drift, rfl⟩ := holds
  constructor
  · intro only leaks
    exact leaks.changed (congrArg (·.activations) only.rest)
  · intro tight
    have stored : (writeMovelists ctx (pendingMovelists ctx snapshot found) (replay history db)).activations =
        (replay history db).activations := by
      by_contra changed
      exact tight ⟨drift, changed⟩
    refine ⟨?_, fun _ => rfl, List.prefix_append _ _⟩
    have form : writeMovelists ctx (pendingMovelists ctx snapshot found) (replay history db) =
        { replay history db with
          activations := (writeMovelists ctx (pendingMovelists ctx snapshot found) (replay history db)).activations } := rfl
    rw [form, stored]
    rfl

theorem ends_without_error (prog : Prog (Database K) CpasError) (P : World (Database K) (Commit K) → Prop)
    (clean : Ends anyCommit beforeSection (fun _ => True) prog (SparedOrLeaks ctx snapshot db found)) :
    Ends anyCommit beforeSection P prog (SparedOrLeaks ctx snapshot db found) :=
  ends_mono _ _ _ prog _ (fun _ _ => trivial) (fun _ _ post => post) clean

theorem bookkeeping_ends (handler : CpasError → Prog (Database K) CpasError) (result : WorkResult K) :
    Ends anyCommit beforeSection (fun _ => True) (guarded handler (bookkeeping ctx snapshot result))
      (SparedOrLeaks ctx snapshot db found) := by
  rintro world schedule - - error ended
  cases ended

theorem passed_ends :
    Ends anyCommit beforeSection (On (Spared ctx snapshot db found))
      (guarded (recordFailure ctx) (checkedWork ctx snapshot fun result =>
        markScheduledSuccessIfApplicable ctx (ctx.clock 1) (bookkeeping ctx snapshot result)))
      (SparedOrLeaks ctx snapshot db found) := by
  have stable := stable_on _ (spared_lasting ctx snapshot db found)
  have fails := failure_recorded ctx snapshot db found _ (spared_lasting ctx snapshot db found)
    (spared_post ctx snapshot db found)
  apply ends_checked_work anyCommit beforeSection ctx snapshot (recordFailure ctx) _ _ stable fails
  · exact ⟨fun _ _ holds => holds, fun _ _ holds => holds, fun _ _ holds => holds⟩
  · intro result
    have finishes := bookkeeping_ends ctx snapshot db found (recordFailure ctx) result
    exact ends_schedule anyCommit beforeSection ctx (recordFailure ctx) _ _ stable fails (ctx.clock 1) _ (fun _ => True)
      (fun _ _ _ _ _ => trivial) (fun _ _ holds => holds) (fun _ _ => trivial) (fun _ _ _ => trivial)
      (fun _ _ => trivial) (ends_without_error ctx snapshot db found _ _ finishes) finishes

-- The handler after the drift commit, reached from the drift branch of the section.
theorem drift_ends (change : Commit K)
    (pending : ∀ d, change d = writeMovelists ctx (pendingMovelists ctx snapshot found) d) :
    Ends anyCommit beforeSection (OnPending (InSection snapshot db true) change)
      (guarded (recordFailure ctx) (.write (markCpasReevaluationRequired driftReason (ctx.clock 0))
        (.commit (.raise .generationDrift)))) (SparedOrLeaks ctx snapshot db found) := by
  let marked : Commit K := markCpasReevaluationRequired driftReason (ctx.clock 0) ∘ change
  refine ends_write _ _ (OnPending (InSection snapshot db true) marked)
    (stable_on_pending _ change (in_section_lasting snapshot db true)) _ _ ?_ ?_
  · rintro ⟨⟨d, held⟩, locked, place, history⟩ ⟨holds, rfl⟩
    exact ⟨holds, rfl⟩
  · refine ends_commit _ _ (On (Drifted ctx snapshot db found))
      (stable_on_pending _ marked (in_section_lasting snapshot db true)) _ ?_ ?_
    · rintro ⟨⟨d, held⟩, locked, place, history⟩ ⟨⟨inside, same, drift⟩, rfl⟩
      have clean : d = replay history db := same
      refine ⟨inside, drift, ?_⟩
      exact congrArg (markCpasReevaluationRequired driftReason (ctx.clock 0)) (clean ▸ pending d)
    · exact failure_recorded ctx snapshot db found _ (drifted_lasting ctx snapshot db found)
        (drifted_post ctx snapshot db found) .generationDrift

-- The section, entered with the movelists of the preview pending.
theorem section_ends (change : Commit K)
    (pending : ∀ d, change d = writeMovelists ctx (pendingMovelists ctx snapshot found) d) :
    Ends anyCommit beforeSection (OnPending (Clean db) change)
      (guarded (recordFailure ctx) (runPipelineCriticalSection ctx snapshot)) (SparedOrLeaks ctx snapshot db found) := by
  let inside : World (Database K) (Commit K) → Prop :=
    fun world => ∃ live, OnPending (InSection snapshot db live) change world
  have insideStable : Stable anyCommit beforeSection inside := by
    rintro world op ⟨live, holds⟩ free early
    exact ⟨live, stable_on_pending _ change (in_section_lasting snapshot db live) world op holds free early⟩
  refine ends_note _ _ inside 1 _ ?_ ?_
  · rintro world ⟨same, kept⟩
    exact ⟨_, ⟨one_ne_zero, same, rfl⟩, kept⟩
  · refine ends_lock _ _ inside insideStable _ (fun _ holds => holds) ?_
    refine ends_read _ _ insideStable _ fun seen => ?_
    refine ends_mono _ _ (OnPending (InSection snapshot db (drifted snapshot seen)) change) _ _ ?_ (fun _ _ post => post) ?_
    · rintro ⟨⟨d, held⟩, locked, place, history⟩ ⟨⟨live, ⟨entered, same, -⟩, kept⟩, viewed⟩
      have clean : d = replay history db := same
      have read : change d = seen := (congrFun kept d).symm.trans viewed
      refine ⟨⟨entered, same, ?_⟩, kept⟩
      rw [← read, pending d, clean]
      rfl
    · cases drift : drifted snapshot seen with
      | false =>
          simp only [drift, Bool.not_false, if_true]
          refine ends_note _ _ (On (Spared ctx snapshot db found)) 2 _ ?_ (passed_ends ctx snapshot db found)
          rintro world ⟨⟨-, same, passed⟩, -⟩
          exact ⟨same, Or.inr ⟨two_ne_zero, passed⟩⟩
      | true =>
          simp only [drift, Bool.not_true, Bool.false_eq_true, if_false]
          exact drift_ends ctx snapshot db found change pending

theorem clean_spared (none : pendingMovelists ctx snapshot found = []) (world : World (Database K) (Commit K))
    (holds : OnPending (Clean db) id world) : On (Spared ctx snapshot db found) world := ⟨holds.1, Or.inl none⟩

-- The preview after its read, which saw `found`.
theorem preview_ends (body : Database K → Prog (Database K) CpasError)
    (reads : afterFreeze ctx snapshot = .read body)
    (some : ¬ (snapshot.activeGrantPks.isEmpty && snapshot.localGrants.isEmpty) = true) :
    Ends anyCommit beforeSection (OnPending (Clean db) id) (guarded (recordFailure ctx) (body found))
      (SparedOrLeaks ctx snapshot db found) := by
  have sparedFails := failure_recorded ctx snapshot db found _ (spared_lasting ctx snapshot db found)
    (spared_post ctx snapshot db found)
  rw [afterFreeze, evaluateCpasProtections, if_neg some, read.injEq] at reads
  rw [← reads]
  cases early : earlyDecisions ctx snapshot found with
  | error error =>
      have none : pendingMovelists ctx snapshot found = [] := by simp only [pendingMovelists, if_neg some, early]
      simp only [early]
      exact ends_mono _ _ _ _ _ (clean_spared ctx snapshot db found none) (fun _ _ post => post) (sparedFails error)
  | ok decided =>
      simp only [early]
      by_cases resolved : (decided.allResolved ||
          ((frozenDpaGrants decided).isEmpty && (ctx.stages.peerDpaGrants snapshot).isEmpty)) = true
      · have none : pendingMovelists ctx snapshot found = [] := by
          simp only [pendingMovelists, if_neg some, early, if_pos resolved]
        rw [if_pos resolved]
        exact section_ends ctx snapshot db found id fun d => by rw [none]; rfl
      · rw [if_neg resolved]
        cases fault : ctx.stages.dpaFault found (frozenDpaGrants decided ++ ctx.stages.peerDpaGrants snapshot) with
        | some error =>
            have none : pendingMovelists ctx snapshot found = [] := by
              simp only [pendingMovelists, if_neg some, early, if_neg resolved, fault, Option.isSome_some, if_true]
            exact ends_mono _ _ _ _ _ (clean_spared ctx snapshot db found none) (fun _ _ post => post) (sparedFails error)
        | none =>
            have lists : pendingMovelists ctx snapshot found =
                refreshedMovelists ctx found (frozenDpaGrants decided ++ ctx.stages.peerDpaGrants snapshot) := by
              simp only [pendingMovelists, if_neg some, early, if_neg resolved, fault, Option.isSome_none,
                Bool.false_eq_true, if_false]
            refine ends_write _ _ (OnPending (Clean db) (writeMovelists ctx (pendingMovelists ctx snapshot found)))
              (stable_on_pending _ id (clean_lasting db)) _ _ ?_ ?_
            · rintro world ⟨same, kept⟩
              refine ⟨same, ?_⟩
              rw [World.write, Session.write, kept, lists]
              rfl
            · refine ends_read _ _ (stable_on_pending _ _ (clean_lasting db)) _ fun seen => ?_
              exact ends_mono _ _ _ _ _ (fun _ both => both.1) (fun _ _ post => post)
                (section_ends ctx snapshot db found _ fun _ => rfl)

theorem enter_all_committed (ops : List (Commit K)) (world : World (Database K) (Commit K)) :
    (World.enterAll anyCommit world ops).session.committed = ops.foldl (fun d op => op d) world.session.committed := by
  induction ops generalizing world with
  | nil => rfl
  | cons op rest ih =>
      have free : World.blocked anyCommit world op = false := Bool.and_false _
      have step : World.enter anyCommit world op =
          { world with
            session := world.session.others op
            history := world.history ++ [world.entry op] } := by
        rw [World.enter, if_neg (by rw [free]; exact Bool.false_ne_true)]
        rfl
      exact (ih _).trans (by rw [step]; rfl)

theorem refused_run_spares_iff (schedule : List (List (Commit K))) (error : CpasError)
    (failed : (refusedRun ctx snapshot db schedule).2 = some error)
    (early : ∀ entry ∈ (refusedRun ctx snapshot db schedule).1.history, beforeSection entry) :
    OnlyMarkAndAudit (replay (refusedRun ctx snapshot db schedule).1.history db)
        (refusedRun ctx snapshot db schedule).1.session.committed ↔
      ¬ Leaks ctx snapshot (previewFound db schedule) (replay (refusedRun ctx snapshot db schedule).1.history db) := by
  by_cases nothing : (snapshot.activeGrantPks.isEmpty && snapshot.localGrants.isEmpty) = true
  · have none : pendingMovelists ctx snapshot (previewFound db schedule) = [] := by
      rw [pendingMovelists, if_pos nothing]
    have body : executeAfterFreeze ctx snapshot = guarded (recordFailure ctx) (runPipelineCriticalSection ctx snapshot) := by
      rw [executeAfterFreeze, afterFreeze, evaluateCpasProtections, if_pos nothing]
    rw [refusedRun, body] at failed early ⊢
    exact section_ends ctx snapshot db (previewFound db schedule) id (fun d => by rw [none]; rfl) (World.start db) schedule
      ⟨rfl, rfl⟩ early error failed
  · obtain ⟨body, reads⟩ : ∃ body, afterFreeze ctx snapshot = .read body := by
      rw [afterFreeze, evaluateCpasProtections, if_neg nothing]
      exact ⟨_, rfl⟩
    let first := World.enterAll anyCommit (World.start db) (schedule.headD [])
    have run : refusedRun ctx snapshot db schedule =
        weave anyCommit (guarded (recordFailure ctx) (body first.session.view)) first schedule.tail := by
      rw [refusedRun, executeAfterFreeze, reads]
      rfl
    rw [run] at failed early ⊢
    have entered : OnPending (Clean db) id first := by
      have begun : OnPending (Clean db) id (World.start db) := ⟨rfl, rfl⟩
      apply stable_enter_all anyCommit beforeSection _ (stable_on_pending _ id (clean_lasting db)) _ _ begun
      exact fun entry member => early entry ((weave_history anyCommit _ first schedule.tail).subset member)
    have viewed : first.session.view = previewFound db schedule :=
      (congrFun entered.2 _).trans (enter_all_committed (schedule.headD []) (World.start db))
    rw [viewed] at failed early ⊢
    exact preview_ends ctx snapshot db (previewFound db schedule) body reads nothing first schedule.tail entered early error
      failed

end Refusal

-- One grant outside every neighborhood, and an active channel whose stored movelist names another grant.
def sampleInstallation : InstallationParam Rat := ⟨some 0, some 0, none, none, none, none, none, none, none, none⟩

def sampleCbsd : Cbsd Rat := ⟨0, "fcc/sn", "fcc", "user", "sn", none, none, none, ⟨none, some sampleInstallation, []⟩⟩

def sampleGrant : Grant Rat :=
  ⟨0, "grant/a", 0, "fcc/sn", .gaa, 3550000000, 3560000000, none, 0, 0, none, false, false, false, none,
    ⟨⟨0, 0, 0, 0⟩, none⟩⟩

def activeDatabase : Database Rat :=
  { (Database.empty : Database Rat) with
    store := ⟨[sampleCbsd], [sampleGrant], 1, 1⟩
    catalogue := [⟨"dpa", some (.polygon []), [], 0, 0⟩]
    activations := [⟨"dpa", 3550000000, 3560000000, ["grant/b"], 0, none⟩] }

def zoneInjected : List (List (Commit Rat)) := [[], [bumpInjectionGeneration "zone"]]

def leakingRun : World (Database Rat) (Commit Rat) × Option CpasError :=
  refusedRun plainContext (freezeCpasSnapshot 0 activeDatabase) activeDatabase zoneInjected

theorem leaking_run_refused : leakingRun.2 = some .generationDrift := by decide +kernel

theorem leaking_run_early : ∀ entry ∈ leakingRun.1.history, beforeSection entry := by
  have places : leakingRun.1.history.map (·.place) = [0] := by decide +kernel
  intro entry member
  have place : entry.place ∈ leakingRun.1.history.map (·.place) := List.mem_map_of_mem member
  rw [places] at place
  exact List.mem_singleton.mp place

theorem refused_run_writes_movelists :
    ¬ ∀ (schedule : List (List (Commit Rat))) (error : CpasError),
      (refusedRun plainContext (freezeCpasSnapshot 0 activeDatabase) activeDatabase schedule).2 = some error →
      (∀ entry ∈ (refusedRun plainContext (freezeCpasSnapshot 0 activeDatabase) activeDatabase schedule).1.history,
        beforeSection entry) →
      OnlyMarkAndAudit
        (replay (refusedRun plainContext (freezeCpasSnapshot 0 activeDatabase) activeDatabase schedule).1.history
          activeDatabase)
        (refusedRun plainContext (freezeCpasSnapshot 0 activeDatabase) activeDatabase schedule).1.session.committed := by
  intro claim
  have only := claim zoneInjected .generationDrift leaking_run_refused leaking_run_early
  have stored : leakingRun.1.session.committed.activations = (replay leakingRun.1.history activeDatabase).activations :=
    congrArg (·.activations) only.rest
  exact absurd stored (by decide +kernel)

theorem refused_run_spares_iff_sample :
    OnlyMarkAndAudit (replay leakingRun.1.history activeDatabase) leakingRun.1.session.committed ↔
      ¬ Leaks plainContext (freezeCpasSnapshot 0 activeDatabase) (previewFound activeDatabase zoneInjected)
        (replay leakingRun.1.history activeDatabase) :=
  refused_run_spares_iff plainContext (freezeCpasSnapshot 0 activeDatabase) activeDatabase zoneInjected .generationDrift
    leaking_run_refused leaking_run_early

end SasCore.Cpas
