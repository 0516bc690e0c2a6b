import SasCore.Lib.Weave
import SasCore.Cpas.Pipeline

set_option autoImplicit false
set_option linter.unusedSectionVars false

namespace SasCore.Cpas

open Registry Txn Txn.Prog

variable {K O : Type} [Field K] [LinearOrder K]

-- The rely rules of the stages, inside a try whose handler starts from the same condition.
section Rules

variable (rivals : Rivals (Database K) O) (rely : Entry (Database K) O → Prop)
variable (ctx : CpasContext K) (snapshot : CpasSnapshot K) (handler : CpasError → Prog (Database K) CpasError)
variable (P : World (Database K) O → Prop) (Q : World (Database K) O → Option CpasError → Prop)

-- What the stages write before the bookkeeping.
structure WorkKeeps : Prop where
  movelists : ∀ lists world, P world → P (world.write (writeMovelists ctx lists))
  decisions : ∀ decisions world, P world → P (world.write (writeDecisions ctx decisions))
  dump : ∀ payload world, P world → P (world.write (publishSnapshot payload))

def HandlerEnds : Prop := ∀ error, Ends rivals rely P (handler error) Q

variable (stable : Stable rivals rely P) (fails : HandlerEnds rivals rely handler P Q)
include stable

theorem ends_on_seen (next : Database K → Prog (Database K) CpasError) (rest : ∀ seen, Ends rivals rely P (next seen) Q) :
    Ends rivals rely P (.read next) Q :=
  ends_read rivals rely stable next fun seen =>
    ends_mono rivals rely P (next seen) Q (fun _ both => both.1) (fun _ _ post => post) (rest seen)

theorem ends_schedule_audit (next : Prog (Database K) CpasError) (date : String)
    (audits : ∀ world, P world → P (world.write (appendScheduleAudit "cpas_end_ok" date)))
    (commits : ∀ world, P world → P world.commit) (rest : Ends rivals rely P next Q) :
    Ends rivals rely P (.write (appendScheduleAudit "cpas_end_ok" date) (.commit next)) Q := by
  refine ends_write rivals rely P stable _ _ audits ?_
  exact ends_commit rivals rely P stable _ commits rest

include fails

theorem ends_evaluate (keeps : WorkKeeps ctx P) (next : List (CpasDecision K) → Prog (Database K) CpasError)
    (rest : ∀ decisions, Ends rivals rely P (guarded handler (next decisions)) Q) :
    Ends rivals rely P (guarded handler (evaluateCpasProtections ctx snapshot next)) Q := by
  rw [evaluateCpasProtections]
  split
  · exact rest []
  · apply ends_on_seen rivals rely P Q stable
    intro seen
    dsimp only
    cases earlyDecisions ctx snapshot seen with
    | error error => exact fails error
    | ok early =>
        dsimp only
        by_cases resolved : (early.allResolved ||
            ((frozenDpaGrants early).isEmpty && (ctx.stages.peerDpaGrants snapshot).isEmpty)) = true
        · rw [if_pos resolved]
          exact rest _
        · rw [if_neg resolved]
          cases ctx.stages.dpaFault seen (frozenDpaGrants early ++ ctx.stages.peerDpaGrants snapshot) with
          | some error => exact fails error
          | none =>
              refine ends_write rivals rely P stable _ _ (keeps.movelists _) ?_
              exact ends_on_seen rivals rely P Q stable _ fun refreshed => rest _

theorem ends_apply (keeps : WorkKeeps ctx P) (decisions : List (CpasDecision K))
    (next : Nat → Prog (Database K) CpasError) (rest : ∀ count, Ends rivals rely P (guarded handler (next count)) Q) :
    Ends rivals rely P (guarded handler (applyDecisions ctx decisions next)) Q := by
  apply ends_on_seen rivals rely P Q stable
  intro seen
  refine ends_write rivals rely P stable _ _ (keeps.decisions decisions) ?_
  cases (if (applyCpasDecisions ctx.clock decisions 0 seen.store).2 = 0 then none
      else ctx.flushFault (applyCpasDecisions ctx.clock decisions 0 seen.store).1) with
  | some error => exact fails error
  | none => exact rest _

theorem ends_dump (keeps : WorkKeeps ctx P) (next : Nat → Prog (Database K) CpasError)
    (rest : ∀ dumpId, Ends rivals rely P (guarded handler (next dumpId)) Q) :
    Ends rivals rely P (guarded handler (createFullActivityDump ctx next)) Q := by
  apply ends_on_seen rivals rely P Q stable
  intro seen
  dsimp only
  cases ctx.buildPayload seen with
  | error error => exact fails error
  | ok payload => exact ends_write rivals rely P stable _ _ (keeps.dump payload) (rest _)

theorem ends_checked_work (keeps : WorkKeeps ctx P) (next : WorkResult K → Prog (Database K) CpasError)
    (rest : ∀ result, Ends rivals rely P (guarded handler (next result)) Q) :
    Ends rivals rely P (guarded handler (checkedWork ctx snapshot next)) Q := by
  apply ends_evaluate rivals rely ctx snapshot handler P Q stable fails keeps
  intro decisions
  apply ends_apply rivals rely ctx handler P Q stable fails keeps
  intro terminated
  apply ends_dump rivals rely ctx handler P Q stable fails keeps
  intro dumpId
  exact rest _

-- The schedule bookkeeping, whose commit may end what held before it.
theorem ends_schedule (now : Int) (next : Prog (Database K) CpasError) (Pc : World (Database K) O → Prop)
    (stablec : Stable rivals rely Pc) (saves : ∀ time world, P world → P (world.write (saveMeta time now)))
    (commits : ∀ world, P world → Pc world.commit)
    (audits : ∀ date world, Pc world → Pc (world.write (appendScheduleAudit "cpas_end_ok" date)))
    (again : ∀ world, Pc world → Pc world.commit) (rest : Ends rivals rely P (guarded handler next) Q)
    (restc : Ends rivals rely Pc (guarded handler next) Q) :
    Ends rivals rely P (guarded handler (markScheduledSuccessIfApplicable ctx now next)) Q := by
  apply ends_on_seen rivals rely P Q stable
  intro seen
  dsimp only
  split
  · cases isWithinCpasWindow ctx.schedule now with
    | error error => exact fails error
    | ok inside =>
        cases inside with
        | false => exact rest
        | true =>
            cases localNow ctx.schedule now with
            | error error => exact fails error
            | ok time =>
                dsimp only [guarded]
                refine ends_write rivals rely P stable _ _ (saves time) ?_
                refine ends_commit rivals rely Pc stable _ commits ?_
                exact ends_schedule_audit rivals rely Pc Q stablec _ time.date (audits time.date) again restc
  · exact rest

end Rules

end SasCore.Cpas
