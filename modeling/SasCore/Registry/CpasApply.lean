import SasCore.Iap.Engine
import SasCore.Registry.Lifecycle
import SasCore.Registry.Heartbeat

set_option autoImplicit false

namespace SasCore.Registry

variable {K : Type} [Field K] [LinearOrder K]

-- A decision without an action terminates.
inductive CpasAction where
  | terminate | suspend | reducePower | unknown
deriving DecidableEq, Repr

structure CpasDecision (K : Type) where
  grantPk : Option Nat
  grantId : String
  cbsdId : String
  action : CpasAction
  authorizedEirpDbmMhz : Option K
  reason : String
  explanation : String
deriving DecidableEq, Repr

-- The row of a decision: by grant and CBSD id when the key agrees, else by the key.
def decisionRow (decision : CpasDecision K) (pk : Nat) (store : Store K) : Option (Grant K) :=
  match store.findGrant decision.grantId decision.cbsdId with
  | some grant => if grant.id = pk then some grant else store.findGrantPk pk
  | none => store.findGrantPk pk

def decisionPayload (decision : CpasDecision K) (grant : Grant K) : Payload :=
  idPayload grant.cbsdId grant.grantId ++ [("reason", decision.reason), ("explanation", decision.explanation)]

-- What one decision does to its row: the row it leaves and whether it counts as a change.
def decideGrant (decision : CpasDecision K) (now : Int) (grant : Grant K) : Grant K × Bool :=
  match decision.action with
  | .reducePower =>
      match decision.authorizedEirpDbmMhz with
      | none => (grant, false)
      | some eirp =>
          if grant.maxEirp.any fun held => decide (held ≤ eirp + Iap.eirpEpsilon) then (grant, false)
          else ({ grant with maxEirp := some eirp }, true)
  | .suspend =>
      let applied := applyGrantEvent grant .suspend (decisionPayload decision grant) now
      (applied.1, applied.2.ok)
  | .terminate =>
      let applied := applyGrantEvent grant .terminate (decisionPayload decision grant) now
      (applied.1, applied.2.ok)
  | .unknown => (grant, false)

def applyDecision (decision : CpasDecision K) (now : Int) (store : Store K) : Store K × Bool :=
  match decision.grantPk with
  | none => (store, false)
  | some pk =>
      match decisionRow decision pk store with
      | none => (store, false)
      | some grant =>
          if grant.terminated || decision.grantId.startsWith "peer/" then (store, false)
          else
            let decided := decideGrant decision now grant
            (store.putGrant decided.1, decided.2)

-- apply_cpas_decisions: the store it leaves in the open transaction and the number of changes.
-- The n-th decision takes the n-th reading of the clock.
def applyCpasDecisions (clock : Clock) : List (CpasDecision K) → Nat → Store K → Store K × Nat
  | [], _, store => (store, 0)
  | decision :: rest, n, store =>
      let first := applyDecision decision (clock n) store
      let others := applyCpasDecisions clock rest (n + 1) first.1
      (others.1, others.2 + if first.2 then 1 else 0)

end SasCore.Registry
