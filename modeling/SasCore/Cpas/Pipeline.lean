import SasCore.Lib.Txn
import SasCore.Cpas.Database

set_option autoImplicit false

namespace SasCore.Cpas

open Registry Txn

variable {K : Type} [Field K] [LinearOrder K]

structure FrozenLocalGrantRf (K : Type) where
  grantPk : Nat
  grantId : String
  cbsdId : String
  fccId : String
  cbsdSerialNumber : String
  lowHz : Int
  highHz : Int
  maxEirpDbmMhz : Option K
  lifecycleState : Option GrantState
  terminated : Bool
  latitude : Option K
  longitude : Option K
  heightM : Option K
  heightIsAgl : Bool
  indoor : Bool
  cbsdCategory : Option Dpa.Category
  antennaAzimuth : Option K
  antennaBeamwidth : Option K
  antennaGain : Option K

structure CpasSnapshot (K : Type) where
  frozenAt : Int
  activeGrantPks : List Nat
  peerRecords : List (Nat × PeerFadRecord)
  localGrants : List (FrozenLocalGrantRf K)
  protectionRecords : ProtectionTables
  authorizationGeneration : Fingerprint

def frozenCategory (cbsd : Cbsd K) : Option Dpa.Category :=
  match upperOf ((textOr cbsd.registration.cbsdCategory cbsd.cbsdCategory).getD "") with
  | ['A'] => some .a
  | ['B'] => some .b
  | _ => none

def frozenLocalGrantFromOrm (grant : Grant K) (cbsd : Cbsd K) : FrozenLocalGrantRf K :=
  let inst := cbsd.registration.installationParam
  let latitude := inst.bind (·.latitude)
  { grantPk := grant.id
    grantId := grant.grantId
    cbsdId := grant.cbsdId
    fccId := cbsd.fccId
    cbsdSerialNumber := cbsd.cbsdSerialNumber
    lowHz := grant.lowFrequency
    highHz := grant.highFrequency
    maxEirpDbmMhz := grant.maxEirp
    lifecycleState := grant.lifecycleState
    terminated := grant.terminated
    latitude := latitude
    longitude := if latitude.isSome then inst.bind (·.longitude) else none
    heightM := inst.bind (·.height)
    heightIsAgl := upperOf ((inst.map Dpa.heightTypeOf).getD "AGL") != ['A', 'M', 'S', 'L']
    indoor := (inst.bind (·.indoorDeployment)).getD false
    cbsdCategory := frozenCategory cbsd
    antennaAzimuth := inst.bind (·.antennaAzimuth)
    antennaBeamwidth := inst.bind (·.antennaBeamwidth)
    antennaGain := inst.bind (·.antennaGain) }

def frozenOf (db : Database K) (grant : Grant K) : Option (FrozenLocalGrantRf K) :=
  (db.store.findCbsd grant.cbsdId).map (frozenLocalGrantFromOrm grant)

def freezeCpasSnapshot (now : Int) (db : Database K) : CpasSnapshot K :=
  let localGrants := (db.store.grants.filter fun grant => !grant.terminated).filterMap (frozenOf db)
  { frozenAt := now
    activeGrantPks := localGrants.map (·.grantPk)
    peerRecords := peerRecords db.peers
    localGrants := localGrants
    protectionRecords := db.tables
    authorizationGeneration := currentGenerationFingerprint db }

def frozenToDpaGrantRf (frozen : FrozenLocalGrantRf K) : Option (Dpa.DpaGrantRf K) :=
  match frozen.latitude, frozen.longitude with
  | some lat, some lon =>
      some
        { grantId := frozen.grantId
          cbsdId := frozen.cbsdId
          latitude := lat
          longitude := lon
          heightM := frozen.heightM.getD 0
          heightIsAgl := frozen.heightIsAgl
          indoor := frozen.indoor
          lowHz := frozen.lowHz
          highHz := frozen.highHz
          maxEirpDbmMhz := frozen.maxEirpDbmMhz.getD 0
          cbsdCategory := frozen.cbsdCategory.getD .a }
  | _, _ => none

-- A local time: the calendar day as text and the hour.
structure LocalTime where
  date : String
  hour : Int
deriving DecidableEq, Repr

-- The schedule settings; `zone` is `none` for a name that no time zone has.
structure ScheduleConfig where
  zone : Option (Int → LocalTime)
  startHour : Int
  endHour : Int

def clampHour (value : Int) : Int := max 0 (min 23 value)

def localNow (config : ScheduleConfig) (now : Int) : Except CpasError LocalTime :=
  match config.zone with
  | none => .error .invalidTimezone
  | some zone => .ok (zone now)

def isWithinCpasWindow (config : ScheduleConfig) (now : Int) : Except CpasError Bool :=
  match localNow config now with
  | .error error => .error error
  | .ok time =>
      let first := clampHour config.startHour
      let last := clampHour config.endHour
      .ok (if first = last then false
        else if first < last then first ≤ time.hour && time.hour < last
        else first ≤ time.hour || time.hour < last)

-- The parts of an evaluation that only read: the peer rules, the pre-IAP exclusions, the IAP stage on
-- the grants not decided yet, the peer transmitters, and an exception out of the DPA stage.
structure EvaluationStages (K : Type) where
  peerReason : CpasSnapshot K → FrozenLocalGrantRf K → Option String
  preIapExclusions : CpasSnapshot K → List (FrozenLocalGrantRf K) → Database K →
    Except CpasError (List (FrozenLocalGrantRf K × String))
  iapDecisions : CpasSnapshot K → List (FrozenLocalGrantRf K) → List Nat → Database K →
    Except CpasError (List (CpasDecision K))
  peerDpaGrants : CpasSnapshot K → List (Dpa.DpaGrantRf K)
  dpaFault : Database K → List (Dpa.DpaGrantRf K) → Option CpasError

-- What the pipeline takes from outside: the settings, the clock readings of its steps, the dump
-- serialization with its integrity check, and the exceptions of a flush.
structure CpasContext (K : Type) where
  stages : EvaluationStages K
  backends : Dpa.DpaBackends K
  schedule : ScheduleConfig
  clock : Clock
  flushFault : Store K → Option CpasError
  buildPayload : Database K → Except CpasError FadPayload

def terminateDecision (frozen : FrozenLocalGrantRf K) (reason : String) : CpasDecision K :=
  ⟨some frozen.grantPk, frozen.grantId, frozen.cbsdId, .terminate, none, reason, reason⟩

def considerDecision (merged : List (CpasDecision K)) (decision : CpasDecision K) : List (CpasDecision K) :=
  if decision.grantPk.isNone then merged
  else if merged.any (·.grantPk = decision.grantPk) then
    merged.map fun held =>
      if held.grantPk ≠ decision.grantPk then held
      else if decision.action = .terminate then decision
      else if held.action ≠ .terminate ∧ decision.action = .reducePower then decision
      else held
  else merged ++ [decision]

def mergeConstraintDecisions (peer iap dpa : List (CpasDecision K)) : List (CpasDecision K) :=
  (peer ++ iap ++ dpa).foldl considerDecision []

-- What is decided before the DPA stage.
structure EarlyDecisions (K : Type) where
  localGrants : List (FrozenLocalGrantRf K)
  peer : List (CpasDecision K)
  iap : List (CpasDecision K)
  decidedPks : List Nat
  allResolved : Bool

section Evaluation

variable (ctx : CpasContext K) (snapshot : CpasSnapshot K)

def hydratedGrants (db : Database K) : List (FrozenLocalGrantRf K) :=
  if snapshot.localGrants.isEmpty then
    (db.store.grants.filter fun grant => snapshot.activeGrantPks.contains grant.id).filterMap (frozenOf db)
  else snapshot.localGrants

-- One turn of the exclusion loop: a grant that is decided keeps its first decision.
def firstUndecided (decided : List Nat) (taken : List (FrozenLocalGrantRf K × String))
    (entry : FrozenLocalGrantRf K × String) : List (FrozenLocalGrantRf K × String) :=
  if decided.contains entry.1.grantPk || taken.any (·.1.grantPk = entry.1.grantPk) then taken else taken ++ [entry]

def earlyDecisions (db : Database K) : Except CpasError (EarlyDecisions K) :=
  let localGrants := hydratedGrants snapshot db
  let peer := (localGrants.filter fun frozen => !frozen.terminated).filterMap fun frozen =>
    (ctx.stages.peerReason snapshot frozen).map (terminateDecision frozen)
  let byPeer := peer.filterMap (·.grantPk)
  match ctx.stages.preIapExclusions snapshot localGrants db with
  | .error error => .error error
  | .ok exclusions =>
      let excluded := exclusions.foldl (firstUndecided byPeer) []
      let terminal := peer ++ excluded.map fun entry => terminateDecision entry.1 entry.2
      let decided := terminal.filterMap (·.grantPk)
      if localGrants.all fun frozen => frozen.terminated || decided.contains frozen.grantPk then
        .ok ⟨localGrants, terminal, [], decided, true⟩
      else
        match ctx.stages.iapDecisions snapshot localGrants decided db with
        | .error error => .error error
        | .ok iap =>
            let ended := (iap.filter fun decision => decision.action = .terminate).filterMap (·.grantPk)
            .ok ⟨localGrants, terminal, iap, decided ++ ended, false⟩

def effectiveEirp (iap : List (CpasDecision K)) (grantId : String) : Option K :=
  (iap.reverse.find? fun decision =>
    decision.action = .reducePower && decision.grantId = grantId && decision.authorizedEirpDbmMhz.isSome).bind
      (·.authorizedEirpDbmMhz)

def frozenDpaGrants (early : EarlyDecisions K) : List (Dpa.DpaGrantRf K) :=
  let ended := (early.iap.filter fun decision => decision.action = .terminate && decision.reason = "iap").map (·.grantId)
  (early.localGrants.filter fun frozen =>
    !early.decidedPks.contains frozen.grantPk && !ended.contains frozen.grantId).filterMap fun frozen =>
      (frozenToDpaGrantRf frozen).map fun rf =>
        { rf with maxEirpDbmMhz := (effectiveEirp early.iap rf.grantId).getD rf.maxEirpDbmMhz }

def activationChannel (db : Database K) (row : Activation) : Option (Dpa.ProtectedDpaChannel K) :=
  (db.catalogue.reverse.find? fun definition => definition.dpaId = row.dpaId).map fun definition =>
    ⟨row.dpaId, row.lowHz, row.highHz, .active, definition.geometry, definition.neighborhoodKm,
      definition.thresholdDbmPer10mhz, definition.refHeightM⟩

def localMovelist (channel : Dpa.ProtectedDpaChannel K) (grants : List (Dpa.DpaGrantRf K)) : List String :=
  let neighborhood := Dpa.filterGrantsInNeighborhood ctx.backends channel grants
  let moved := (Dpa.evaluateProtectedChannel ctx.backends channel neighborhood Dpa.defaultDpaMarginDb).movelist
  let managing := (neighborhood.filter (·.isManagingSas)).map (·.grantId)
  moved.filter managing.contains

-- The movelists of refresh_activation_movelists, all of them computed before the first is written.
def refreshedMovelists (db : Database K) (grants : List (Dpa.DpaGrantRf K)) : List (Activation × List String) :=
  db.activations.filterMap fun row =>
    (activationChannel db row).map fun channel => (row, localMovelist ctx channel grants)

def writeMovelists (lists : List (Activation × List String)) (db : Database K) : Database K :=
  { db with
    activations := lists.foldl (fun rows entry =>
      upsertActivation entry.1.dpaId entry.1.lowHz entry.1.highHz entry.2 (ctx.clock 0) rows) db.activations }

def grantOnAnyMovelist (db : Database K) (grantId : String) : Bool :=
  db.activations.any fun row => row.movelist.contains grantId

def mergeWithMovelists (early : EarlyDecisions K) (db : Database K) : List (CpasDecision K) :=
  let dpa := (early.localGrants.filter fun frozen =>
    !early.decidedPks.contains frozen.grantPk && grantOnAnyMovelist db frozen.grantId).map fun frozen =>
      terminateDecision frozen "dpa_movelist"
  let kept := early.iap.filter fun decision =>
    !((dpa.map (·.grantId)).contains decision.grantId && decision.action = .reducePower)
  mergeConstraintDecisions early.peer kept dpa

-- evaluate_cpas_protections, going on with `next`. It leaves the new movelists in the open transaction.
def evaluateCpasProtections (next : List (CpasDecision K) → Prog (Database K) CpasError) : Prog (Database K) CpasError :=
  if snapshot.activeGrantPks.isEmpty && snapshot.localGrants.isEmpty then next []
  else
    .read fun db =>
      match earlyDecisions ctx snapshot db with
      | .error error => .raise error
      | .ok early =>
          let grants := frozenDpaGrants early
          let peers := ctx.stages.peerDpaGrants snapshot
          if early.allResolved || (grants.isEmpty && peers.isEmpty) then
            next (mergeConstraintDecisions early.peer early.iap [])
          else
            match ctx.stages.dpaFault db (grants ++ peers) with
            | some error => .raise error
            | none =>
                .write (writeMovelists ctx (refreshedMovelists ctx db (grants ++ peers)))
                  (.read fun refreshed => next (mergeWithMovelists early refreshed))

def writeDecisions (decisions : List (CpasDecision K)) (db : Database K) : Database K :=
  { db with store := (applyCpasDecisions ctx.clock decisions 0 db.store).1 }

-- apply_cpas_decisions and its flush, going on with the number of changes.
def applyDecisions (decisions : List (CpasDecision K)) (next : Nat → Prog (Database K) CpasError) :
    Prog (Database K) CpasError :=
  .read fun db =>
    let applied := applyCpasDecisions ctx.clock decisions 0 db.store
    .write (writeDecisions ctx decisions)
      (match if applied.2 = 0 then none else ctx.flushFault applied.1 with
        | some error => .raise error
        | none => next applied.2)

-- create_full_activity_dump with commit=False, going on with the id of the dump.
def createFullActivityDump (next : Nat → Prog (Database K) CpasError) : Prog (Database K) CpasError :=
  .read fun db =>
    match ctx.buildPayload db with
    | .error error => .raise error
    | .ok payload => .write (publishSnapshot payload) (next db.nextDumpId)

def saveMeta (time : LocalTime) (now : Int) (db : Database K) : Database K :=
  { db with scheduleMeta := { db.scheduleMeta with
      lastSuccessfulLocalDate := some time.date
      lastSuccessfulAt := some (wholeSecond now) } }

def appendScheduleAudit (event localDate : String) (db : Database K) : Database K :=
  { db with scheduleAudit := db.scheduleAudit ++ [(event, localDate)] }

def markScheduledSuccessIfApplicable (now : Int) (next : Prog (Database K) CpasError) : Prog (Database K) CpasError :=
  .read fun db =>
    if db.scheduleEnabled then
      match isWithinCpasWindow ctx.schedule now with
      | .error error => .raise error
      | .ok false => next
      | .ok true =>
          match localNow ctx.schedule now with
          | .error error => .raise error
          | .ok time =>
              .write (saveMeta time now)
                (.commit (.write (appendScheduleAudit "cpas_end_ok" time.date) (.commit next)))
    else next

-- The locals that the work leaves to the bookkeeping.
structure WorkResult (K : Type) where
  decisions : List (CpasDecision K)
  terminated : Nat
  dumpId : Nat

def completedRun (result : WorkResult K) : CompletedRun :=
  ⟨result.dumpId, result.terminated,
    result.decisions.map fun decision => (decision.grantId, decision.cbsdId, decision.reason),
    snapshot.authorizationGeneration, ctx.clock 2⟩

-- The end of the section: the mark, the marker and the audit row, then the commit.
def bookkeeping (result : WorkResult K) : Prog (Database K) CpasError :=
  .write clearCpasReevaluationRequired
    (.write (recordIapAdmissionGeneration snapshot.authorizationGeneration)
      (.write (appendCpasAudit (.completed (completedRun ctx snapshot result))) (.commit .done)))

def driftReason : String := "generation_drift_before_cpas_apply"

def checkedWork (next : WorkResult K → Prog (Database K) CpasError) : Prog (Database K) CpasError :=
  evaluateCpasProtections ctx snapshot fun decisions =>
    applyDecisions ctx decisions fun terminated =>
      createFullActivityDump ctx fun dumpId => next ⟨decisions, terminated, dumpId⟩

def drifted (live : Database K) : Bool :=
  !authorizationGenerationMatches snapshot.authorizationGeneration (currentGenerationFingerprint live)

-- The section up to the schedule bookkeeping. Place 1 is before the drift check, place 2 after it.
def sectionWork (next : WorkResult K → Prog (Database K) CpasError) : Prog (Database K) CpasError :=
  .note 1 (.lock
    (.read fun live =>
      if !drifted snapshot live then .note 2 (checkedWork ctx snapshot next)
      else
        .write (markCpasReevaluationRequired driftReason (ctx.clock 0)) (.commit (.raise .generationDrift))))

def runPipelineCriticalSection : Prog (Database K) CpasError :=
  sectionWork ctx snapshot fun result =>
    markScheduledSuccessIfApplicable ctx (ctx.clock 1) (bookkeeping ctx snapshot result)

def recordFailure (error : CpasError) : Prog (Database K) CpasError :=
  .rollback (.write (appendCpasAudit (.failed error (ctx.clock 3))) (.commit (.raise error)))

-- The preview, whose decisions are only reported, and the section up to its bookkeeping.
def previewedWork (next : WorkResult K → Prog (Database K) CpasError) : Prog (Database K) CpasError :=
  evaluateCpasProtections ctx snapshot fun _ => sectionWork ctx snapshot next

-- The try body of execute_cpas_pipeline after the freeze: the preview, then the section.
def afterFreeze : Prog (Database K) CpasError :=
  evaluateCpasProtections ctx snapshot fun _ => runPipelineCriticalSection ctx snapshot

def executeAfterFreeze : Prog (Database K) CpasError := (afterFreeze ctx snapshot).guarded (recordFailure ctx)

end Evaluation

end SasCore.Cpas
