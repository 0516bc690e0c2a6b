import SasCore.Cpas.PreIap
import SasCore.Cpas.IapStage
import SasCore.Cpas.Coherence

set_option autoImplicit false
set_option linter.unusedSectionVars false

namespace SasCore.Cpas

open Registry Txn Txn.Prog

variable {K : Type} [Field K] [LinearOrder K]

-- The database with the ESC state and the quiet-zone rows.
structure LiveDatabase (K : Type) extends Database K where
  escState : EscConnectivity
  quiet : QuietZoneTables

def freezeGeneration (now : Int) (live : LiveDatabase K) : FrozenGeneration K :=
  ⟨freezeCpasSnapshot now live.toDatabase, live.escState⟩

-- What an evaluation takes from outside the database: the readers and geography, the engine's model, the
-- builders of the points, the spectrum profile's peer rules, the settings, the coupling provider with its
-- failures, and the exceptions of the DPA stage's backends.
structure EvaluationEnv (K : Type) [Zero K] [LT K] where
  source : Iap.PointSource K
  geo : Geography K
  model : Iap.RadioModel K
  showFloat : K → String
  builders : PointBuilders (Iap.ProtectionPoint K)
  peerPpaBufferM : K
  peerEscRadiusM : K
  peerEscLowHz : Int
  peerEscHighHz : Int
  iapEnabled : Bool
  makeCoupling : Except String (Option (Iap.InterferenceCoupling K))
  dpaFault : List (DpaDefinition K) → List Activation → List (Dpa.DpaGrantRf K) → Option CpasError

-- The keyword arguments of evaluate_cpas_protections.
structure IapOverrides (K : Type) where
  points : Option (List (Iap.ProtectionPoint K)) := none
  coupling : Option (Iap.InterferenceCoupling K) := none
  buildFromDb : Bool := true

-- An exception of another class passes through as it is.
def rawError : StageFault → CpasError
  | .entity message => .database message
  | .raised name => .database name

def rfError (heading : String) : StageFault → CpasError
  | .entity message => .rfEvaluation (heading ++ message)
  | .raised name => .database name

section PeerRules

variable (env : EvaluationEnv K)

def frozenPeerRecords (readers : PyReaders K) (records : List (Nat × PeerFadRecord)) (recordType : String) : List (Json K) :=
  records.filterMap fun entry => if entry.2.recordType = recordType then loadRecord readers entry.2.dataJson else none

def activePeerGrants (record : Json K) : List (Json K) :=
  (record.field "grants").items.filter fun grant => grant.isObject && !(grant.field "terminated").isTrue

def frozenPeerHasGrantForCbsd (frozen : FrozenLocalGrantRf K) (peerCbsds : List (Json K)) : Bool :=
  let target := "cbsd/" ++ frozen.fccId ++ "/" ++ env.source.sha1Hex frozen.cbsdSerialNumber
  peerCbsds.any fun record => (record.field "id").isText target && !(activePeerGrants record).isEmpty

def indexByPalId (readers : PyReaders K) (pals : List (Json K)) : List (String × Json K) :=
  pals.foldl (fun index pal =>
    if (pal.field "palId").truthy then PyDict.set ((pal.field "palId").toText readers) pal index else index) []

def frozenPalIndex (readers : PyReaders K) (tables : ProtectionTables) : List (String × Json K) :=
  indexByPalId readers (tables.pals.filterMap fun pal => loadRecord readers pal.2)

def loadPalRecords (readers : PyReaders K) (db : Database K) : List (Json K) :=
  db.tables.pals.filterMap fun pal => loadRecord readers pal.2

-- _pal_freq of the spectrum inquiry, `none` where it raises.
def inquiryPalFreq (readers : PyReaders K) (pal : Json K) : Option (Option (Int × Int)) :=
  ((pal.field "channelAssignment").orEmpty).bind fun channel =>
    ((channel.field "primaryAssignment").orEmpty).bind fun assignment =>
      let low := assignment.field "lowFrequency"
      let high := assignment.field "highFrequency"
      if low.isNull || high.isNull then some none
      else (low.toInt readers).bind fun lowHz => (high.toInt readers).map fun highHz => some (lowHz, highHz)

-- The range of one PAL id. A second lookup under the id itself finds no more, and raises for a list or an object.
def palRange (palById : List (String × Json K)) (palId : Json K) : Except StageFault (Option (Int × Int)) :=
  match PyDict.lookup palById (palId.toText env.source.readers) with
  | none =>
      match palId with
      | .array _ => .error (.raised "TypeError")
      | .object _ => .error (.raised "TypeError")
      | _ => .ok none
  | some pal =>
      match Iap.palFreqFromRecord env.source pal with
      | some range => .ok (some range)
      | none =>
          match inquiryPalFreq env.source.readers pal with
          | none => .error (.raised "ValueError")
          | some range => .ok range

-- Without an index the PALs are loaded from the live database.
def ppaProtectedRanges (db : Database K) (ppa : Json K) (palById : Option (List (String × Json K))) :
    Except StageFault (List (Int × Int)) :=
  match (ppa.field "ppaInfo").orEmpty with
  | none => .error (.raised "AttributeError")
  | some ppaInfo =>
      match (ppaInfo.field "palId").iterated with
      | none => .error (.raised "TypeError")
      | some [] => .ok []
      | some palIds =>
          let index :=
            match palById with
            | some index => index
            | none => indexByPalId env.source.readers (loadPalRecords env.source.readers db)
          (palIds.mapM (palRange env index)).map fun ranges => ranges.filterMap id

def peerPpaApplies (lat lon : K) (record : Json K) : Bool :=
  ((record.field "usage").isText "PPA" || record.has "ppaInfo") && !(record.field "terminated").isTrue &&
    env.geo.withinGeojsonBufferM lat lon (record.field "zone") env.peerPpaBufferM

def anyPeerPpa (db : Database K) (palById : Option (List (String × Json K))) (lat lon : K) (lowHz highHz : Int) :
    List (Json K) → Except StageFault Bool
  | [] => .ok false
  | record :: rest =>
      if !peerPpaApplies env lat lon record then anyPeerPpa db palById lat lon lowHz highHz rest
      else
        match ppaProtectedRanges env db record palById with
        | .error fault => .error fault
        | .ok ranges =>
            if ranges.any fun range => freqOverlap lowHz highHz range.1 range.2 then .ok true
            else anyPeerPpa db palById lat lon lowHz highHz rest

def frozenConflictsPeerPpa (db : Database K) (frozen : FrozenLocalGrantRf K) (peerZones : List (Json K))
    (palById : Option (List (String × Json K))) : Except StageFault Bool :=
  match frozen.latitude, frozen.longitude with
  | some lat, some lon => anyPeerPpa env db palById lat lon frozen.lowHz frozen.highHz peerZones
  | _, _ => .ok false

def anyPeerEsc (lat lon : K) : List (Json K) → Except StageFault Bool
  | [] => .ok false
  | record :: rest =>
      match (record.field "installationParam").orEmpty with
      | none => .error (.raised "AttributeError")
      | some inst =>
          let escLat := inst.field "latitude"
          let escLon := inst.field "longitude"
          if escLat.isNull || escLon.isNull then anyPeerEsc lat lon rest
          else
            match escLat.toFloat env.source.readers, escLon.toFloat env.source.readers with
            | some y, some x =>
                if env.geo.haversineM lat lon y x ≤ env.peerEscRadiusM then .ok true else anyPeerEsc lat lon rest
            | _, _ => .error (.raised "ValueError")

def frozenConflictsPeerEsc (frozen : FrozenLocalGrantRf K) (peerEsc : List (Json K)) : Except StageFault Bool :=
  if !freqOverlap frozen.lowHz frozen.highHz env.peerEscLowHz env.peerEscHighHz then .ok false
  else
    match frozen.latitude, frozen.longitude with
    | some lat, some lon => anyPeerEsc env lat lon peerEsc
    | _, _ => .ok false

def peerReason (db : Database K) (snapshot : CpasSnapshot K) (frozen : FrozenLocalGrantRf K) :
    Except StageFault (Option String) :=
  let readers := env.source.readers
  let records := snapshot.peerRecords
  firstReason
    [fun _ => .ok (if frozenPeerHasGrantForCbsd env frozen (frozenPeerRecords readers records "cbsd") then
        some "peer_same_cbsd_grant" else none),
      fun _ => reasonWhen "peer_ppa" (frozenConflictsPeerPpa env db frozen (frozenPeerRecords readers records "zone")
        (some (frozenPalIndex readers snapshot.protectionRecords))),
      fun _ => reasonWhen "peer_esc" (frozenConflictsPeerEsc env frozen (frozenPeerRecords readers records "esc_sensor"))]

def peerDecision (db : Database K) (snapshot : CpasSnapshot K) (frozen : FrozenLocalGrantRf K) :
    Except StageFault (Option (CpasDecision K)) :=
  if frozen.terminated then .ok none
  else (peerReason env db snapshot frozen).map fun found => found.map (terminateDecision frozen)

def peerDecisions (db : Database K) (snapshot : CpasSnapshot K) (localGrants : List (FrozenLocalGrantRf K)) :
    Except StageFault (List (CpasDecision K)) :=
  (localGrants.mapM (peerDecision env db snapshot)).map fun found => found.filterMap id

end PeerRules

section IapContext

variable (env : EvaluationEnv K)

-- Without frozen records the points are built from the live database.
def resolveIapPoints (db : Database K) (points : Option (List (Iap.ProtectionPoint K))) (buildFromDb : Bool)
    (protection : Option (ProtectionTables × EscConnectivity)) (peerEsc : List (String × String)) :
    Except String (List (Iap.ProtectionPoint K)) :=
  match points with
  | some given => .ok given
  | none =>
      if !buildFromDb then .ok []
      else
        match protection with
        | some (tables, escState) => buildProtectionPointsFromFrozen env.builders tables escState peerEsc
        | none => buildProtectionPointsFromDb env.builders db

structure IapContext (K : Type) where
  points : List (Iap.ProtectionPoint K)
  coupling : Option (Iap.InterferenceCoupling K)

def resolveIapContext (db : Database K) (generation : FrozenGeneration K) (overrides : IapOverrides K) :
    Except String (IapContext K) :=
  if !env.iapEnabled then .ok ⟨[], none⟩
  else
    let protection :=
      if overrides.points.isNone then some (generation.snapshot.protectionRecords, generation.escState) else none
    let peerEsc :=
      if overrides.points.isNone then peerEscSensors env.source.readers generation.snapshot.peerRecords else []
    match resolveIapPoints env db overrides.points overrides.buildFromDb protection peerEsc with
    | .error message => .error ("IAP protection entity invalid: " ++ message)
    | .ok [] => .ok ⟨[], none⟩
    | .ok points =>
        match overrides.coupling with
        | some coupling => .ok ⟨points, some coupling⟩
        | none =>
            match env.makeCoupling with
            | .error message => .error message
            | .ok none => .error "IAP protection entities present but coupling provider returned None"
            | .ok (some coupling) => .ok ⟨points, some coupling⟩

-- `none` where a peer row makes the stage raise.
def contextDecisions (snapshot : CpasSnapshot K) (localGrants : List (FrozenLocalGrantRf K)) (decidedPks : List Nat)
    (context : IapContext K) : Option (List (CpasDecision K)) :=
  match context.coupling with
  | none => some []
  | some coupling =>
      iapStage env.model env.showFloat env.source.readers snapshot localGrants decidedPks context.points coupling

end IapContext

section Evaluate

variable (env : EvaluationEnv K) (ctx : CpasContext K) (overrides : IapOverrides K) (generation : FrozenGeneration K)
variable (live : LiveDatabase K)

def terminalDecisions (peer : List (CpasDecision K)) (exclusions : List (FrozenLocalGrantRf K × String)) :
    List (CpasDecision K) :=
  peer ++ (exclusions.foldl (firstUndecided (peer.filterMap (·.grantPk))) []).map fun entry =>
    terminateDecision entry.1 entry.2

def iapEnded (iap : List (CpasDecision K)) : List Nat :=
  (iap.filter fun decision => decision.action = .terminate).filterMap (·.grantPk)

-- The stages before the DPA stage.
def stagesBeforeDpa : Except CpasError (EarlyDecisions K) :=
  let snapshot := generation.snapshot
  let db := live.toDatabase
  let localGrants := hydratedGrants snapshot db
  match peerDecisions env db snapshot localGrants with
  | .error fault => .error (rawError fault)
  | .ok peer =>
      match evaluatePreIapExclusions env.source.readers env.geo snapshot.protectionRecords live.quiet localGrants with
      | .error fault => .error (rfError "pre-IAP exclusion failed: " fault)
      | .ok exclusions =>
          let terminal := terminalDecisions peer exclusions
          let decided := terminal.filterMap (·.grantPk)
          if localGrants.all fun frozen => frozen.terminated || decided.contains frozen.grantPk then
            .ok ⟨localGrants, terminal, [], decided, true⟩
          else
            match resolveIapContext env db generation overrides with
            | .error message => .error (.rfEvaluation message)
            | .ok context =>
                match contextDecisions env snapshot localGrants decided context with
                | none => .error (.database "ValueError")
                | some iap => .ok ⟨localGrants, terminal, iap, decided ++ iapEnded iap, false⟩

-- The DPA stage and the merge, over the movelists the stage leaves in the transaction.
def dpaStage (early : EarlyDecisions K) : Except CpasError (List (CpasDecision K)) :=
  let db := live.toDatabase
  if early.allResolved then .ok (mergeConstraintDecisions early.peer early.iap [])
  else
    let grants := frozenDpaGrants early
    match dpaGrantsFromFrozenPeerCbsds env.source.readers
        (frozenPeerCbsdRows env.source.readers generation.snapshot.peerRecords) with
    | none => .error (.database "ValueError")
    | some peers =>
        if grants.isEmpty && peers.isEmpty then .ok (mergeConstraintDecisions early.peer early.iap [])
        else
          match env.dpaFault db.catalogue db.activations (grants ++ peers) with
          | some error => .error error
          | none => .ok (mergeWithMovelists early (writeMovelists ctx (refreshedMovelists ctx db (grants ++ peers)) db))

def evaluateProtections : Except CpasError (List (CpasDecision K)) :=
  if generation.snapshot.activeGrantPks.isEmpty && generation.snapshot.localGrants.isEmpty then .ok []
  else
    match stagesBeforeDpa env overrides generation live with
    | .error error => .error error
    | .ok early => dpaStage env ctx generation live early

end Evaluate

section Pipeline

variable (env : EvaluationEnv K) (ctx : CpasContext K) (overrides : IapOverrides K) (generation : FrozenGeneration K)
variable (live : LiveDatabase K)

-- The evaluation as stages of the pipeline's body.
def liveStages : EvaluationStages K where
  peerReason := fun snapshot frozen => (peerReason env live.toDatabase snapshot frozen).toOption.join
  preIapExclusions := fun snapshot localGrants _ =>
    (evaluatePreIapExclusions env.source.readers env.geo snapshot.protectionRecords live.quiet localGrants).mapError
      (rfError "pre-IAP exclusion failed: ")
  iapDecisions := fun snapshot localGrants decidedPks db =>
    match resolveIapContext env db generation overrides with
    | .error message => .error (.rfEvaluation message)
    | .ok context =>
        match contextDecisions env snapshot localGrants decidedPks context with
        | none => .error (.database "ValueError")
        | some iap => .ok iap
  peerDpaGrants := fun snapshot =>
    (dpaGrantsFromFrozenPeerCbsds env.source.readers (frozenPeerCbsdRows env.source.readers snapshot.peerRecords)).getD []
  dpaFault := fun db grants => env.dpaFault db.catalogue db.activations grants

def liveContext : CpasContext K := { ctx with stages := liveStages env overrides generation live }

theorem peer_decisions_staged (db : Database K) (snapshot : CpasSnapshot K) (localGrants : List (FrozenLocalGrantRf K))
    (peer : List (CpasDecision K)) (decided : peerDecisions env db snapshot localGrants = .ok peer) :
    peer = (localGrants.filter fun frozen => !frozen.terminated).filterMap fun frozen =>
      ((peerReason env db snapshot frozen).toOption.join).map (terminateDecision frozen) := by
  rw [peerDecisions] at decided
  cases all : localGrants.mapM (peerDecision env db snapshot) with
  | error fault =>
      rw [all] at decided
      cases decided
  | ok results =>
      rw [all] at decided
      cases decided
      have each := Collect.all_ok _ localGrants results all
      clear all
      dsimp only
      induction localGrants generalizing results with
      | nil =>
          rw [List.map_nil, eq_comm, List.map_eq_nil_iff] at each
          rw [each]
          rfl
      | cons frozen rest ih =>
          cases results with
          | nil => cases each
          | cons result others =>
              rw [List.map_cons, List.map_cons, List.cons.injEq] at each
              have later := ih others each.2
              rw [peerDecision] at each
              cases ended : frozen.terminated with
              | true =>
                  rw [ended] at each
                  have skipped : result = none := (Except.ok.inj each.1).symm
                  rw [List.filter_cons_of_neg (by simp [ended]), skipped, List.filterMap_cons_none rfl]
                  exact later
              | false =>
                  rw [ended] at each
                  rw [List.filter_cons_of_pos (by simp [ended])]
                  cases reason : peerReason env db snapshot frozen with
                  | error fault =>
                      rw [reason] at each
                      cases each.1
                  | ok found =>
                      rw [reason] at each
                      have isResult : result = found.map (terminateDecision frozen) := (Except.ok.inj each.1).symm
                      rw [isResult]
                      simp only [List.filterMap_cons, reason]
                      cases found with
                      | none => exact later
                      | some text => exact congrArg _ later

theorem early_decisions_staged (early : EarlyDecisions K) (decided : stagesBeforeDpa env overrides generation live = .ok early) :
    earlyDecisions (liveContext env ctx overrides generation live) generation.snapshot live.toDatabase = .ok early := by
  rw [stagesBeforeDpa] at decided
  dsimp only at decided
  split at decided
  · cases decided
  · rename_i peer peerDecided
    have staged := peer_decisions_staged env live.toDatabase generation.snapshot _ peer peerDecided
    split at decided
    · cases decided
    · rename_i exclusions excluded
      simp only [earlyDecisions, liveContext, liveStages, excluded, Except.mapError, ← staged]
      split at decided
      · rename_i resolved
        cases decided
        exact if_pos resolved
      · rename_i unresolved
        refine (if_neg unresolved).trans ?_
        split at decided
        · cases decided
        · rename_i context isContext
          split at decided
          · cases decided
          · rename_i iap isIap
            cases decided
            simp only [terminalDecisions] at isIap
            simp only [isIap]
            rfl

-- What the pipeline's body goes on with is what the evaluation decides.
theorem pipeline_evaluates (session : Txn.Session (Database K)) (seen : session.view = live.toDatabase)
    (decisions : List (CpasDecision K)) (decided : evaluateProtections env ctx overrides generation live = .ok decisions) :
    ∃ reached, Leads (evaluateCpasProtections (liveContext env ctx overrides generation live) generation.snapshot) session
      decisions reached := by
  rw [evaluateProtections] at decided
  by_cases nothing : (generation.snapshot.activeGrantPks.isEmpty && generation.snapshot.localGrants.isEmpty) = true
  · rw [if_pos nothing] at decided
    cases decided
    refine ⟨session, fun next => ?_⟩
    rw [evaluateCpasProtections, if_pos nothing]
    exact ⟨rfl, rfl⟩
  · rw [if_neg nothing] at decided
    cases staged : stagesBeforeDpa env overrides generation live with
    | error error =>
        rw [staged] at decided
        cases decided
    | ok early =>
        have found := early_decisions_staged env ctx overrides generation live early staged
        rw [staged] at decided
        dsimp only [dpaStage] at decided
        by_cases resolved : early.allResolved = true
        · rw [if_pos resolved] at decided
          cases decided
          refine ⟨session, fun next => ?_⟩
          simp only [evaluateCpasProtections, if_neg nothing, published, exec, seen, found, resolved, Bool.true_or, if_true,
            and_self]
        · rw [if_neg resolved] at decided
          cases parsed : dpaGrantsFromFrozenPeerCbsds env.source.readers
              (frozenPeerCbsdRows env.source.readers generation.snapshot.peerRecords) with
          | none =>
              rw [parsed] at decided
              cases decided
          | some peers =>
              have stagePeers : (liveContext env ctx overrides generation live).stages.peerDpaGrants generation.snapshot = peers :=
                congrArg (·.getD []) parsed
              rw [parsed] at decided
              dsimp only at decided
              by_cases quiet : ((frozenDpaGrants early).isEmpty && peers.isEmpty) = true
              · rw [if_pos quiet] at decided
                cases decided
                refine ⟨session, fun next => ?_⟩
                simp only [evaluateCpasProtections, if_neg nothing, published, exec, seen, found, stagePeers, quiet, Bool.or_true,
                  if_true, and_self]
              · rw [if_neg quiet] at decided
                cases fault : env.dpaFault live.catalogue live.activations (frozenDpaGrants early ++ peers) with
                | some error =>
                    rw [fault] at decided
                    cases decided
                | none =>
                    rw [fault] at decided
                    cases decided
                    have runs : ¬ (early.allResolved || ((frozenDpaGrants early).isEmpty && peers.isEmpty)) = true := by
                      rw [Bool.or_eq_true, not_or]
                      exact ⟨resolved, quiet⟩
                    have stageFault : (liveContext env ctx overrides generation live).stages.dpaFault live.toDatabase
                        (frozenDpaGrants early ++ peers) = none := fault
                    refine ⟨session.write (writeMovelists (liveContext env ctx overrides generation live)
                      (refreshedMovelists (liveContext env ctx overrides generation live) live.toDatabase
                        (frozenDpaGrants early ++ peers))), fun next => ?_⟩
                    simp only [evaluateCpasProtections, if_neg nothing, published, exec, seen, found, stagePeers, if_neg runs,
                      stageFault]
                    rw [← seen]
                    exact ⟨rfl, rfl⟩

end Pipeline

end SasCore.Cpas
