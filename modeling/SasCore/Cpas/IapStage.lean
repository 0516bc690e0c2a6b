import SasCore.Cpas.PeerPopulation
import SasCore.Iap.PointEffect
import SasCore.Iap.ProtectionPoints

set_option autoImplicit false
set_option linter.unusedSectionVars false

namespace SasCore.Cpas

open Registry

variable {K : Type} [Field K] [LinearOrder K]

def kindValue : Iap.ProtectedEntityKind → String
  | .esc => "esc"
  | .fssCochannel => "fss_cochannel"
  | .fssBlocking => "fss_blocking"
  | .ppa => "ppa"
  | .gwpz => "gwpz"
  | .generic => "generic"

-- The texts of the engine; `showFloat` is what an f-string writes for a float.
def explanationText (showFloat : K → String) : Iap.Explanation K → String
  | .noOverlappingChannels pointId => "no overlapping IAP channels for point " ++ pointId
  | .belowFloor pointId kind floor =>
      "IAP " ++ pointId ++ "/" ++ kindValue kind ++ ": EIRP fell below floor " ++ showFloat floor ++ " dBm/MHz"
  | .reduced pointId kind initial final =>
      "IAP " ++ pointId ++ "/" ++ kindValue kind ++ ": EIRP " ++ showFloat initial ++ "→" ++ showFloat final ++
        " dBm/MHz to meet fairshare"
  | .withinFairshare pointId kind final =>
      "IAP " ++ pointId ++ "/" ++ kindValue kind ++ ": within fairshare at " ++ showFloat final ++ " dBm/MHz"
  | .joined first second => explanationText showFloat first ++ "; " ++ explanationText showFloat second

def frozenToIapGrantRf (frozen : FrozenLocalGrantRf K) : Option (Iap.GrantRfInfo K) :=
  match frozen.latitude, frozen.longitude with
  | some latitude, some longitude =>
      some
        { grantId := frozen.grantId
          cbsdId := frozen.cbsdId
          latitude := latitude
          longitude := longitude
          heightM := frozen.heightM.getD 0
          heightIsAgl := frozen.heightIsAgl
          indoor := frozen.indoor
          lowHz := frozen.lowHz
          highHz := frozen.highHz
          maxEirpDbmMhz := frozen.maxEirpDbmMhz.getD 0
          isManagingSas := true
          grantPk := some frozen.grantPk
          sourceSasId := none
          cbsdCategory := frozen.cbsdCategory.map fun
            | .a => "A"
            | .b => "B"
          antennaAzimuthDeg := frozen.antennaAzimuth
          antennaBeamwidthDeg := frozen.antennaBeamwidth
          antennaGainDbi := frozen.antennaGain }
  | _, _ => none

-- The sort key: managing grants first, then by row, peer and id.
def rfKeyLe (a b : Iap.GrantRfInfo K) : Bool :=
  let rank := fun g : Iap.GrantRfInfo K => if g.isManagingSas then 0 else 1
  let row := fun g : Iap.GrantRfInfo K => g.grantPk.getD (10 ^ 18)
  rank a < rank b || (rank a == rank b && (row a < row b || (row a == row b && Iap.peerKeyLe a b)))

def iapAction : Iap.IapAction → CpasAction
  | .terminate => .terminate
  | .suspend => .suspend
  | .reducePower => .reducePower
  | .keep => .unknown

-- A row number that is missing or 0 is passed over, and so is a grant that is kept.
def iapDecisionOf (showFloat : K → String) (item : Iap.IapGrantDecision K) : Option (CpasDecision K) :=
  match item.grantPk with
  | none => none
  | some pk =>
      if pk = 0 ∨ item.action = .keep then none
      else
        some
          { grantPk := some pk.toNat
            grantId := item.grantId
            cbsdId := item.cbsdId
            action := iapAction item.action
            authorizedEirpDbmMhz := some item.authorizedEirpDbmMhz
            reason := "iap"
            explanation := explanationText showFloat item.explanation }

section Stage

variable (model : Iap.RadioModel K) (showFloat : K → String) (readers : PyReaders K)

def localRfGrants (localGrants : List (FrozenLocalGrantRf K)) (decidedPks : List Nat) : List (Iap.GrantRfInfo K) :=
  localGrants.filterMap fun frozen =>
    if frozen.terminated || decidedPks.contains frozen.grantPk then none else frozenToIapGrantRf frozen

-- `none` where reading a peer row raises.
def iapRfGrants (snapshot : CpasSnapshot K) (localGrants : List (FrozenLocalGrantRf K)) (decidedPks : List Nat) :
    Option (List (Iap.GrantRfInfo K)) :=
  (Iap.grantRfInfosFromFrozenPeerCbsds readers (frozenPeerCbsdRows readers snapshot.peerRecords)).map fun peers =>
    (localRfGrants localGrants decidedPks ++ peers).mergeSort rfKeyLe

def evaluateIapDecisionsFromFrozen (snapshot : CpasSnapshot K) (localGrants : List (FrozenLocalGrantRf K))
    (decidedPks : List Nat) (points : List (Iap.ProtectionPoint K)) (coupling : Iap.InterferenceCoupling K) :
    Option (List (CpasDecision K)) :=
  (iapRfGrants readers snapshot localGrants decidedPks).map fun grants =>
    if grants.any (·.isManagingSas) then
      (Iap.runIap model Iap.iapEngineConfig coupling points grants).mergedDecisions.filterMap (iapDecisionOf showFloat)
    else []

-- Without points the stage is passed over.
def iapStage (snapshot : CpasSnapshot K) (localGrants : List (FrozenLocalGrantRf K)) (decidedPks : List Nat)
    (points : List (Iap.ProtectionPoint K)) (coupling : Iap.InterferenceCoupling K) : Option (List (CpasDecision K)) :=
  if points.isEmpty then some []
  else evaluateIapDecisionsFromFrozen model showFloat readers snapshot localGrants decidedPks points coupling

def stageDecision (stage : Option (List (CpasDecision K))) (grantId : String) : Option (CpasDecision K) :=
  stage.bind fun decisions => decisions.find? fun decision => decision.grantId = grantId

end Stage

section Lookup

variable (model : Iap.RadioModel K) (showFloat : K → String) (readers : PyReaders K)
variable (snapshot : CpasSnapshot K) (localGrants : List (FrozenLocalGrantRf K)) (decidedPks : List Nat)

theorem iap_decision_of_named (item : Iap.IapGrantDecision K) (decision : CpasDecision K)
    (converted : iapDecisionOf showFloat item = some decision) :
    decision.grantId = item.grantId ∧ decision.grantPk = item.grantPk.map Int.toNat ∧ decision.reason = "iap" ∧
      decision.action = iapAction item.action ∧ item.action ≠ .keep ∧
      decision.explanation = explanationText showFloat item.explanation := by
  rw [iapDecisionOf] at converted
  cases row : item.grantPk with
  | none =>
      rw [row] at converted
      cases converted
  | some pk =>
      rw [row] at converted
      dsimp only at converted
      split at converted
      · cases converted
      · rename_i acts
        cases converted
        exact ⟨rfl, rfl, rfl, rfl, fun kept => acts (Or.inr kept), rfl⟩

theorem find_converted (items : List (Iap.IapGrantDecision K)) (distinct : (items.map (·.grantId)).Nodup) (grantId : String) :
    ((items.filterMap (iapDecisionOf showFloat)).find? fun decision => decision.grantId = grantId) =
      (Iap.decisionFor items grantId).bind (iapDecisionOf showFloat) := by
  induction items with
  | nil => rfl
  | cons item rest ih =>
      rw [List.map_cons, List.nodup_cons] at distinct
      have others := ih distinct.2
      by_cases here : item.grantId = grantId
      · have found : Iap.decisionFor (item :: rest) grantId = some item := by
          rw [Iap.decisionFor, List.find?_cons_of_pos (by simpa using here)]
        rw [found, Option.bind_some]
        cases converted : iapDecisionOf showFloat item with
        | none =>
            rw [List.filterMap_cons_none converted, others]
            have absent : Iap.decisionFor rest grantId = none := by
              refine List.find?_eq_none.mpr fun other member same => distinct.1 ?_
              rw [here, ← beq_iff_eq.mp same]
              exact List.mem_map_of_mem member
            rw [absent, Option.bind_none]
        | some decision =>
            have named := (iap_decision_of_named showFloat item decision converted).1
            rw [List.filterMap_cons_some converted, List.find?_cons_of_pos (by simpa using named.trans here)]
      · have skipped : Iap.decisionFor (item :: rest) grantId = Iap.decisionFor rest grantId := by
          rw [Iap.decisionFor, List.find?_cons_of_neg (by simpa using here)]
          rfl
        rw [skipped, ← others]
        cases converted : iapDecisionOf showFloat item with
        | none => rw [List.filterMap_cons_none converted]
        | some decision =>
            have named := (iap_decision_of_named showFloat item decision converted).1
            rw [List.filterMap_cons_some converted, List.find?_cons_of_neg]
            rw [named]
            simpa using here

theorem bind_acting (best : Option (Iap.IapGrantDecision K)) :
    best.bind (iapDecisionOf showFloat) =
      (best.filter fun d => d.action ≠ .keep).bind (iapDecisionOf showFloat) := by
  cases best with
  | none => rfl
  | some item =>
      by_cases kept : item.action = .keep
      · rw [Option.filter_some_neg (by simp [kept]), Option.bind_some, Option.bind_none, iapDecisionOf]
        cases item.grantPk with
        | none => rfl
        | some pk => exact if_pos (Or.inr kept)
      · rw [Option.filter_some_pos (by simpa using kept)]

theorem merged_distinct (results : List (Iap.IapPointResult K)) :
    ((Iap.mergeIapDecisions results).map (·.grantId)).Nodup :=
  ((List.perm_insertionSort (fun a b : Iap.IapGrantDecision K => a.grantId ≤ b.grantId)
    (Iap.mergeAll (results.flatMap (·.decisions)) [])).map (·.grantId)).nodup_iff.mpr
    (Iap.merge_all_distinct _ [] List.nodup_nil)

-- What the stage decides about a grant is what the engine decides beyond keeping it.
theorem stage_decision_eq (grants : List (Iap.GrantRfInfo K))
    (read : iapRfGrants readers snapshot localGrants decidedPks = some grants)
    (managed : grants.any (·.isManagingSas) = true) (points : List (Iap.ProtectionPoint K))
    (coupling : Iap.InterferenceCoupling K) (grantId : String) :
    stageDecision (iapStage model showFloat readers snapshot localGrants decidedPks points coupling) grantId =
      (Iap.actingDecision model Iap.iapEngineConfig coupling points grants grantId).bind (iapDecisionOf showFloat) := by
  rw [Iap.actingDecision, ← bind_acting]
  cases points with
  | nil => rfl
  | cons point rest =>
      rw [iapStage, if_neg (by simp), evaluateIapDecisionsFromFrozen, read, Option.map_some, if_pos managed]
      exact find_converted showFloat _ (merged_distinct _) grantId

theorem stage_unmanaged (grants : List (Iap.GrantRfInfo K))
    (read : iapRfGrants readers snapshot localGrants decidedPks = some grants)
    (unmanaged : grants.any (·.isManagingSas) = false) (points : List (Iap.ProtectionPoint K))
    (coupling : Iap.InterferenceCoupling K) (grantId : String) :
    stageDecision (iapStage model showFloat readers snapshot localGrants decidedPks points coupling) grantId = none := by
  rw [iapStage]
  split
  · rfl
  · rw [evaluateIapDecisionsFromFrozen, read, Option.map_some, unmanaged]
    rfl

theorem stage_unread (unread : iapRfGrants readers snapshot localGrants decidedPks = none)
    (points : List (Iap.ProtectionPoint K)) (coupling : Iap.InterferenceCoupling K) (grantId : String) :
    stageDecision (iapStage model showFloat readers snapshot localGrants decidedPks points coupling) grantId = none := by
  rw [iapStage]
  split
  · rfl
  · rw [evaluateIapDecisionsFromFrozen, unread]
    rfl

end Lookup

section Population

variable (readers : PyReaders K) (snapshot : CpasSnapshot K) (localGrants : List (FrozenLocalGrantRf K))
variable (decidedPks : List Nat)

theorem frozen_rf_key (frozen : FrozenLocalGrantRf K) (info : Iap.GrantRfInfo K)
    (converted : frozenToIapGrantRf frozen = some info) :
    info.isManagingSas = true ∧ info.grantId = frozen.grantId ∧ info.grantPk = some (frozen.grantPk : Int) := by
  rw [frozenToIapGrantRf] at converted
  split at converted
  · cases converted
    exact ⟨rfl, rfl, rfl⟩
  · cases converted

theorem local_rf_managing : ∀ info ∈ localRfGrants localGrants decidedPks,
    info.isManagingSas = true ∧ ∃ frozen ∈ localGrants, frozen.terminated = false ∧ frozen.grantPk ∉ decidedPks ∧
      frozenToIapGrantRf frozen = some info ∧ info.grantId = frozen.grantId ∧ info.grantPk = some (frozen.grantPk : Int) := by
  intro info member
  obtain ⟨frozen, frozenMember, found⟩ := List.mem_filterMap.mp member
  split at found
  · cases found
  · rename_i counted
    rw [Bool.or_eq_true, not_or] at counted
    have facts := frozen_rf_key frozen info found
    refine ⟨facts.1, frozen, frozenMember, by simpa using counted.1, ?_, found, facts.2⟩
    simpa using counted.2

-- The managing grants of the stage are the local ones.
theorem iap_rf_managing (grants : List (Iap.GrantRfInfo K))
    (read : iapRfGrants readers snapshot localGrants decidedPks = some grants) :
    (grants.filter (·.isManagingSas)).Perm (localRfGrants localGrants decidedPks) := by
  obtain ⟨peers, parsed, same⟩ := Option.map_eq_some_iff.mp read
  have foreign := Iap.peer_infos_foreign readers _ peers parsed
  rw [← same]
  refine ((List.mergeSort_perm _ _).filter _).trans ?_
  have locals : (localRfGrants localGrants decidedPks).filter (·.isManagingSas) = localRfGrants localGrants decidedPks :=
    List.filter_eq_self.mpr fun info member => (local_rf_managing localGrants decidedPks info member).1
  have none : peers.filter (·.isManagingSas) = [] :=
    List.filter_eq_nil_iff.mpr fun info member => by simp [(foreign info member).1]
  rw [List.filter_append, locals, none, List.append_nil]

theorem local_rf_distinct (distinct : (localGrants.map (·.grantId)).Nodup) :
    ((localRfGrants localGrants decidedPks).map (·.grantId)).Nodup := by
  have kept := Collect.keys_sublist (fun frozen : FrozenLocalGrantRf K =>
      if frozen.terminated || decidedPks.contains frozen.grantPk then none else frozenToIapGrantRf frozen)
    FrozenLocalGrantRf.grantId Iap.GrantRfInfo.grantId
  refine distinct.sublist (kept ?_ localGrants)
  intro frozen info found
  split at found
  · cases found
  · exact (frozen_rf_key frozen info found).2.1

end Population

end SasCore.Cpas
