import SasCore.Cpas.IapStage

set_option autoImplicit false
set_option linter.unusedSectionVars false

namespace SasCore.Cpas

open Registry

variable {K : Type} [Field K] [LinearOrder K]

def loadInjected (readers : PyReaders K) (rows : List KeyedRow) : List (Json K) :=
  rows.filterMap fun row => loadRecord readers row.dataJson

-- The point belongs to a zone of the database whose cluster list names the CBSD, and the grant is the CBSD's.
structure OwnPpa (source : Iap.PointSource K) (palById : List (String × Json K)) (db : Database K) (cbsd : Cbsd K)
    (grant : Grant K) (point : Iap.ProtectionPoint K) (payload : Json K) (cluster : List String) : Prop where
  held : grant ∈ db.store.grants ∧ grant.cbsdId = cbsd.cbsdId
  injected : payload ∈ loadInjected source.readers db.tables.zones
  built : Iap.protectionPointFromZonePayload source palById payload = some (some point)
  clustered : Iap.clusterOf source payload = some cluster
  listed : Iap.inCluster (Iap.cbsdRefs source cbsd.cbsdId cbsd.fccId cbsd.cbsdSerialNumber) cluster = true

section Exposure

variable (model : Iap.RadioModel K) (readers : PyReaders K) (showFloat : K → String)
variable (now : Int) (db : Database K) (decidedPks : List Nat)

-- The IAP stage counts the grant among the neighbours of a point that allocates something.
def Exposed (point : Iap.ProtectionPoint K) (grantId : String) : Prop :=
  Iap.iapChannels model point ≠ [] ∧
    Iap.grantRfInfosFromFrozenPeerCbsds readers (frozenPeerCbsdRows readers (peerRecords db.peers)) ≠ none ∧
    ∃ frozen ∈ (freezeCpasSnapshot now db).localGrants, frozen.grantId = grantId ∧ frozen.grantPk ≠ 0 ∧
      frozen.grantPk ∉ decidedPks ∧ ∃ info, frozenToIapGrantRf frozen = some info ∧
        Iap.inNeighborhood model point info = true

theorem frozen_origin (frozen : FrozenLocalGrantRf K) (member : frozen ∈ (freezeCpasSnapshot now db).localGrants) :
    ∃ grant ∈ db.store.grants, grant.terminated = false ∧ frozen.grantId = grant.grantId ∧ frozen.grantPk = grant.id ∧
      frozen.terminated = false := by
  obtain ⟨grant, live, found⟩ := List.mem_filterMap.mp member
  obtain ⟨grantMember, running⟩ := List.mem_filter.mp live
  obtain ⟨cbsd, _, same⟩ := Option.map_eq_some_iff.mp found
  have stays : grant.terminated = false := by simpa using running
  rw [← same]
  exact ⟨grant, grantMember, stays, rfl, rfl, stays⟩

theorem frozen_distinct (distinct : (db.store.grants.map (·.grantId)).Nodup) :
    ((freezeCpasSnapshot now db).localGrants.map (·.grantId)).Nodup := by
  have kept := Collect.keys_sublist (frozenOf db) Grant.grantId FrozenLocalGrantRf.grantId
  refine distinct.sublist ((kept ?_ _).trans (List.filter_sublist.map _))
  intro grant frozen found
  obtain ⟨cbsd, _, same⟩ := Option.map_eq_some_iff.mp found
  rw [← same]
  rfl

-- The stage's view of exposure: the point reaches the grant, and the row number counts.
theorem exposed_iff (point : Iap.ProtectionPoint K) (grantId : String) :
    Exposed model readers now db decidedPks point grantId ↔
      ∃ grants, iapRfGrants readers (freezeCpasSnapshot now db) (freezeCpasSnapshot now db).localGrants decidedPks =
          some grants ∧ Iap.iapChannels model point ≠ [] ∧
        ∃ info ∈ Iap.grantsInNeighborhood model point grants, info.isManagingSas = true ∧ info.grantId = grantId ∧
          info.grantPk ≠ some 0 := by
  constructor
  · rintro ⟨channels, readable, frozen, frozenMember, named, numbered, undecided, info, converted, near⟩
    obtain ⟨peers, parsed⟩ := Option.ne_none_iff_exists'.mp readable
    obtain ⟨_, _, _, _, _, running⟩ := frozen_origin now db frozen frozenMember
    obtain ⟨managing, infoId, infoPk⟩ := frozen_rf_key frozen info converted
    have counted : info ∈ localRfGrants (freezeCpasSnapshot now db).localGrants decidedPks := by
      refine List.mem_filterMap.mpr ⟨frozen, frozenMember, ?_⟩
      rw [if_neg (by simp [running, undecided])]
      exact converted
    refine ⟨_, by rw [iapRfGrants]; exact (congrArg _ parsed), channels, info, ?_, managing, infoId.trans named, ?_⟩
    · exact List.mem_filter.mpr ⟨List.mem_mergeSort.mpr (List.mem_append_left _ counted), near⟩
    · rw [infoPk]
      simpa using numbered
  · rintro ⟨grants, read, channels, info, neighbor, managing, named, numbered⟩
    obtain ⟨peers, parsed, _⟩ := Option.map_eq_some_iff.mp read
    obtain ⟨inGrants, near⟩ := List.mem_filter.mp neighbor
    have isLocal := (iap_rf_managing readers _ _ decidedPks grants read).mem_iff.mp (List.mem_filter.mpr ⟨inGrants, managing⟩)
    obtain ⟨_, frozen, frozenMember, _, undecided, converted, infoId, infoPk⟩ := local_rf_managing _ decidedPks info isLocal
    refine ⟨channels, fun unread => Option.some_ne_none peers (parsed.symm.trans unread), frozen, frozenMember, infoId.symm.trans named, ?_,
      undecided, info, converted, near⟩
    intro zero
    rw [infoPk, zero] at numbered
    exact numbered rfl

variable [IsStrictOrderedRing K]

-- The length of the text with the separator that follows it.
def textWeight (explanation : Iap.Explanation K) : Nat := (explanationText showFloat explanation).length + 2

theorem text_weight_joined (first second : Iap.Explanation K) :
    textWeight showFloat (.joined first second) = textWeight showFloat first + textWeight showFloat second := by
  have joined : explanationText showFloat (.joined first second) =
      explanationText showFloat first ++ "; " ++ explanationText showFloat second := rfl
  have separator : "; ".length = 2 := by decide
  rw [textWeight, joined, String.length_append, String.length_append, separator, textWeight, textWeight]
  omega

theorem far_down : Iap.eirpEpsilon < ((Iap.iapEngineConfig : Iap.IapEngineConfig K).maxIterations : K) *
    (Iap.iapEngineConfig : Iap.IapEngineConfig K).eirpStepDb := by
  rw [Iap.eirpEpsilon, Iap.iapEngineConfig]
  norm_num

-- Every decision about a grant carries the row number of the one managing grant of that id.
theorem acting_row (grants : List (Iap.GrantRfInfo K)) (distinct : ((grants.filter (·.isManagingSas)).map (·.grantId)).Nodup)
    (info : Iap.GrantRfInfo K) (member : info ∈ grants) (managing : info.isManagingSas = true)
    (coupling : Iap.InterferenceCoupling K) (points : List (Iap.ProtectionPoint K)) (decision : Iap.IapGrantDecision K)
    (acting : Iap.actingDecision model Iap.iapEngineConfig coupling points grants info.grantId = some decision) :
    decision.grantPk = info.grantPk := by
  obtain ⟨inMerged, named, _⟩ := Iap.acting_decision_mem model Iap.iapEngineConfig coupling grants info.grantId points decision acting
  obtain ⟨other, otherMember, otherManaging, otherNamed, _, otherPk⟩ :=
    Iap.run_decision_origin model Iap.iapEngineConfig coupling grants points decision inMerged
  have same : other = info := List.inj_on_of_nodup_map distinct (List.mem_filter.mpr ⟨otherMember, otherManaging⟩)
    (List.mem_filter.mpr ⟨member, managing⟩) (otherNamed.trans named)
  rw [← otherPk, same]

variable (point : Iap.ProtectionPoint K) (before after : List (Iap.ProtectionPoint K)) (grantId : String)

def SameDecision (coupling : Iap.InterferenceCoupling K) : Prop :=
  let stage := fun points => iapStage model showFloat readers (freezeCpasSnapshot now db)
    (freezeCpasSnapshot now db).localGrants decidedPks points coupling
  stageDecision (stage (before ++ point :: after)) grantId = stageDecision (stage (before ++ after)) grantId

theorem unexposed_same (distinct : (db.store.grants.map (·.grantId)).Nodup)
    (unexposed : ¬ Exposed model readers now db decidedPks point grantId) (coupling : Iap.InterferenceCoupling K) :
    SameDecision model readers showFloat now db decidedPks point before after grantId coupling := by
  rw [SameDecision]
  dsimp only
  cases read : iapRfGrants readers (freezeCpasSnapshot now db) (freezeCpasSnapshot now db).localGrants decidedPks with
  | none => rw [stage_unread _ _ _ _ _ _ read, stage_unread _ _ _ _ _ _ read]
  | some grants =>
      cases managed : grants.any (·.isManagingSas) with
      | false => rw [stage_unmanaged _ _ _ _ _ _ grants read managed, stage_unmanaged _ _ _ _ _ _ grants read managed]
      | true =>
          rw [stage_decision_eq _ _ _ _ _ _ grants read managed, stage_decision_eq _ _ _ _ _ _ grants read managed]
          by_cases reaches : Iap.Reaches model point grants grantId
          · -- The point counts the grant, but its row number is 0 and the stage drops what is decided.
            obtain ⟨channels, info, neighbor, managing, named⟩ := reaches
            have zero : info.grantPk = some 0 := by
              by_contra numbered
              exact unexposed ((exposed_iff model readers now db decidedPks point grantId).mpr
                ⟨grants, read, channels, info, neighbor, managing, named, numbered⟩)
            have perm := iap_rf_managing readers _ _ decidedPks grants read
            have managingDistinct := (perm.map (·.grantId)).nodup_iff.mpr
              (local_rf_distinct _ decidedPks (frozen_distinct now db distinct))
            have dropped : ∀ points, (Iap.actingDecision model Iap.iapEngineConfig coupling points grants grantId).bind
                (iapDecisionOf showFloat) = none := by
              intro points
              refine Option.bind_eq_none_iff.mpr fun decision acting => ?_
              rw [← named] at acting
              have row := acting_row model grants managingDistinct info (List.mem_of_mem_filter neighbor) managing coupling
                points decision acting
              rw [iapDecisionOf, row, zero]
              exact if_pos (Or.inl rfl)
            rw [dropped, dropped]
          · rw [Iap.unreached_same model Iap.iapEngineConfig coupling grants grantId before after point reaches]

theorem exposed_differs (distinct : (db.store.grants.map (·.grantId)).Nodup)
    (exposed : Exposed model readers now db decidedPks point grantId) :
    ¬ SameDecision model readers showFloat now db decidedPks point before after grantId (Iap.hopelessCoupling model) := by
  obtain ⟨grants, read, channels, info, neighbor, managing, named, numbered⟩ :=
    (exposed_iff model readers now db decidedPks point grantId).mp exposed
  have member := List.mem_of_mem_filter neighbor
  have managed : grants.any (·.isManagingSas) = true := List.any_eq_true.mpr ⟨info, member, managing⟩
  have perm := iap_rf_managing readers _ _ decidedPks grants read
  have managingDistinct := (perm.map (·.grantId)).nodup_iff.mpr
    (local_rf_distinct _ decidedPks (frozen_distinct now db distinct))
  have downward : (0 : K) ≤ (Iap.iapEngineConfig : Iap.IapEngineConfig K).eirpStepDb := zero_le_one
  obtain ⟨d, acting, less⟩ := Iap.reached_differs model Iap.iapEngineConfig grants downward far_down managingDistinct
    (textWeight showFloat) (text_weight_joined showFloat) (fun _ => Nat.succ_pos _) info member managing before after point
    ⟨channels, info, neighbor, managing, rfl⟩
  rw [SameDecision]
  dsimp only
  rw [stage_decision_eq _ _ _ _ _ _ grants read managed, stage_decision_eq _ _ _ _ _ _ grants read managed, ← named,
    acting, Option.bind_some]
  obtain ⟨_, _, acts⟩ := Iap.acting_decision_mem model Iap.iapEngineConfig _ grants info.grantId _ d acting
  have row := acting_row model grants managingDistinct info member managing _ _ d acting
  obtain ⟨_, frozen, _, _, _, _, _, infoPk⟩ := local_rf_managing _ decidedPks info
    (perm.mem_iff.mp (List.mem_filter.mpr ⟨member, managing⟩))
  obtain ⟨decided, converted⟩ : ∃ decided, iapDecisionOf showFloat d = some decided := by
    rw [infoPk] at row numbered
    rw [iapDecisionOf, row]
    exact ⟨_, if_neg (not_or.mpr ⟨fun zero => numbered (congrArg some zero), acts⟩)⟩
  rw [converted]
  intro same
  obtain ⟨other, otherActing, otherConverted⟩ := Option.bind_eq_some_iff.mp same.symm
  have shorter := less other otherActing
  have text := (iap_decision_of_named showFloat d decided converted).2.2.2.2.2
  have otherText := (iap_decision_of_named showFloat other decided otherConverted).2.2.2.2.2
  rw [textWeight, textWeight, ← text, ← otherText] at shorter
  exact lt_irrefl _ shorter

end Exposure

section Cluster

variable [IsStrictOrderedRing K]

-- The admission leaves the point out. The IAP stage counts it, so it makes no difference to the grant under any
-- coupling exactly when the stage does not find the grant among the point's neighbours.
theorem cluster_ppa_inert_iff (model : Iap.RadioModel K) (showFloat : K → String) (source : Iap.PointSource K)
    (palById : List (String × Json K)) (now : Int) (db : Database K) (decidedPks : List Nat) (cbsd : Cbsd K) (grant : Grant K)
    (point : Iap.ProtectionPoint K) (payload : Json K) (cluster : List String) (before after : List (Iap.ProtectionPoint K))
    (own : OwnPpa source palById db cbsd grant point payload cluster)
    (distinct : (db.store.grants.map (·.grantId)).Nodup) :
    (((Iap.zoneRecord payload).field "id").strippedText source.readers ≠ [] →
      ∀ kept, Iap.filterPointsForProposedCbsd source (loadInjected source.readers db.tables.zones)
          (Iap.cbsdRefs source cbsd.cbsdId cbsd.fccId cbsd.cbsdSerialNumber) (before ++ point :: after) = some kept →
        point ∉ kept) ∧
    ((∀ coupling, SameDecision model source.readers showFloat now db decidedPks point before after grant.grantId coupling) ↔
      ¬ Exposed model source.readers now db decidedPks point grant.grantId) := by
  refine ⟨fun named kept filtered => ?_, fun same exposed => ?_, fun unexposed coupling => ?_⟩
  · exact Iap.cluster_point_dropped source _ _ cluster _ kept palById payload point own.injected own.built own.clustered
      own.listed named filtered
  · exact exposed_differs model source.readers showFloat now db decidedPks point before after grant.grantId distinct exposed
      (same _)
  · exact unexposed_same model source.readers showFloat now db decidedPks point before after grant.grantId distinct unexposed
      coupling

end Cluster

def zoneText : String :=
  "\x7b\"id\": \"zone/1\", \"usage\": \"PPA\", \"zone\": \x7b\"type\": \"Polygon\", \"coordinates\": " ++
    "[[[-1, -1], [1, -1], [1, 1], [-1, 1], [-1, -1]]]\x7d, " ++
    "\"ppaInfo\": \x7b\"palId\": [\"pal/1\"], \"cbsdReferenceId\": [\"fcc/sn\"]\x7d\x7d"

def corner (lon lat : Int) : Json Rat := .array [.int lon, .int lat]

def zonePayload : Json Rat :=
  .object [("id", .text "zone/1"), ("usage", .text "PPA"),
    ("zone", .object [("type", .text "Polygon"), ("coordinates",
      .array [.array [corner (-1) (-1), corner 1 (-1), corner 1 1, corner (-1) 1, corner (-1) (-1)]])]),
    ("ppaInfo", .object [("palId", .array [.text "pal/1"]), ("cbsdReferenceId", .array [.text "fcc/sn"])])]

def zoneReaders : PyReaders Rat :=
  ⟨fun text => if text = zoneText then some zonePayload else none, fun _ => none, fun _ => none, fun _ => 0, fun _ => ""⟩

def zoneSource : Iap.PointSource Rat := ⟨zoneReaders, 3550000000, 3700000000, fun _ => ""⟩

def zonePals : List (String × Json Rat) :=
  [("pal/1", .object [("palBlock", .object [("lowFrequency", .int 3550000000), ("highFrequency", .int 3555000000)])])]

def clusterGrant : Grant Rat :=
  ⟨1, "grant/a", 0, "fcc/sn", .pal, 3550000000, 3555000000, some 20, 0, 0, none, false, false, false, none,
    ⟨⟨0, 0, 0, 0⟩, none⟩⟩

def clusterDatabase : Database Rat :=
  { (Database.empty : Database Rat) with
    store := ⟨[askingCbsd], [clusterGrant], 1, 2⟩
    tables := { (Database.empty : Database Rat).tables with zones := [⟨none, zoneText⟩] } }

def clusterPoint : Iap.ProtectionPoint Rat :=
  { pointId := "ppa:zone/1", latitude := 0, longitude := 0, lowHz := 3550000000, highHz := 3555000000, thresholdDbm := -80,
    entityKind := .ppa, preIapMarginDb := 1, neighborhoodKm := some 40 }

theorem cluster_ppa_own : OwnPpa zoneSource zonePals clusterDatabase askingCbsd clusterGrant clusterPoint zonePayload
    ["fcc/sn"] where
  held := ⟨List.mem_cons_self, rfl⟩
  injected := by
    have present : zoneText ≠ "" := by decide +kernel
    have read : zoneReaders.loads zoneText = some zonePayload := by simp only [zoneReaders, if_true]
    refine List.mem_filterMap.mpr ⟨⟨none, zoneText⟩, List.mem_cons_self, ?_⟩
    rw [loadRecord, if_neg present, zoneSource, read]
    rfl
  built := by decide +kernel
  clustered := by decide +kernel
  listed := by decide +kernel

def clusterInfo : Iap.GrantRfInfo Rat where
  grantId := "grant/a"
  cbsdId := "fcc/sn"
  latitude := 0
  longitude := 0
  heightM := 0
  lowHz := 3550000000
  highHz := 3555000000
  maxEirpDbmMhz := 20
  grantPk := some 1

theorem cluster_rf_grants : iapRfGrants zoneReaders (freezeCpasSnapshot 0 clusterDatabase)
    (freezeCpasSnapshot 0 clusterDatabase).localGrants [] = some [clusterInfo] := by
  have locals : localRfGrants (freezeCpasSnapshot 0 clusterDatabase).localGrants [] = [clusterInfo] := by decide +kernel
  have peers : Iap.grantRfInfosFromFrozenPeerCbsds zoneReaders
      (frozenPeerCbsdRows zoneReaders (freezeCpasSnapshot 0 clusterDatabase).peerRecords) =
      some ((List.nil : List (Iap.GrantRfInfo Rat)).mergeSort Iap.peerKeyLe) := rfl
  rw [iapRfGrants, peers, locals, List.mergeSort_nil, Option.map_some, List.append_nil, List.mergeSort_singleton]

theorem cluster_channels : Iap.iapChannels Iap.stepModel clusterPoint = [.mk 3550000000 3555000000] := by
  apply Iap.iap_channels_eq
  simp [Iap.overlappingBounds, Iap.boundsFrom, Iap.FrequencyChannel.bounds, Iap.stepModel, clusterPoint, Iap.iapbwHz]

-- The PPA's own cluster member comes down from 20 to 9 dBm/MHz for it.
theorem own_ppa_reduces_grant :
    ¬ ∀ (db : Database Rat) (cbsd : Cbsd Rat) (grant : Grant Rat) (point : Iap.ProtectionPoint Rat) (payload : Json Rat)
      (cluster : List String) (before after : List (Iap.ProtectionPoint Rat)) (coupling : Iap.InterferenceCoupling Rat),
      OwnPpa zoneSource zonePals db cbsd grant point payload cluster → (db.store.grants.map (·.grantId)).Nodup →
        SameDecision Iap.stepModel zoneReaders toString 0 db [] point before after grant.grantId coupling := by
  intro claim
  have same := claim clusterDatabase askingCbsd clusterGrant clusterPoint zonePayload ["fcc/sn"] [] [] Iap.stepCoupling
    cluster_ppa_own (by decide)
  have reduced : (Iap.actingDecision Iap.stepModel Iap.iapEngineConfig Iap.stepCoupling [clusterPoint] [clusterInfo]
      clusterGrant.grantId).map (fun d => (d.grantPk, d.action, d.authorizedEirpDbmMhz)) = some (some 1, .reducePower, 9) := by
    unfold Iap.actingDecision Iap.runIap Iap.runIapForPoint Iap.finalState Iap.initialState Iap.idlePoint
    simp only [List.map_cons, List.map_nil]
    rw [cluster_channels]
    decide +kernel
  obtain ⟨d, acting, facts⟩ := Option.map_eq_some_iff.mp reduced
  rw [SameDecision] at same
  dsimp only at same
  rw [stage_decision_eq _ _ _ _ _ _ _ cluster_rf_grants rfl] at same
  have converted : (iapDecisionOf toString d).isSome = true := by
    rw [Prod.mk.injEq, Prod.mk.injEq] at facts
    rw [iapDecisionOf, facts.1, facts.2.1]
    rfl
  have none : stageDecision (iapStage Iap.stepModel toString zoneReaders (freezeCpasSnapshot 0 clusterDatabase)
      (freezeCpasSnapshot 0 clusterDatabase).localGrants [] ([] ++ []) Iap.stepCoupling) clusterGrant.grantId = none := rfl
  rw [none, List.nil_append, acting, Option.bind_some] at same
  rw [same] at converted
  cases converted

theorem cluster_ppa_inert_iff_sample :
    (((Iap.zoneRecord zonePayload).field "id").strippedText zoneReaders ≠ [] →
      ∀ kept, Iap.filterPointsForProposedCbsd zoneSource (loadInjected zoneReaders clusterDatabase.tables.zones)
          (Iap.cbsdRefs zoneSource "fcc/sn" "fcc" "sn") ([] ++ clusterPoint :: []) = some kept → clusterPoint ∉ kept) ∧
    ((∀ coupling, SameDecision Iap.stepModel zoneReaders toString 0 clusterDatabase [] clusterPoint [] [] "grant/a" coupling) ↔
      ¬ Exposed Iap.stepModel zoneReaders 0 clusterDatabase [] clusterPoint "grant/a") :=
  cluster_ppa_inert_iff Iap.stepModel toString zoneSource zonePals 0 clusterDatabase [] askingCbsd clusterGrant clusterPoint
    zonePayload ["fcc/sn"] [] [] cluster_ppa_own (by decide)

end SasCore.Cpas
