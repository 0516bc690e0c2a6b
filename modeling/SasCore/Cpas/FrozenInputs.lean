import SasCore.Cpas.ClusterPpa
import SasCore.Cpas.Evaluation

set_option autoImplicit false
set_option linter.unusedSectionVars false

namespace SasCore.Cpas

open Registry

variable {K : Type} [Field K] [LinearOrder K]

-- What an evaluation reads live.
structure SameLiveInputs (first second : LiveDatabase K) : Prop where
  catalogue : first.catalogue = second.catalogue
  activations : first.activations = second.activations
  escState : first.escState = second.escState
  quiet : first.quiet = second.quiet

section Stages

variable (env : EvaluationEnv K) (now : Int) (found : LiveDatabase K)

-- A frozen snapshot lists the rows of its own local grants, so there is nothing to load for it.
theorem hydrated_frozen (db frozenFrom : Database K) :
    hydratedGrants (freezeCpasSnapshot now frozenFrom) db = (freezeCpasSnapshot now frozenFrom).localGrants := by
  rw [hydratedGrants]
  split
  · rename_i none
    have noGrants := List.isEmpty_iff.mp none
    have noPks : (freezeCpasSnapshot now frozenFrom).activeGrantPks = [] :=
      (congrArg (List.map FrozenLocalGrantRf.grantPk) noGrants)
    have noRows : (db.store.grants.filter fun grant => [].contains grant.id) = [] :=
      List.filter_eq_nil_iff.mpr fun grant _ => by simp
    rw [noGrants, noPks, noRows, List.filterMap_nil]
  · rfl

theorem any_peer_ppa_indexed (first second : Database K) (index : List (String × Json K)) (lat lon : K) (lowHz highHz : Int)
    (zones : List (Json K)) :
    anyPeerPpa env first (some index) lat lon lowHz highHz zones = anyPeerPpa env second (some index) lat lon lowHz highHz zones := by
  induction zones with
  | nil => rfl
  | cons record rest ih =>
      have ranges : ppaProtectedRanges env first record (some index) = ppaProtectedRanges env second record (some index) := rfl
      simp only [anyPeerPpa, ranges, ih]

theorem peer_decisions_frozen (first second : Database K) (snapshot : CpasSnapshot K) (localGrants : List (FrozenLocalGrantRf K)) :
    peerDecisions env first snapshot localGrants = peerDecisions env second snapshot localGrants := by
  have one : peerDecision env first snapshot = peerDecision env second snapshot := by
    funext frozen
    simp only [peerDecision, peerReason, frozenConflictsPeerPpa, any_peer_ppa_indexed env first second]
  rw [peerDecisions, peerDecisions, one]

-- Given points are taken as they are, and others are built from the frozen records.
theorem iap_context_frozen (first second : Database K) (generation : FrozenGeneration K) (overrides : IapOverrides K) :
    resolveIapContext env first generation overrides = resolveIapContext env second generation overrides := by
  rw [resolveIapContext, resolveIapContext]
  cases overrides.points with
  | some points => rfl
  | none => rfl

theorem stages_before_dpa_frozen (overrides : IapOverrides K) (first second : LiveDatabase K) (same : SameLiveInputs first second) :
    stagesBeforeDpa env overrides (freezeGeneration now found) first =
      stagesBeforeDpa env overrides (freezeGeneration now found) second := by
  have localGrants : hydratedGrants (freezeGeneration now found).snapshot first.toDatabase =
      hydratedGrants (freezeGeneration now found).snapshot second.toDatabase :=
    (hydrated_frozen now first.toDatabase found.toDatabase).trans (hydrated_frozen now second.toDatabase found.toDatabase).symm
  rw [stagesBeforeDpa, stagesBeforeDpa, localGrants, same.quiet,
    peer_decisions_frozen env first.toDatabase second.toDatabase,
    iap_context_frozen env first.toDatabase second.toDatabase]

end Stages

section Movelists

variable (ctx : CpasContext K)

theorem refreshed_movelists_congr (first second : Database K) (catalogue : first.catalogue = second.catalogue)
    (activations : first.activations = second.activations) (grants : List (Dpa.DpaGrantRf K)) :
    refreshedMovelists ctx first grants = refreshedMovelists ctx second grants := by
  have channel : activationChannel first = activationChannel second := by
    funext row
    rw [activationChannel, activationChannel, catalogue]
  rw [refreshedMovelists, refreshedMovelists, activations, channel]

theorem merge_with_movelists_congr (early : EarlyDecisions K) (first second : Database K)
    (activations : first.activations = second.activations) :
    mergeWithMovelists early first = mergeWithMovelists early second := by
  have listed : grantOnAnyMovelist first = grantOnAnyMovelist second := by
    funext grantId
    rw [grantOnAnyMovelist, grantOnAnyMovelist, activations]
  rw [mergeWithMovelists, mergeWithMovelists, listed]

theorem dpa_stage_congr (env : EvaluationEnv K) (generation : FrozenGeneration K) (early : EarlyDecisions K)
    (first second : LiveDatabase K) (same : SameLiveInputs first second) :
    dpaStage env ctx generation first early = dpaStage env ctx generation second early := by
  have written : ∀ lists : List (Activation × List String),
      (writeMovelists ctx lists first.toDatabase).activations = (writeMovelists ctx lists second.toDatabase).activations := by
    intro lists
    rw [writeMovelists, writeMovelists, same.activations]
  have merged := fun lists => merge_with_movelists_congr early _ _ (written lists)
  have refreshed := refreshed_movelists_congr ctx first.toDatabase second.toDatabase same.catalogue same.activations
  simp only [dpaStage, same.catalogue, same.activations, refreshed, merged]

end Movelists

-- Whatever happened to the other tables since the freeze, an evaluation of the frozen generation decides the same.
theorem evaluates_frozen_generation (env : EvaluationEnv K) (ctx : CpasContext K) (overrides : IapOverrides K) (now : Int)
    (found first second : LiveDatabase K) (same : SameLiveInputs first second) :
    evaluateProtections env ctx overrides (freezeGeneration now found) first =
      evaluateProtections env ctx overrides (freezeGeneration now found) second := by
  have before := stages_before_dpa_frozen env now found overrides first second same
  have after := fun early => dpa_stage_congr ctx env (freezeGeneration now found) early first second same
  simp only [evaluateProtections, before, after]

def plainGeography : Geography Rat where
  haversineM := fun lat1 lon1 lat2 lon2 => |lat1 - lat2| + |lon1 - lon2|
  haversineKm := fun lat1 lon1 lat2 lon2 => |lat1 - lat2| + |lon1 - lon2|
  withinGeojsonBufferM := fun _ _ _ _ => false
  geojsonGeometryUsable := Json.isObject
  pointInGeojson := fun _ _ _ => false
  fccOffices := .ok [(50, 50)]
  repr := fun _ => "None"

def plainEnv : EvaluationEnv Rat where
  source := zoneSource
  geo := plainGeography
  model := Iap.stepModel
  showFloat := toString
  builders := ⟨id, fun _ => .ok [], fun _ => .ok none, fun _ _ => .ok none, fun _ _ => .ok none,
    fun a b => decide (a.pointId ≤ b.pointId),
    fun _ _ _ first second => decide_eq_true ((of_decide_eq_true first).trans (of_decide_eq_true second)),
    fun a b => by simpa using le_total a.pointId b.pointId⟩
  peerPpaBufferM := 1000
  peerEscRadiusM := 40000
  peerEscLowHz := 3550000000
  peerEscHighHz := 3700000000
  iapEnabled := true
  makeCoupling := .ok (some Iap.stepCoupling)
  dpaFault := fun _ _ _ => none

def frozenFrom : LiveDatabase Rat := { clusterDatabase with escState := .connected, quiet := ⟨none, []⟩ }

-- Since the freeze the grant was terminated and the zone deleted.
def emptiedSince : LiveDatabase Rat := { (Database.empty : Database Rat) with escState := .connected, quiet := ⟨none, []⟩ }

theorem evaluates_frozen_generation_sample :
    evaluateProtections plainEnv plainContext {} (freezeGeneration 0 frozenFrom) frozenFrom =
      evaluateProtections plainEnv plainContext {} (freezeGeneration 0 frozenFrom) emptiedSince :=
  evaluates_frozen_generation plainEnv plainContext {} 0 frozenFrom frozenFrom emptiedSince ⟨rfl, rfl, rfl, rfl⟩

end SasCore.Cpas
