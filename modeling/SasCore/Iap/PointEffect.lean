import SasCore.Iap.Hopeless

set_option autoImplicit false
set_option linter.unusedSectionVars false

namespace SasCore.Iap

variable {K : Type} [Field K] [LinearOrder K] [IsStrictOrderedRing K]
variable (model : RadioModel K) (cfg : IapEngineConfig K)

-- The point allocates something and counts a managing grant of that id among its neighbours.
def Reaches (point : ProtectionPoint K) (grants : List (GrantRfInfo K)) (grantId : String) : Prop :=
  iapChannels model point ≠ [] ∧
    ∃ grant ∈ grantsInNeighborhood model point grants, grant.isManagingSas = true ∧ grant.grantId = grantId

-- What a run decides for a grant beyond keeping it.
def actingDecision (coupling : InterferenceCoupling K) (points : List (ProtectionPoint K)) (grants : List (GrantRfInfo K))
    (grantId : String) : Option (IapGrantDecision K) :=
  (decisionFor (runIap model cfg coupling points grants).mergedDecisions grantId).filter fun d => d.action ≠ .keep

section Points

variable (coupling : InterferenceCoupling K) (grants : List (GrantRfInfo K)) (grantId : String)

def pointDecisions (points : List (ProtectionPoint K)) : List (IapGrantDecision K) :=
  ((points.map fun point => runIapForPoint model cfg coupling point grants).flatMap (·.decisions)).filter fun d =>
    d.grantId = grantId

theorem point_decisions_append (first second : List (ProtectionPoint K)) :
    pointDecisions model cfg coupling grants grantId (first ++ second) =
      pointDecisions model cfg coupling grants grantId first ++ pointDecisions model cfg coupling grants grantId second := by
  simp only [pointDecisions, List.map_append, List.flatMap_append, List.filter_append]

theorem mem_point_decisions (points : List (ProtectionPoint K)) (decision : IapGrantDecision K) :
    decision ∈ pointDecisions model cfg coupling grants grantId points ↔
      ∃ point ∈ points, decision ∈ (runIapForPoint model cfg coupling point grants).decisions ∧
        decision.grantId = grantId := by
  simp only [pointDecisions, List.mem_filter, List.mem_flatMap, List.mem_map, decide_eq_true_eq]
  constructor
  · rintro ⟨⟨result, ⟨point, member, same⟩, inResult⟩, named⟩
    exact ⟨point, member, same ▸ inResult, named⟩
  · rintro ⟨point, member, inResult, named⟩
    exact ⟨⟨_, ⟨point, member, rfl⟩, inResult⟩, named⟩

theorem run_decision_for (points : List (ProtectionPoint K)) :
    decisionFor (runIap model cfg coupling points grants).mergedDecisions grantId =
      (pointDecisions model cfg coupling grants grantId points).foldl mergeNext none :=
  merged_for _ grantId

-- The row a decision is about is that of a managing grant.
def FromGrant (grantId cbsdId : String) (grantPk : Option Int) : Prop :=
  ∃ grant ∈ grants, grant.isManagingSas = true ∧ grant.grantId = grantId ∧ grant.cbsdId = cbsdId ∧ grant.grantPk = grantPk

theorem point_decision_origin (point : ProtectionPoint K) :
    ∀ d ∈ (runIapForPoint model cfg coupling point grants).decisions, FromGrant grants d.grantId d.cbsdId d.grantPk := by
  intro d member
  rw [runIapForPoint] at member
  split at member
  · obtain ⟨grant, inManaging, same⟩ := List.mem_map.mp member
    obtain ⟨grantMember, managing⟩ := List.mem_filter.mp inManaging
    rw [← same]
    exact ⟨grant, grantMember, managing, rfl, rfl, rfl⟩
  · obtain ⟨slot, inManaging, same⟩ := List.mem_map.mp member
    obtain ⟨slotMember, managing⟩ := List.mem_filter.mp inManaging
    have neighbor : slot.grant ∈ grantsInNeighborhood model point grants := by
      rw [← final_grants model cfg coupling point grants]
      exact List.mem_map_of_mem slotMember
    rw [← same]
    exact ⟨slot.grant, List.mem_of_mem_filter neighbor, managing, rfl, rfl, rfl⟩

theorem run_decision_origin (points : List (ProtectionPoint K)) :
    ∀ d ∈ (runIap model cfg coupling points grants).mergedDecisions, FromGrant grants d.grantId d.cbsdId d.grantPk := by
  refine merged_origin (FromGrant grants) _ ?_
  intro result member
  obtain ⟨point, _, same⟩ := List.mem_map.mp member
  rw [← same]
  exact point_decision_origin model cfg coupling grants point

theorem acting_decision_mem (points : List (ProtectionPoint K)) (decision : IapGrantDecision K)
    (acting : actingDecision model cfg coupling points grants grantId = some decision) :
    decision ∈ (runIap model cfg coupling points grants).mergedDecisions ∧ decision.grantId = grantId ∧
      decision.action ≠ .keep := by
  obtain ⟨found, acts⟩ := Option.filter_eq_some_iff.mp acting
  exact ⟨List.mem_of_find?_eq_some found, by simpa using List.find?_some found, by simpa using acts⟩

theorem acting_of_keep_alike (first second : Option (IapGrantDecision K)) (alike : KeepAlike first second) :
    (first.filter fun d => d.action ≠ .keep) = second.filter fun d => d.action ≠ .keep := by
  have keepsNone : ∀ best : Option (IapGrantDecision K), (∀ d ∈ best, d.action = .keep) →
      (best.filter fun d => d.action ≠ .keep) = none := by
    intro best kept
    exact Option.filter_eq_none_iff.mpr fun d member => by simp [kept d member]
  rcases alike with same | ⟨firstKept, secondKept⟩
  · rw [same]
  · rw [keepsNone first firstKept, keepsNone second secondKept]

theorem idle_decisions_keep (point : ProtectionPoint K) (idle : idlePoint model point grants = true) :
    ∀ d ∈ (runIapForPoint model cfg coupling point grants).decisions, d.action = .keep := by
  intro d member
  rw [runIapForPoint, if_pos idle] at member
  obtain ⟨grant, _, same⟩ := List.mem_map.mp member
  rw [← same]
  rfl

theorem busy_channels (point : ProtectionPoint K) (busy : idlePoint model point grants = false) :
    iapChannels model point ≠ [] := by
  intro none
  rw [idlePoint, none] at busy
  cases busy

theorem reaches_busy (point : ProtectionPoint K) (reaches : Reaches model point grants grantId) :
    idlePoint model point grants = false := by
  obtain ⟨channels, grant, member, _⟩ := reaches
  rw [idlePoint, List.isEmpty_eq_false_iff.mpr channels, List.isEmpty_eq_false_iff.mpr (List.ne_nil_of_mem member)]
  rfl

-- A point that does not reach the grant only keeps it.
theorem unreached_keeps (point : ProtectionPoint K) (unreached : ¬ Reaches model point grants grantId) :
    ∀ d ∈ pointDecisions model cfg coupling grants grantId [point], d.action = .keep := by
  intro d member
  obtain ⟨only, isPoint, inResult, named⟩ := (mem_point_decisions model cfg coupling grants grantId [point] d).mp member
  rw [List.mem_singleton.mp isPoint] at inResult
  cases idle : idlePoint model point grants with
  | true => exact idle_decisions_keep model cfg coupling grants point idle d inResult
  | false =>
      rw [runIapForPoint, idle] at inResult
      obtain ⟨slot, slotMember, same⟩ := List.mem_map.mp inResult
      obtain ⟨inFinal, managing⟩ := List.mem_filter.mp slotMember
      have neighbor : slot.grant ∈ grantsInNeighborhood model point grants := by
        rw [← final_grants model cfg coupling point grants]
        exact List.mem_map_of_mem inFinal
      have slotNamed : slot.grant.grantId = grantId := by
        rw [← named, ← same]
        rfl
      exact absurd ⟨busy_channels model grants point idle, slot.grant, neighbor, managing, slotNamed⟩ unreached

theorem unreached_same (before after : List (ProtectionPoint K)) (point : ProtectionPoint K)
    (unreached : ¬ Reaches model point grants grantId) :
    actingDecision model cfg coupling (before ++ point :: after) grants grantId =
      actingDecision model cfg coupling (before ++ after) grants grantId := by
  have own := keeps_skipped _ (unreached_keeps model cfg coupling grants grantId point unreached)
    ((pointDecisions model cfg coupling grants grantId before).foldl mergeNext none)
  have merged := keep_alike_fold (pointDecisions model cfg coupling grants grantId after) _ _ own
  simp only [← List.foldl_append, ← point_decisions_append, List.append_assoc, List.singleton_append] at merged
  rw [actingDecision, actingDecision, run_decision_for, run_decision_for]
  exact acting_of_keep_alike _ _ merged

end Points

section Reached

variable (grants : List (GrantRfInfo K)) (downward : 0 ≤ cfg.eirpStepDb)
variable (far : eirpEpsilon < (cfg.maxIterations : Nat) * cfg.eirpStepDb)
variable (distinct : ((grants.filter (·.isManagingSas)).map (·.grantId)).Nodup)

include downward far distinct in
theorem hopeless_decisions (grant : GrantRfInfo K) (member : grant ∈ grants) (managing : grant.isManagingSas = true)
    (points : List (ProtectionPoint K)) :
    ∀ d ∈ pointDecisions model cfg (hopelessCoupling model) grants grant.grantId points,
      d.action = .keep ∨ SunkDecision cfg grant d := by
  intro d decided
  obtain ⟨point, _, inResult, named⟩ := (mem_point_decisions model cfg _ grants grant.grantId points d).mp decided
  cases idle : idlePoint model point grants with
  | true => exact Or.inl (idle_decisions_keep model cfg _ grants point idle d inResult)
  | false =>
      obtain ⟨other, neighbor, otherManaging, sunk⟩ := hopeless_from model cfg point grants downward far idle d inResult
      have same : other = grant := List.inj_on_of_nodup_map distinct
        (List.mem_filter.mpr ⟨List.mem_of_mem_filter neighbor, otherManaging⟩)
        (List.mem_filter.mpr ⟨member, managing⟩) (sunk.1.symm.trans named)
      exact Or.inr (same ▸ sunk)

variable (weight : Explanation K → Nat) (additive : ∀ first second, weight (.joined first second) = weight first + weight second)
variable (positive : ∀ explanation, 0 < weight explanation)

include downward far distinct additive in
theorem hopeless_accumulates (grant : GrantRfInfo K) (member : grant ∈ grants) (managing : grant.isManagingSas = true)
    (points : List (ProtectionPoint K)) :
    Accumulated weight (sunkAction cfg grant) (sunkPower cfg grant)
      (actingWeight weight (pointDecisions model cfg (hopelessCoupling model) grants grant.grantId points))
      (decisionFor (runIap model cfg (hopelessCoupling model) points grants).mergedDecisions grant.grantId) := by
  have ends : ∀ d ∈ pointDecisions model cfg (hopelessCoupling model) grants grant.grantId points,
      d.action = .keep ∨ d.action = sunkAction cfg grant ∧ d.authorizedEirpDbmMhz = sunkPower cfg grant := by
    intro d decided
    rcases hopeless_decisions model cfg grants downward far distinct grant member managing points d decided with kept | sunk
    · exact Or.inl kept
    · exact Or.inr sunk.2.2
  have folded := fold_accumulates weight additive _ _ (sunk_acts cfg grant) _ ends 0 none
    (Or.inl ⟨rfl, fun _ absent => by cases absent⟩)
  rw [Nat.zero_add] at folded
  rw [run_decision_for]
  exact folded

include downward far distinct additive positive in
-- Under the hopeless coupling a point that reaches a grant shows in the explanation of what is decided.
theorem reached_differs (grant : GrantRfInfo K) (member : grant ∈ grants) (managing : grant.isManagingSas = true)
    (before after : List (ProtectionPoint K)) (point : ProtectionPoint K)
    (reaches : Reaches model point grants grant.grantId) :
    ∃ d, actingDecision model cfg (hopelessCoupling model) (before ++ point :: after) grants grant.grantId = some d ∧
      ∀ other ∈ actingDecision model cfg (hopelessCoupling model) (before ++ after) grants grant.grantId,
        weight other.explanation < weight d.explanation := by
  have acts := sunk_acts cfg grant
  have busy := reaches_busy model grants grant.grantId point reaches
  obtain ⟨_, reached, neighbor, reachedManaging, named⟩ := reaches
  obtain ⟨own, ownMember, ownSunk⟩ := hopeless_hits model cfg point grants downward far busy reached neighbor reachedManaging
  have ownDecided : own ∈ pointDecisions model cfg (hopelessCoupling model) grants grant.grantId [point] :=
    (mem_point_decisions model cfg _ grants grant.grantId [point] own).mpr
      ⟨point, List.mem_singleton_self point, ownMember, ownSunk.1.trans named⟩
  have ownActs : own.action ≠ .keep := by
    rw [ownSunk.2.2.1]
    exact sunk_acts cfg reached
  have added := acting_weight_pos weight positive _ own ownDecided ownActs
  have including := hopeless_accumulates model cfg grants downward far distinct weight additive grant member managing
    (before ++ ([point] ++ after))
  have without := hopeless_accumulates model cfg grants downward far distinct weight additive grant member managing
    (before ++ after)
  simp only [point_decisions_append, acting_weight_append] at including without
  rcases including with ⟨zero, _⟩ | ⟨d, isDecision, dActs, _, dWeight⟩
  · omega
  · refine ⟨d, ?_, ?_⟩
    · rw [actingDecision]
      exact Option.filter_eq_some_iff.mpr ⟨isDecision, by simpa [dActs] using acts⟩
    · intro other otherActs
      obtain ⟨isOther, otherActing⟩ := Option.filter_eq_some_iff.mp otherActs
      rcases without with ⟨_, kept⟩ | ⟨found, isFound, _, _, foundWeight⟩
      · exact absurd (kept other isOther) (by simpa using otherActing)
      · have same : other = found := Option.some.inj (isOther.symm.trans isFound)
        rw [same, foundWeight, dWeight]
        omega

end Reached

end SasCore.Iap
