import SasCore.Iap.Engine
import Mathlib.Tactic.Linarith

set_option autoImplicit false
set_option linter.unusedSectionVars false

namespace SasCore.Iap

variable {K : Type} [Field K] [LinearOrder K]

def IapAction.rank : IapAction → Nat
  | .keep => 0
  | .reducePower => 1
  | .suspend => 2
  | .terminate => 3

-- What best[grant_id] becomes when a decision of a further point meets the one kept so far.
def mergePair (prev decision : IapGrantDecision K) : IapGrantDecision K :=
  if prev.action.rank < decision.action.rank then decision
  else if decision.action = prev.action ∧ decision.action = .reducePower ∧
      decision.authorizedEirpDbmMhz < prev.authorizedEirpDbmMhz then decision
  else if decision.action.rank = prev.action.rank then
    { prev with
      authorizedEirpDbmMhz := min prev.authorizedEirpDbmMhz decision.authorizedEirpDbmMhz
      explanation := .joined prev.explanation decision.explanation }
  else prev

def mergeInto (decision : IapGrantDecision K) : List (IapGrantDecision K) → List (IapGrantDecision K)
  | [] => [decision]
  | prev :: rest =>
      if prev.grantId = decision.grantId then mergePair prev decision :: rest
      else prev :: mergeInto decision rest

def mergeAll (decisions : List (IapGrantDecision K)) (best : List (IapGrantDecision K)) : List (IapGrantDecision K) :=
  decisions.foldl (fun kept decision => mergeInto decision kept) best

def mergeIapDecisions (results : List (IapPointResult K)) : List (IapGrantDecision K) :=
  (mergeAll (results.flatMap (·.decisions)) []).insertionSort fun a b => a.grantId ≤ b.grantId

def runIap (model : RadioModel K) (cfg : IapEngineConfig K) (coupling : InterferenceCoupling K)
    (points : List (ProtectionPoint K)) (grants : List (GrantRfInfo K)) : IapRunResult K :=
  let results := points.map fun point => runIapForPoint model cfg coupling point grants
  ⟨results, mergeIapDecisions results⟩

-- A kept grant is authorised (up to epsilon) at its initial EIRP and a reduced one strictly below it,
-- so the higher rank never carries the higher power.
def Coherent (initial : String → K) (decision : IapGrantDecision K) : Prop :=
  match decision.action with
  | .keep => initial decision.grantId ≤ decision.authorizedEirpDbmMhz + eirpEpsilon
  | .reducePower => decision.authorizedEirpDbmMhz + eirpEpsilon < initial decision.grantId
  | .suspend => False
  | .terminate => True

def Dominates (merged decision : IapGrantDecision K) : Prop :=
  merged.action = .terminate ∨
    (decision.action ≠ .terminate ∧ merged.authorizedEirpDbmMhz ≤ decision.authorizedEirpDbmMhz)

theorem dominates_refl (decision : IapGrantDecision K) : Dominates decision decision := by
  by_cases terminated : decision.action = .terminate
  · exact Or.inl terminated
  · exact Or.inr ⟨terminated, le_refl _⟩

theorem dominates_trans (a b c : IapGrantDecision K) (ab : Dominates a b) (bc : Dominates b c) : Dominates a c := by
  rcases ab with terminated | ⟨running, lower⟩
  · exact Or.inl terminated
  · rcases bc with terminated | ⟨stillRunning, below⟩
    · exact absurd terminated running
    · exact Or.inr ⟨stillRunning, lower.trans below⟩

theorem merge_pair_id (prev decision : IapGrantDecision K) (same : prev.grantId = decision.grantId) :
    (mergePair prev decision).grantId = prev.grantId := by
  unfold mergePair
  split
  · exact same.symm
  · split
    · exact same.symm
    · split <;> rfl

section Coherence

variable [IsStrictOrderedRing K] (initial : String → K)

theorem coherent_rank (low high : IapGrantDecision K) (same : low.grantId = high.grantId)
    (lowCoherent : Coherent initial low) (highCoherent : Coherent initial high)
    (less : low.action.rank < high.action.rank) : Dominates high low := by
  cases highAction : high.action with
  | keep => rw [highAction] at less; simp [IapAction.rank] at less
  | terminate => exact Or.inl highAction
  | suspend => simp [Coherent, highAction] at highCoherent
  | reducePower =>
      cases lowAction : low.action with
      | keep =>
          simp only [Coherent, highAction] at highCoherent
          simp only [Coherent, lowAction] at lowCoherent
          refine Or.inr ⟨by simp [lowAction], ?_⟩
          rw [same] at lowCoherent
          linarith
      | reducePower => rw [highAction, lowAction] at less; simp at less
      | suspend => simp [Coherent, lowAction] at lowCoherent
      | terminate => rw [highAction, lowAction] at less; simp [IapAction.rank] at less

theorem rank_injective (a b : IapAction) (same : a.rank = b.rank) : a = b := by
  cases a <;> cases b <;> simp [IapAction.rank] at same ⊢

theorem merge_pair_coherent (prev decision : IapGrantDecision K) (same : prev.grantId = decision.grantId)
    (prevCoherent : Coherent initial prev) (coherent : Coherent initial decision) :
    Coherent initial (mergePair prev decision) := by
  unfold mergePair
  split
  · exact coherent
  · split
    · exact coherent
    · split
      · rename_i rankEq
        have actionEq := rank_injective _ _ rankEq
        rcases min_choice prev.authorizedEirpDbmMhz decision.authorizedEirpDbmMhz with first | second
        · simp only [Coherent, first] at prevCoherent ⊢
          exact prevCoherent
        · simp only [Coherent, second, ← actionEq, same] at coherent ⊢
          exact coherent
      · exact prevCoherent

theorem merge_pair_dominates (prev decision : IapGrantDecision K) (same : prev.grantId = decision.grantId)
    (prevCoherent : Coherent initial prev) (coherent : Coherent initial decision) :
    Dominates (mergePair prev decision) prev ∧ Dominates (mergePair prev decision) decision := by
  unfold mergePair
  split
  · rename_i higher
    exact ⟨coherent_rank initial prev decision same prevCoherent coherent higher, dominates_refl decision⟩
  · split
    · rename_i reduced
      refine ⟨Or.inr ⟨?_, le_of_lt reduced.2.2⟩, dominates_refl decision⟩
      rw [← reduced.1, reduced.2.1]
      simp
    · split
      · rename_i rankEq
        have actionEq := rank_injective _ _ rankEq
        by_cases terminated : prev.action = .terminate
        · exact ⟨Or.inl terminated, Or.inl terminated⟩
        · refine ⟨Or.inr ⟨terminated, min_le_left _ _⟩, Or.inr ⟨?_, min_le_right _ _⟩⟩
          rw [actionEq]
          exact terminated
      · rename_i notHigher _ rankNe
        have lower : decision.action.rank < prev.action.rank := by omega
        exact ⟨dominates_refl prev, coherent_rank initial decision prev same.symm coherent prevCoherent lower⟩

theorem merge_into_coherent (decision : IapGrantDecision K) (best : List (IapGrantDecision K))
    (coherent : Coherent initial decision) (bestCoherent : ∀ d ∈ best, Coherent initial d) :
    ∀ d ∈ mergeInto decision best, Coherent initial d := by
  induction best with
  | nil =>
      intro d member
      rw [List.mem_singleton.mp member]
      exact coherent
  | cons prev rest ih =>
      have prevCoherent := bestCoherent prev List.mem_cons_self
      have restCoherent := fun d member => bestCoherent d (List.mem_cons_of_mem prev member)
      intro d member
      by_cases same : prev.grantId = decision.grantId
      · rw [mergeInto, if_pos same] at member
        rcases List.mem_cons.mp member with here | later
        · rw [here]
          exact merge_pair_coherent initial prev decision same prevCoherent coherent
        · exact restCoherent d later
      · rw [mergeInto, if_neg same] at member
        rcases List.mem_cons.mp member with here | later
        · rw [here]
          exact prevCoherent
        · exact ih restCoherent d later

theorem merge_into_dominates (decision : IapGrantDecision K) (best : List (IapGrantDecision K))
    (coherent : Coherent initial decision) (bestCoherent : ∀ d ∈ best, Coherent initial d) :
    ∀ old ∈ decision :: best, ∃ d ∈ mergeInto decision best, d.grantId = old.grantId ∧ Dominates d old := by
  induction best with
  | nil =>
      intro old member
      rw [List.mem_singleton.mp member]
      exact ⟨decision, List.mem_singleton_self decision, rfl, dominates_refl decision⟩
  | cons prev rest ih =>
      have prevCoherent := bestCoherent prev List.mem_cons_self
      have restCoherent := fun d member => bestCoherent d (List.mem_cons_of_mem prev member)
      intro old member
      by_cases same : prev.grantId = decision.grantId
      · rw [mergeInto, if_pos same]
        have idEq := merge_pair_id prev decision same
        obtain ⟨overPrev, overDecision⟩ := merge_pair_dominates initial prev decision same prevCoherent coherent
        simp only [List.mem_cons] at member
        rcases member with isDecision | isPrev | later
        · rw [isDecision]
          exact ⟨_, List.mem_cons_self, idEq.trans same, overDecision⟩
        · rw [isPrev]
          exact ⟨_, List.mem_cons_self, idEq, overPrev⟩
        · exact ⟨old, List.mem_cons_of_mem _ later, rfl, dominates_refl old⟩
      · rw [mergeInto, if_neg same]
        have others := ih restCoherent
        simp only [List.mem_cons] at member
        rcases member with isDecision | isPrev | later
        · obtain ⟨d, dMember, facts⟩ := others old (by simp [isDecision])
          exact ⟨d, List.mem_cons_of_mem _ dMember, facts⟩
        · rw [isPrev]
          exact ⟨prev, List.mem_cons_self, rfl, dominates_refl prev⟩
        · obtain ⟨d, dMember, facts⟩ := others old (by simp [later])
          exact ⟨d, List.mem_cons_of_mem _ dMember, facts⟩

theorem merge_all_dominates (decisions best : List (IapGrantDecision K))
    (coherent : ∀ d ∈ decisions, Coherent initial d) (bestCoherent : ∀ d ∈ best, Coherent initial d) :
    ∀ old ∈ decisions ++ best, ∃ d ∈ mergeAll decisions best, d.grantId = old.grantId ∧ Dominates d old := by
  induction decisions generalizing best with
  | nil => exact fun old member => ⟨old, member, rfl, dominates_refl old⟩
  | cons decision rest ih =>
      have headCoherent := coherent decision List.mem_cons_self
      have kept := merge_into_coherent initial decision best headCoherent bestCoherent
      have later := ih (mergeInto decision best) (fun d member => coherent d (List.mem_cons_of_mem _ member)) kept
      intro old member
      have cases : old ∈ rest ∨ old ∈ decision :: best := by
        simp only [List.cons_append, List.mem_cons, List.mem_append] at member ⊢
        tauto
      rcases cases with inRest | inBest
      · exact later old (List.mem_append_left _ inRest)
      · obtain ⟨mid, midMember, midId, midOver⟩ := merge_into_dominates initial decision best headCoherent bestCoherent old inBest
        obtain ⟨d, dMember, dId, dOver⟩ := later mid (List.mem_append_right _ midMember)
        exact ⟨d, dMember, dId.trans midId, dominates_trans d mid old dOver midOver⟩

end Coherence

theorem merge_into_ids (decision : IapGrantDecision K) (best : List (IapGrantDecision K)) (id : String)
    (member : id ∈ (mergeInto decision best).map (·.grantId)) : id = decision.grantId ∨ id ∈ best.map (·.grantId) := by
  induction best with
  | nil => exact Or.inl (by simpa [mergeInto] using member)
  | cons prev rest ih =>
      by_cases same : prev.grantId = decision.grantId
      · rw [mergeInto, if_pos same, List.map_cons, merge_pair_id prev decision same] at member
        exact Or.inr member
      · rw [mergeInto, if_neg same] at member
        simp only [List.map_cons, List.mem_cons] at member ⊢
        rcases member with here | later
        · exact Or.inr (Or.inl here)
        · rcases ih later with isDecision | inRest
          · exact Or.inl isDecision
          · exact Or.inr (Or.inr inRest)

theorem merge_into_distinct (decision : IapGrantDecision K) (best : List (IapGrantDecision K))
    (distinct : (best.map (·.grantId)).Nodup) : ((mergeInto decision best).map (·.grantId)).Nodup := by
  induction best with
  | nil => simp [mergeInto]
  | cons prev rest ih =>
      by_cases same : prev.grantId = decision.grantId
      · rw [mergeInto, if_pos same, List.map_cons, merge_pair_id prev decision same]
        exact distinct
      · rw [mergeInto, if_neg same]
        simp only [List.map_cons, List.nodup_cons] at distinct ⊢
        refine ⟨fun member => ?_, ih distinct.2⟩
        rcases merge_into_ids decision rest prev.grantId member with isDecision | inRest
        · exact same isDecision
        · exact distinct.1 inRest

theorem merge_all_distinct (decisions best : List (IapGrantDecision K)) (distinct : (best.map (·.grantId)).Nodup) :
    ((mergeAll decisions best).map (·.grantId)).Nodup := by
  induction decisions generalizing best with
  | nil => exact distinct
  | cons decision rest ih => exact ih (mergeInto decision best) (merge_into_distinct decision best distinct)

def decisionFor (merged : List (IapGrantDecision K)) (grantId : String) : Option (IapGrantDecision K) :=
  merged.find? fun decision => decision.grantId == grantId

theorem decision_for_member (merged : List (IapGrantDecision K)) (distinct : (merged.map (·.grantId)).Nodup)
    (decision : IapGrantDecision K) (member : decision ∈ merged) :
    decisionFor merged decision.grantId = some decision := by
  induction merged with
  | nil => cases member
  | cons first rest ih =>
      simp only [List.map_cons, List.nodup_cons] at distinct
      rcases List.mem_cons.mp member with same | later
      · simp [decisionFor, same]
      · have different : first.grantId ≠ decision.grantId := fun same =>
          distinct.1 (same ▸ List.mem_map_of_mem later)
        have found := ih distinct.2 later
        simp only [decisionFor] at found ⊢
        rw [List.find?_cons_of_neg (by simpa using different), found]

-- The merged decision of a grant never exceeds what any point authorised, and stops the grant
-- whenever some point stops it.
theorem merged_decision_dominates [IsStrictOrderedRing K] (initial : String → K) (results : List (IapPointResult K))
    (coherent : ∀ result ∈ results, ∀ d ∈ result.decisions, Coherent initial d)
    (result : IapPointResult K) (resultMember : result ∈ results)
    (decision : IapGrantDecision K) (member : decision ∈ result.decisions) :
    ∃ merged, decisionFor (mergeIapDecisions results) decision.grantId = some merged ∧ Dominates merged decision := by
  have allCoherent : ∀ d ∈ results.flatMap (·.decisions), Coherent initial d := by
    intro d dMember
    obtain ⟨r, rMember, inR⟩ := List.mem_flatMap.mp dMember
    exact coherent r rMember d inR
  have inAll : decision ∈ results.flatMap (·.decisions) ++ [] := by
    rw [List.append_nil]
    exact List.mem_flatMap.mpr ⟨result, resultMember, member⟩
  obtain ⟨merged, mergedMember, idEq, dominates⟩ :=
    merge_all_dominates initial _ [] allCoherent (fun d none => by cases none) decision inAll
  have sorted := List.perm_insertionSort (fun a b : IapGrantDecision K => a.grantId ≤ b.grantId)
    (mergeAll (results.flatMap (·.decisions)) [])
  have distinct : ((mergeIapDecisions results).map (·.grantId)).Nodup :=
    (sorted.map (·.grantId)).nodup_iff.mpr (merge_all_distinct _ [] List.nodup_nil)
  refine ⟨merged, ?_, dominates⟩
  rw [← idEq]
  exact decision_for_member _ distinct merged (sorted.mem_iff.mpr mergedMember)

end SasCore.Iap
