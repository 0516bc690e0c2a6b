import SasCore.Iap.Merge
import Mathlib.Algebra.Order.BigOperators.Group.List

set_option autoImplicit false
set_option linter.unusedSectionVars false

namespace SasCore.Iap

variable {K : Type} [Field K] [LinearOrder K]

-- best[grant_id] after one more decision of that grant.
def mergeNext (best : Option (IapGrantDecision K)) (decision : IapGrantDecision K) : Option (IapGrantDecision K) :=
  match best with
  | none => some decision
  | some prev => some (mergePair prev decision)

theorem merge_into_for (decision : IapGrantDecision K) (best : List (IapGrantDecision K)) (grantId : String) :
    decisionFor (mergeInto decision best) grantId =
      if decision.grantId = grantId then mergeNext (decisionFor best grantId) decision else decisionFor best grantId := by
  induction best with
  | nil =>
      by_cases mine : decision.grantId = grantId
      · simp only [mergeInto, decisionFor, List.find?_cons, mine, beq_self_eq_true, List.find?_nil, mergeNext, if_true]
      · simp only [mergeInto, decisionFor, List.find?_cons, beq_eq_false_iff_ne.mpr mine, List.find?_nil, if_neg mine]
  | cons prev rest ih =>
      by_cases same : prev.grantId = decision.grantId
      · have pairId := merge_pair_id prev decision same
        rw [mergeInto, if_pos same]
        by_cases mine : decision.grantId = grantId
        · simp only [decisionFor, List.find?_cons, pairId, same, mine, beq_self_eq_true, mergeNext, if_true]
        · have other : prev.grantId ≠ grantId := fun here => mine (same.symm.trans here)
          simp only [decisionFor, List.find?_cons, pairId, beq_eq_false_iff_ne.mpr other, if_neg mine]
      · rw [mergeInto, if_neg same]
        by_cases here : prev.grantId = grantId
        · have notMine : decision.grantId ≠ grantId := fun mine => same (here.trans mine.symm)
          simp only [decisionFor, List.find?_cons, here, beq_self_eq_true, if_neg notMine]
        · simp only [decisionFor, List.find?_cons, beq_eq_false_iff_ne.mpr here] at ih ⊢
          exact ih

theorem merge_all_for (decisions best : List (IapGrantDecision K)) (grantId : String) :
    decisionFor (mergeAll decisions best) grantId =
      (decisions.filter fun d => d.grantId = grantId).foldl mergeNext (decisionFor best grantId) := by
  induction decisions generalizing best with
  | nil => rfl
  | cons decision rest ih =>
      have stepped := ih (mergeInto decision best)
      rw [merge_into_for] at stepped
      by_cases mine : decision.grantId = grantId
      · rw [List.filter_cons_of_pos (by simpa using mine), List.foldl_cons]
        rw [if_pos mine] at stepped
        exact stepped
      · rw [List.filter_cons_of_neg (by simpa using mine)]
        rw [if_neg mine] at stepped
        exact stepped

theorem decision_for_perm (first second : List (IapGrantDecision K)) (perm : first.Perm second)
    (distinct : (first.map (·.grantId)).Nodup) (grantId : String) :
    decisionFor first grantId = decisionFor second grantId := by
  have distinctSecond : (second.map (·.grantId)).Nodup := (perm.map (·.grantId)).nodup_iff.mp distinct
  cases found : decisionFor first grantId with
  | none =>
      have absent := List.find?_eq_none.mp found
      exact (List.find?_eq_none.mpr fun d member => absent d (perm.mem_iff.mpr member)).symm
  | some decision =>
      have member := List.mem_of_find?_eq_some found
      have isId : decision.grantId = grantId := by simpa using List.find?_some found
      rw [← isId]
      exact (decision_for_member second distinctSecond decision (perm.mem_iff.mp member)).symm

-- A grant's merged decision is the fold of its decisions over the points.
theorem merged_for (results : List (IapPointResult K)) (grantId : String) :
    decisionFor (mergeIapDecisions results) grantId =
      ((results.flatMap (·.decisions)).filter fun d => d.grantId = grantId).foldl mergeNext none := by
  have sorted := List.perm_insertionSort (fun a b : IapGrantDecision K => a.grantId ≤ b.grantId)
    (mergeAll (results.flatMap (·.decisions)) [])
  have distinct := merge_all_distinct (results.flatMap (·.decisions)) [] List.nodup_nil
  rw [mergeIapDecisions, decision_for_perm _ _ sorted ((sorted.map (·.grantId)).nodup_iff.mpr distinct), merge_all_for]
  rfl

theorem merge_pair_origin (origin : String → String → Option Int → Prop) (prev decision : IapGrantDecision K)
    (prevFrom : origin prev.grantId prev.cbsdId prev.grantPk)
    (decisionFrom : origin decision.grantId decision.cbsdId decision.grantPk) :
    origin (mergePair prev decision).grantId (mergePair prev decision).cbsdId (mergePair prev decision).grantPk := by
  rw [mergePair]
  split
  · exact decisionFrom
  · split
    · exact decisionFrom
    · split
      · exact prevFrom
      · exact prevFrom

theorem merge_into_origin (origin : String → String → Option Int → Prop) (decision : IapGrantDecision K)
    (best : List (IapGrantDecision K)) (decisionFrom : origin decision.grantId decision.cbsdId decision.grantPk)
    (bestFrom : ∀ d ∈ best, origin d.grantId d.cbsdId d.grantPk) :
    ∀ d ∈ mergeInto decision best, origin d.grantId d.cbsdId d.grantPk := by
  induction best with
  | nil =>
      intro d member
      rw [List.mem_singleton.mp member]
      exact decisionFrom
  | cons prev rest ih =>
      have prevFrom := bestFrom prev List.mem_cons_self
      have restFrom := fun d member => bestFrom d (List.mem_cons_of_mem prev member)
      intro d member
      rw [mergeInto] at member
      split at member
      · rcases List.mem_cons.mp member with here | later
        · rw [here]
          exact merge_pair_origin origin prev decision prevFrom decisionFrom
        · exact restFrom d later
      · rcases List.mem_cons.mp member with here | later
        · rw [here]
          exact prevFrom
        · exact ih restFrom d later

theorem merge_all_origin (origin : String → String → Option Int → Prop) (decisions best : List (IapGrantDecision K))
    (decisionsFrom : ∀ d ∈ decisions, origin d.grantId d.cbsdId d.grantPk)
    (bestFrom : ∀ d ∈ best, origin d.grantId d.cbsdId d.grantPk) :
    ∀ d ∈ mergeAll decisions best, origin d.grantId d.cbsdId d.grantPk := by
  induction decisions generalizing best with
  | nil => exact bestFrom
  | cons decision rest ih =>
      exact ih _ (fun d member => decisionsFrom d (List.mem_cons_of_mem decision member))
        (merge_into_origin origin decision best (decisionsFrom decision List.mem_cons_self) bestFrom)

-- The ids of a merged decision are those of one of the decisions merged.
theorem merged_origin (origin : String → String → Option Int → Prop) (results : List (IapPointResult K))
    (all : ∀ result ∈ results, ∀ d ∈ result.decisions, origin d.grantId d.cbsdId d.grantPk) :
    ∀ d ∈ mergeIapDecisions results, origin d.grantId d.cbsdId d.grantPk := by
  intro d member
  refine merge_all_origin origin _ [] ?_ (fun _ absent => by cases absent) d ((List.mem_insertionSort _).mp member)
  intro decision decided
  obtain ⟨result, resultMember, inResult⟩ := List.mem_flatMap.mp decided
  exact all result resultMember decision inResult

-- Two merges agree, or both of them only keep.
def KeepAlike (first second : Option (IapGrantDecision K)) : Prop :=
  first = second ∨ (∀ d ∈ first, d.action = .keep) ∧ ∀ d ∈ second, d.action = .keep

theorem merge_keep_left (prev keep : IapGrantDecision K) (kept : keep.action = .keep) (acts : prev.action ≠ .keep) :
    mergePair prev keep = prev := by
  have higher : keep.action.rank < prev.action.rank := by
    rw [kept]
    cases action : prev.action with
    | keep => exact absurd action acts
    | reducePower => decide
    | suspend => decide
    | terminate => decide
  rw [mergePair, if_neg (not_lt.mpr higher.le), if_neg, if_neg higher.ne]
  rintro ⟨same, _, _⟩
  exact acts (same.symm.trans kept)

theorem merge_keep_right (keep decision : IapGrantDecision K) (kept : keep.action = .keep) (acts : decision.action ≠ .keep) :
    mergePair keep decision = decision := by
  have higher : keep.action.rank < decision.action.rank := by
    rw [kept]
    cases action : decision.action with
    | keep => exact absurd action acts
    | reducePower => decide
    | suspend => decide
    | terminate => decide
  rw [mergePair, if_pos higher]

theorem merge_keeps (first second : IapGrantDecision K) (firstKept : first.action = .keep) (secondKept : second.action = .keep) :
    (mergePair first second).action = .keep := by
  rw [mergePair]
  split
  · exact secondKept
  · split
    · exact secondKept
    · split
      · exact firstKept
      · exact firstKept

theorem next_keeps (best : Option (IapGrantDecision K)) (decision : IapGrantDecision K) (kept : ∀ d ∈ best, d.action = .keep)
    (alsoKept : decision.action = .keep) : ∀ d ∈ mergeNext best decision, d.action = .keep := by
  intro d member
  cases best with
  | none =>
      cases member
      exact alsoKept
  | some prev =>
      cases member
      exact merge_keeps prev decision (kept prev rfl) alsoKept

theorem next_acts (best : Option (IapGrantDecision K)) (decision : IapGrantDecision K) (kept : ∀ d ∈ best, d.action = .keep)
    (acts : decision.action ≠ .keep) : mergeNext best decision = some decision := by
  cases best with
  | none => rfl
  | some prev => rw [mergeNext, merge_keep_right prev decision (kept prev rfl) acts]

theorem keep_alike_next (first second : Option (IapGrantDecision K)) (decision : IapGrantDecision K)
    (alike : KeepAlike first second) : KeepAlike (mergeNext first decision) (mergeNext second decision) := by
  rcases alike with same | ⟨firstKept, secondKept⟩
  · exact Or.inl (by rw [same])
  · by_cases kept : decision.action = .keep
    · exact Or.inr ⟨next_keeps first decision firstKept kept, next_keeps second decision secondKept kept⟩
    · exact Or.inl ((next_acts first decision firstKept kept).trans (next_acts second decision secondKept kept).symm)

theorem keep_alike_skip (best : Option (IapGrantDecision K)) (decision : IapGrantDecision K) (kept : decision.action = .keep) :
    KeepAlike (mergeNext best decision) best := by
  cases best with
  | none => exact Or.inr ⟨next_keeps none decision (fun _ none => by cases none) kept, fun _ none => by cases none⟩
  | some prev =>
      by_cases prevKept : prev.action = .keep
      · have only : ∀ d ∈ some prev, d.action = .keep := by
          intro d member
          cases member
          exact prevKept
        exact Or.inr ⟨next_keeps (some prev) decision only kept, only⟩
      · exact Or.inl (by rw [mergeNext, merge_keep_left prev decision kept prevKept])

theorem keep_alike_trans (first second third : Option (IapGrantDecision K)) (one : KeepAlike first second)
    (two : KeepAlike second third) : KeepAlike first third := by
  rcases one with same | ⟨firstKept, secondKept⟩
  · rw [same]
    exact two
  · rcases two with same | ⟨_, thirdKept⟩
    · rw [← same]
      exact Or.inr ⟨firstKept, secondKept⟩
    · exact Or.inr ⟨firstKept, thirdKept⟩

theorem keep_alike_fold (decisions : List (IapGrantDecision K)) (first second : Option (IapGrantDecision K))
    (alike : KeepAlike first second) : KeepAlike (decisions.foldl mergeNext first) (decisions.foldl mergeNext second) := by
  induction decisions generalizing first second with
  | nil => exact alike
  | cons decision rest ih => exact ih _ _ (keep_alike_next first second decision alike)

-- Decisions that keep make no difference to a merge that does more than keep.
theorem keeps_skipped (decisions : List (IapGrantDecision K)) (kept : ∀ d ∈ decisions, d.action = .keep)
    (best : Option (IapGrantDecision K)) : KeepAlike (decisions.foldl mergeNext best) best := by
  induction decisions generalizing best with
  | nil => exact Or.inl rfl
  | cons decision rest ih =>
      have later := ih (fun d member => kept d (List.mem_cons_of_mem decision member)) (mergeNext best decision)
      exact keep_alike_trans _ _ _ later (keep_alike_skip best decision (kept decision List.mem_cons_self))

section Weights

variable (weight : Explanation K → Nat) (additive : ∀ first second, weight (.joined first second) = weight first + weight second)

def actingWeight (decisions : List (IapGrantDecision K)) : Nat :=
  ((decisions.filter fun d => d.action ≠ .keep).map fun d => weight d.explanation).sum

-- What a merge holds: nothing but keeps, or one action at one power with the weight of all that asked for it.
def Accumulated (action : IapAction) (eirp : K) (total : Nat) (best : Option (IapGrantDecision K)) : Prop :=
  (total = 0 ∧ ∀ d ∈ best, d.action = .keep) ∨
    ∃ d, best = some d ∧ d.action = action ∧ d.authorizedEirpDbmMhz = eirp ∧ weight d.explanation = total

include additive in
theorem accumulated_next (action : IapAction) (eirp : K) (acts : action ≠ .keep) (total : Nat)
    (best : Option (IapGrantDecision K)) (decision : IapGrantDecision K) (ended : decision.action = action)
    (power : decision.authorizedEirpDbmMhz = eirp) (start : Accumulated weight action eirp total best) :
    Accumulated weight action eirp (total + weight decision.explanation) (mergeNext best decision) := by
  have decisionActs : decision.action ≠ .keep := by
    rw [ended]
    exact acts
  rcases start with ⟨zero, keeps⟩ | ⟨d, isBest, dEnded, dPower, dWeight⟩
  · exact Or.inr ⟨decision, next_acts best decision keeps decisionActs, ended, power, by rw [zero, Nat.zero_add]⟩
  · have same : decision.action.rank = d.action.rank := by rw [ended, dEnded]
    have notLower : ¬ decision.authorizedEirpDbmMhz < d.authorizedEirpDbmMhz := by
      rw [power, dPower]
      exact lt_irrefl eirp
    have both : mergePair d decision = { d with
        authorizedEirpDbmMhz := min d.authorizedEirpDbmMhz decision.authorizedEirpDbmMhz
        explanation := .joined d.explanation decision.explanation } := by
      rw [mergePair, if_neg (not_lt.mpr same.le), if_neg fun lower => notLower lower.2.2, if_pos same]
    rw [isBest, mergeNext, both]
    refine Or.inr ⟨_, rfl, dEnded, ?_, ?_⟩
    · change min d.authorizedEirpDbmMhz decision.authorizedEirpDbmMhz = eirp
      rw [dPower, power, min_self]
    · change weight (.joined d.explanation decision.explanation) = total + weight decision.explanation
      rw [additive, dWeight]

theorem accumulated_skip (action : IapAction) (eirp : K) (acts : action ≠ .keep) (total : Nat)
    (best : Option (IapGrantDecision K)) (decision : IapGrantDecision K) (kept : decision.action = .keep)
    (start : Accumulated weight action eirp total best) :
    Accumulated weight action eirp total (mergeNext best decision) := by
  rcases start with ⟨zero, keeps⟩ | ⟨d, isBest, dEnded, dFacts⟩
  · exact Or.inl ⟨zero, next_keeps best decision keeps kept⟩
  · refine Or.inr ⟨d, ?_, dEnded, dFacts⟩
    rw [isBest, mergeNext, merge_keep_left d decision kept (by rw [dEnded]; exact acts)]

include additive in
-- Every decision that does more than keep adds its explanation to the merged one, when all of them
-- ask for the same.
theorem fold_accumulates (action : IapAction) (eirp : K) (acts : action ≠ .keep) (decisions : List (IapGrantDecision K))
    (ends : ∀ d ∈ decisions, d.action = .keep ∨ d.action = action ∧ d.authorizedEirpDbmMhz = eirp) (total : Nat)
    (best : Option (IapGrantDecision K)) (start : Accumulated weight action eirp total best) :
    Accumulated weight action eirp (total + actingWeight weight decisions) (decisions.foldl mergeNext best) := by
  induction decisions generalizing best total with
  | nil => exact start
  | cons decision rest ih =>
      have others := fun d member => ends d (List.mem_cons_of_mem decision member)
      rw [actingWeight]
      rcases ends decision List.mem_cons_self with kept | ⟨ended, power⟩
      · rw [List.filter_cons_of_neg (by simp [kept])]
        exact ih others total _ (accumulated_skip weight action eirp acts total best decision kept start)
      · have decisionActs : decision.action ≠ .keep := by
          rw [ended]
          exact acts
        rw [List.filter_cons_of_pos (by simpa using decisionActs), List.map_cons, List.sum_cons, ← Nat.add_assoc]
        exact ih others _ _ (accumulated_next weight additive action eirp acts total best decision ended power start)

theorem acting_weight_append (first second : List (IapGrantDecision K)) :
    actingWeight weight (first ++ second) = actingWeight weight first + actingWeight weight second := by
  rw [actingWeight, List.filter_append, List.map_append, List.sum_append]
  rfl

theorem acting_weight_pos (positive : ∀ explanation, 0 < weight explanation) (decisions : List (IapGrantDecision K))
    (decision : IapGrantDecision K) (member : decision ∈ decisions) (acts : decision.action ≠ .keep) :
    0 < actingWeight weight decisions := by
  have acting : decision ∈ decisions.filter fun d => d.action ≠ .keep :=
    List.mem_filter.mpr ⟨member, by simpa using acts⟩
  have counted : weight decision.explanation ≤ actingWeight weight decisions :=
    List.single_le_sum (fun _ _ => Nat.zero_le _) _ (List.mem_map_of_mem acting)
  exact Nat.lt_of_lt_of_le (positive decision.explanation) counted

end Weights

end SasCore.Iap
