import SasCore.Iap.MergeFold
import Mathlib.Data.Prod.Lex
import Mathlib.Order.WithBot

set_option autoImplicit false
set_option linter.unusedSectionVars false

namespace SasCore.Iap

variable {K : Type} [Field K] [LinearOrder K]

-- The higher rank decides, among equal ranks the lower power.
def severity (decision : IapGrantDecision K) : Nat ×ₗ Kᵒᵈ :=
  toLex (decision.action.rank, OrderDual.toDual decision.authorizedEirpDbmMhz)

theorem severity_le (first second : IapGrantDecision K) :
    severity first ≤ severity second ↔ first.action.rank < second.action.rank ∨
      first.action.rank = second.action.rank ∧ second.authorizedEirpDbmMhz ≤ first.authorizedEirpDbmMhz := by
  rw [severity, severity, Prod.Lex.toLex_le_toLex]
  exact Iff.rfl

theorem severity_injective (first second : IapGrantDecision K) (same : severity first = severity second) :
    first.action = second.action ∧ first.authorizedEirpDbmMhz = second.authorizedEirpDbmMhz := by
  have pair := toLex.injective same
  exact ⟨rank_injective _ _ (congrArg Prod.fst pair), OrderDual.toDual.injective (congrArg Prod.snd pair)⟩

-- The three replacement branches take the more severe of the two decisions.
theorem merge_pair_severity (prev decision : IapGrantDecision K) :
    severity (mergePair prev decision) = max (severity prev) (severity decision) := by
  rw [mergePair]
  split
  · rename_i higher
    exact (max_eq_right ((severity_le prev decision).mpr (.inl higher))).symm
  · rename_i notHigher
    split
    · rename_i lower
      obtain ⟨same, _, less⟩ := lower
      exact (max_eq_right ((severity_le prev decision).mpr (.inr ⟨by rw [same], less.le⟩))).symm
    · split
      · rename_i same
        rcases le_total prev.authorizedEirpDbmMhz decision.authorizedEirpDbmMhz with less | less
        · rw [max_eq_left ((severity_le decision prev).mpr (.inr ⟨same, less⟩)), severity, severity, min_eq_left less]
        · rw [max_eq_right ((severity_le prev decision).mpr (.inr ⟨same.symm, less⟩)), severity, severity,
            min_eq_right less, same]
      · rename_i differs
        exact (max_eq_left ((severity_le decision prev).mpr (.inl (by omega)))).symm

def bestSeverity : Option (IapGrantDecision K) → WithBot (Nat ×ₗ Kᵒᵈ)
  | none => ⊥
  | some decision => severity decision

theorem next_severity (best : Option (IapGrantDecision K)) (decision : IapGrantDecision K) :
    bestSeverity (mergeNext best decision) = max (bestSeverity best) (bestSeverity (some decision)) := by
  cases best with
  | none => exact (max_eq_right bot_le).symm
  | some prev =>
      change ((severity (mergePair prev decision) : Nat ×ₗ Kᵒᵈ) : WithBot (Nat ×ₗ Kᵒᵈ)) = _
      rw [merge_pair_severity]
      exact WithBot.coe_max _ _

theorem fold_severity (decisions : List (IapGrantDecision K)) (best : Option (IapGrantDecision K)) :
    bestSeverity (decisions.foldl mergeNext best) =
      decisions.foldl (fun high decision => max high (bestSeverity (some decision))) (bestSeverity best) := by
  induction decisions generalizing best with
  | nil => rfl
  | cons decision rest ih => rw [List.foldl_cons, List.foldl_cons, ih, next_severity]

theorem merged_severity_perm (first second : List (IapPointResult K))
    (perm : (first.flatMap (·.decisions)).Perm (second.flatMap (·.decisions))) (grantId : String) :
    bestSeverity (decisionFor (mergeIapDecisions first) grantId) =
      bestSeverity (decisionFor (mergeIapDecisions second) grantId) := by
  rw [merged_for, merged_for, fold_severity, fold_severity]
  exact (perm.filter _).foldl_eq' (fun one _ other _ high =>
    max_right_comm high (bestSeverity (some one)) (bestSeverity (some other))) _

theorem best_severity_injective (first second : Option (IapGrantDecision K))
    (same : bestSeverity first = bestSeverity second) :
    first.map (fun d => (d.action, d.authorizedEirpDbmMhz)) = second.map (fun d => (d.action, d.authorizedEirpDbmMhz)) := by
  cases first with
  | none =>
      cases second with
      | none => rfl
      | some decision => exact absurd same (WithBot.bot_ne_coe)
  | some one =>
      cases second with
      | none => exact absurd same (WithBot.coe_ne_bot)
      | some other =>
          obtain ⟨action, power⟩ := severity_injective one other (WithBot.coe_injective same)
          rw [Option.map_some, Option.map_some, action, power]

def mergedIds (results : List (IapPointResult K)) : List String := (mergeIapDecisions results).map (·.grantId)

theorem merged_ids_distinct (results : List (IapPointResult K)) : (mergedIds results).Nodup := by
  have sorted := List.perm_insertionSort (fun a b : IapGrantDecision K => a.grantId ≤ b.grantId)
    (mergeAll (results.flatMap (·.decisions)) [])
  exact (sorted.map (·.grantId)).nodup_iff.mpr (merge_all_distinct _ [] List.nodup_nil)

theorem merged_ids_sorted (results : List (IapPointResult K)) : (mergedIds results).Pairwise (· ≤ ·) := by
  have : Std.Total (fun a b : IapGrantDecision K => a.grantId ≤ b.grantId) := ⟨fun a b => le_total a.grantId b.grantId⟩
  have : IsTrans (IapGrantDecision K) (fun a b => a.grantId ≤ b.grantId) := ⟨fun _ _ _ one two => le_trans one two⟩
  exact List.pairwise_map.mpr (List.pairwise_insertionSort (fun a b : IapGrantDecision K => a.grantId ≤ b.grantId) _)

theorem mem_merged_ids (results : List (IapPointResult K)) (grantId : String) :
    grantId ∈ mergedIds results ↔ (decisionFor (mergeIapDecisions results) grantId).isSome = true := by
  rw [mergedIds, List.mem_map, decisionFor, List.find?_isSome]
  simp

def verdict (decision : IapGrantDecision K) : String × IapAction × K :=
  (decision.grantId, decision.action, decision.authorizedEirpDbmMhz)

-- The verdicts are the looked up ones of the ids.
theorem merged_verdicts (results : List (IapPointResult K)) :
    ((mergeIapDecisions results).map verdict).map some = (mergedIds results).map fun grantId =>
      (decisionFor (mergeIapDecisions results) grantId).map fun d => (grantId, d.action, d.authorizedEirpDbmMhz) := by
  rw [mergedIds, List.map_map, List.map_map]
  refine List.map_congr_left fun decision member => ?_
  simp only [Function.comp_apply, decision_for_member _ (merged_ids_distinct results) decision member, Option.map_some]
  rfl

-- The merged verdicts and their order come from the decisions as a whole, not from the order of the points.
theorem merged_verdicts_perm (first second : List (IapPointResult K))
    (perm : (first.flatMap (·.decisions)).Perm (second.flatMap (·.decisions))) :
    (mergeIapDecisions first).map verdict = (mergeIapDecisions second).map verdict := by
  have alike : ∀ grantId, (decisionFor (mergeIapDecisions first) grantId).map (fun d => (d.action, d.authorizedEirpDbmMhz)) =
      (decisionFor (mergeIapDecisions second) grantId).map (fun d => (d.action, d.authorizedEirpDbmMhz)) :=
    fun grantId => best_severity_injective _ _ (merged_severity_perm first second perm grantId)
  have ids : mergedIds first = mergedIds second := by
    have members : ∀ grantId, grantId ∈ mergedIds first ↔ grantId ∈ mergedIds second := by
      intro grantId
      have found := congrArg Option.isSome (alike grantId)
      rw [Option.isSome_map, Option.isSome_map] at found
      rw [mem_merged_ids, mem_merged_ids, found]
    exact ((List.perm_ext_iff_of_nodup (merged_ids_distinct first) (merged_ids_distinct second)).mpr members).eq_of_pairwise'
      (merged_ids_sorted first) (merged_ids_sorted second)
  refine List.map_injective_iff.mpr (Option.some_injective _) ?_
  rw [merged_verdicts, merged_verdicts, ids]
  refine List.map_congr_left fun grantId _ => ?_
  have pair := congrArg (Option.map fun outcome : IapAction × K => (grantId, outcome.1, outcome.2)) (alike grantId)
  rw [Option.map_map, Option.map_map] at pair
  exact pair

end SasCore.Iap
