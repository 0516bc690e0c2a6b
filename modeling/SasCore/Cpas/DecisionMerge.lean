import SasCore.Cpas.Pipeline

set_option autoImplicit false
set_option linter.unusedSectionVars false

namespace SasCore.Cpas

open Registry

variable {K : Type} [Field K] [LinearOrder K]

def EndsGrant (decisions : List (CpasDecision K)) (pk : Nat) : Prop :=
  ∃ decision ∈ decisions, decision.grantPk = some pk ∧ decision.action = .terminate

section Consider

variable (merged : List (CpasDecision K)) (decision : CpasDecision K)

-- One decision joins the list, takes the place of the one held for its key, or is dropped.
theorem consider_cases :
    (considerDecision merged decision = merged ++ [decision] ∧ decision.grantPk.isSome = true ∧
        decision.grantPk ∉ merged.map (·.grantPk)) ∨
      (considerDecision merged decision).map (·.grantPk) = merged.map (·.grantPk) := by
  rw [considerDecision]
  by_cases keyless : decision.grantPk.isNone = true
  · rw [if_pos keyless]
    exact Or.inr rfl
  · rw [if_neg keyless]
    by_cases held : (merged.any (·.grantPk = decision.grantPk)) = true
    · right
      rw [if_pos held, List.map_map]
      refine List.map_congr_left fun row _ => ?_
      dsimp only [Function.comp_apply]
      split
      · rfl
      · rename_i same
        have rowKey : row.grantPk = decision.grantPk := not_not.mp same
        split
        · exact rowKey.symm
        · split
          · exact rowKey.symm
          · rfl
    · left
      refine ⟨if_neg held, by simpa [Option.isSome_iff_ne_none] using keyless, fun listed => held ?_⟩
      obtain ⟨row, member, same⟩ := List.mem_map.mp listed
      exact List.any_eq_true.mpr ⟨row, member, decide_eq_true same⟩

theorem consider_mem (row : CpasDecision K) (member : row ∈ considerDecision merged decision) :
    row ∈ merged ∨ (row = decision ∧ decision.grantPk.isSome = true) := by
  rw [considerDecision] at member
  split at member
  · exact Or.inl member
  · rename_i keyed
    have some : decision.grantPk.isSome = true := by simpa [Option.isSome_iff_ne_none] using keyed
    split at member
    · obtain ⟨held, heldMember, same⟩ := List.mem_map.mp member
      split at same
      · exact Or.inl (same ▸ heldMember)
      · split at same
        · exact Or.inr ⟨same.symm, some⟩
        · split at same
          · exact Or.inr ⟨same.symm, some⟩
          · exact Or.inl (same ▸ heldMember)
    · rcases List.mem_append.mp member with old | new
      · exact Or.inl old
      · exact Or.inr ⟨List.mem_singleton.mp new, some⟩

theorem consider_once (once : (merged.map (·.grantPk)).Nodup) :
    ((considerDecision merged decision).map (·.grantPk)).Nodup := by
  rcases consider_cases merged decision with ⟨joined, _, fresh⟩ | same
  · rw [joined, List.map_append]
    exact List.nodup_append.mpr ⟨once, List.nodup_singleton _, fun key listed other isOther same => by
      rw [List.map_singleton, List.mem_singleton] at isOther
      exact fresh (isOther ▸ same ▸ listed)⟩
  · rw [same]
    exact once

-- A termination stays what it is, or gives way to another termination of the same grant.
theorem consider_keeps_end (pk : Nat) (ended : EndsGrant merged pk) : EndsGrant (considerDecision merged decision) pk := by
  obtain ⟨row, member, key, acts⟩ := ended
  rw [considerDecision]
  split
  · exact ⟨row, member, key, acts⟩
  · split
    · by_cases other : row.grantPk ≠ decision.grantPk
      · exact ⟨row, List.mem_map.mpr ⟨row, member, if_pos other⟩, key, acts⟩
      · by_cases terminates : decision.action = .terminate
        · refine ⟨decision, List.mem_map.mpr ⟨row, member, ?_⟩, (not_not.mp other) ▸ key, terminates⟩
          rw [if_neg other, if_pos terminates]
        · refine ⟨row, List.mem_map.mpr ⟨row, member, ?_⟩, key, acts⟩
          rw [if_neg other, if_neg terminates, if_neg fun lowers => lowers.1 acts]
    · exact ⟨row, List.mem_append_left _ member, key, acts⟩

theorem consider_ends (pk : Nat) (key : decision.grantPk = some pk) (acts : decision.action = .terminate) :
    EndsGrant (considerDecision merged decision) pk := by
  rw [considerDecision, if_neg (by rw [key]; exact Bool.false_ne_true)]
  split
  · rename_i held
    obtain ⟨row, member, same⟩ := List.any_eq_true.mp held
    refine ⟨decision, List.mem_map.mpr ⟨row, member, ?_⟩, key, acts⟩
    rw [if_neg (not_not.mpr (of_decide_eq_true same))]
  · exact ⟨decision, List.mem_append_right _ List.mem_cons_self, key, acts⟩

end Consider

section Fold

variable (decisions merged : List (CpasDecision K))

theorem fold_once (once : (merged.map (·.grantPk)).Nodup) :
    ((decisions.foldl considerDecision merged).map (·.grantPk)).Nodup := by
  induction decisions generalizing merged with
  | nil => exact once
  | cons first rest ih => exact ih _ (consider_once merged first once)

theorem fold_mem (row : CpasDecision K) (member : row ∈ decisions.foldl considerDecision merged) :
    row ∈ merged ∨ (row ∈ decisions ∧ row.grantPk.isSome = true) := by
  induction decisions generalizing merged with
  | nil => exact Or.inl member
  | cons first rest ih =>
      rcases ih _ member with held | ⟨later, keyed⟩
      · rcases consider_mem merged first row held with old | ⟨same, keyed⟩
        · exact Or.inl old
        · exact Or.inr ⟨same ▸ List.mem_cons_self, same ▸ keyed⟩
      · exact Or.inr ⟨List.mem_cons_of_mem first later, keyed⟩

theorem fold_keeps_end (pk : Nat) (ended : EndsGrant merged pk) : EndsGrant (decisions.foldl considerDecision merged) pk := by
  induction decisions generalizing merged with
  | nil => exact ended
  | cons first rest ih => exact ih _ (consider_keeps_end merged first pk ended)

theorem fold_ends (pk : Nat) (ended : EndsGrant decisions pk) : EndsGrant (decisions.foldl considerDecision merged) pk := by
  induction decisions generalizing merged with
  | nil =>
      obtain ⟨_, member, _⟩ := ended
      cases member
  | cons first rest ih =>
      obtain ⟨decision, member, key, acts⟩ := ended
      rcases List.mem_cons.mp member with here | later
      · exact fold_keeps_end rest _ pk (consider_ends merged first pk (here ▸ key) (here ▸ acts))
      · exact ih _ ⟨decision, later, key, acts⟩

end Fold

section Merge

variable (peer iap dpa : List (CpasDecision K))

theorem merge_once : ((mergeConstraintDecisions peer iap dpa).map (·.grantPk)).Nodup :=
  fold_once (peer ++ iap ++ dpa) [] List.nodup_nil

theorem merge_mem (row : CpasDecision K) (member : row ∈ mergeConstraintDecisions peer iap dpa) :
    (row ∈ peer ∨ row ∈ iap ∨ row ∈ dpa) ∧ row.grantPk.isSome = true := by
  rcases fold_mem (peer ++ iap ++ dpa) [] row member with absent | ⟨listed, keyed⟩
  · cases absent
  · rw [List.mem_append, List.mem_append] at listed
    exact ⟨or_assoc.mp listed, keyed⟩

theorem merge_ends (pk : Nat) (ended : EndsGrant peer pk ∨ EndsGrant iap pk ∨ EndsGrant dpa pk) :
    EndsGrant (mergeConstraintDecisions peer iap dpa) pk := by
  refine fold_ends (peer ++ iap ++ dpa) [] pk ?_
  rcases ended with ⟨decision, member, facts⟩ | ⟨decision, member, facts⟩ | ⟨decision, member, facts⟩
  · exact ⟨decision, List.mem_append_left _ (List.mem_append_left _ member), facts⟩
  · exact ⟨decision, List.mem_append_left _ (List.mem_append_right _ member), facts⟩
  · exact ⟨decision, List.mem_append_right _ member, facts⟩

end Merge

end SasCore.Cpas
