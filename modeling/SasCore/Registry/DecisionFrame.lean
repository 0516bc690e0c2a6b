import SasCore.Registry.CpasApply

set_option autoImplicit false
set_option linter.unusedSectionVars false

namespace SasCore.Registry

variable {K : Type} [Field K] [LinearOrder K]

-- What one decision makes of a row, whichever row it is.
def decidedRow (decision : CpasDecision K) (now : Int) (grant : Grant K) : Grant K :=
  if decision.grantPk = some grant.id then
    if grant.terminated || decision.grantId.startsWith "peer/" then grant else (decideGrant decision now grant).1
  else grant

def decidedRows (clock : Clock) : List (CpasDecision K) → Nat → Grant K → Grant K
  | [], _, grant => grant
  | decision :: rest, n, grant => decidedRows clock rest (n + 1) (decidedRow decision (clock n) grant)

-- The row as it was before and after: the key of a row outside `pks` marks a row that stays as it is.
structure RowFrame (pks : List Nat) (before after : Grant K) : Prop where
  outside : before.id ∉ pks → after = before
  fields : after = { before with
    maxEirp := after.maxEirp
    lifecycleState := after.lifecycleState
    authorized := after.authorized
    terminated := after.terminated }
  power : ∀ held, before.maxEirp = some held → ∃ left, after.maxEirp = some left ∧ left ≤ held
  flag : before.terminated = true → after.terminated = true
  column : before.terminalColumn = true → after.lifecycleState = before.lifecycleState
  ended : ∀ now, (resolveGrantState before now).terminal = true → (resolveGrantState after now).terminal = true

structure AppliedWithin (pks : List Nat) (before after : Store K) : Prop where
  cbsds : after.cbsds = before.cbsds
  nextCbsdPk : after.nextCbsdPk = before.nextCbsdPk
  nextGrantPk : after.nextGrantPk = before.nextGrantPk
  rows : List.Forall₂ (RowFrame pks) before.grants after.grants

section Rows

variable (decision : CpasDecision K) (now : Int) (grant : Grant K)

-- A decision leaves its row alone, lowers the power, or moves a row that has not ended to the state of its event.
theorem decide_grant_cases : (decideGrant decision now grant).1 = grant ∨
    (∃ eirp, decision.action = .reducePower ∧ decision.authorizedEirpDbmMhz = some eirp ∧
      (decideGrant decision now grant).1 = { grant with maxEirp := some eirp } ∧
      ∀ held, grant.maxEirp = some held → eirp + Iap.eirpEpsilon < held) ∨
    ((resolveGrantState grant now).terminal = false ∧
      ((decision.action = .suspend ∧ (decideGrant decision now grant).1 = applyGrantState grant .suspended) ∨
        (decision.action = .terminate ∧ (decideGrant decision now grant).1 = applyGrantState grant .terminated))) := by
  have event : ∀ kind, kind ≠ GrantEvent.expire →
      (applyGrantEvent grant kind (decisionPayload decision grant) now).1 = grant ∨
        ((resolveGrantState grant now).terminal = false ∧
          (applyGrantEvent grant kind (decisionPayload decision grant) now).1 =
            applyGrantState grant (grantTransitions kind).target) := by
    intro kind noExpiry
    rcases apply_grant_event_cases grant kind (decisionPayload decision grant) now with same | ⟨moved, _, repeated⟩
    · exact Or.inl same
    · refine Or.inr ⟨?_, moved⟩
      by_contra ended
      exact noExpiry (repeated (by simpa using ended)).1
  cases acts : decision.action with
  | reducePower =>
      cases power : decision.authorizedEirpDbmMhz with
      | none =>
          left
          simp only [decideGrant, acts, power]
      | some eirp =>
          by_cases holds : (grant.maxEirp.any fun held => decide (held ≤ eirp + Iap.eirpEpsilon)) = true
          · left
            simp only [decideGrant, acts, power, if_pos holds]
          · right; left
            refine ⟨eirp, rfl, rfl, ?_, ?_⟩
            · simp only [decideGrant, acts, power, if_neg holds]
            · intro held isHeld
              rw [isHeld] at holds
              simpa using holds
  | suspend =>
      have same : (decideGrant decision now grant).1 =
          (applyGrantEvent grant .suspend (decisionPayload decision grant) now).1 := by
        simp only [decideGrant, acts]
      rw [same]
      exact (event .suspend nofun).imp_right fun moved => Or.inr ⟨moved.1, Or.inl ⟨rfl, moved.2⟩⟩
  | terminate =>
      have same : (decideGrant decision now grant).1 =
          (applyGrantEvent grant .terminate (decisionPayload decision grant) now).1 := by
        simp only [decideGrant, acts]
      rw [same]
      exact (event .terminate nofun).imp_right fun moved => Or.inr ⟨moved.1, Or.inr ⟨rfl, moved.2⟩⟩
  | unknown =>
      left
      simp only [decideGrant, acts]

theorem decide_grant_id : (decideGrant decision now grant).1.id = grant.id := by
  rcases decide_grant_cases decision now grant with same | ⟨eirp, _, _, same, _⟩ | ⟨_, ⟨_, same⟩ | ⟨_, same⟩⟩
  all_goals rw [same]
  all_goals rfl

theorem decided_row_id : (decidedRow decision now grant).id = grant.id := by
  unfold decidedRow
  split
  · split
    · rfl
    · exact decide_grant_id decision now grant
  · rfl

theorem decided_row_other (other : decision.grantPk ≠ some grant.id) : decidedRow decision now grant = grant := by
  rw [decidedRow, if_neg other]

theorem decided_rows_id (clock : Clock) (decisions : List (CpasDecision K)) (n : Nat) :
    (decidedRows clock decisions n grant).id = grant.id := by
  induction decisions generalizing n grant with
  | nil => rfl
  | cons first rest ih =>
      rw [decidedRows, ih]
      exact decided_row_id first (clock n) grant

theorem decided_rows_unlisted (clock : Clock) (decisions : List (CpasDecision K)) (n : Nat)
    (unlisted : some grant.id ∉ decisions.map (·.grantPk)) : decidedRows clock decisions n grant = grant := by
  induction decisions generalizing n with
  | nil => rfl
  | cons first rest ih =>
      rw [List.map_cons, List.mem_cons, not_or] at unlisted
      rw [decidedRows, decided_row_other first (clock n) grant fun same => unlisted.1 same.symm]
      exact ih (n + 1) unlisted.2

end Rows

section Resolution

variable (decision : CpasDecision K) (now : Int) (store : Store K)

theorem found_by_pk (distinct : (store.grants.map (·.id)).Nodup) (grant : Grant K) (member : grant ∈ store.grants) :
    store.findGrantPk grant.id = some grant := by
  rw [Store.findGrantPk]
  generalize store.grants = grants at distinct member
  induction grants with
  | nil => cases member
  | cons head rest ih =>
      rw [List.map_cons, List.nodup_cons] at distinct
      rcases List.mem_cons.mp member with here | later
      · rw [← here, List.find?_cons_of_pos (by simp)]
      · have different : head.id ≠ grant.id := fun same => distinct.1 (same ▸ List.mem_map_of_mem later)
        rw [List.find?_cons_of_neg (by simpa using different)]
        exact ih distinct.2 later

-- Looking by grant and CBSD id first or not, the row of a decision is the row of its key.
theorem decision_row_of_key (pk : Nat) : ∀ grant, decisionRow decision pk store = some grant →
    grant ∈ store.grants ∧ grant.id = pk := by
  have byKey : ∀ grant, store.findGrantPk pk = some grant → grant ∈ store.grants ∧ grant.id = pk := fun grant found =>
    ⟨List.mem_of_find?_eq_some found, by simpa using List.find?_some found⟩
  intro grant found
  unfold decisionRow at found
  split at found
  · rename_i named isNamed
    split at found
    · rename_i agrees
      cases found
      exact ⟨List.mem_of_find?_eq_some isNamed, agrees⟩
    · exact byKey grant found
  · exact byKey grant found

theorem decision_row_found (pk : Nat) (missing : decisionRow decision pk store = none) :
    ∀ grant ∈ store.grants, grant.id ≠ pk := by
  have noKey : store.findGrantPk pk = none := by
    unfold decisionRow at missing
    split at missing
    · split at missing
      · cases missing
      · exact missing
    · exact missing
  intro grant member same
  exact List.find?_eq_none.mp noKey grant member (by simpa using same)

theorem put_grant_rows (row : Grant K) (change : Grant K → Grant K)
    (here : ∀ grant ∈ store.grants, grant.id = row.id → change grant = row)
    (elsewhere : ∀ grant ∈ store.grants, grant.id ≠ row.id → change grant = grant) :
    store.putGrant row = { store with grants := store.grants.map change } := by
  have each : ∀ grant ∈ store.grants, (if grant.id = row.id then row else grant) = change grant := by
    intro grant member
    by_cases same : grant.id = row.id
    · rw [if_pos same, here grant member same]
    · rw [if_neg same, elsewhere grant member same]
  rw [Store.putGrant, List.map_congr_left each]

theorem rows_unchanged (change : Grant K → Grant K) (each : ∀ grant ∈ store.grants, change grant = grant) :
    store = { store with grants := store.grants.map change } := by
  rw [List.map_congr_left each, List.map_id']

theorem apply_decision_rows (distinct : (store.grants.map (·.id)).Nodup) :
    (applyDecision decision now store).1 = { store with grants := store.grants.map (decidedRow decision now) } := by
  unfold applyDecision
  split
  · rename_i noKey
    exact rows_unchanged store _ fun grant _ => decided_row_other decision now grant (by rw [noKey]; exact nofun)
  · rename_i pk isPk
    have others : ∀ grant ∈ store.grants, grant.id ≠ pk → decidedRow decision now grant = grant := by
      intro grant _ different
      refine decided_row_other decision now grant fun same => different ?_
      rw [isPk] at same
      exact (Option.some.inj same).symm
    split
    · rename_i missing
      exact rows_unchanged store _ fun grant member =>
        others grant member (decision_row_found decision store pk missing grant member)
    · rename_i grant found
      obtain ⟨member, key⟩ := decision_row_of_key decision store pk grant found
      have unique : ∀ other ∈ store.grants, other.id = pk → other = grant := by
        intro other otherMember same
        have first := found_by_pk store distinct grant member
        have second := found_by_pk store distinct other otherMember
        rw [same, ← key, first] at second
        exact (Option.some.inj second).symm
      have listed : decision.grantPk = some grant.id := by rw [isPk, key]
      split
      · rename_i skipped
        refine rows_unchanged store _ fun other otherMember => ?_
        by_cases same : other.id = pk
        · rw [unique other otherMember same, decidedRow, if_pos listed, if_pos skipped]
        · exact others other otherMember same
      · rename_i kept
        have rowKey : (decideGrant decision now grant).1.id = pk := (decide_grant_id decision now grant).trans key
        refine put_grant_rows store _ _ ?_ ?_
        · intro other otherMember same
          rw [unique other otherMember (same.trans rowKey), decidedRow, if_pos listed, if_neg kept]
        · intro other otherMember different
          exact others other otherMember fun same => different (same.trans rowKey.symm)

theorem decided_keys (clock : Clock) (decisions : List (CpasDecision K)) (n : Nat) (grants : List (Grant K)) :
    (grants.map (decidedRows clock decisions n)).map (·.id) = grants.map (·.id) := by
  rw [List.map_map]
  exact List.map_congr_left fun grant _ => decided_rows_id grant clock decisions n

-- Row by row, the whole list of decisions.
theorem apply_decisions_rows (clock : Clock) (decisions : List (CpasDecision K)) (n : Nat)
    (distinct : (store.grants.map (·.id)).Nodup) :
    (applyCpasDecisions clock decisions n store).1 =
      { store with grants := store.grants.map (decidedRows clock decisions n) } := by
  induction decisions generalizing n store with
  | nil => exact rows_unchanged store _ fun _ _ => rfl
  | cons first rest ih =>
      have step := apply_decision_rows first (clock n) store distinct
      have keys : (store.grants.map (decidedRow first (clock n))).map (·.id) = store.grants.map (·.id) := by
        rw [List.map_map]
        exact List.map_congr_left fun grant _ => decided_row_id first (clock n) grant
      have later := ih { store with grants := store.grants.map (decidedRow first (clock n)) } (n + 1)
        (by rw [keys]; exact distinct)
      rw [applyCpasDecisions]
      dsimp only
      rw [step, later, List.map_map]
      rfl

end Resolution

section Frame

variable [IsStrictOrderedRing K] (decision : CpasDecision K) (now : Int) (grant : Grant K)

theorem epsilon_nonneg : (0 : K) ≤ Iap.eirpEpsilon := by
  rw [Iap.eirpEpsilon]
  positivity

theorem row_frame_refl (pks : List Nat) : RowFrame pks grant grant :=
  ⟨fun _ => rfl, rfl, fun held isHeld => ⟨held, isHeld, le_refl held⟩, id, fun _ => rfl, fun _ => id⟩

theorem row_frame_trans (pks : List Nat) (first second third : Grant K) (one : RowFrame pks first second)
    (two : RowFrame pks second third) : RowFrame pks first third := by
  have key : second.id = first.id := by
    rw [one.fields]
  refine ⟨?_, ?_, ?_, fun ended => two.flag (one.flag ended), ?_, fun now ended => two.ended now (one.ended now ended)⟩
  · intro unlisted
    rw [two.outside (key ▸ unlisted), one.outside unlisted]
  · rw [two.fields, one.fields]
  · intro held isHeld
    obtain ⟨middle, isMiddle, lowered⟩ := one.power held isHeld
    obtain ⟨left, isLeft, further⟩ := two.power middle isMiddle
    exact ⟨left, isLeft, further.trans lowered⟩
  · intro ended
    have middle := one.column ended
    rw [two.column (by rw [Grant.terminalColumn, middle]; exact ended), middle]

-- A row that has not ended ends at a later reading only by its expiry time.
theorem ended_by_expiry (later : Int) (alive : (resolveGrantState grant now).terminal = false)
    (ended : (resolveGrantState grant later).terminal = true) : grantExpired grant later = true := by
  cases column : grant.lifecycleState with
  | none =>
      cases flag : grant.terminated with
      | true => simp [resolveGrantState, column, flag, GrantState.terminal] at alive
      | false =>
          by_contra early
          simp only [resolveGrantState, column, flag, if_neg early, Bool.false_eq_true, if_false] at ended
          split at ended <;> cases ended
  | some state =>
      by_contra early
      simp only [resolveGrantState, column, early, and_false, if_false] at ended
      simp only [resolveGrantState, column] at alive
      split at alive
      · cases alive
      · rw [ended] at alive
        cases alive

theorem decide_grant_frame (pk : Nat) (listed : grant.id = pk) (flag : grant.terminated = false) :
    RowFrame [pk] grant (decideGrant decision now grant).1 := by
  have inside : ∀ row : Grant K, grant.id ∉ [pk] → row = grant := fun _ unlisted =>
    absurd (List.mem_singleton.mpr listed) unlisted
  have unset : ∀ row : Grant K, grant.terminated = true → row.terminated = true := by
    intro row set
    rw [flag] at set
    cases set
  rcases decide_grant_cases decision now grant with same | ⟨eirp, _, _, same, lower⟩ | ⟨alive, moved⟩
  · rw [same]
    exact row_frame_refl grant [pk]
  · rw [same]
    refine ⟨inside _, rfl, ?_, unset _, fun _ => rfl, fun _ => id⟩
    intro held isHeld
    exact ⟨eirp, rfl, (le_add_of_nonneg_right epsilon_nonneg).trans (lower held isHeld).le⟩
  · have column : ∀ row : Grant K, grant.terminalColumn = true → row.lifecycleState = grant.lifecycleState := by
      intro row ended
      rw [(terminal_column_resolved grant now ended).1] at alive
      cases alive
    rcases moved with ⟨_, same⟩ | ⟨_, same⟩
    · rw [same]
      refine ⟨inside _, rfl, fun held isHeld => ⟨held, isHeld, le_refl held⟩, unset _, column _, ?_⟩
      intro later ended
      have expired : grantExpired (applyGrantState grant .suspended) later = true :=
        ended_by_expiry now grant later alive ended
      have after : resolveGrantState (applyGrantState grant .suspended) later = .expired :=
        if_pos ⟨Or.inr (Or.inr rfl), expired⟩
      rw [after]
      rfl
    · rw [same]
      refine ⟨inside _, rfl, fun held isHeld => ⟨held, isHeld, le_refl held⟩, unset _, column _, ?_⟩
      intro later _
      simp [resolveGrantState, applyGrantState, GrantState.terminal]

theorem decided_row_frame (pk : Nat) (listed : decision.grantPk = some pk) :
    RowFrame [pk] grant (decidedRow decision now grant) := by
  by_cases here : decision.grantPk = some grant.id
  · rw [decidedRow, if_pos here]
    split
    · exact row_frame_refl grant [pk]
    · rename_i acts
      rw [Bool.or_eq_true, not_or] at acts
      exact decide_grant_frame decision now grant pk (Option.some.inj (here.symm.trans listed)) (by simpa using acts.1)
  · rw [decided_row_other decision now grant here]
    exact row_frame_refl grant [pk]

theorem row_frame_weaken (pks more : List Nat) (before after : Grant K) (sub : ∀ pk ∈ pks, pk ∈ more)
    (frame : RowFrame pks before after) : RowFrame more before after :=
  { frame with outside := fun unlisted => frame.outside fun listed => unlisted (sub before.id listed) }

theorem decided_rows_frame (clock : Clock) (decisions : List (CpasDecision K)) (n : Nat) :
    RowFrame (decisions.filterMap (·.grantPk)) grant (decidedRows clock decisions n grant) := by
  induction decisions generalizing grant n with
  | nil => exact row_frame_refl grant []
  | cons first rest ih =>
      have later := ih (decidedRow first (clock n) grant) (n + 1)
      rw [decidedRows]
      cases key : first.grantPk with
      | none =>
          have same := decided_row_other first (clock n) grant (by rw [key]; exact nofun)
          rw [List.filterMap_cons_none key]
          rw [same] at later ⊢
          exact later
      | some pk =>
          rw [List.filterMap_cons_some key]
          have here := row_frame_weaken [pk] (pk :: rest.filterMap (·.grantPk)) grant _
            (fun other isPk => (List.mem_singleton.mp isPk) ▸ List.mem_cons_self)
            (decided_row_frame first (clock n) grant pk key)
          exact row_frame_trans _ grant _ _ here
            (row_frame_weaken _ _ _ _ (fun other member => List.mem_cons_of_mem pk member) later)

theorem apply_decisions_within (clock : Clock) (decisions : List (CpasDecision K)) (store : Store K)
    (distinct : (store.grants.map (·.id)).Nodup) :
    AppliedWithin (decisions.filterMap (·.grantPk)) store (applyCpasDecisions clock decisions 0 store).1 := by
  rw [apply_decisions_rows store clock decisions 0 distinct]
  refine ⟨rfl, rfl, rfl, ?_⟩
  rw [List.forall₂_map_right_iff]
  exact List.forall₂_same.mpr fun grant _ => decided_rows_frame grant clock decisions 0

end Frame

section Again

variable [IsStrictOrderedRing K] (decision : CpasDecision K) (now : Int) (grant : Grant K)

-- What a decision left, the same decision at the same reading leaves again.
theorem decide_grant_again (flag : (decideGrant decision now grant).1.terminated = false) :
    (decideGrant decision now (decideGrant decision now grant).1).1 = (decideGrant decision now grant).1 := by
  rcases decide_grant_cases decision now grant with same | ⟨eirp, acts, power, same, _⟩ | ⟨_, ⟨acts, same⟩ | ⟨_, same⟩⟩
  · rw [same, same]
  · rw [same]
    have reached : (some eirp).any (fun held => decide (held ≤ eirp + Iap.eirpEpsilon)) = true :=
      decide_eq_true (le_add_of_nonneg_right epsilon_nonneg)
    simp only [decideGrant, acts, power]
    rw [if_pos reached]
  · rw [same]
    have cases := decide_grant_cases decision now (applyGrantState grant .suspended)
    rcases cases with again | ⟨_, other, _⟩ | ⟨_, ⟨_, again⟩ | ⟨other, _⟩⟩
    · exact again
    · rw [acts] at other
      cases other
    · exact again
    · rw [acts] at other
      cases other
  · rw [same] at flag
    cases flag

theorem decided_row_again : decidedRow decision now (decidedRow decision now grant) = decidedRow decision now grant := by
  by_cases here : decision.grantPk = some grant.id
  · have key := decided_row_id decision now grant
    by_cases skipped : (grant.terminated || decision.grantId.startsWith "peer/") = true
    · have same : decidedRow decision now grant = grant := by
        rw [decidedRow, if_pos here, if_pos skipped]
      rw [same, same]
    · have decided : decidedRow decision now grant = (decideGrant decision now grant).1 := by
        rw [decidedRow, if_pos here, if_neg skipped]
      rw [decidedRow, key, if_pos here]
      split
      · rfl
      · rename_i acts
        rw [decided] at acts ⊢
        rw [Bool.or_eq_true, not_or] at acts
        exact decide_grant_again decision now grant (by simpa using acts.1)
  · rw [decided_row_other decision now grant here, decided_row_other decision now grant here]

theorem decided_rows_again (clock : Clock) (decisions : List (CpasDecision K)) (n : Nat)
    (once : (decisions.map (·.grantPk)).Nodup) :
    decidedRows clock decisions n (decidedRows clock decisions n grant) = decidedRows clock decisions n grant := by
  induction decisions generalizing grant n with
  | nil => rfl
  | cons first rest ih =>
      rw [List.map_cons, List.nodup_cons] at once
      have key := decided_row_id first (clock n) grant
      by_cases here : first.grantPk = some grant.id
      · have unlisted : some (decidedRow first (clock n) grant).id ∉ rest.map (·.grantPk) := by
          rw [key, ← here]
          exact once.1
        have passed := decided_rows_unlisted (decidedRow first (clock n) grant) clock rest (n + 1) unlisted
        rw [decidedRows, decidedRows, passed, decided_row_again, passed]
      · have skipped := decided_row_other first (clock n) grant here
        have rowKey := decided_rows_id grant clock rest (n + 1)
        rw [decidedRows, decidedRows, skipped, decided_row_other first (clock n) _ (by rw [rowKey]; exact here)]
        exact ih grant (n + 1) once.2

theorem apply_decisions_again (clock : Clock) (decisions : List (CpasDecision K)) (store : Store K)
    (distinct : (store.grants.map (·.id)).Nodup) (once : (decisions.map (·.grantPk)).Nodup) :
    (applyCpasDecisions clock decisions 0 (applyCpasDecisions clock decisions 0 store).1).1 =
      (applyCpasDecisions clock decisions 0 store).1 := by
  have keys := decided_keys clock decisions 0 store.grants
  rw [apply_decisions_rows store clock decisions 0 distinct,
    apply_decisions_rows _ clock decisions 0 (by rw [keys]; exact distinct), List.map_map]
  have each : ∀ row ∈ store.grants, (decidedRows clock decisions 0 ∘ decidedRows clock decisions 0) row =
      decidedRows clock decisions 0 row := fun row _ => decided_rows_again row clock decisions 0 once
  rw [List.map_congr_left each]

end Again

end SasCore.Registry
