import SasCore.Cpas.ApplyFrame
import SasCore.Iap.ProductionRun
import SasCore.Registry.Waning

set_option autoImplicit false
set_option linter.unusedSectionVars false

namespace SasCore.Cpas

open Registry

variable {K : Type} [Field K] [LinearOrder K]

-- A row as process_grant and the database write it: keys begin at 1, and no id of a local grant is that of a peer's.
structure LocalRow (grant : Grant K) : Prop where
  key : grant.id ≠ 0
  grantNamed : grant.grantId ≠ ""
  cbsdNamed : grant.cbsdId ≠ ""
  ours : grant.grantId.startsWith "peer/" = false
  powered : grant.maxEirp.isSome = true
  known : grant.lifecycleState ≠ some .requested

theorem local_row_wanes (now : Int) (old fresh : Grant K) (ours : LocalRow old) (waned : Wanes now old fresh) : LocalRow fresh := by
  obtain ⟨held, isHeld⟩ := Option.isSome_iff_exists.mp ours.powered
  obtain ⟨left, isLeft, _⟩ := waned.power held isHeld
  refine ⟨?_, ?_, ?_, ?_, ?_, waned.known ours.known⟩
  · rw [waned.id]
    exact ours.key
  · rw [waned.names.1]
    exact ours.grantNamed
  · rw [waned.names.2]
    exact ours.cbsdNamed
  · rw [waned.names.1]
    exact ours.ours
  · rw [isLeft]
    rfl

section Applied

variable [IsStrictOrderedRing K] (decision : CpasDecision K) (reading now : Int) (row : Grant K)

theorem decided_rows_once (clock : Clock) (decisions : List (CpasDecision K)) (n : Nat)
    (once : (decisions.map (·.grantPk)).Nodup) (member : decision ∈ decisions) (key : decision.grantPk = some row.id) :
    ∃ k, decidedRows clock decisions n row = decidedRow decision (clock k) row := by
  induction decisions generalizing n with
  | nil => cases member
  | cons first rest ih =>
      rw [List.map_cons, List.nodup_cons] at once
      rcases List.mem_cons.mp member with here | later
      · refine ⟨n, ?_⟩
        rw [decidedRows, ← here]
        refine decided_rows_unlisted _ clock rest (n + 1) ?_
        rw [decided_row_id, ← key, here]
        exact once.1
      · have other : first.grantPk ≠ some row.id := by
          rw [← key]
          exact fun same => once.1 (same ▸ List.mem_map_of_mem later)
        obtain ⟨k, same⟩ := ih (n + 1) once.2 later
        exact ⟨k, by rw [decidedRows, decided_row_other first (clock n) row other, same]⟩

variable (ours : LocalRow row) (sync : row.InSync) (key : decision.grantPk = some row.id)
variable (named : decision.grantId.startsWith "peer/" = false)

include ours sync key named

-- A row that a decision ends is over, if only because its time was up before.
theorem ended_row_over (acts : decision.action = .terminate) (le : reading ≤ now) :
    (decidedRow decision reading row).overAt now = true := by
  rw [decidedRow, if_pos key, named, Bool.or_false]
  by_cases flag : row.terminated = true
  · rw [if_pos flag, Grant.overAt, ← sync, flag, Bool.true_or]
  · rw [if_neg flag]
    have fields : missingRequiredFields (decisionPayload decision row) (grantTransitions .terminate).requiredFields = [] := by
      simp [missingRequiredFields, grantTransitions, decisionPayload, idPayload, Payload.get, List.lookup_cons, ours.cbsdNamed,
        ours.grantNamed]
    have moved : (decideGrant decision reading row).1 =
        (applyGrantEvent row .terminate (decisionPayload decision row) reading).1 := by
      rw [decideGrant, acts]
    rw [moved, event_row row .terminate _ reading (by simp) fields]
    split
    · rfl
    · rename_i refused
      refine over_later reading row now le ?_
      rw [Grant.overAt, Bool.or_eq_true]
      by_cases expired : grantExpired row reading = true
      · exact Or.inr expired
      · left
        cases column : row.lifecycleState with
        | none =>
            have unflagged : row.terminated = false := by simpa using flag
            refine absurd ?_ refused
            rw [resolveGrantState, column, unflagged]
            dsimp only
            rw [if_neg Bool.false_ne_true, if_neg expired]
            split <;> simp [grantTransitions]
        | some state =>
            rw [resolveGrantState, column] at refused
            dsimp only at refused
            rw [if_neg fun both => expired both.2] at refused
            have unasked := ours.known
            rw [column] at unasked
            rw [Grant.terminalColumn, column]
            cases state <;> simp [grantTransitions, GrantState.terminal] at refused unasked ⊢

-- A row that a decision lowers is over or keeps no more than the power decided on.
theorem lowered_row (cap : K) (acts : decision.action = .reducePower) (power : decision.authorizedEirpDbmMhz = some cap) :
    (decidedRow decision reading row).overAt now = true ∨
      ∃ left, (decidedRow decision reading row).maxEirp = some left ∧ left ≤ cap + Iap.eirpEpsilon := by
  rw [decidedRow, if_pos key, named, Bool.or_false]
  by_cases flag : row.terminated = true
  · left
    rw [if_pos flag, Grant.overAt, ← sync, flag, Bool.true_or]
  · right
    rw [if_neg flag, decideGrant, acts]
    dsimp only
    rw [power]
    dsimp only
    obtain ⟨held, isHeld⟩ := Option.isSome_iff_exists.mp ours.powered
    split
    · rename_i holds
      rw [isHeld, Option.any_some] at holds
      exact ⟨held, isHeld, of_decide_eq_true holds⟩
    · exact ⟨cap, rfl, le_add_of_nonneg_right epsilon_nonneg⟩

end Applied

section Merged

variable (decisions merged : List (CpasDecision K))

theorem consider_covers (decision : CpasDecision K) (pk : Nat)
    (listed : some pk ∈ merged.map (·.grantPk) ∨ decision.grantPk = some pk) :
    some pk ∈ (considerDecision merged decision).map (·.grantPk) := by
  rcases consider_cases merged decision with ⟨joined, _, _⟩ | same
  · rw [joined, List.map_append]
    rcases listed with held | here
    · exact List.mem_append_left _ held
    · exact List.mem_append_right _ (List.mem_singleton.mpr here.symm)
  · rcases listed with held | here
    · rw [same]
      exact held
    · rw [considerDecision, if_neg (by rw [here]; exact Bool.false_ne_true)] at same ⊢
      split
      · rename_i held
        rw [if_pos held] at same
        obtain ⟨row, member, isKey⟩ := List.any_eq_true.mp held
        rw [same, ← here, ← of_decide_eq_true isKey]
        exact List.mem_map_of_mem member
      · rw [List.map_append]
        exact List.mem_append_right _ (List.mem_singleton.mpr here.symm)

theorem fold_covers (pk : Nat) (listed : some pk ∈ merged.map (·.grantPk) ∨ some pk ∈ decisions.map (·.grantPk)) :
    some pk ∈ (decisions.foldl considerDecision merged).map (·.grantPk) := by
  induction decisions generalizing merged with
  | nil => exact listed.resolve_right fun member => by cases member
  | cons first rest ih =>
      refine ih _ ?_
      rcases listed with held | member
      · exact Or.inl (consider_covers merged first pk (Or.inl held))
      · rcases List.mem_cons.mp member with here | later
        · exact Or.inl (consider_covers merged first pk (Or.inr here.symm))
        · exact Or.inr later

end Merged

section Shape

variable (env : EvaluationEnv K) (ctx : CpasContext K) (overrides : IapOverrides K) (generation : FrozenGeneration K)
variable (live : LiveDatabase K)

-- An evaluation merges the early decisions with those of the movelists, which take the place of what they end.
structure MergedFrom (early : EarlyDecisions K) (kept moved decisions : List (CpasDecision K)) : Prop where
  merged : decisions = mergeConstraintDecisions early.peer kept moved
  held : ∀ decision ∈ kept, decision ∈ early.iap
  onList : ∀ decision ∈ moved, ∃ frozen ∈ early.localGrants, decision = terminateDecision frozen "dpa_movelist"
  covered : ∀ decision ∈ early.iap, decision ∈ kept ∨ decision.grantId ∈ moved.map (·.grantId)

theorem evaluation_merges (decisions : List (CpasDecision K))
    (decided : evaluateProtections env ctx overrides generation live = .ok decisions) :
    generation.snapshot.localGrants = [] ∨ ∃ early kept moved,
      stagesBeforeDpa env overrides generation live = .ok early ∧ MergedFrom early kept moved decisions := by
  rw [evaluateProtections] at decided
  split at decided
  · rename_i nothing
    rw [Bool.and_eq_true] at nothing
    exact Or.inl (List.isEmpty_iff.mp nothing.2)
  · right
    cases staged : stagesBeforeDpa env overrides generation live with
    | error error =>
        rw [staged] at decided
        cases decided
    | ok early =>
        have plain : MergedFrom early early.iap [] (mergeConstraintDecisions early.peer early.iap []) :=
          ⟨rfl, fun _ => id, (fun _ member => by cases member), fun _ member => Or.inl member⟩
        rw [staged] at decided
        dsimp only [dpaStage] at decided
        split at decided
        · cases decided
          exact ⟨early, _, _, rfl, plain⟩
        · split at decided
          · cases decided
          · split at decided
            · cases decided
              exact ⟨early, _, _, rfl, plain⟩
            · split at decided
              · cases decided
              · cases decided
                refine ⟨early, _, _, rfl, rfl, fun _ => List.mem_of_mem_filter, fun decision member => ?_, fun decision member => ?_⟩
                · obtain ⟨frozen, frozenMember, same⟩ := List.mem_map.mp member
                  exact ⟨frozen, List.mem_of_mem_filter frozenMember, same.symm⟩
                · rw [List.mem_filter]
                  by_contra neither
                  rw [not_or, not_and] at neither
                  have dropped := neither.1 member
                  simp only [Bool.not_eq_true', Bool.not_eq_false, Bool.and_eq_true] at dropped
                  exact neither.2 (by simpa using dropped.1)

theorem early_stage (early : EarlyDecisions K) (staged : stagesBeforeDpa env overrides generation live = .ok early) :
    early.localGrants = hydratedGrants generation.snapshot live.toDatabase ∧
      (∀ decision ∈ early.peer, ∃ frozen ∈ early.localGrants, ∃ reason, decision = terminateDecision frozen reason) ∧
      ((early.iap = [] ∧
          ∀ frozen ∈ early.localGrants, frozen.terminated = true ∨ frozen.grantPk ∈ early.peer.filterMap (·.grantPk)) ∨
        ∃ context, resolveIapContext env live.toDatabase generation overrides = .ok context ∧
          contextDecisions env generation.snapshot early.localGrants (early.peer.filterMap (·.grantPk)) context = some early.iap) := by
  rw [stagesBeforeDpa] at staged
  dsimp only at staged
  split at staged
  · cases staged
  · rename_i peer peerDecided
    split at staged
    · cases staged
    · rename_i exclusions excluded
      have rows := (exclusions_listed env generation.snapshot _ live.quiet exclusions excluded).1
      have terminates : ∀ decision ∈ terminalDecisions peer exclusions,
          ∃ frozen ∈ hydratedGrants generation.snapshot live.toDatabase, ∃ reason, decision = terminateDecision frozen reason := by
        intro decision member
        rcases List.mem_append.mp member with byPeer | isExcluded
        · rw [peer_decisions_staged env live.toDatabase generation.snapshot _ peer peerDecided] at byPeer
          obtain ⟨frozen, frozenMember, found⟩ := List.mem_filterMap.mp byPeer
          obtain ⟨reason, _, same⟩ := Option.map_eq_some_iff.mp found
          exact ⟨frozen, List.mem_of_mem_filter frozenMember, reason, same.symm⟩
        · obtain ⟨entry, entryMember, same⟩ := List.mem_map.mp isExcluded
          rcases undecided_mem _ exclusions [] entry entryMember with absent | listed
          · cases absent
          · exact ⟨entry.1, rows entry listed, entry.2, same.symm⟩
      split at staged
      · rename_i all
        cases staged
        refine ⟨rfl, terminates, Or.inl ⟨rfl, fun frozen member => ?_⟩⟩
        have covered := List.all_eq_true.mp all frozen member
        rw [Bool.or_eq_true, List.contains_iff_mem] at covered
        exact covered
      · split at staged
        · cases staged
        · rename_i context resolved
          split at staged
          · cases staged
          · rename_i iap isIap
            cases staged
            exact ⟨rfl, terminates, Or.inr ⟨context, resolved, isIap⟩⟩

end Shape

section Stage

variable [IsStrictOrderedRing K] (env : EvaluationEnv K) (snapshot : CpasSnapshot K) (localGrants : List (FrozenLocalGrantRf K))
variable (decidedPks : List Nat) (points : List (Iap.ProtectionPoint K)) (coupling : Iap.InterferenceCoupling K)
variable (grants : List (Iap.GrantRfInfo K)) (read : iapRfGrants env.source.readers snapshot localGrants decidedPks = some grants)

def stageItems : List (Iap.IapGrantDecision K) :=
  (Iap.runIap env.model Iap.iapEngineConfig coupling points grants).mergedDecisions

theorem merge_all_coherent (initial : String → K) (decisions best : List (Iap.IapGrantDecision K))
    (coherent : ∀ d ∈ decisions, Iap.Coherent initial d) (bestCoherent : ∀ d ∈ best, Iap.Coherent initial d) :
    ∀ d ∈ Iap.mergeAll decisions best, Iap.Coherent initial d := by
  induction decisions generalizing best with
  | nil => exact bestCoherent
  | cons first rest ih =>
      exact ih _ (fun d member => coherent d (List.mem_cons_of_mem first member))
        (Iap.merge_into_coherent initial first best (coherent first List.mem_cons_self) bestCoherent)

theorem items_coherent (initial : String → K) (initialEq : ∀ grant ∈ grants, initial grant.grantId = grant.maxEirpDbmMhz) :
    ∀ item ∈ stageItems env points coupling grants, Iap.Coherent initial item := by
  intro item member
  have merged := (List.perm_insertionSort (fun a b : Iap.IapGrantDecision K => a.grantId ≤ b.grantId) _).mem_iff.mp member
  refine merge_all_coherent initial _ [] (fun d listed => ?_) (fun d none => by cases none) item merged
  obtain ⟨result, resultMember, inResult⟩ := List.mem_flatMap.mp listed
  obtain ⟨point, _, same⟩ := List.mem_map.mp resultMember
  rw [← same] at inResult
  exact Iap.point_decisions_coherent env.model Iap.iapEngineConfig coupling point grants initial initialEq d inResult

include read

-- A decision of the stage is about one row of the snapshot, and the only one about it.
theorem stage_decision_row (decision : CpasDecision K)
    (member : decision ∈ (stageItems env points coupling grants).filterMap (iapDecisionOf env.showFloat)) :
    ∃ frozen ∈ localGrants, decision.grantId = frozen.grantId ∧ decision.grantPk = some frozen.grantPk := by
  obtain ⟨item, itemMember, converted⟩ := List.mem_filterMap.mp member
  obtain ⟨grant, grantMember, managing, named, _, row⟩ :=
    Iap.run_decision_origin env.model Iap.iapEngineConfig coupling grants points item itemMember
  have isLocal := (iap_rf_managing env.source.readers snapshot localGrants decidedPks grants read).mem_iff.mp
    (List.mem_filter.mpr ⟨grantMember, managing⟩)
  obtain ⟨_, frozen, frozenMember, _, _, _, sameId, frozenRow⟩ := local_rf_managing localGrants decidedPks grant isLocal
  obtain ⟨isItem, isKey, _⟩ := iap_decision_of_named env.showFloat item decision converted
  refine ⟨frozen, frozenMember, isItem.trans (named.symm.trans sameId), ?_⟩
  rw [isKey, ← row, frozenRow]
  rfl

theorem stage_row_once (keys : (localGrants.map (·.grantPk)).Nodup) (first second : CpasDecision K)
    (firstMember : first ∈ (stageItems env points coupling grants).filterMap (iapDecisionOf env.showFloat))
    (secondMember : second ∈ (stageItems env points coupling grants).filterMap (iapDecisionOf env.showFloat))
    (same : first.grantPk = second.grantPk) : first = second := by
  obtain ⟨one, oneMember, oneId, oneKey⟩ :=
    stage_decision_row env snapshot localGrants decidedPks points coupling grants read first firstMember
  obtain ⟨two, twoMember, twoId, twoKey⟩ :=
    stage_decision_row env snapshot localGrants decidedPks points coupling grants read second secondMember
  have sameRow : one = two := by
    refine List.inj_on_of_nodup_map keys oneMember twoMember ?_
    rw [oneKey, twoKey] at same
    exact Option.some.inj same
  obtain ⟨item, itemMember, converted⟩ := List.mem_filterMap.mp firstMember
  obtain ⟨other, otherMember, otherConverted⟩ := List.mem_filterMap.mp secondMember
  have itemId := (iap_decision_of_named env.showFloat item first converted).1
  have otherId := (iap_decision_of_named env.showFloat other second otherConverted).1
  have sameItem : item = other := by
    refine List.inj_on_of_nodup_map (merged_distinct _) itemMember otherMember ?_
    rw [← itemId, ← otherId, oneId, twoId, sameRow]
  rw [sameItem, otherConverted] at converted
  exact (Option.some.inj converted).symm

omit read

theorem acting_listed (distinct : (grants.map (·.grantId)).Nodup) (info : Iap.GrantRfInfo K) (member : info ∈ grants) (pk : Nat)
    (key : info.grantPk = some (pk : Int)) (nonzero : pk ≠ 0) (item : Iap.IapGrantDecision K)
    (found : Iap.decisionFor (stageItems env points coupling grants) info.grantId = some item) (acts : item.action ≠ .keep) :
    ∃ decision ∈ (stageItems env points coupling grants).filterMap (iapDecisionOf env.showFloat),
      decision.grantPk = some pk ∧ decision.grantId = info.grantId ∧ decision.action = iapAction item.action ∧
        decision.authorizedEirpDbmMhz = some item.authorizedEirpDbmMhz := by
  have itemMember := List.mem_of_find?_eq_some found
  have itemId : item.grantId = info.grantId := by simpa using List.find?_some found
  obtain ⟨grant, grantMember, _, named, _, row⟩ :=
    Iap.run_decision_origin env.model Iap.iapEngineConfig coupling grants points item itemMember
  have same : grant = info := List.inj_on_of_nodup_map distinct grantMember member (named.trans itemId)
  have itemKey : item.grantPk = some (pk : Int) := row.symm.trans ((congrArg (·.grantPk) same).trans key)
  have converted : ∃ decision, iapDecisionOf env.showFloat item = some decision ∧ decision.grantPk = some pk ∧
      decision.grantId = item.grantId ∧ decision.action = iapAction item.action ∧
        decision.authorizedEirpDbmMhz = some item.authorizedEirpDbmMhz := by
    rw [iapDecisionOf, itemKey]
    dsimp only
    rw [if_neg]
    · exact ⟨_, rfl, rfl, rfl, rfl, rfl⟩
    · rw [not_or]
      exact ⟨by exact_mod_cast nonzero, acts⟩
  obtain ⟨decision, isDecision, isKey, isId, isAction, isPower⟩ := converted
  exact ⟨decision, List.mem_filterMap.mpr ⟨item, itemMember, isDecision⟩, isKey, isId.trans itemId, isAction, isPower⟩

end Stage

section Origin

variable [IsStrictOrderedRing K] (env : EvaluationEnv K) (overrides : IapOverrides K) (generation : FrozenGeneration K)
variable (live : LiveDatabase K) (early : EarlyDecisions K)
variable (staged : stagesBeforeDpa env overrides generation live = .ok early)

include staged

theorem early_iap_rows (decision : CpasDecision K) (member : decision ∈ early.iap) :
    ∃ frozen ∈ early.localGrants, decision.grantId = frozen.grantId := by
  obtain ⟨_, _, ⟨nothing, _⟩ | ⟨context, _, ran⟩⟩ := early_stage env overrides generation live early staged
  · rw [nothing] at member
    cases member
  · rw [contextDecisions] at ran
    split at ran
    · rw [← Option.some.inj ran] at member
      cases member
    · rename_i coupling _
      rw [iapStage] at ran
      split at ran
      · rw [← Option.some.inj ran] at member
        cases member
      · obtain ⟨grants, read, same⟩ := Option.map_eq_some_iff.mp ran
        rw [← same] at member
        split at member
        · obtain ⟨frozen, listed, named, _⟩ := stage_decision_row env generation.snapshot early.localGrants _ context.points coupling
            grants read decision member
          exact ⟨frozen, listed, named⟩
        · cases member

-- Every decision of an evaluation is about a grant of the snapshot.
theorem merged_rows (kept moved decisions : List (CpasDecision K)) (shape : MergedFrom early kept moved decisions)
    (decision : CpasDecision K) (member : decision ∈ decisions) : ∃ frozen ∈ early.localGrants, decision.grantId = frozen.grantId := by
  obtain ⟨_, ending, _⟩ := early_stage env overrides generation live early staged
  rw [shape.merged] at member
  rcases (merge_mem early.peer kept moved decision member).1 with byPeer | byIap | byList
  · obtain ⟨frozen, listed, reason, same⟩ := ending decision byPeer
    exact ⟨frozen, listed, same ▸ rfl⟩
  · exact early_iap_rows env overrides generation live early staged decision (shape.held decision byIap)
  · obtain ⟨frozen, listed, same⟩ := shape.onList decision byList
    exact ⟨frozen, listed, same ▸ rfl⟩

end Origin

section Rows

variable (early : EarlyDecisions K) (kept moved decisions : List (CpasDecision K)) (shape : MergedFrom early kept moved decisions)
variable (ending : ∀ decision ∈ early.peer, ∃ frozen ∈ early.localGrants, ∃ reason, decision = terminateDecision frozen reason)

include shape ending

theorem peer_ended (pk : Nat) (listed : pk ∈ early.peer.filterMap (·.grantPk)) : EndsGrant decisions pk := by
  obtain ⟨decision, member, key⟩ := List.mem_filterMap.mp listed
  obtain ⟨frozen, _, reason, same⟩ := ending decision member
  rw [shape.merged]
  refine merge_ends _ _ _ pk (Or.inl ⟨decision, member, key, ?_⟩)
  rw [same]
  rfl

-- What the merge holds for a row of the stage: the stage's own decision, or the end of the grant.
theorem row_decided (ids : (early.localGrants.map (·.grantId)).Nodup) (decision : CpasDecision K) (member : decision ∈ early.iap)
    (unique : ∀ other ∈ early.iap, other.grantPk = decision.grantPk → other = decision) (frozen : FrozenLocalGrantRf K)
    (frozenMember : frozen ∈ early.localGrants) (named : decision.grantId = frozen.grantId)
    (key : decision.grantPk = some frozen.grantPk) :
    EndsGrant decisions frozen.grantPk ∨ decision ∈ decisions := by
  have covered : some frozen.grantPk ∈ decisions.map (·.grantPk) := by
    rw [shape.merged]
    refine fold_covers _ [] frozen.grantPk (Or.inr ?_)
    rw [List.map_append, List.map_append, List.mem_append, List.mem_append]
    rcases shape.covered decision member with inKept | inMoved
    · exact Or.inl (Or.inr (key ▸ List.mem_map_of_mem inKept))
    · obtain ⟨ended, endedMember, sameId⟩ := List.mem_map.mp inMoved
      obtain ⟨other, otherMember, isOther⟩ := shape.onList ended endedMember
      have sameRow : other = frozen := by
        refine List.inj_on_of_nodup_map ids otherMember frozenMember ?_
        rw [← named, ← sameId, isOther]
        rfl
      refine Or.inr (List.mem_map.mpr ⟨ended, endedMember, ?_⟩)
      rw [isOther, sameRow]
      rfl
  obtain ⟨row, rowMember, rowKey⟩ := List.mem_map.mp covered
  have origin := rowMember
  rw [shape.merged] at origin
  rcases (merge_mem early.peer kept moved row origin).1 with byPeer | byIap | byList
  · obtain ⟨other, _, reason, same⟩ := ending row byPeer
    exact Or.inl ⟨row, rowMember, rowKey, by rw [same]; rfl⟩
  · rw [unique row (shape.held row byIap) (rowKey.trans key.symm)] at rowMember
    exact Or.inr rowMember
  · obtain ⟨other, _, same⟩ := shape.onList row byList
    exact Or.inl ⟨row, rowMember, rowKey, by rw [same]; rfl⟩

end Rows

section History

variable [IsStrictOrderedRing K] (start : Int) (between later : List (Event K)) (decisions : List (CpasDecision K)) (readings : Readings)

theorem well_timed_split (timed : WellTimed start (between ++ .cpasApply decisions readings :: later)) :
    WellTimed start between ∧ WellTimed readings.finish later := by
  induction between generalizing start with
  | nil => exact ⟨trivial, timed.2⟩
  | cons event rest ih =>
      obtain ⟨first, last⟩ := ih event.readings.finish timed.2
      exact ⟨⟨timed.1, first⟩, last⟩

theorem finish_time_later (events : List (Event K)) (timed : WellTimed start events) : start ≤ finishTime start events := by
  induction events generalizing start with
  | nil => exact le_rfl
  | cons event rest ih => exact (timed.1.trans (event.readings.bounded 0)).trans (ih event.readings.finish timed.2)

theorem apply_before_finish (timed : WellTimed start (between ++ .cpasApply decisions readings :: later)) :
    readings.finish ≤ finishTime start (between ++ .cpasApply decisions readings :: later) := by
  have after := finish_time_later readings.finish later (well_timed_split start between later decisions readings timed).2
  rw [finishTime, List.foldl_append]
  exact after

-- A row of the store before is, as far as it is left, what the decisions made of it between the events.
theorem row_history (found : Store K) (sound : StoreSound found)
    (timed : WellTimed start (between ++ .cpasApply decisions readings :: later)) (old fresh : Grant K) (oldMember : old ∈ found.grants)
    (freshMember : fresh ∈ (run (between ++ .cpasApply decisions readings :: later) found).grants) (same : fresh.id = old.id) :
    ∃ middle, Wanes start old middle ∧ middle.InSync ∧
      Wanes readings.finish (decidedRows readings.read decisions 0 middle) fresh := by
  obtain ⟨before, after⟩ := well_timed_split start between later decisions readings timed
  obtain ⟨midSound, midDescends⟩ := Registry.run_sound between found sound
  obtain ⟨appliedSound, appliedDescends⟩ := Registry.step_sound (.cpasApply decisions readings) (run between found) midSound
  have older := sound.fresh old oldMember
  have joined : run (between ++ .cpasApply decisions readings :: later) found =
      run later (step (.cpasApply decisions readings) (run between found)) := List.foldl_append
  rw [joined] at freshMember
  rcases run_thins readings.finish later _ after appliedSound fresh freshMember with ⟨applied, appliedMember, waned⟩ | newer
  · have rows : (step (.cpasApply decisions readings) (run between found)).grants =
        (run between found).grants.map (decidedRows readings.read decisions 0) :=
      congrArg Store.grants (apply_decisions_rows (run between found) readings.read decisions 0 midSound.keys)
    rw [rows] at appliedMember
    obtain ⟨middle, middleMember, isApplied⟩ := List.mem_map.mp appliedMember
    have middleKey : middle.id = old.id := by
      rw [← same, waned.id, ← isApplied, decided_rows_id]
    rcases run_thins start between found before sound middle middleMember with ⟨origin, originMember, faded⟩ | newer
    · have sameRow : origin = old :=
        List.inj_on_of_nodup_map sound.keys originMember oldMember (faded.id.symm.trans middleKey)
      exact ⟨middle, sameRow ▸ faded, midSound.sync middle middleMember, isApplied ▸ waned⟩
    · omega
  · have bounded := midDescends.next.trans appliedDescends.next
    omega

variable (now : Int) (ends : readings.finish ≤ now) (middle fresh : Grant K) (ours : LocalRow middle) (sync : middle.InSync)
variable (waned : Wanes readings.finish (decidedRows readings.read decisions 0 middle) fresh)
variable (once : (decisions.map (·.grantPk)).Nodup) (decision : CpasDecision K) (member : decision ∈ decisions)
variable (key : decision.grantPk = some middle.id) (named : decision.grantId.startsWith "peer/" = false)

include ends ours sync waned once member key named

theorem ended_stays_over (acts : decision.action = .terminate) : fresh.overAt now = true := by
  obtain ⟨k, same⟩ := decided_rows_once decision middle readings.read decisions 0 once member key
  rw [same] at waned
  have beyond := ended_row_over decision (readings.read k) readings.finish middle ours sync key named acts (readings.bounded k)
  exact over_later readings.finish fresh now ends (waned.ended beyond)

theorem lowered_stays_low (cap : K) (acts : decision.action = .reducePower) (power : decision.authorizedEirpDbmMhz = some cap) :
    fresh.overAt now = true ∨ fresh.maxEirp.getD 0 - Iap.eirpEpsilon ≤ cap := by
  obtain ⟨k, same⟩ := decided_rows_once decision middle readings.read decisions 0 once member key
  rw [same] at waned
  rcases lowered_row decision (readings.read k) readings.finish middle ours sync key named cap acts power with beyond | ⟨left, isLeft, low⟩
  · exact Or.inl (over_later readings.finish fresh now ends (waned.ended beyond))
  · obtain ⟨final, isFinal, lower⟩ := waned.power left isLeft
    rw [isFinal, Option.getD_some]
    exact Or.inr (by linarith)

end History

section Load

variable [IsStrictOrderedRing K]

-- Interference at the power a row still holds, less the tolerance of the engine; a grant that is gone or over is off.
def rowInterf (coupling : Iap.InterferenceCoupling K) (store : Store K) (now : Int) (point : Iap.ProtectionPoint K)
    (channel : Iap.FrequencyChannel) (info : Iap.GrantRfInfo K) : K :=
  match info.grantPk.bind fun pk => store.findGrantPk pk.toNat with
  | none => 0
  | some row => if row.overAt now then 0 else coupling info point channel (row.maxEirp.getD 0 - Iap.eirpEpsilon)

def countsOn (model : Iap.RadioModel K) (point : Iap.ProtectionPoint K) (channel : Iap.FrequencyChannel)
    (info : Iap.GrantRfInfo K) : Bool :=
  Iap.managedOn point channel info && Iap.inNeighborhood model point info

-- The load on a channel of a point of all the grants of a snapshot that have a place.
def committedLoad (model : Iap.RadioModel K) (coupling : Iap.InterferenceCoupling K) (localGrants : List (FrozenLocalGrantRf K))
    (store : Store K) (now : Int) (point : Iap.ProtectionPoint K) (channel : Iap.FrequencyChannel) : K :=
  (((localRfGrants localGrants []).filter (countsOn model point channel)).map (rowInterf coupling store now point channel)).sum

-- Grants that are decided before the stage and are off add nothing to the load of the others.
theorem load_undecided (localGrants : List (FrozenLocalGrantRf K)) (decidedPks : List Nat) (counts : Iap.GrantRfInfo K → Bool)
    (value bound : Iap.GrantRfInfo K → K)
    (off : ∀ frozen ∈ localGrants, frozen.terminated = false → frozen.grantPk ∈ decidedPks → ∀ info,
      frozenToIapGrantRf frozen = some info → value info ≤ 0)
    (below : ∀ info ∈ localRfGrants localGrants decidedPks, counts info = true → value info ≤ bound info) :
    (((localRfGrants localGrants []).filter counts).map value).sum ≤
      (((localRfGrants localGrants decidedPks).filter counts).map bound).sum := by
  induction localGrants with
  | nil => exact le_rfl
  | cons frozen rest ih =>
      have later := ih (fun other member => off other (List.mem_cons_of_mem frozen member)) fun info member => below info (by
        rw [localRfGrants, List.filterMap_cons]
        split
        · exact member
        · exact List.mem_cons_of_mem _ member)
      simp only [localRfGrants, List.filterMap_cons] at later below ⊢
      cases ended : frozen.terminated with
      | true =>
          simp only [Bool.true_or, if_true]
          exact later
      | false =>
          cases isInfo : frozenToIapGrantRf frozen with
          | none =>
              simp only [ite_self]
              exact later
          | some info =>
              simp only [ended, isInfo, Bool.false_or, List.contains_nil, Bool.false_eq_true, if_false] at below later ⊢
              by_cases decided : frozen.grantPk ∈ decidedPks
              · have none := off frozen List.mem_cons_self ended decided info isInfo
                simp only [List.contains_iff_mem.mpr decided, if_true]
                by_cases counted : counts info = true
                · rw [List.filter_cons_of_pos counted, List.map_cons, List.sum_cons]
                  linarith
                · rw [List.filter_cons_of_neg counted]
                  exact later
              · have undecided : decidedPks.contains frozen.grantPk = false := by simpa using decided
                simp only [undecided, Bool.false_eq_true, if_false] at below ⊢
                by_cases counted : counts info = true
                · have here := below info List.mem_cons_self counted
                  rw [List.filter_cons_of_pos counted, List.filter_cons_of_pos counted, List.map_cons, List.map_cons, List.sum_cons,
                    List.sum_cons]
                  linarith
                · rw [List.filter_cons_of_neg counted, List.filter_cons_of_neg counted]
                  exact later

theorem authorized_load_local (model : Iap.RadioModel K) (coupling : Iap.InterferenceCoupling K) (readers : PyReaders K)
    (snapshot : CpasSnapshot K) (localGrants : List (FrozenLocalGrantRf K)) (decidedPks : List Nat)
    (grants : List (Iap.GrantRfInfo K)) (read : iapRfGrants readers snapshot localGrants decidedPks = some grants)
    (items : List (Iap.IapGrantDecision K)) (point : Iap.ProtectionPoint K) (channel : Iap.FrequencyChannel) :
    (((localRfGrants localGrants decidedPks).filter (countsOn model point channel)).map
        (Iap.authorizedInterf coupling items point channel)).sum =
      Iap.authorizedLoad model coupling grants items point channel := by
  have managing := iap_rf_managing readers snapshot localGrants decidedPks grants read
  rw [Iap.authorizedLoad, Iap.grantsInNeighborhood, List.filter_filter]
  have counted : grants.filter (fun info => Iap.managedOn point channel info && Iap.inNeighborhood model point info) =
      (grants.filter (·.isManagingSas)).filter (countsOn model point channel) := by
    rw [List.filter_filter]
    refine List.filter_congr fun info _ => ?_
    cases managed : info.isManagingSas <;> simp [countsOn, Iap.managedOn, managed]
  rw [counted]
  exact (((managing.filter _).map _).sum_eq).symm

end Load

section Protected

variable [IsStrictOrderedRing K]

structure LocalStore (store : Store K) : Prop where
  sound : StoreSound store
  rows : ∀ grant ∈ store.grants, LocalRow grant
  ids : (store.grants.map (·.grantId)).Nodup

theorem frozen_row (freezing : Int) (db : Database K) (frozen : FrozenLocalGrantRf K)
    (member : frozen ∈ (freezeCpasSnapshot freezing db).localGrants) :
    ∃ grant ∈ db.store.grants, grant.id = frozen.grantPk ∧ grant.grantId = frozen.grantId ∧
      grant.maxEirp = frozen.maxEirpDbmMhz := by
  obtain ⟨grant, grantMember, found⟩ := List.mem_filterMap.mp member
  obtain ⟨cbsd, _, same⟩ := Option.map_eq_some_iff.mp found
  refine ⟨grant, List.mem_of_mem_filter grantMember, ?_⟩
  rw [← same]
  exact ⟨rfl, rfl, rfl⟩

theorem frozen_keys (freezing : Int) (db : Database K) (stored : LocalStore db.store) :
    ((freezeCpasSnapshot freezing db).localGrants.map (·.grantPk)).Nodup ∧
      ((freezeCpasSnapshot freezing db).localGrants.map (·.grantId)).Nodup := by
  have keys := Collect.keys_sublist (frozenOf db) Grant.id FrozenLocalGrantRf.grantPk fun grant frozen found => by
    obtain ⟨cbsd, _, same⟩ := Option.map_eq_some_iff.mp found
    exact same ▸ rfl
  have ids := Collect.keys_sublist (frozenOf db) Grant.grantId FrozenLocalGrantRf.grantId fun grant frozen found => by
    obtain ⟨cbsd, _, same⟩ := Option.map_eq_some_iff.mp found
    exact same ▸ rfl
  exact ⟨stored.sound.keys.sublist ((keys _).trans (List.filter_sublist.map _)),
    stored.ids.sublist ((ids _).trans (List.filter_sublist.map _))⟩

theorem frozen_info (frozen : FrozenLocalGrantRf K) (info : Iap.GrantRfInfo K) (converted : frozenToIapGrantRf frozen = some info) :
    info.grantPk = some (frozen.grantPk : Int) ∧ info.maxEirpDbmMhz = frozen.maxEirpDbmMhz.getD 0 := by
  refine ⟨(frozen_rf_key frozen info converted).2.2, ?_⟩
  rw [frozenToIapGrantRf] at converted
  split at converted
  · cases converted
    rfl
  · cases converted

theorem row_interf_le (coupling : Iap.InterferenceCoupling K) (nonneg : ∀ grant point channel eirp, 0 ≤ coupling grant point channel eirp)
    (monotone : ∀ grant point channel, Monotone (coupling grant point channel)) (store : Store K) (now : Int)
    (point : Iap.ProtectionPoint K) (channel : Iap.FrequencyChannel) (info : Iap.GrantRfInfo K) (pk : Nat)
    (key : info.grantPk = some (pk : Int)) (eirp : K)
    (low : ∀ fresh ∈ store.grants, fresh.id = pk → fresh.overAt now = true ∨ fresh.maxEirp.getD 0 - Iap.eirpEpsilon ≤ eirp) :
    rowInterf coupling store now point channel info ≤ coupling info point channel eirp := by
  rw [rowInterf, key, Option.bind_some, Int.toNat_natCast]
  cases found : store.findGrantPk pk with
  | none => exact nonneg _ _ _ _
  | some fresh =>
      dsimp only
      rcases low fresh (List.mem_of_find?_eq_some found) (by simpa using List.find?_some found) with beyond | below
      · rw [if_pos beyond]
        exact nonneg _ _ _ _
      · split
        · exact nonneg _ _ _ _
        · exact monotone _ _ _ below

theorem row_interf_off (coupling : Iap.InterferenceCoupling K) (store : Store K) (now : Int) (point : Iap.ProtectionPoint K)
    (channel : Iap.FrequencyChannel) (info : Iap.GrantRfInfo K) (pk : Nat) (key : info.grantPk = some (pk : Int))
    (off : ∀ fresh ∈ store.grants, fresh.id = pk → fresh.overAt now = true) : rowInterf coupling store now point channel info = 0 := by
  rw [rowInterf, key, Option.bind_some, Int.toNat_natCast]
  cases found : store.findGrantPk pk with
  | none => rfl
  | some fresh => exact if_pos (off fresh (List.mem_of_find?_eq_some found) (by simpa using List.find?_some found))

variable (env : EvaluationEnv K) (ctx : CpasContext K) (overrides : IapOverrides K) (freezing : Int)
variable (found live : LiveDatabase K) (stored : LocalStore found.store) (decisions : List (CpasDecision K))
variable (start : Int) (between later : List (Event K)) (readings : Readings)
variable (timed : WellTimed start (between ++ .cpasApply decisions readings :: later)) (now : Int) (ends : readings.finish ≤ now)

section Final

variable (once : (decisions.map (·.grantPk)).Nodup)
variable (ours : ∀ decision ∈ decisions, ∃ frozen ∈ (freezeCpasSnapshot freezing found.toDatabase).localGrants,
  decision.grantId = frozen.grantId)
variable (frozen : FrozenLocalGrantRf K) (listed : frozen ∈ (freezeCpasSnapshot freezing found.toDatabase).localGrants)
variable (fresh : Grant K) (freshMember : fresh ∈ (run (between ++ .cpasApply decisions readings :: later) found.store).grants)
variable (same : fresh.id = frozen.grantPk)

include stored timed ends listed freshMember same

theorem final_kept : fresh.maxEirp.getD 0 ≤ frozen.maxEirpDbmMhz.getD 0 := by
  obtain ⟨old, oldMember, isKey, _, isPower⟩ := frozen_row freezing found.toDatabase frozen listed
  obtain ⟨middle, faded, _, waned⟩ := row_history start between later decisions readings found.store stored.sound timed old fresh
    oldMember freshMember (same.trans isKey.symm)
  obtain ⟨held, isHeld⟩ := Option.isSome_iff_exists.mp (stored.rows old oldMember).powered
  obtain ⟨second, isSecond, lower⟩ := faded.power held isHeld
  obtain ⟨third, isThird, further⟩ := (decided_rows_frame middle readings.read decisions 0).power second isSecond
  obtain ⟨last, isLast, least⟩ := waned.power third isThird
  rw [isLast, ← isPower, isHeld]
  exact least.trans (further.trans lower)

include once ours

theorem final_ended (ended : EndsGrant decisions frozen.grantPk) : fresh.overAt now = true := by
  obtain ⟨old, oldMember, isKey, _, _⟩ := frozen_row freezing found.toDatabase frozen listed
  obtain ⟨middle, faded, sync, waned⟩ := row_history start between later decisions readings found.store stored.sound timed old fresh
    oldMember freshMember (same.trans isKey.symm)
  obtain ⟨decision, member, key, acts⟩ := ended
  obtain ⟨other, otherListed, isId⟩ := ours decision member
  obtain ⟨row, rowMember, _, rowId, _⟩ := frozen_row freezing found.toDatabase other otherListed
  refine ended_stays_over decisions readings now ends middle fresh (local_row_wanes start old middle (stored.rows old oldMember) faded)
    sync waned once decision member ?_ ?_ acts
  · rw [key, faded.id, isKey]
  · rw [isId, ← rowId]
    exact (stored.rows row rowMember).ours

theorem final_lowered (decision : CpasDecision K) (member : decision ∈ decisions) (key : decision.grantPk = some frozen.grantPk)
    (cap : K) (acts : decision.action = .reducePower) (power : decision.authorizedEirpDbmMhz = some cap) :
    fresh.overAt now = true ∨ fresh.maxEirp.getD 0 - Iap.eirpEpsilon ≤ cap := by
  obtain ⟨old, oldMember, isKey, _, _⟩ := frozen_row freezing found.toDatabase frozen listed
  obtain ⟨middle, faded, sync, waned⟩ := row_history start between later decisions readings found.store stored.sound timed old fresh
    oldMember freshMember (same.trans isKey.symm)
  obtain ⟨other, otherListed, isId⟩ := ours decision member
  obtain ⟨row, rowMember, _, rowId, _⟩ := frozen_row freezing found.toDatabase other otherListed
  refine lowered_stays_low decisions readings now ends middle fresh (local_row_wanes start old middle (stored.rows old oldMember) faded)
    sync waned once decision member ?_ ?_ cap acts power
  · rw [key, faded.id, isKey]
  · rw [isId, ← rowId]
    exact (stored.rows row rowMember).ours

end Final

section Point

variable (early : EarlyDecisions K) (staged : stagesBeforeDpa env overrides (freezeGeneration freezing found) live = .ok early)
variable (context : IapContext K)
variable (resolved : resolveIapContext env live.toDatabase (freezeGeneration freezing found) overrides = .ok context)
variable (coupling : Iap.InterferenceCoupling K) (isCoupling : context.coupling = some coupling)
variable (grants : List (Iap.GrantRfInfo K))
variable (read : iapRfGrants env.source.readers (freezeGeneration freezing found).snapshot
  (freezeGeneration freezing found).snapshot.localGrants (early.peer.filterMap (·.grantPk)) = some grants)
variable (point : Iap.ProtectionPoint K) (pointMember : point ∈ context.points)

include staged resolved isCoupling read pointMember

-- The IAP decisions are those of the engine, unless no grant was left for it.
theorem stage_items : early.localGrants = (freezeGeneration freezing found).snapshot.localGrants ∧
    (∀ decision ∈ early.peer, ∃ frozen ∈ early.localGrants, ∃ reason, decision = terminateDecision frozen reason) ∧
      ((early.iap = [] ∧ localRfGrants (freezeGeneration freezing found).snapshot.localGrants (early.peer.filterMap (·.grantPk)) = []) ∨
        early.iap = (stageItems env context.points coupling grants).filterMap (iapDecisionOf env.showFloat)) := by
  obtain ⟨rows, ending, stage⟩ := early_stage env overrides (freezeGeneration freezing found) live early staged
  have isRows : early.localGrants = (freezeGeneration freezing found).snapshot.localGrants :=
    rows.trans (hydrated_frozen freezing live.toDatabase found.toDatabase)
  refine ⟨isRows, ending, ?_⟩
  rcases stage with ⟨nothing, decided⟩ | ⟨other, isOther, ran⟩
  · refine Or.inl ⟨nothing, List.filterMap_eq_nil_iff.mpr fun frozen member => if_pos ?_⟩
    rw [Bool.or_eq_true, List.contains_iff_mem]
    exact decided frozen (isRows ▸ member)
  · have sameContext : other = context := Except.ok.inj (isOther.symm.trans resolved)
    rw [sameContext, isRows, contextDecisions, isCoupling] at ran
    dsimp only at ran
    have busy : ¬ context.points.isEmpty = true := by
      rw [List.isEmpty_iff]
      exact List.ne_nil_of_mem pointMember
    rw [iapStage, if_neg busy, evaluateIapDecisionsFromFrozen, read, Option.map_some] at ran
    cases managed : grants.any (·.isManagingSas) with
    | true =>
        rw [managed, if_pos rfl] at ran
        exact Or.inr (Option.some.inj ran).symm
    | false =>
        rw [managed, if_neg Bool.false_ne_true] at ran
        refine Or.inl ⟨(Option.some.inj ran).symm, ?_⟩
        have none : grants.filter (·.isManagingSas) = [] :=
          List.filter_eq_nil_iff.mpr fun info member => List.any_eq_false.mp managed info member
        have managing := iap_rf_managing env.source.readers _ _ _ grants read
        rw [none] at managing
        exact managing.nil_eq.symm

end Point

section Undecided

variable (early : EarlyDecisions K) (kept moved : List (CpasDecision K)) (shape : MergedFrom early kept moved decisions)
variable (isRows : early.localGrants = (freezeGeneration freezing found).snapshot.localGrants)
variable (ending : ∀ decision ∈ early.peer, ∃ frozen ∈ early.localGrants, ∃ reason, decision = terminateDecision frozen reason)
variable (points : List (Iap.ProtectionPoint K)) (coupling : Iap.InterferenceCoupling K)
variable (nonneg : ∀ grant point channel eirp, 0 ≤ coupling grant point channel eirp)
variable (monotone : ∀ grant point channel, Monotone (coupling grant point channel))
variable (grants : List (Iap.GrantRfInfo K)) (distinct : (grants.map (·.grantId)).Nodup)
variable (read : iapRfGrants env.source.readers (freezeGeneration freezing found).snapshot
  (freezeGeneration freezing found).snapshot.localGrants (early.peer.filterMap (·.grantPk)) = some grants)
variable (isIap : early.iap = (stageItems env points coupling grants).filterMap (iapDecisionOf env.showFloat))
variable (ours : ∀ decision ∈ decisions, ∃ frozen ∈ (freezeGeneration freezing found).snapshot.localGrants,
  decision.grantId = frozen.grantId)

include stored timed ends shape isRows ending nonneg monotone distinct read isIap ours

-- What a row of the stage still holds is within what the engine authorized for its grant.
theorem undecided_within (point : Iap.ProtectionPoint K) (channel : Iap.FrequencyChannel) (info : Iap.GrantRfInfo K)
    (member : info ∈ localRfGrants (freezeGeneration freezing found).snapshot.localGrants (early.peer.filterMap (·.grantPk))) :
    rowInterf coupling (run (between ++ .cpasApply decisions readings :: later) found.store) now point channel info ≤
      Iap.authorizedInterf coupling (stageItems env points coupling grants) point channel info := by
  obtain ⟨managing, frozen, listed, _, _, isInfo, sameId, isKey⟩ := local_rf_managing _ _ info member
  obtain ⟨keys, ids⟩ := frozen_keys freezing found.toDatabase stored
  have once : (decisions.map (·.grantPk)).Nodup := shape.merged ▸ merge_once early.peer kept moved
  have positive : (0 : K) ≤ Iap.eirpEpsilon := epsilon_nonneg
  have isPower : info.maxEirpDbmMhz = frozen.maxEirpDbmMhz.getD 0 := (frozen_info frozen info isInfo).2
  have infoMember : info ∈ grants := List.mem_of_mem_filter
    ((iap_rf_managing env.source.readers _ _ _ grants read).mem_iff.mpr member)
  have keeps : ∀ fresh ∈ (run (between ++ .cpasApply decisions readings :: later) found.store).grants, fresh.id = frozen.grantPk →
      fresh.maxEirp.getD 0 ≤ info.maxEirpDbmMhz := fun fresh freshMember same => isPower.symm ▸
    final_kept freezing found stored decisions start between later readings timed now ends frozen listed fresh freshMember same
  rw [Iap.authorizedInterf]
  cases authorized : Iap.decisionFor (stageItems env points coupling grants) info.grantId with
  | none =>
      refine row_interf_le coupling nonneg monotone _ now point channel info frozen.grantPk isKey _ fun fresh freshMember same => ?_
      have below := keeps fresh freshMember same
      exact Or.inr (by linarith)
  | some item =>
      obtain ⟨initial, initialEq⟩ := Iap.initial_eirp_exists grants distinct
      have itemId : item.grantId = info.grantId := by simpa using List.find?_some authorized
      have coherent := items_coherent env points coupling grants initial initialEq item (List.mem_of_find?_eq_some authorized)
      dsimp only
      by_cases acts : item.action = .keep
      · rw [if_neg (by rw [acts]; simp)]
        simp only [Iap.Coherent, acts, itemId, initialEq info infoMember] at coherent
        refine row_interf_le coupling nonneg monotone _ now point channel info frozen.grantPk isKey _ fun fresh freshMember same => ?_
        have below := keeps fresh freshMember same
        exact Or.inr (by linarith)
      · obtain ⟨old, oldMember, oldKey, _, _⟩ := frozen_row freezing found.toDatabase frozen listed
        obtain ⟨decision, inIap, key, named, action, power⟩ := acting_listed env points coupling grants distinct info infoMember
          frozen.grantPk isKey (oldKey ▸ (stored.rows old oldMember).key) item authorized acts
        rw [← isIap] at inIap
        have unique : ∀ other ∈ early.iap, other.grantPk = decision.grantPk → other = decision := by
          intro other otherMember same
          rw [isIap] at inIap otherMember
          exact stage_row_once env _ _ _ points coupling grants read keys other decision otherMember inIap same
        have ended : EndsGrant decisions frozen.grantPk →
            rowInterf coupling (run (between ++ .cpasApply decisions readings :: later) found.store) now point channel info = 0 :=
          fun ended => row_interf_off coupling _ now point channel info frozen.grantPk isKey fun fresh freshMember same =>
            final_ended freezing found stored decisions start between later readings timed now ends once ours frozen listed fresh
              freshMember same ended
        have bounded : 0 ≤ if item.action = .terminate then 0 else coupling info point channel item.authorizedEirpDbmMhz := by
          split
          · exact le_rfl
          · exact nonneg _ _ _ _
        rcases row_decided early kept moved decisions shape ending (isRows ▸ ids) decision inIap unique frozen (isRows ▸ listed)
          (named.trans sameId) key with beyond | remains
        · rw [ended beyond]
          exact bounded
        · cases kind : item.action with
          | keep => exact absurd kind acts
          | suspend =>
              rw [Iap.Coherent, kind] at coherent
              exact coherent.elim
          | terminate =>
              rw [ended ⟨decision, remains, key, by rw [action, kind]; rfl⟩, if_pos rfl]
          | reducePower =>
              rw [if_neg (by simp)]
              exact row_interf_le coupling nonneg monotone _ now point channel info frozen.grantPk isKey _
                fun fresh freshMember same => final_lowered freezing found stored decisions start between later readings timed now ends
                  once ours frozen listed fresh freshMember same decision remains key _ (by rw [action, kind]; rfl) power

end Undecided

-- Whatever comes between the freeze, the commit and now, the grants of the snapshot that are still on air keep every point that
-- the engine finished under its threshold.
theorem committed_grants_protect
    (decided : evaluateProtections env ctx overrides (freezeGeneration freezing found) live = .ok decisions)
    (early : EarlyDecisions K) (staged : stagesBeforeDpa env overrides (freezeGeneration freezing found) live = .ok early)
    (context : IapContext K)
    (resolved : resolveIapContext env live.toDatabase (freezeGeneration freezing found) overrides = .ok context)
    (coupling : Iap.InterferenceCoupling K) (isCoupling : context.coupling = some coupling)
    (nonneg : ∀ grant point channel eirp, 0 ≤ coupling grant point channel eirp)
    (monotone : ∀ grant point channel, Monotone (coupling grant point channel))
    (grants : List (Iap.GrantRfInfo K))
    (read : iapRfGrants env.source.readers (freezeGeneration freezing found).snapshot
      (freezeGeneration freezing found).snapshot.localGrants (early.peer.filterMap (·.grantPk)) = some grants)
    (distinct : (grants.map (·.grantId)).Nodup) (point : Iap.ProtectionPoint K) (pointMember : point ∈ context.points)
    (finished : ¬ Iap.hitsMaxIterations env.model Iap.iapEngineConfig coupling point grants) (channel : Iap.FrequencyChannel)
    (channelMember : channel ∈ Iap.iapChannels env.model point) (stored : LocalStore found.store) (start : Int)
    (between later : List (Event K)) (readings : Readings)
    (timed : WellTimed start (between ++ .cpasApply decisions readings :: later)) (now : Int) (ends : readings.finish ≤ now) :
    committedLoad env.model coupling (freezeGeneration freezing found).snapshot.localGrants
        (run (between ++ .cpasApply decisions readings :: later) found.store) now point channel ≤
      Iap.pointThresholdMw env.model point := by
  rcases evaluation_merges env ctx overrides (freezeGeneration freezing found) live decisions decided with
    nothing | ⟨other, kept, moved, sameStage, shape⟩
  · rw [committedLoad, nothing]
    exact (env.model.dbmToMw_pos _).le
  · rw [staged] at sameStage
    cases sameStage
    obtain ⟨isRows, ending, stage⟩ := stage_items env overrides freezing found live early staged context resolved coupling isCoupling
      grants read point pointMember
    obtain ⟨keys, ids⟩ := frozen_keys freezing found.toDatabase stored
    have once : (decisions.map (·.grantPk)).Nodup := shape.merged ▸ merge_once early.peer kept moved
    have ours : ∀ decision ∈ decisions, ∃ frozen ∈ (freezeGeneration freezing found).snapshot.localGrants,
        decision.grantId = frozen.grantId := by
      rw [← isRows]
      exact merged_rows env overrides (freezeGeneration freezing found) live early staged kept moved decisions shape
    have fits := Iap.authorized_load_fits env.model Iap.iapEngineConfig context.points grants coupling distinct nonneg monotone point
      pointMember finished channel channelMember
    rw [← authorized_load_local env.model coupling env.source.readers _ _ _ grants read] at fits
    refine (load_undecided _ (early.peer.filterMap (·.grantPk)) _ _ _ (fun frozen listed _ before info isInfo => ?_)
      fun info member _ => ?_).trans fits
    · have ended := peer_ended early kept moved decisions shape ending frozen.grantPk before
      refine (row_interf_off coupling _ now point channel info frozen.grantPk (frozen_info frozen info isInfo).1 ?_).le
      exact fun fresh freshMember same => final_ended freezing found stored decisions start between later readings timed now ends
        once ours frozen listed fresh freshMember same ended
    · rcases stage with ⟨_, nothing⟩ | isIap
      · rw [nothing] at member
        cases member
      · exact undecided_within env freezing found stored decisions start between later readings timed now ends early kept moved shape
          isRows ending context.points coupling nonneg monotone grants distinct read isIap ours point channel info member

-- A grant that an evaluation has a reason to end is over from the commit on, and no heartbeat brings it back.
theorem reasons_end_for_good
    (decided : evaluateProtections env ctx overrides (freezeGeneration freezing found) live = .ok decisions)
    (stored : LocalStore found.store) (start : Int) (past : ExpiriesPast start found.store) (between later : List (Event K))
    (readings : Readings) (timed : WellTimed start (between ++ .cpasApply decisions readings :: later)) (pk : Nat)
    (reason : TerminateReason env ctx overrides (freezeGeneration freezing found) live pk) :
    ∀ fresh ∈ (run (between ++ .cpasApply decisions readings :: later) found.store).grants, fresh.id = pk →
      fresh.overAt (finishTime start (between ++ .cpasApply decisions readings :: later)) = true ∧
        ∀ (checks : HeartbeatChecks K) (certificateHash : Option String) (req : HeartbeatRequest) (next : Readings),
          finishTime start (between ++ .cpasApply decisions readings :: later) ≤ next.read 0 →
          (run (between ++ .cpasApply decisions readings :: later) found.store).findGrant req.grantId req.cbsdId = some fresh →
            (heartbeatItem checks certificateHash next.read req
              (run (between ++ .cpasApply decisions readings :: later) found.store)).2.responseCode ≠ success := by
  have once := evaluation_decides_once env ctx overrides freezing found live decisions decided
  obtain ⟨decision, member, key, acts⟩ := once.ends pk reason
  obtain ⟨listed, isListed, sameKey⟩ := once.frozen decision member
  have isPk : listed = pk := Option.some.inj (sameKey.symm.trans key)
  rcases evaluation_merges env ctx overrides (freezeGeneration freezing found) live decisions decided with
    nothing | ⟨early, kept, moved, staged, shape⟩
  · exact absurd reason (no_rows_no_reason env ctx overrides freezing found live nothing pk)
  · obtain ⟨rows, _, _⟩ := early_stage env overrides (freezeGeneration freezing found) live early staged
    have isRows : early.localGrants = (freezeGeneration freezing found).snapshot.localGrants :=
      rows.trans (hydrated_frozen freezing live.toDatabase found.toDatabase)
    have ours : ∀ decision ∈ decisions, ∃ frozen ∈ (freezeGeneration freezing found).snapshot.localGrants,
        decision.grantId = frozen.grantId := by
      rw [← isRows]
      exact merged_rows env overrides (freezeGeneration freezing found) live early staged kept moved decisions shape
    rw [isPk, ← frozen_pks freezing found] at isListed
    obtain ⟨frozen, frozenListed, isFrozen⟩ := List.mem_map.mp isListed
    intro fresh freshMember same
    have ends := apply_before_finish start between later decisions readings timed
    have beyond := final_ended freezing found stored decisions start between later readings timed _ ends once.once ours frozen
      frozenListed fresh freshMember (same.trans isFrozen.symm) ⟨decision, member, key.trans (congrArg some isFrozen.symm), acts⟩
    refine ⟨beyond, fun checks certificateHash req next begins isRow => ?_⟩
    exact over_heartbeat_refused checks req _ fresh certificateHash next _ isRow beyond
      (run_expiries _ found.store start timed past fresh freshMember) begins

end Protected

-- One grant at 20 dBm/MHz that the engine brings down to 19, and that the service goes on with.
def servingFrom : LiveDatabase Rat :=
  { frozenFrom with store := ⟨[askingCbsd], [{ clusterGrant with grantExpireTime := 1000000000 }], 1, 2⟩ }

def clusterOverrides : IapOverrides Rat := { points := some [clusterPoint], coupling := some Iap.stepCoupling }

theorem serving_stored : LocalStore servingFrom.store := by
  have only : ∀ grant ∈ servingFrom.store.grants, grant = { clusterGrant with grantExpireTime := 1000000000 } :=
    fun _ member => List.mem_singleton.mp member
  refine ⟨⟨fun grant member => ?_, by decide +kernel, fun grant member => ?_⟩, fun grant member => ?_, by decide +kernel⟩
  · rw [only grant member]
    rfl
  · rw [only grant member]
    decide
  · rw [only grant member]
    exact ⟨by decide, by decide, by decide, by decide +kernel, rfl, by decide⟩

theorem serving_finished : ¬ Iap.hitsMaxIterations Iap.stepModel Iap.iapEngineConfig Iap.stepCoupling clusterPoint [clusterInfo] := by
  unfold Iap.hitsMaxIterations Iap.finalState Iap.initialState Iap.idlePoint
  rw [cluster_channels]
  decide +kernel

theorem serving_grants : iapRfGrants plainEnv.source.readers (freezeGeneration 0 servingFrom).snapshot
    (freezeGeneration 0 servingFrom).snapshot.localGrants [] = some [clusterInfo] := by
  have locals : localRfGrants (freezeGeneration 0 servingFrom).snapshot.localGrants [] = [clusterInfo] := by decide +kernel
  have peers : Iap.grantRfInfosFromFrozenPeerCbsds plainEnv.source.readers
      (frozenPeerCbsdRows plainEnv.source.readers (freezeGeneration 0 servingFrom).snapshot.peerRecords) =
      some ((List.nil : List (Iap.GrantRfInfo Rat)).mergeSort Iap.peerKeyLe) := rfl
  rw [iapRfGrants, peers, locals, List.mergeSort_nil, Option.map_some, List.append_nil, List.mergeSort_singleton]

theorem committed_grants_protect_sample : ∃ decisions,
    evaluateProtections plainEnv plainContext clusterOverrides (freezeGeneration 0 servingFrom) servingFrom = .ok decisions ∧
      committedLoad Iap.stepModel Iap.stepCoupling (freezeGeneration 0 servingFrom).snapshot.localGrants
          (run ([] ++ .cpasApply decisions (readingsAt 0) :: []) servingFrom.store) 0 clusterPoint (.mk 3550000000 3555000000) ≤
        Iap.pointThresholdMw Iap.stepModel clusterPoint := by
  have decides : (evaluateProtections plainEnv plainContext clusterOverrides (freezeGeneration 0 servingFrom) servingFrom).isOk = true := by
    decide +kernel
  have stages : (stagesBeforeDpa plainEnv clusterOverrides (freezeGeneration 0 servingFrom) servingFrom).map
      (fun early => early.peer.filterMap (·.grantPk)) = .ok [] := by
    decide +kernel
  obtain ⟨early, staged, undecided⟩ := Collect.map_ok _ _ _ stages
  cases decided : evaluateProtections plainEnv plainContext clusterOverrides (freezeGeneration 0 servingFrom) servingFrom with
  | error error =>
      rw [decided] at decides
      cases decides
  | ok decisions =>
      refine ⟨decisions, rfl, ?_⟩
      exact committed_grants_protect plainEnv plainContext clusterOverrides 0 servingFrom servingFrom decisions decided early staged
        ⟨[clusterPoint], some Iap.stepCoupling⟩ rfl Iap.stepCoupling rfl (fun _ _ _ _ => le_of_lt (zpow_pos (by decide) _))
        Iap.step_coupling_monotone [clusterInfo] (by rw [undecided]; exact serving_grants) (List.nodup_singleton _) clusterPoint
        (List.mem_singleton_self _) serving_finished (.mk 3550000000 3555000000) (cluster_channels ▸ List.mem_singleton_self _)
        serving_stored 0 [] [] (readingsAt 0) ⟨le_rfl, trivial⟩ 0 le_rfl

-- The same grant next to a field office: a heartbeat within its time comes too late for it.
def servingFrozen : FrozenLocalGrantRf Rat :=
  frozenLocalGrantFromOrm { clusterGrant with grantExpireTime := 1000000000 } askingCbsd

theorem office_reason : TerminateReason officeEnv plainContext {} (freezeGeneration 0 servingFrom) servingFrom 1 := by
  refine .exclusion servingFrozen (servingFrozen, "quiet_zone_fcc_field_office") (List.mem_singleton_self _) ?_
  have reason : exclusionReason officeEnv.source.readers officeEnv.geo (freezeGeneration 0 servingFrom).snapshot.protectionRecords
      servingFrom.quiet servingFrozen 0 0 = .ok (some "quiet_zone_fcc_field_office") := by
    decide +kernel
  have placed : exclusionOf officeEnv.source.readers officeEnv.geo (freezeGeneration 0 servingFrom).snapshot.protectionRecords
      servingFrom.quiet servingFrozen = (exclusionReason officeEnv.source.readers officeEnv.geo
        (freezeGeneration 0 servingFrom).snapshot.protectionRecords servingFrom.quiet servingFrozen 0 0).map fun found =>
          found.map fun reason => (servingFrozen, reason) := rfl
  rw [placed, reason]
  rfl

theorem reasons_end_for_good_sample :
    (heartbeatItem openHeartbeatChecks none (readingsAt 1000000).read ⟨"fcc/sn", "grant/a", "AUTHORIZED", true⟩
      (run ([] ++ .cpasApply [officeDecision] (readingsAt 0) :: []) servingFrom.store)).2.responseCode ≠ success := by
  have row : ((run ([] ++ .cpasApply [officeDecision] (readingsAt 0) :: []) servingFrom.store).findGrant "grant/a" "fcc/sn").map
      (·.id) = some 1 := by
    decide +kernel
  obtain ⟨fresh, found, isKey⟩ := Option.map_eq_some_iff.mp row
  have past : ExpiriesPast 0 servingFrom.store := by
    intro grant member
    rw [List.mem_singleton.mp member]
    exact fun expired => by cases expired
  exact (reasons_end_for_good officeEnv plainContext {} 0 servingFrom servingFrom [officeDecision] (by decide +kernel) serving_stored 0
    past [] [] (readingsAt 0) ⟨le_rfl, trivial⟩ 1 office_reason fresh (List.mem_of_find?_eq_some found) isKey).2 openHeartbeatChecks
    none ⟨"fcc/sn", "grant/a", "AUTHORIZED", true⟩ (readingsAt 1000000) (by decide) found

end SasCore.Cpas
