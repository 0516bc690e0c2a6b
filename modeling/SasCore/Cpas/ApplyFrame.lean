import SasCore.Cpas.DecisionMerge
import SasCore.Cpas.FrozenInputs
import SasCore.Registry.DecisionFrame

set_option autoImplicit false
set_option linter.unusedSectionVars false

namespace SasCore.Cpas

open Registry

variable {K : Type} [Field K] [LinearOrder K]

section Undecided

variable (decided : List Nat) (entries taken : List (FrozenLocalGrantRf K × String))

theorem undecided_mem (entry : FrozenLocalGrantRf K × String) (member : entry ∈ entries.foldl (firstUndecided decided) taken) :
    entry ∈ taken ∨ entry ∈ entries := by
  induction entries generalizing taken with
  | nil => exact Or.inl member
  | cons first rest ih =>
      rcases ih _ member with held | later
      · rw [firstUndecided] at held
        split at held
        · exact Or.inl held
        · rcases List.mem_append.mp held with old | new
          · exact Or.inl old
          · exact Or.inr (List.mem_singleton.mp new ▸ List.mem_cons_self)
      · exact Or.inr (List.mem_cons_of_mem first later)

theorem undecided_keeps (pk : Nat) (held : pk ∈ taken.map (·.1.grantPk)) :
    pk ∈ (entries.foldl (firstUndecided decided) taken).map (·.1.grantPk) := by
  induction entries generalizing taken with
  | nil => exact held
  | cons first rest ih =>
      refine ih _ ?_
      rw [firstUndecided]
      split
      · exact held
      · rw [List.map_append]
        exact List.mem_append_left _ held

-- Every row with a reason is decided before the loop or by it.
theorem undecided_covers (entry : FrozenLocalGrantRf K × String) (member : entry ∈ entries) :
    entry.1.grantPk ∈ decided ∨ entry.1.grantPk ∈ (entries.foldl (firstUndecided decided) taken).map (·.1.grantPk) := by
  induction entries generalizing taken with
  | nil => cases member
  | cons first rest ih =>
      rcases List.mem_cons.mp member with here | later
      · by_cases known : entry.1.grantPk ∈ decided
        · exact Or.inl known
        · refine Or.inr (undecided_keeps decided rest _ entry.1.grantPk ?_)
          rw [← here, firstUndecided]
          split
          · rename_i already
            rw [Bool.or_eq_true] at already
            rcases already with before | among
            · exact absurd (by simpa using before) known
            · obtain ⟨other, otherMember, same⟩ := List.any_eq_true.mp among
              exact of_decide_eq_true same ▸ List.mem_map_of_mem otherMember
          · rw [List.map_append]
            exact List.mem_append_right _ List.mem_cons_self
      · exact ih _ later

end Undecided

section Early

variable (env : EvaluationEnv K) (db : Database K) (snapshot : CpasSnapshot K) (localGrants : List (FrozenLocalGrantRf K))

-- Decisions about rows of the list.
def About (decisions : List (CpasDecision K)) : Prop :=
  ∀ decision ∈ decisions, ∀ pk, decision.grantPk = some pk → pk ∈ localGrants.map (·.grantPk)

theorem peer_decisions_about (peer : List (CpasDecision K)) (decided : peerDecisions env db snapshot localGrants = .ok peer) :
    About localGrants peer := by
  rw [peerDecisions] at decided
  cases all : localGrants.mapM (peerDecision env db snapshot) with
  | error fault =>
      rw [all] at decided
      cases decided
  | ok results =>
      rw [all] at decided
      cases decided
      intro decision member pk key
      obtain ⟨result, resultMember, found⟩ := List.mem_filterMap.mp member
      obtain ⟨frozen, frozenMember, same⟩ := Collect.ok_source _ localGrants results all result resultMember
      rw [show result = some decision from found, peerDecision] at same
      split at same
      · cases same
      · cases reason : peerReason env db snapshot frozen with
        | error fault =>
            rw [reason] at same
            cases same
        | ok text =>
            rw [reason] at same
            obtain ⟨_, _, isDecision⟩ := Option.map_eq_some_iff.mp (Except.ok.inj same)
            rw [← isDecision] at key
            exact Option.some.inj key ▸ List.mem_map_of_mem frozenMember

theorem peer_decisions_end (peer : List (CpasDecision K)) (decided : peerDecisions env db snapshot localGrants = .ok peer)
    (frozen : FrozenLocalGrantRf K) (member : frozen ∈ localGrants) (alive : frozen.terminated = false) (reason : String)
    (applies : peerReason env db snapshot frozen = .ok (some reason)) : EndsGrant peer frozen.grantPk := by
  rw [peerDecisions] at decided
  cases all : localGrants.mapM (peerDecision env db snapshot) with
  | error fault =>
      rw [all] at decided
      cases decided
  | ok results =>
      rw [all] at decided
      cases decided
      obtain ⟨result, resultMember, same⟩ := Collect.ok_result _ localGrants results all frozen member
      rw [peerDecision, if_neg (by rw [alive]; exact Bool.false_ne_true), applies] at same
      exact ⟨terminateDecision frozen reason, List.mem_filterMap.mpr ⟨result, resultMember, (Except.ok.inj same).symm⟩, rfl, rfl⟩

variable (quiet : QuietZoneTables)

theorem exclusion_of_row (frozen : FrozenLocalGrantRf K) (entry : FrozenLocalGrantRf K × String)
    (found : exclusionOf env.source.readers env.geo snapshot.protectionRecords quiet frozen = .ok (some entry)) :
    entry.1 = frozen := by
  rw [exclusionOf] at found
  split at found
  · cases found
  · split at found
    · rename_i lat lon _ _
      cases reason : exclusionReason env.source.readers env.geo snapshot.protectionRecords quiet frozen lat lon with
      | error fault =>
          rw [reason] at found
          cases found
      | ok text =>
          rw [reason] at found
          obtain ⟨_, _, same⟩ := Option.map_eq_some_iff.mp (Except.ok.inj found)
          exact congrArg Prod.fst same.symm
    · cases found

theorem exclusions_listed (exclusions : List (FrozenLocalGrantRf K × String))
    (excluded : evaluatePreIapExclusions env.source.readers env.geo snapshot.protectionRecords quiet localGrants = .ok exclusions) :
    (∀ entry ∈ exclusions, entry.1 ∈ localGrants) ∧
      ∀ frozen ∈ localGrants, ∀ entry,
        exclusionOf env.source.readers env.geo snapshot.protectionRecords quiet frozen = .ok (some entry) →
          frozen.grantPk ∈ exclusions.map (·.1.grantPk) := by
  rw [evaluatePreIapExclusions] at excluded
  cases all : localGrants.mapM (exclusionOf env.source.readers env.geo snapshot.protectionRecords quiet) with
  | error fault =>
      rw [all] at excluded
      cases excluded
  | ok hits =>
      rw [all] at excluded
      cases excluded
      refine ⟨fun entry member => ?_, fun frozen member entry hit => ?_⟩
      · rcases undecided_mem [] _ [] entry member with absent | listed
        · cases absent
        · obtain ⟨result, resultMember, same⟩ := List.mem_filterMap.mp listed
          obtain ⟨frozen, frozenMember, found⟩ := Collect.ok_source _ localGrants hits all result resultMember
          rw [show result = some entry from same] at found
          exact exclusion_of_row env snapshot quiet frozen entry found ▸ frozenMember
      · obtain ⟨result, resultMember, found⟩ := Collect.ok_result _ localGrants hits all frozen member
        rw [hit] at found
        have listed : entry ∈ hits.filterMap id :=
          List.mem_filterMap.mpr ⟨result, resultMember, (Except.ok.inj found).symm⟩
        rcases undecided_covers [] (hits.filterMap id) [] entry listed with absent | covered
        · cases absent
        · exact exclusion_of_row env snapshot quiet frozen entry hit ▸ covered

theorem terminal_decisions_about (peer : List (CpasDecision K)) (exclusions : List (FrozenLocalGrantRf K × String))
    (about : About localGrants peer) (rows : ∀ entry ∈ exclusions, entry.1 ∈ localGrants) :
    About localGrants (terminalDecisions peer exclusions) := by
  intro decision member pk key
  rcases List.mem_append.mp member with byPeer | excluded
  · exact about decision byPeer pk key
  · obtain ⟨entry, entryMember, same⟩ := List.mem_map.mp excluded
    rcases undecided_mem _ exclusions [] entry entryMember with absent | listed
    · cases absent
    · rw [← same] at key
      exact Option.some.inj key ▸ List.mem_map_of_mem (rows entry listed)

theorem terminal_decisions_end (peer : List (CpasDecision K)) (exclusions : List (FrozenLocalGrantRf K × String))
    (ending : ∀ decision ∈ peer, decision.action = .terminate) (pk : Nat)
    (reason : EndsGrant peer pk ∨ pk ∈ exclusions.map (·.1.grantPk)) : EndsGrant (terminalDecisions peer exclusions) pk := by
  rcases reason with ⟨decision, member, facts⟩ | listed
  · exact ⟨decision, List.mem_append_left _ member, facts⟩
  · obtain ⟨entry, member, same⟩ := List.mem_map.mp listed
    rcases undecided_covers (peer.filterMap (·.grantPk)) exclusions [] entry member with before | covered
    · obtain ⟨decision, decisionMember, key⟩ := List.mem_filterMap.mp before
      exact ⟨decision, List.mem_append_left _ decisionMember, key.trans (congrArg some same), ending decision decisionMember⟩
    · obtain ⟨taken, takenMember, takenKey⟩ := List.mem_map.mp covered
      exact ⟨terminateDecision taken.1 taken.2, List.mem_append_right _ (List.mem_map_of_mem takenMember),
        congrArg some (takenKey.trans same), rfl⟩

theorem peer_decisions_terminate (peer : List (CpasDecision K)) (decided : peerDecisions env db snapshot localGrants = .ok peer) :
    ∀ decision ∈ peer, decision.action = .terminate := by
  rw [peer_decisions_staged env db snapshot localGrants peer decided]
  intro decision member
  obtain ⟨frozen, _, found⟩ := List.mem_filterMap.mp member
  obtain ⟨_, _, same⟩ := Option.map_eq_some_iff.mp found
  rw [← same]
  rfl

variable [IsStrictOrderedRing K]

theorem iap_stage_about (decidedPks : List Nat) (points : List (Iap.ProtectionPoint K)) (coupling : Iap.InterferenceCoupling K)
    (iap : List (CpasDecision K))
    (staged : iapStage env.model env.showFloat env.source.readers snapshot localGrants decidedPks points coupling = some iap) :
    About localGrants iap := by
  rw [iapStage] at staged
  split at staged
  · cases staged
    exact fun decision member => by cases member
  · obtain ⟨grants, read, same⟩ := Option.map_eq_some_iff.mp staged
    intro decision member pk key
    rw [← same] at member
    split at member
    · obtain ⟨item, itemMember, converted⟩ := List.mem_filterMap.mp member
      obtain ⟨grant, grantMember, managing, _, _, row⟩ :=
        Iap.run_decision_origin env.model Iap.iapEngineConfig coupling grants points item itemMember
      have isLocal := (iap_rf_managing env.source.readers snapshot localGrants decidedPks grants read).mem_iff.mp
        (List.mem_filter.mpr ⟨grantMember, managing⟩)
      obtain ⟨_, frozen, frozenMember, _, _, _, _, frozenRow⟩ := local_rf_managing localGrants decidedPks grant isLocal
      have named := (iap_decision_of_named env.showFloat item decision converted).2.1
      rw [named, ← row, frozenRow] at key
      have same : frozen.grantPk = pk := Option.some.inj key
      exact same ▸ List.mem_map_of_mem frozenMember
    · cases member

theorem context_decisions_about (decidedPks : List Nat) (context : IapContext K) (iap : List (CpasDecision K))
    (staged : contextDecisions env snapshot localGrants decidedPks context = some iap) : About localGrants iap := by
  rw [contextDecisions] at staged
  split at staged
  · cases staged
    exact fun decision member => by cases member
  · exact iap_stage_about env snapshot localGrants decidedPks context.points _ iap staged

end Early

section Decisions

variable (env : EvaluationEnv K) (ctx : CpasContext K) (overrides : IapOverrides K) (generation : FrozenGeneration K)
variable (live : LiveDatabase K)

-- Why an evaluation ends a grant: a peer rule, a pre-IAP exclusion, the IAP stage, or a movelist of the DPA stage.
inductive TerminateReason : Nat → Prop
  | peerRule (frozen : FrozenLocalGrantRf K) (reason : String) (listed : frozen ∈ generation.snapshot.localGrants)
      (applies : peerReason env live.toDatabase generation.snapshot frozen = .ok (some reason)) :
      TerminateReason frozen.grantPk
  | exclusion (frozen : FrozenLocalGrantRf K) (entry : FrozenLocalGrantRf K × String)
      (listed : frozen ∈ generation.snapshot.localGrants)
      (applies : exclusionOf env.source.readers env.geo generation.snapshot.protectionRecords live.quiet frozen =
        .ok (some entry)) :
      TerminateReason frozen.grantPk
  | iap (early : EarlyDecisions K) (decision : CpasDecision K) (pk : Nat)
      (staged : stagesBeforeDpa env overrides generation live = .ok early) (listed : decision ∈ early.iap)
      (key : decision.grantPk = some pk) (ending : decision.action = .terminate) : TerminateReason pk
  | movelist (early : EarlyDecisions K) (peers : List (Dpa.DpaGrantRf K)) (frozen : FrozenLocalGrantRf K)
      (staged : stagesBeforeDpa env overrides generation live = .ok early) (unresolved : early.allResolved = false)
      (parsed : dpaGrantsFromFrozenPeerCbsds env.source.readers
        (frozenPeerCbsdRows env.source.readers generation.snapshot.peerRecords) = some peers)
      (runs : ((frozenDpaGrants early).isEmpty && peers.isEmpty) = false)
      (listed : frozen ∈ generation.snapshot.localGrants)
      (moved : grantOnAnyMovelist (writeMovelists ctx
        (refreshedMovelists ctx live.toDatabase (frozenDpaGrants early ++ peers)) live.toDatabase) frozen.grantId = true) :
      TerminateReason frozen.grantPk

structure DecidedOnce (decisions : List (CpasDecision K)) : Prop where
  once : (decisions.map (·.grantPk)).Nodup
  frozen : ∀ decision ∈ decisions, ∃ pk ∈ generation.snapshot.activeGrantPks, decision.grantPk = some pk
  ends : ∀ pk, TerminateReason env ctx overrides generation live pk → EndsGrant decisions pk

end Decisions

section Frozen

variable [IsStrictOrderedRing K] (env : EvaluationEnv K) (ctx : CpasContext K) (overrides : IapOverrides K) (now : Int)
variable (found live : LiveDatabase K)

theorem frozen_pks : (freezeGeneration now found).snapshot.localGrants.map (·.grantPk) =
    (freezeGeneration now found).snapshot.activeGrantPks := rfl

theorem frozen_alive : ∀ frozen ∈ (freezeGeneration now found).snapshot.localGrants, frozen.terminated = false := by
  intro frozen member
  obtain ⟨grant, grantMember, same⟩ := List.mem_filterMap.mp member
  obtain ⟨cbsd, _, isFrozen⟩ := Option.map_eq_some_iff.mp same
  have alive : grant.terminated = false := by simpa using (List.mem_filter.mp grantMember).2
  rw [← isFrozen]
  exact alive

structure EarlyFacts (early : EarlyDecisions K) : Prop where
  rows : early.localGrants = (freezeGeneration now found).snapshot.localGrants
  peerAbout : About early.localGrants early.peer
  iapAbout : About early.localGrants early.iap
  peerEnds : ∀ frozen ∈ early.localGrants, ∀ reason,
    peerReason env live.toDatabase (freezeGeneration now found).snapshot frozen = .ok (some reason) → EndsGrant early.peer frozen.grantPk
  exclusionEnds : ∀ frozen ∈ early.localGrants, ∀ entry,
    exclusionOf env.source.readers env.geo (freezeGeneration now found).snapshot.protectionRecords live.quiet frozen =
      .ok (some entry) → EndsGrant early.peer frozen.grantPk
  decided : ∀ pk ∈ early.decidedPks, EndsGrant early.peer pk ∨ EndsGrant early.iap pk

theorem ends_of_listed (decisions : List (CpasDecision K)) (ending : ∀ decision ∈ decisions, decision.action = .terminate)
    (pk : Nat) (listed : pk ∈ decisions.filterMap (·.grantPk)) : EndsGrant decisions pk := by
  obtain ⟨decision, member, key⟩ := List.mem_filterMap.mp listed
  exact ⟨decision, member, key, ending decision member⟩

theorem iap_ended_ends (iap : List (CpasDecision K)) (pk : Nat) (listed : pk ∈ iapEnded iap) : EndsGrant iap pk := by
  obtain ⟨decision, member, key⟩ := List.mem_filterMap.mp listed
  obtain ⟨inIap, acts⟩ := List.mem_filter.mp member
  exact ⟨decision, inIap, key, of_decide_eq_true acts⟩

theorem early_facts (early : EarlyDecisions K)
    (staged : stagesBeforeDpa env overrides (freezeGeneration now found) live = .ok early) :
    EarlyFacts env now found live early := by
  have hydrated : hydratedGrants (freezeGeneration now found).snapshot live.toDatabase =
      (freezeGeneration now found).snapshot.localGrants := hydrated_frozen now live.toDatabase found.toDatabase
  rw [stagesBeforeDpa] at staged
  simp only [hydrated] at staged
  generalize isRows : (freezeGeneration now found).snapshot.localGrants = rows at staged
  split at staged
  · cases staged
  · rename_i peer peerDecided
    split at staged
    · cases staged
    · rename_i exclusions excluded
      have alive : ∀ frozen ∈ rows, frozen.terminated = false := isRows ▸ frozen_alive now found
      have listed := exclusions_listed env _ rows live.quiet exclusions excluded
      have ending := peer_decisions_terminate env live.toDatabase _ rows peer peerDecided
      have about := terminal_decisions_about rows peer exclusions
        (peer_decisions_about env live.toDatabase _ rows peer peerDecided) listed.1
      have covered := terminal_decisions_end peer exclusions ending
      have terminates : ∀ decision ∈ terminalDecisions peer exclusions, decision.action = .terminate := by
        intro decision member
        rcases List.mem_append.mp member with byPeer | isExcluded
        · exact ending decision byPeer
        · obtain ⟨entry, _, same⟩ := List.mem_map.mp isExcluded
          rw [← same]
          rfl
      have byPeer : ∀ frozen ∈ rows, ∀ reason, peerReason env live.toDatabase (freezeGeneration now found).snapshot frozen =
          .ok (some reason) → EndsGrant (terminalDecisions peer exclusions) frozen.grantPk :=
        fun frozen member reason applies => covered frozen.grantPk (Or.inl
          (peer_decisions_end env live.toDatabase _ rows peer peerDecided frozen member (alive frozen member) reason applies))
      have byExclusion : ∀ frozen ∈ rows, ∀ entry, exclusionOf env.source.readers env.geo
          (freezeGeneration now found).snapshot.protectionRecords live.quiet frozen = .ok (some entry) →
            EndsGrant (terminalDecisions peer exclusions) frozen.grantPk :=
        fun frozen member entry hit => covered frozen.grantPk (Or.inr (listed.2 frozen member entry hit))
      have known := ends_of_listed (terminalDecisions peer exclusions) terminates
      split at staged
      · cases staged
        exact ⟨isRows.symm, about, (fun decision member => by cases member), byPeer, byExclusion,
          fun pk member => Or.inl (known pk member)⟩
      · split at staged
        · cases staged
        · rename_i context _
          split at staged
          · cases staged
          · rename_i iap isIap
            cases staged
            refine ⟨isRows.symm, about, context_decisions_about env _ rows _ context iap isIap, byPeer, byExclusion, ?_⟩
            intro pk member
            rcases List.mem_append.mp member with before | ended
            · exact Or.inl (known pk before)
            · exact Or.inr (iap_ended_ends iap pk ended)

-- The movelist stage keeps every termination and adds one for each row on a list that has none.
theorem movelist_merge_ends (early : EarlyDecisions K) (db : Database K) (pk : Nat)
    (ended : EndsGrant early.peer pk ∨ EndsGrant early.iap pk) : EndsGrant (mergeWithMovelists early db) pk := by
  refine merge_ends _ _ _ pk (ended.imp_right fun ⟨decision, member, key, acts⟩ => Or.inl ⟨decision, ?_, key, acts⟩)
  refine List.mem_filter.mpr ⟨member, ?_⟩
  rw [acts]
  simp

theorem movelist_merge_moved (early : EarlyDecisions K) (db : Database K) (frozen : FrozenLocalGrantRf K)
    (listed : frozen ∈ early.localGrants) (moved : grantOnAnyMovelist db frozen.grantId = true)
    (known : ∀ pk ∈ early.decidedPks, EndsGrant early.peer pk ∨ EndsGrant early.iap pk) :
    EndsGrant (mergeWithMovelists early db) frozen.grantPk := by
  by_cases decided : frozen.grantPk ∈ early.decidedPks
  · exact movelist_merge_ends early db frozen.grantPk (known frozen.grantPk decided)
  · refine merge_ends _ _ _ frozen.grantPk (Or.inr (Or.inr ⟨terminateDecision frozen "dpa_movelist", ?_, rfl, rfl⟩))
    exact List.mem_map_of_mem (List.mem_filter.mpr ⟨listed, by simp [decided, moved]⟩)

theorem merged_frozen (early : EarlyDecisions K) (facts : EarlyFacts env now found live early) (iap dpa : List (CpasDecision K))
    (sub : ∀ decision ∈ iap, decision ∈ early.iap) (about : About early.localGrants dpa) :
    ∀ decision ∈ mergeConstraintDecisions early.peer iap dpa,
      ∃ pk ∈ (freezeGeneration now found).snapshot.activeGrantPks, decision.grantPk = some pk := by
  intro decision member
  obtain ⟨origin, keyed⟩ := merge_mem early.peer iap dpa decision member
  obtain ⟨pk, key⟩ := Option.isSome_iff_exists.mp keyed
  refine ⟨pk, ?_, key⟩
  rw [← frozen_pks, ← facts.rows]
  rcases origin with byPeer | byIap | byDpa
  · exact facts.peerAbout decision byPeer pk key
  · exact facts.iapAbout decision (sub decision byIap) pk key
  · exact about decision byDpa pk key

-- A list that ends what the stages ended, and every row on a refreshed movelist, ends every row with a reason.
theorem reasons_end (early : EarlyDecisions K) (facts : EarlyFacts env now found live early)
    (staged : stagesBeforeDpa env overrides (freezeGeneration now found) live = .ok early) (decisions : List (CpasDecision K))
    (merged : ∀ pk, EndsGrant early.peer pk ∨ EndsGrant early.iap pk → EndsGrant decisions pk)
    (lists : ∀ peers, early.allResolved = false →
      dpaGrantsFromFrozenPeerCbsds env.source.readers
        (frozenPeerCbsdRows env.source.readers (freezeGeneration now found).snapshot.peerRecords) = some peers →
      ((frozenDpaGrants early).isEmpty && peers.isEmpty) = false → ∀ frozen ∈ early.localGrants,
      grantOnAnyMovelist (writeMovelists ctx (refreshedMovelists ctx live.toDatabase (frozenDpaGrants early ++ peers))
        live.toDatabase) frozen.grantId = true → EndsGrant decisions frozen.grantPk) :
    ∀ pk, TerminateReason env ctx overrides (freezeGeneration now found) live pk → EndsGrant decisions pk := by
  intro pk reason
  cases reason with
  | peerRule frozen reason listed applies =>
      exact merged frozen.grantPk (Or.inl (facts.peerEnds frozen (facts.rows ▸ listed) reason applies))
  | exclusion frozen entry listed applies =>
      exact merged frozen.grantPk (Or.inl (facts.exclusionEnds frozen (facts.rows ▸ listed) entry applies))
  | iap other decision pk same listed key ending =>
      rw [staged] at same
      cases same
      exact merged pk (Or.inr ⟨decision, listed, key, ending⟩)
  | movelist other peers frozen same unresolved parsed runs listed moved =>
      rw [staged] at same
      cases same
      exact lists peers unresolved parsed runs frozen (facts.rows ▸ listed) moved

theorem no_rows_no_reason (nothing : (freezeGeneration now found).snapshot.localGrants = []) (pk : Nat) :
    ¬ TerminateReason env ctx overrides (freezeGeneration now found) live pk := by
  intro reason
  cases reason with
  | peerRule frozen reason listed applies =>
      rw [nothing] at listed
      cases listed
  | exclusion frozen entry listed applies =>
      rw [nothing] at listed
      cases listed
  | iap early decision pk staged listed key ending =>
      have facts := early_facts env overrides now found live early staged
      have row := facts.iapAbout decision listed pk key
      rw [facts.rows, nothing] at row
      cases row
  | movelist early peers frozen staged unresolved parsed runs listed moved =>
      rw [nothing] at listed
      cases listed

theorem evaluation_decides_once (decisions : List (CpasDecision K))
    (decided : evaluateProtections env ctx overrides (freezeGeneration now found) live = .ok decisions) :
    DecidedOnce env ctx overrides (freezeGeneration now found) live decisions := by
  rw [evaluateProtections] at decided
  split at decided
  · rename_i nothing
    cases decided
    have noRows := List.isEmpty_iff.mp (Bool.and_eq_true _ _ ▸ nothing).2
    exact ⟨List.nodup_nil, (fun decision member => by cases member),
      fun pk reason => absurd reason (no_rows_no_reason env ctx overrides now found live noRows pk)⟩
  · cases staged : stagesBeforeDpa env overrides (freezeGeneration now found) live with
    | error error =>
        rw [staged] at decided
        cases decided
    | ok early =>
        have facts := early_facts env overrides now found live early staged
        rw [staged] at decided
        dsimp only [dpaStage] at decided
        have plain : About early.localGrants ([] : List (CpasDecision K)) := fun decision member => by cases member
        split at decided
        · rename_i resolved
          cases decided
          refine ⟨merge_once _ _ _, merged_frozen env now found live early facts _ _ (fun _ => id) plain, ?_⟩
          apply reasons_end env ctx overrides now found live early facts staged _
          · exact fun pk ended => merge_ends _ _ _ pk (ended.imp_right Or.inl)
          · intro peers unresolved
            rw [resolved] at unresolved
            cases unresolved
        · split at decided
          · cases decided
          · rename_i peers parsed
            split at decided
            · rename_i quiet
              cases decided
              refine ⟨merge_once _ _ _, merged_frozen env now found live early facts _ _ (fun _ => id) plain, ?_⟩
              apply reasons_end env ctx overrides now found live early facts staged _
              · exact fun pk ended => merge_ends _ _ _ pk (ended.imp_right Or.inl)
              · intro others _ same runs
                rw [parsed] at same
                cases same
                rw [quiet] at runs
                cases runs
            · split at decided
              · cases decided
              · cases decided
                have moved : About early.localGrants ((early.localGrants.filter fun frozen =>
                    !early.decidedPks.contains frozen.grantPk && grantOnAnyMovelist (writeMovelists ctx
                      (refreshedMovelists ctx live.toDatabase (frozenDpaGrants early ++ peers)) live.toDatabase) frozen.grantId).map
                        fun frozen => terminateDecision frozen "dpa_movelist") := by
                  intro decision member pk key
                  obtain ⟨frozen, frozenMember, same⟩ := List.mem_map.mp member
                  rw [← same] at key
                  exact Option.some.inj key ▸ List.mem_map_of_mem (List.mem_of_mem_filter frozenMember)
                refine ⟨merge_once _ _ _, ?_, reasons_end env ctx overrides now found live early facts staged _ ?_ ?_⟩
                · exact merged_frozen env now found live early facts _ _ (fun _ => List.mem_of_mem_filter) moved
                · exact fun pk ended => movelist_merge_ends early _ pk ended
                · intro others _ same _ frozen listed onList
                  rw [parsed] at same
                  cases same
                  exact movelist_merge_moved early _ frozen listed onList facts.decided

-- Whatever happened to the rows since the freeze, applying the decisions stays within their frame.
theorem cpas_apply_frame (decisions : List (CpasDecision K))
    (decided : evaluateProtections env ctx overrides (freezeGeneration now found) live = .ok decisions) (clock : Clock)
    (store : Store K) (distinct : (store.grants.map (·.id)).Nodup) :
    DecidedOnce env ctx overrides (freezeGeneration now found) live decisions ∧
      AppliedWithin (decisions.filterMap (·.grantPk)) store (applyCpasDecisions clock decisions 0 store).1 ∧
      (applyCpasDecisions clock decisions 0 (applyCpasDecisions clock decisions 0 store).1).1 =
        (applyCpasDecisions clock decisions 0 store).1 := by
  have once := evaluation_decides_once env ctx overrides now found live decisions decided
  exact ⟨once, apply_decisions_within clock decisions store distinct,
    apply_decisions_again clock decisions store distinct once.once⟩

end Frozen

-- One grant of the database stands at a field office and is ended by its quiet zone; the other is ten degrees away.
def officeEnv : EvaluationEnv Rat := { plainEnv with geo := { plainGeography with fccOffices := .ok [(0, 0)] } }

def farCbsd : Cbsd Rat :=
  { (askingCbsd : Cbsd Rat) with
    id := 1
    cbsdId := "fcc/far"
    cbsdSerialNumber := "far"
    registration := ⟨none, some ⟨some 10, some 0, none, none, none, none, none, none, none, none⟩, []⟩ }

def farGrant : Grant Rat := { clusterGrant with id := 2, grantId := "grant/b", cbsdPk := 1, cbsdId := "fcc/far" }

def officeDatabase : LiveDatabase Rat := { frozenFrom with store := ⟨[askingCbsd, farCbsd], [clusterGrant, farGrant], 2, 3⟩ }

def officeDecision : CpasDecision Rat :=
  ⟨some 1, "grant/a", "fcc/sn", .terminate, none, "quiet_zone_fcc_field_office", "quiet_zone_fcc_field_office"⟩

theorem cpas_apply_frame_sample :
    DecidedOnce officeEnv plainContext {} (freezeGeneration 0 officeDatabase) officeDatabase [officeDecision] ∧
      AppliedWithin [1] officeDatabase.store (applyCpasDecisions (fun _ => 0) [officeDecision] 0 officeDatabase.store).1 ∧
      (applyCpasDecisions (fun _ => 0) [officeDecision] 0
          (applyCpasDecisions (fun _ => 0) [officeDecision] 0 officeDatabase.store).1).1 =
        (applyCpasDecisions (fun _ => 0) [officeDecision] 0 officeDatabase.store).1 :=
  cpas_apply_frame officeEnv plainContext {} 0 officeDatabase officeDatabase [officeDecision] (by decide +kernel) (fun _ => 0)
    officeDatabase.store (by decide +kernel)

end SasCore.Cpas
