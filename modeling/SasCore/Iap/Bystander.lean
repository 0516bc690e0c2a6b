import SasCore.Iap.Reordering
import Mathlib.Data.Multiset.AddSub

set_option autoImplicit false
set_option linter.unusedSectionVars false

namespace SasCore.Iap

variable {K : Type} [Field K] [LinearOrder K] [IsStrictOrderedRing K]

section Rounds

variable (coupling : InterferenceCoupling K) (point : ProtectionPoint K) (cfg : IapEngineConfig K)

-- None of the coming rounds lowers the grants that are open.
def LocksThroughout : Nat → EngineState K → Prop
  | 0, _ => True
  | rounds + 1, state => locksIn coupling point state = true ∧ LocksThroughout rounds (iapRound coupling point cfg state)

end Rounds

section Guest

variable (coupling : InterferenceCoupling K) (point : ProtectionPoint K) (cfg : IapEngineConfig K)
variable (places : List (FrequencyChannel × Nat))

-- A grant that overlaps none of the channels; it leaves the unsatisfied only below the floor.
structure Bystander (guest : NeighborSlot K) : Prop where
  apart : ∀ entry ∈ places, guest.overlaps point entry.1 = false
  unlocked : guest.satisfied = guest.removed

-- The same channels of the point, whatever the count of the unsatisfied is.
def SameChannels (ledger other : Ledger K) : Prop := ledger.channels = other.channels ∧ layout ledger = places

def Accompanied (guest : NeighborSlot K) (whole others : EngineState K) : Prop :=
  ∃ left right, whole.slots = left ++ guest :: right ∧ others.slots = left ++ right ∧
    SameChannels places whole.ledger others.ledger

theorem bystander_idle (guest : NeighborSlot K) (bystander : Bystander point places guest) : pendingLock guest = false := by
  rw [pendingLock, bystander.unlocked]
  cases guest.removed <;> rfl

theorem check_bystander (guest : NeighborSlot K) (bystander : Bystander point places guest) (ledger : Ledger K)
    (placed : layout ledger = places) : checkSlot coupling point ledger.channels guest = guest := by
  have missed : ∀ ch ∈ ledger.channels, guest.overlaps point ch.channel = false := by
    intro ch member
    exact bystander.apart (ch.channel, ch.chIdx) (placed ▸ List.mem_map_of_mem member)
  have unseen : ∀ channels : List (ChannelSlot K), (∀ ch ∈ channels, guest.overlaps point ch.channel = false) →
      checkFairshare coupling point guest channels false = (guest, false) := by
    intro channels apart
    induction channels with
    | nil => rfl
    | cons ch rest ih =>
        rw [checkFairshare, apart ch List.mem_cons_self]
        exact ih fun other among => apart other (List.mem_cons_of_mem ch among)
  rw [checkSlot, bystander.unlocked, Bool.or_self]
  split
  · rfl
  · rename_i still
    rw [unseen ledger.channels missed]
    have waiting : guest.satisfied = false := by
      rw [bystander.unlocked]
      simpa using still
    change { guest with satisfied := false } = guest
    rw [← waiting]

theorem lock_slot_same (slot : NeighborSlot K) (ledger other : Ledger K) (same : SameChannels places ledger other) :
    (lockSlot coupling point slot ledger).1 = (lockSlot coupling point slot other).1 ∧
      SameChannels places (lockSlot coupling point slot ledger).2 (lockSlot coupling point slot other).2 := by
  refine ⟨?_, ?_, (lock_slot_layout coupling point slot ledger).trans same.2⟩
  · unfold lockSlot
    rw [same.1]
    split <;> rfl
  · unfold lockSlot
    rw [same.1]
    split
    · rfl
    · exact same.1

theorem drop_slot_same (slot : NeighborSlot K) (ledger other : Ledger K) (same : SameChannels places ledger other) :
    (dropSlot point cfg slot ledger).1 = (dropSlot point cfg slot other).1 ∧
      SameChannels places (dropSlot point cfg slot ledger).2 (dropSlot point cfg slot other).2 := by
  refine ⟨?_, ?_, (drop_slot_layout point cfg slot ledger).trans same.2⟩
  · rw [drop_slot_parts, drop_slot_parts]
  · rw [drop_slot_parts, drop_slot_parts]
    dsimp only
    rw [dropEffect, dropEffect, same.1]
    split
    · rfl
    · exact same.1

theorem drop_bystander (guest : NeighborSlot K) (bystander : Bystander point places guest) (ledger other : Ledger K)
    (same : SameChannels places ledger other) :
    (dropSlot point cfg guest ledger).1 = droppedOut point cfg guest ∧
      SameChannels places (dropSlot point cfg guest ledger).2 other := by
  have kept : ledger.channels.map (leaveFor point guest) = ledger.channels := by
    refine (List.map_congr_left fun ch member => ?_).trans (List.map_id _)
    rw [leaveFor, bystander.apart (ch.channel, ch.chIdx) (same.2 ▸ List.mem_map_of_mem member)]
    rfl
  refine ⟨by rw [drop_slot_parts], ?_, (drop_slot_layout point cfg guest ledger).trans same.2⟩
  rw [drop_slot_parts]
  dsimp only
  rw [dropEffect]
  split
  · exact kept.trans same.1
  · exact same.1

theorem dropped_out_bystander (guest : NeighborSlot K) (bystander : Bystander point places guest) :
    Bystander point places (droppedOut point cfg guest) := by
  refine ⟨fun entry member => ?_, ?_⟩
  · have sameGrant : (droppedOut point cfg guest).grant = guest.grant := drop_slot_grant point cfg guest ⟨[], 0⟩
    rw [NeighborSlot.overlaps, sameGrant]
    exact bystander.apart entry member
  · rw [droppedOut, dropSlot]
    split
    · exact bystander.unlocked
    · dsimp only
      split
      · rfl
      · exact bystander.unlocked

-- A round with the bystander is the round without it, beside a step down when nothing is locked in.
theorem round_accompanied (guest : NeighborSlot K) (bystander : Bystander point places guest) (whole others : EngineState K)
    (beside : Accompanied places guest whole others) :
    Accompanied places (if locksIn coupling point others then guest else droppedOut point cfg guest)
      (iapRound coupling point cfg whole) (iapRound coupling point cfg others) := by
  obtain ⟨left, right, wholeSlots, otherSlots, same⟩ := beside
  have checked : whole.slots.map (checkSlot coupling point whole.ledger.channels) =
      left.map (checkSlot coupling point others.ledger.channels) ++
        guest :: right.map (checkSlot coupling point others.ledger.channels) := by
    rw [wholeSlots, List.map_append, List.map_cons, check_bystander coupling point places guest bystander _ same.2, same.1]
  have otherChecked : others.slots.map (checkSlot coupling point others.ledger.channels) =
      left.map (checkSlot coupling point others.ledger.channels) ++
        right.map (checkSlot coupling point others.ledger.channels) := by
    rw [otherSlots, List.map_append]
  have pending : (whole.slots.map (checkSlot coupling point whole.ledger.channels)).any pendingLock =
      locksIn coupling point others := by
    rw [locksIn, checked, otherChecked, List.any_append, List.any_append, List.any_cons,
      bystander_idle point places guest bystander, Bool.false_or]
  obtain ⟨newLeft, newRight, lockedWhole, lockedOthers, sameLocked⟩ :=
    Sweep.sweep_beside (lockSlot coupling point) (SameChannels places) (lock_slot_same coupling point places) guest guest
      (fun ledger other related => by
        have passed : lockSlot coupling point guest ledger = (guest, ledger) := by
          rw [lockSlot, bystander_idle point places guest bystander]
          rfl
        rw [passed]
        exact ⟨rfl, related⟩)
      (left.map (checkSlot coupling point others.ledger.channels))
      (right.map (checkSlot coupling point others.ledger.channels)) whole.ledger others.ledger same
  rw [← checked] at lockedWhole sameLocked
  rw [← otherChecked] at lockedOthers sameLocked
  have otherPending : (others.slots.map (checkSlot coupling point others.ledger.channels)).any pendingLock =
      locksIn coupling point others := rfl
  rw [iapRound, iapRound, pending, otherPending]
  dsimp only
  cases locksIn coupling point others with
  | true => exact ⟨newLeft, newRight, lockedWhole, lockedOthers, sameLocked⟩
  | false =>
      obtain ⟨lastLeft, lastRight, droppedWhole, droppedOthers, sameDropped⟩ :=
        Sweep.sweep_beside (dropSlot point cfg) (SameChannels places) (drop_slot_same point cfg places) guest
          (droppedOut point cfg guest) (drop_bystander point cfg places guest bystander) newLeft newRight _ _ sameLocked
      rw [← lockedWhole] at droppedWhole sameDropped
      rw [← lockedOthers] at droppedOthers sameDropped
      exact ⟨lastLeft, lastRight, droppedWhole, droppedOthers, sameDropped⟩

-- What the bystander is after some rounds of the others.
def guestAfter : Nat → NeighborSlot K → EngineState K → NeighborSlot K
  | 0, guest, _ => guest
  | rounds + 1, guest, others =>
      guestAfter rounds (if locksIn coupling point others then guest else droppedOut point cfg guest)
        (iapRound coupling point cfg others)

theorem run_accompanied (rounds : Nat) (guest : NeighborSlot K) (bystander : Bystander point places guest)
    (whole others : EngineState K) (beside : Accompanied places guest whole others) :
    Accompanied places (guestAfter coupling point cfg rounds guest others) ((iapRound coupling point cfg)^[rounds] whole)
      ((iapRound coupling point cfg)^[rounds] others) := by
  induction rounds generalizing guest whole others with
  | zero => exact beside
  | succ rounds ih =>
      rw [Function.iterate_succ_apply, Function.iterate_succ_apply, guestAfter]
      refine ih _ ?_ _ _ (round_accompanied coupling point cfg places guest bystander whole others beside)
      split
      · exact bystander
      · exact dropped_out_bystander point cfg places guest bystander

theorem guest_kept (rounds : Nat) (guest : NeighborSlot K) (others : EngineState K)
    (locks : LocksThroughout coupling point cfg rounds others) : guestAfter coupling point cfg rounds guest others = guest := by
  induction rounds generalizing others with
  | zero => rfl
  | succ rounds ih =>
      rw [guestAfter, locks.1, if_pos rfl]
      exact ih _ locks.2

theorem dropped_out_grant (guest : NeighborSlot K) : (droppedOut point cfg guest).grant = guest.grant :=
  drop_slot_grant point cfg guest ⟨[], 0⟩

theorem dropped_out_eirp (downward : 0 < cfg.eirpStepDb) (guest : NeighborSlot K) :
    (droppedOut point cfg guest).eirp ≤ guest.eirp ∧
      ((guest.removed || guest.satisfied) = false → (droppedOut point cfg guest).eirp < guest.eirp) := by
  rw [droppedOut, dropSlot]
  split
  · rename_i settled
    exact ⟨le_refl _, fun still => absurd settled (by simp [still])⟩
  · have lower : guest.eirp - cfg.eirpStepDb < guest.eirp := sub_lt_self _ downward
    dsimp only
    split
    · exact ⟨lower.le, fun _ => lower⟩
    · exact ⟨lower.le, fun _ => lower⟩

theorem guest_after_grant (rounds : Nat) (guest : NeighborSlot K) (others : EngineState K) :
    (guestAfter coupling point cfg rounds guest others).grant = guest.grant := by
  induction rounds generalizing guest others with
  | zero => rfl
  | succ rounds ih =>
      rw [guestAfter, ih]
      split
      · rfl
      · exact dropped_out_grant point cfg guest

theorem guest_after_eirp (downward : 0 < cfg.eirpStepDb) (rounds : Nat) (guest : NeighborSlot K) (others : EngineState K) :
    (guestAfter coupling point cfg rounds guest others).eirp ≤ guest.eirp := by
  induction rounds generalizing guest others with
  | zero => exact le_refl _
  | succ rounds ih =>
      rw [guestAfter]
      refine (ih _ _).trans ?_
      split
      · exact le_refl _
      · exact (dropped_out_eirp point cfg downward guest).1

theorem guest_lowered (downward : 0 < cfg.eirpStepDb) (rounds : Nat) (guest : NeighborSlot K) (others : EngineState K)
    (still : (guest.removed || guest.satisfied) = false) (drops : ¬ LocksThroughout coupling point cfg rounds others) :
    (guestAfter coupling point cfg rounds guest others).eirp < guest.eirp := by
  induction rounds generalizing others with
  | zero => exact absurd trivial drops
  | succ rounds ih =>
      rw [guestAfter]
      cases locks : locksIn coupling point others with
      | true =>
          rw [if_pos rfl]
          exact ih _ fun later => drops ⟨locks, later⟩
      | false =>
          rw [if_neg (by simp)]
          exact (guest_after_eirp coupling point cfg downward rounds _ _).trans_lt
            ((dropped_out_eirp point cfg downward guest).2 still)

end Guest

section Point

variable (model : RadioModel K) (cfg : IapEngineConfig K) (coupling : InterferenceCoupling K)
variable (point : ProtectionPoint K) (before after : List (GrantRfInfo K)) (grant : GrantRfInfo K)

-- grant_overlaps_channel is false on every IAP channel of the point.
def NoApplicableChannel : Prop :=
  ∀ channel ∈ iapChannels model point, grantOverlapsChannel grant channel point.entityKind = false

-- The grant keeps its initial EIRP, and all other decisions are those of the point without it.
def LeftAlone : Prop :=
  ∃ first decision rest,
    (runIapForPoint model cfg coupling point (before ++ grant :: after)).decisions = first ++ decision :: rest ∧
      (runIapForPoint model cfg coupling point (before ++ after)).decisions = first ++ rest ∧
      decision.grantId = grant.grantId ∧ decision.cbsdId = grant.cbsdId ∧ decision.grantPk = grant.grantPk ∧
      decision.action = .keep ∧ decision.authorizedEirpDbmMhz = grant.maxEirpDbmMhz

theorem initial_slot_kept (channels : List (ChannelSlot K)) :
    (slotDecision cfg point channels (initialSlot grant)).action = .keep ∧
      (slotDecision cfg point channels (initialSlot grant)).authorizedEirpDbmMhz = grant.maxEirpDbmMhz := by
  have positive : (0 : K) < eirpEpsilon := by
    rw [eirpEpsilon]
    positivity
  have running : terminatedBy channels (initialSlot grant) = false := by simp [terminatedBy, initialSlot]
  have level : ¬ (initialSlot grant).eirp + eirpEpsilon < (initialSlot grant).grant.maxEirpDbmMhz := by
    simp only [initialSlot]
    linarith
  simp only [slotDecision, running, Bool.false_eq_true, if_false, if_neg level]
  exact ⟨trivial, rfl⟩

theorem lowered_not_kept (channels : List (ChannelSlot K)) (slot : NeighborSlot K)
    (lower : slot.eirp < slot.grant.maxEirpDbmMhz) :
    ¬ ((slotDecision cfg point channels slot).action = .keep ∧
      (slotDecision cfg point channels slot).authorizedEirpDbmMhz = slot.grant.maxEirpDbmMhz) := by
  intro both
  obtain ⟨kept, level⟩ := both
  simp only [slotDecision] at kept level
  split at kept
  · cases kept
  · rename_i running
    rw [if_neg running] at level
    split at kept
    · cases kept
    · rename_i near
      rw [if_neg near] at level
      exact lower.ne level

variable (managing : grant.isManagingSas = true) (near : inNeighborhood model point grant = true)
  (apart : NoApplicableChannel model point grant)

include near in
theorem neighborhood_with : grantsInNeighborhood model point (before ++ grant :: after) =
    grantsInNeighborhood model point before ++ grant :: grantsInNeighborhood model point after := by
  rw [grantsInNeighborhood, List.filter_append, List.filter_cons_of_pos near]
  rfl

theorem neighborhood_without : grantsInNeighborhood model point (before ++ after) =
    grantsInNeighborhood model point before ++ grantsInNeighborhood model point after := by
  rw [grantsInNeighborhood, List.filter_append]
  rfl

include apart in
theorem initial_bystander : Bystander point ((iapChannels model point).zipIdx) (initialSlot grant) := by
  refine ⟨fun entry member => apart entry.1 ?_, rfl⟩
  have among := List.mem_map_of_mem (f := Prod.fst) member
  rwa [List.zipIdx_map_fst] at among

include near apart in
theorem initial_accompanied : Accompanied ((iapChannels model point).zipIdx) (initialSlot grant)
    (initialState model point (before ++ grant :: after)) (initialState model point (before ++ after)) := by
  refine ⟨(grantsInNeighborhood model point before).map initialSlot,
    (grantsInNeighborhood model point after).map initialSlot, ?_, ?_, ?_, initial_layout model point _⟩
  · simp only [initialState, neighborhood_with model point before after grant near, List.map_append, List.map_cons]
  · simp only [initialState, neighborhood_without, List.map_append]
  · simp only [initialState, neighborhood_with model point before after grant near, neighborhood_without]
    refine List.map_congr_left fun entry member => ?_
    have among := List.mem_map_of_mem (f := Prod.fst) member
    rw [List.zipIdx_map_fst] at among
    simp only [initialChannel, List.countP_append, List.countP_cons, apart entry.1 among, Bool.false_eq_true, if_false,
      Nat.add_zero]

def guestFinal : NeighborSlot K :=
  guestAfter coupling point cfg cfg.maxIterations (initialSlot grant) (initialState model point (before ++ after))

include near apart in
theorem final_accompanied : Accompanied ((iapChannels model point).zipIdx)
    (guestFinal model cfg coupling point before after grant) (finalState model cfg coupling point (before ++ grant :: after))
    (finalState model cfg coupling point (before ++ after)) := by
  rw [finalState, loop_iterates coupling point cfg _ _ _ (initial_between model coupling point _), finalState,
    loop_iterates coupling point cfg _ _ _ (initial_between model coupling point _)]
  exact run_accompanied coupling point cfg _ cfg.maxIterations _ (initial_bystander model point grant apart) _ _
    (initial_accompanied model point before after grant near apart)

def othersDecisions : List (IapGrantDecision K) :=
  ((finalState model cfg coupling point (before ++ after)).slots.filter fun slot => slot.grant.isManagingSas).map
    (slotDecision cfg point (finalState model cfg coupling point (before ++ after)).ledger.channels)

include managing near apart in
-- The others' decisions stand around that of the bystander.
theorem decisions_beside (channels : iapChannels model point ≠ []) :
    ∃ first rest,
      (runIapForPoint model cfg coupling point (before ++ grant :: after)).decisions =
          first ++ slotDecision cfg point (finalState model cfg coupling point (before ++ after)).ledger.channels
            (guestFinal model cfg coupling point before after grant) :: rest ∧
        othersDecisions model cfg coupling point before after = first ++ rest := by
  obtain ⟨left, right, whole, others, same⟩ := final_accompanied model cfg coupling point before after grant near apart
  have busyWith : idlePoint model point (before ++ grant :: after) = false := by
    rw [idlePoint, neighborhood_with model point before after grant near]
    simp [channels]
  have managed : (guestFinal model cfg coupling point before after grant).grant.isManagingSas = true := by
    rw [guestFinal, guest_after_grant]
    exact managing
  refine ⟨(left.filter fun slot => slot.grant.isManagingSas).map (slotDecision cfg point
      (finalState model cfg coupling point (before ++ after)).ledger.channels),
    (right.filter fun slot => slot.grant.isManagingSas).map (slotDecision cfg point
      (finalState model cfg coupling point (before ++ after)).ledger.channels), ?_, ?_⟩
  · rw [runIapForPoint, busyWith, if_neg (by simp)]
    dsimp only
    rw [whole, same.1, List.filter_append,
      List.filter_cons_of_pos (p := fun slot : NeighborSlot K => slot.grant.isManagingSas) managed, List.map_append,
      List.map_cons]
  · rw [othersDecisions, others, List.filter_append, List.map_append]

theorem others_when_busy (busy : idlePoint model point (before ++ after) = false) :
    (runIapForPoint model cfg coupling point (before ++ after)).decisions =
      othersDecisions model cfg coupling point before after := by
  rw [runIapForPoint, busy, if_neg (by simp)]
  rfl

theorem others_when_alone (alone : grantsInNeighborhood model point (before ++ after) = []) :
    othersDecisions model cfg coupling point before after = [] := by
  have grants := final_grants model cfg coupling point (before ++ after)
  rw [alone, List.map_eq_nil_iff] at grants
  rw [othersDecisions, grants]
  rfl

theorem alone_never_locks (alone : grantsInNeighborhood model point (before ++ after) = []) (turns : 0 < cfg.maxIterations) :
    ¬ LocksThroughout coupling point cfg cfg.maxIterations (initialState model point (before ++ after)) := by
  obtain ⟨rounds, isSucc⟩ := Nat.exists_eq_succ_of_ne_zero turns.ne'
  rw [isSucc]
  intro locks
  have nothing := locks.1
  simp [locksIn, initialState, alone] at nothing

theorem guest_final_lowered (downward : 0 < cfg.eirpStepDb)
    (drops : ¬ LocksThroughout coupling point cfg cfg.maxIterations (initialState model point (before ++ after))) :
    (guestFinal model cfg coupling point before after grant).eirp <
      (guestFinal model cfg coupling point before after grant).grant.maxEirpDbmMhz := by
  have sameGrant : (guestFinal model cfg coupling point before after grant).grant = grant := guest_after_grant ..
  rw [sameGrant]
  exact guest_lowered coupling point cfg downward cfg.maxIterations (initialSlot grant) _ rfl drops

include managing in
theorem idle_left_alone (channels : iapChannels model point = []) :
    LeftAlone model cfg coupling point before after grant := by
  have idle : ∀ grants : List (GrantRfInfo K), idlePoint model point grants = true := by
    intro grants
    rw [idlePoint, channels]
    rfl
  refine ⟨(before.filter (·.isManagingSas)).map (earlyDecision point), earlyDecision point grant,
    (after.filter (·.isManagingSas)).map (earlyDecision point), ?_, ?_, rfl, rfl, rfl, rfl, rfl⟩
  · rw [runIapForPoint, idle, if_pos rfl, List.filter_append, List.filter_cons_of_pos managing, List.map_append,
      List.map_cons]
  · rw [runIapForPoint, idle, if_pos rfl, List.filter_append, List.map_append]

-- One decision more in the same list is told from the lists alone.
theorem inserted_same {α : Type} (first rest front back : List α) (one other : α)
    (whole : first ++ one :: rest = front ++ other :: back) (without : first ++ rest = front ++ back) : one = other := by
  have counted : (one ::ₘ (first ++ rest : List α) : Multiset α) = other ::ₘ ((first ++ rest : List α) : Multiset α) := by
    rw [Multiset.cons_coe, Multiset.cons_coe, Multiset.coe_eq_coe]
    have left : (one :: (first ++ rest)).Perm (first ++ one :: rest) := List.perm_middle.symm
    have right : (front ++ other :: back).Perm (other :: (front ++ back)) := List.perm_middle
    rw [← whole, ← without] at right
    exact left.trans right
  exact Multiset.cons_inj_left _ |>.mp counted

include managing near apart in
theorem bystander_left_alone_iff (downward : 0 < cfg.eirpStepDb) (turns : 0 < cfg.maxIterations) :
    LeftAlone model cfg coupling point before after grant ↔ iapChannels model point = [] ∨
      LocksThroughout coupling point cfg cfg.maxIterations (initialState model point (before ++ after)) := by
  by_cases channels : iapChannels model point = []
  · exact ⟨fun _ => .inl channels, fun _ => idle_left_alone model cfg coupling point before after grant managing channels⟩
  · obtain ⟨first, rest, whole, others⟩ :=
      decisions_beside model cfg coupling point before after grant managing near apart channels
    have sameGrant : (guestFinal model cfg coupling point before after grant).grant = grant := guest_after_grant ..
    refine ⟨fun alone => .inr ?_, fun condition => ?_⟩
    · by_contra drops
      obtain ⟨front, decision, back, wholeAlone, withoutAlone, _, _, _, kept, level⟩ := alone
      have lowered := guest_final_lowered model cfg coupling point before after grant downward drops
      have isDecision : slotDecision cfg point (finalState model cfg coupling point (before ++ after)).ledger.channels
          (guestFinal model cfg coupling point before after grant) = decision := by
        by_cases busy : idlePoint model point (before ++ after) = true
        · have none_near : grantsInNeighborhood model point (before ++ after) = [] := by
            simpa [idlePoint, channels] using busy
          rw [others_when_alone model cfg coupling point before after none_near] at others
          obtain ⟨noFirst, noRest⟩ := List.append_eq_nil_iff.mp others.symm
          rw [whole, noFirst, noRest] at wholeAlone
          have single := congrArg List.length wholeAlone
          simp only [List.nil_append, List.length_append, List.length_cons, List.length_nil] at single
          have noFront : front = [] := List.length_eq_zero_iff.mp (by omega)
          rw [noFront] at wholeAlone
          exact (List.cons.inj wholeAlone).1
        · rw [others_when_busy model cfg coupling point before after (by simpa using busy), others] at withoutAlone
          exact inserted_same _ _ _ _ _ _ (whole.symm.trans wholeAlone) withoutAlone
      refine lowered_not_kept cfg point (finalState model cfg coupling point (before ++ after)).ledger.channels _ lowered ?_
      rw [isDecision, sameGrant]
      exact ⟨kept, level⟩
    · have locks := condition.resolve_left channels
      have busy : idlePoint model point (before ++ after) = false := by
        cases idle : idlePoint model point (before ++ after) with
        | false => rfl
        | true =>
            have none_near : grantsInNeighborhood model point (before ++ after) = [] := by
              simpa [idlePoint, channels] using idle
            exact absurd locks (alone_never_locks model cfg coupling point before after none_near turns)
      have stays : guestFinal model cfg coupling point before after grant = initialSlot grant :=
        guest_kept coupling point cfg _ _ _ locks
      rw [stays] at whole
      obtain ⟨kept, level⟩ := initial_slot_kept cfg point grant
        (finalState model cfg coupling point (before ++ after)).ledger.channels
      exact ⟨first, _, rest, whole, (others_when_busy model cfg coupling point before after busy).trans others, rfl, rfl, rfl,
        kept, level⟩

end Point

-- A sensor whose band begins where the rule leaves Category A out, and a Category A grant beside it.
def upperEscPoint : ProtectionPoint Rat :=
  { pointId := "esc/0", latitude := 0, longitude := 0, lowHz := 3660000000, highHz := 3665000000, thresholdDbm := -109,
    entityKind := .esc, preIapMarginDb := 1 }

def catAGrant : GrantRfInfo Rat :=
  { sampleGrant "a" 20 with lowHz := 3660000000, highHz := 3670000000, cbsdCategory := some "A" }

theorem upper_esc_channels : iapChannels stepModel upperEscPoint = [.mk 3660000000 3665000000] := by
  apply iap_channels_eq
  simp [overlappingBounds, boundsFrom, FrequencyChannel.bounds, stepModel, upperEscPoint, iapbwHz]

-- A Category B grant that fits the channel as it is.
def catBGrant : GrantRfInfo Rat :=
  { sampleGrant "b" (-20) with lowHz := 3660000000, highHz := 3670000000, cbsdCategory := some "B" }

theorem cat_a_not_applicable : NoApplicableChannel stepModel upperEscPoint catAGrant := by
  rw [NoApplicableChannel, upper_esc_channels]
  decide

theorem cat_b_locks :
    locksIn stepCoupling upperEscPoint (initialState stepModel upperEscPoint [catBGrant]) = true ∧
      locksIn stepCoupling upperEscPoint
        (iapRound stepCoupling upperEscPoint iapEngineConfig (initialState stepModel upperEscPoint [catBGrant])) = false := by
  unfold initialState
  rw [upper_esc_channels]
  decide +kernel

-- The Category B grant locks in the first round. A run of one round leaves the other alone, a longer one does not.
theorem bystander_cat_a :
    LeftAlone stepModel { iapEngineConfig with maxIterations := 1 } stepCoupling upperEscPoint [catBGrant] [] catAGrant ∧
      ¬ LeftAlone stepModel iapEngineConfig stepCoupling upperEscPoint [catBGrant] [] catAGrant := by
  refine ⟨?_, fun alone => ?_⟩
  · exact (bystander_left_alone_iff stepModel { iapEngineConfig with maxIterations := 1 } stepCoupling upperEscPoint [catBGrant] []
      catAGrant rfl (by decide +kernel) cat_a_not_applicable (by decide) (by decide)).mpr (Or.inr ⟨cat_b_locks.1, trivial⟩)
  · rcases (bystander_left_alone_iff stepModel iapEngineConfig stepCoupling upperEscPoint [catBGrant] [] catAGrant rfl
      (by decide +kernel) cat_a_not_applicable (by decide) (by decide)).mp alone with idle | ⟨_, second, _⟩
    · rw [upper_esc_channels] at idle
      cases idle
    · exact Bool.false_ne_true (cat_b_locks.2.symm.trans second)

-- It is lowered in every round until it falls below the floor.
theorem cat_a_grant_terminated :
    catAGrant.isManagingSas = true ∧ inNeighborhood stepModel upperEscPoint catAGrant = true ∧
      NoApplicableChannel stepModel upperEscPoint catAGrant ∧
      (runIapForPoint stepModel iapEngineConfig stepCoupling upperEscPoint [catAGrant]).decisions.map (·.action) =
        [.terminate] := by
  refine ⟨rfl, by decide +kernel, cat_a_not_applicable, ?_⟩
  unfold runIapForPoint finalState initialState idlePoint
  rw [upper_esc_channels]
  decide +kernel

end SasCore.Iap
