import SasCore.Lib.Headroom
import SasCore.Lib.Rounding
import SasCore.Iap.Safety
import Mathlib.Tactic.Linarith
import Mathlib.Tactic.Ring

set_option autoImplicit false
set_option linter.unusedSectionVars false

namespace SasCore.Iap

open SasCore.Rounding

variable {K : Type} [Field K] [LinearOrder K]

-- The sums and the comparison of an admission are those of doubles: every operation is rounded.
def headroomEpsMw (arith : RoundedArith K) : K := arith.fl epsMw

structure IapAdmissionError where
  message : String
deriving DecidableEq, Repr

def negativeInterference : IapAdmissionError := ⟨"coupling returned negative interference"⟩

structure IapAdmissionChannelResult (K : Type) where
  pointId : String
  lowHz : Int
  highHz : Int
  managingMw : K
  peerMw : K
  aggregateMw : K
  thresholdMw : K
  residualMw : K
  proposalMw : K
  admitted : Bool
deriving DecidableEq, Repr

structure IapAdmissionDecision (K : Type) where
  allow : Bool
  reason : String
  applicable : Bool
  channels : List (IapAdmissionChannelResult K)
deriving DecidableEq, Repr

section Evaluate

variable (arith : RoundedArith K) (model : RadioModel K) (coupling : InterferenceCoupling K)

def admissionThresholdMw (point : ProtectionPoint K) : K :=
  model.dbmToMw (arith.fl (applyPreIapMarginDb point.thresholdDbm point.preIapMarginDb))

-- The baseline grants of one channel, summed apart for the managing SAS and the peers.
def baselineMw (point : ProtectionPoint K) (channel : FrequencyChannel) :
    List (GrantRfInfo K) → K → K → Except IapAdmissionError (K × K)
  | [], managingMw, peerMw => .ok (managingMw, peerMw)
  | grant :: rest, managingMw, peerMw =>
      if !grantOverlapsChannel grant channel point.entityKind then baselineMw point channel rest managingMw peerMw
      else
        let mw := coupling grant point channel grant.maxEirpDbmMhz
        if mw < 0 then .error negativeInterference
        else if grant.isManagingSas then baselineMw point channel rest (arith.fl (managingMw + mw)) peerMw
        else baselineMw point channel rest managingMw (arith.fl (peerMw + mw))

def admissionChannelResult (proposed : GrantRfInfo K) (point : ProtectionPoint K) (channel : FrequencyChannel)
    (managingMw peerMw : K) : IapAdmissionChannelResult K :=
  let aggregateMw := arith.fl (managingMw + peerMw)
  let residualMw := arith.fl (admissionThresholdMw arith model point - aggregateMw)
  let proposalMw := coupling proposed point channel proposed.maxEirpDbmMhz
  { pointId := point.pointId
    lowHz := channel.lowHz
    highHz := channel.highHz
    managingMw := managingMw
    peerMw := peerMw
    aggregateMw := aggregateMw
    thresholdMw := admissionThresholdMw arith model point
    residualMw := residualMw
    proposalMw := proposalMw
    admitted := proposalMw ≤ arith.fl (residualMw + headroomEpsMw arith) }

def evaluateChannel (proposed : GrantRfInfo K) (neighbors : List (GrantRfInfo K)) (point : ProtectionPoint K)
    (channel : FrequencyChannel) : Except IapAdmissionError (IapAdmissionChannelResult K) := do
  let sums ← baselineMw arith coupling point channel (neighbors.filter fun g => g.grantId != proposed.grantId) 0 0
  if coupling proposed point channel proposed.maxEirpDbmMhz < 0 then .error negativeInterference
  else .ok (admissionChannelResult arith model coupling proposed point channel sums.1 sums.2)

-- The point and channel pairs the nested loops of the source do not skip, in its order.
def applicableSites (proposed : GrantRfInfo K) (baseline : List (GrantRfInfo K)) (points : List (ProtectionPoint K)) :
    List (ProtectionPoint K × FrequencyChannel) :=
  points.flatMap fun point =>
    if (grantsInNeighborhood model point (baseline ++ [proposed])).any fun g => g.grantId == proposed.grantId then
      ((iapChannels model point).filter fun channel => grantOverlapsChannel proposed channel point.entityKind).map
        fun channel => (point, channel)
    else []

def evaluateSites (proposed : GrantRfInfo K) (baseline : List (GrantRfInfo K)) :
    List (ProtectionPoint K × FrequencyChannel) → Bool → List (IapAdmissionChannelResult K) →
      Except IapAdmissionError (IapAdmissionDecision K)
  | [], applicable, results =>
      .ok (if applicable then ⟨true, "within_iap_headroom", true, results⟩
        else ⟨true, "no_applicable_iap_constraint", false, results⟩)
  | (point, channel) :: rest, _, results => do
      let result ← evaluateChannel arith model coupling proposed
        (grantsInNeighborhood model point (baseline ++ [proposed])) point channel
      if result.admitted then evaluateSites proposed baseline rest true (results ++ [result])
      else return ⟨false, "iap_headroom_exceeded", true, results ++ [result]⟩

def evaluateProposalAgainstHeadroom (proposed : GrantRfInfo K) (baseline : List (GrantRfInfo K))
    (points : List (ProtectionPoint K)) : Except IapAdmissionError (IapAdmissionDecision K) :=
  evaluateSites arith model coupling proposed baseline (applicableSites model proposed baseline points) false []

def proposalAllowed (points : List (ProtectionPoint K)) (baseline : List (GrantRfInfo K)) (proposed : GrantRfInfo K) :
    Bool :=
  match evaluateProposalAgainstHeadroom arith model coupling proposed baseline points with
  | .ok decision => decision.allow
  | .error _ => false

-- A run of admissions: a proposal joins the baseline exactly when the evaluation allows it.
def admissionRun (points : List (ProtectionPoint K)) (baseline proposals : List (GrantRfInfo K)) :
    List (GrantRfInfo K) :=
  Headroom.admitAll (proposalAllowed arith model coupling points) baseline proposals

def countedGrants (point : ProtectionPoint K) (channel : FrequencyChannel) (baseline : List (GrantRfInfo K)) :
    List (GrantRfInfo K) :=
  (grantsInNeighborhood model point baseline).filter fun g => grantOverlapsChannel g channel point.entityKind

def couplingsMw (point : ProtectionPoint K) (channel : FrequencyChannel) (grants : List (GrantRfInfo K)) : List K :=
  grants.map fun g => coupling g point channel g.maxEirpDbmMhz

-- The exact aggregate of a baseline, and the one the doubles add up to.
def aggregateMw (point : ProtectionPoint K) (channel : FrequencyChannel) (baseline : List (GrantRfInfo K)) : K :=
  (couplingsMw coupling point channel (countedGrants model point channel baseline)).sum

def computedPartMw (point : ProtectionPoint K) (channel : FrequencyChannel) (baseline : List (GrantRfInfo K))
    (managing : Bool) : K :=
  arith.total 0 (couplingsMw coupling point channel
    ((countedGrants model point channel baseline).filter fun g => g.isManagingSas == managing))

def computedMw (point : ProtectionPoint K) (channel : FrequencyChannel) (baseline : List (GrantRfInfo K)) : K :=
  arith.fl (computedPartMw arith model coupling point channel baseline true +
    computedPartMw arith model coupling point channel baseline false)

-- The limit of one channel with the epsilon of the admission test.
def admissionLimitMw (point : ProtectionPoint K) : K := admissionThresholdMw arith model point + epsMw

-- The comparison of the source: the proposal against the rounded residual and epsilon.
def HasRoom (point : ProtectionPoint K) (channel : FrequencyChannel) (baseline : List (GrantRfInfo K))
    (proposed : GrantRfInfo K) : Prop :=
  arith.fits (admissionThresholdMw arith model point) (computedMw arith model coupling point channel baseline) (headroomEpsMw arith)
    (coupling proposed point channel proposed.maxEirpDbmMhz)

def Applicable (point : ProtectionPoint K) (channel : FrequencyChannel) (proposed : GrantRfInfo K) : Prop :=
  inNeighborhood model point proposed = true ∧ grantOverlapsChannel proposed channel point.entityKind = true

def siteWeight (point : ProtectionPoint K) (channel : FrequencyChannel) (grant : GrantRfInfo K) : K :=
  if inNeighborhood model point grant && grantOverlapsChannel grant channel point.entityKind then
    coupling grant point channel grant.maxEirpDbmMhz
  else 0

-- The most that roundings may let the exact aggregate of a baseline come to.
def roundedLimitMw (point : ProtectionPoint K) (channel : FrequencyChannel) (baseline : List (GrantRfInfo K)) : K :=
  admissionLimitMw arith model point / arith.keep ^ ((countedGrants model point channel baseline).length + 2)

end Evaluate

section Correct

variable [IsStrictOrderedRing K] (arith : RoundedArith K) (model : RadioModel K) (coupling : InterferenceCoupling K)

theorem counted_cons (point : ProtectionPoint K) (channel : FrequencyChannel) (grant : GrantRfInfo K)
    (rest : List (GrantRfInfo K)) :
    countedGrants model point channel (grant :: rest) =
      if inNeighborhood model point grant && grantOverlapsChannel grant channel point.entityKind then
        grant :: countedGrants model point channel rest
      else countedGrants model point channel rest := by
  unfold countedGrants grantsInNeighborhood
  by_cases near : inNeighborhood model point grant = true
  · by_cases overlap : grantOverlapsChannel grant channel point.entityKind = true
    · simp [near, overlap]
    · simp [near, overlap]
  · simp [near]

theorem counted_length_append (point : ProtectionPoint K) (channel : FrequencyChannel) (baseline : List (GrantRfInfo K))
    (grant : GrantRfInfo K) :
    (countedGrants model point channel (baseline ++ [grant])).length = (countedGrants model point channel baseline).length +
      if inNeighborhood model point grant && grantOverlapsChannel grant channel point.entityKind then 1 else 0 := by
  have split : countedGrants model point channel (baseline ++ [grant]) =
      countedGrants model point channel baseline ++ countedGrants model point channel [grant] := by
    simp only [countedGrants, grantsInNeighborhood, List.filter_append]
  rw [split, List.length_append, counted_cons]
  split
  · rfl
  · rfl

theorem aggregate_load (point : ProtectionPoint K) (channel : FrequencyChannel) (baseline : List (GrantRfInfo K)) :
    aggregateMw model coupling point channel baseline = Headroom.load (siteWeight model coupling point channel) baseline := by
  induction baseline with
  | nil => rfl
  | cons grant rest ih =>
      rw [aggregateMw, Headroom.load] at ih
      rw [aggregateMw, Headroom.load, counted_cons, List.map_cons, List.sum_cons, ← ih, siteWeight]
      split
      · rfl
      · rw [zero_add]

section NonNegative

variable (nonneg : ∀ grant point channel eirp, 0 ≤ coupling grant point channel eirp)

include nonneg

theorem couplings_nonneg (point : ProtectionPoint K) (channel : FrequencyChannel) (grants : List (GrantRfInfo K)) :
    ∀ mw ∈ couplingsMw coupling point channel grants, 0 ≤ mw := by
  intro mw member
  obtain ⟨grant, _, rfl⟩ := List.mem_map.mp member
  exact nonneg _ _ _ _

theorem aggregate_nonneg (point : ProtectionPoint K) (channel : FrequencyChannel) (baseline : List (GrantRfInfo K)) :
    0 ≤ aggregateMw model coupling point channel baseline :=
  List.sum_nonneg (couplings_nonneg coupling nonneg point channel _)

-- The loop sums the grants of the managing SAS and those of the peers apart.
theorem baseline_mw_total (point : ProtectionPoint K) (channel : FrequencyChannel) (grants : List (GrantRfInfo K))
    (managingMw peerMw : K) :
    let counted := grants.filter fun g => grantOverlapsChannel g channel point.entityKind
    baselineMw arith coupling point channel grants managingMw peerMw =
      .ok (arith.total managingMw (couplingsMw coupling point channel (counted.filter fun g => g.isManagingSas == true)),
        arith.total peerMw (couplingsMw coupling point channel (counted.filter fun g => g.isManagingSas == false))) := by
  induction grants generalizing managingMw peerMw with
  | nil => rfl
  | cons grant rest ih =>
      by_cases overlap : grantOverlapsChannel grant channel point.entityKind = true
      · have notNegative : ¬ coupling grant point channel grant.maxEirpDbmMhz < 0 := not_lt.mpr (nonneg _ _ _ _)
        by_cases managing : grant.isManagingSas = true
        · simp only [baselineMw, overlap, Bool.not_true, Bool.false_eq_true, if_false, if_neg notNegative, managing, if_true, ih]
          simp [overlap, managing, couplingsMw, RoundedArith.total]
        · simp only [baselineMw, overlap, Bool.not_true, Bool.false_eq_true, if_false, if_neg notNegative, if_neg managing, ih]
          simp [overlap, managing, couplingsMw, RoundedArith.total]
      · simp only [baselineMw, overlap, Bool.not_false, if_true, ih]
        simp [overlap]

-- The computed aggregate is apart from the exact one by at most one rounding for each grant and one for the last sum.
theorem computed_within (point : ProtectionPoint K) (channel : FrequencyChannel) (baseline : List (GrantRfInfo K)) :
    arith.Within ((countedGrants model point channel baseline).length + 1) (aggregateMw model coupling point channel baseline)
      (computedMw arith model coupling point channel baseline) := by
  have part : ∀ keeps : GrantRfInfo K → Bool,
      arith.Within (countedGrants model point channel baseline).length
        (couplingsMw coupling point channel ((countedGrants model point channel baseline).filter keeps)).sum
        (arith.total 0 (couplingsMw coupling point channel ((countedGrants model point channel baseline).filter keeps))) := by
    intro keeps
    have values := couplings_nonneg coupling nonneg point channel ((countedGrants model point channel baseline).filter keeps)
    have close := total_within arith 0 0 0 (within_refl arith 0) (le_refl 0) _ values
    rw [zero_add, zero_add] at close
    refine within_mono arith close (List.sum_nonneg values) ?_
    rw [couplingsMw, List.length_map]
    exact List.length_filter_le _ _
  have whole : aggregateMw model coupling point channel baseline =
      (couplingsMw coupling point channel ((countedGrants model point channel baseline).filter fun g => g.isManagingSas == true)).sum +
        (couplingsMw coupling point channel ((countedGrants model point channel baseline).filter fun g => g.isManagingSas == false)).sum := by
    rw [aggregateMw]
    induction countedGrants model point channel baseline with
    | nil => simp [couplingsMw]
    | cons grant rest ih =>
        simp only [couplingsMw] at ih
        cases managing : grant.isManagingSas
        · simp [couplingsMw, managing, ih, add_left_comm]
        · simp [couplingsMw, managing, ih, add_assoc]
  have wholeNonneg := aggregate_nonneg model coupling nonneg point channel baseline
  rw [whole] at wholeNonneg ⊢
  exact within_fl arith (within_add arith (part _) (part _)) wholeNonneg

end NonNegative

theorem fresh_neighbors (point : ProtectionPoint K) (baseline : List (GrantRfInfo K)) (proposed : GrantRfInfo K)
    (fresh : ∀ grant ∈ baseline, grant.grantId ≠ proposed.grantId) :
    ((grantsInNeighborhood model point (baseline ++ [proposed])).filter fun g => g.grantId != proposed.grantId) =
      grantsInNeighborhood model point baseline := by
  have others : ∀ grant ∈ baseline, (grant.grantId != proposed.grantId) = true := by
    intro grant member
    simpa using fresh grant member
  rw [grantsInNeighborhood, List.filter_append, List.filter_append, List.filter_filter, List.filter_filter]
  have noProposed : [proposed].filter (fun g => g.grantId != proposed.grantId && inNeighborhood model point g) = [] := by
    simp
  rw [noProposed, List.append_nil, grantsInNeighborhood]
  exact List.filter_congr fun grant member => by rw [others grant member, Bool.true_and]

-- One channel admits the proposal exactly when the rounded sums leave room for it.
theorem evaluate_channel_admits (nonneg : ∀ grant point channel eirp, 0 ≤ coupling grant point channel eirp)
    (proposed : GrantRfInfo K) (baseline : List (GrantRfInfo K)) (point : ProtectionPoint K) (channel : FrequencyChannel)
    (fresh : ∀ grant ∈ baseline, grant.grantId ≠ proposed.grantId) :
    ∃ result, evaluateChannel arith model coupling proposed (grantsInNeighborhood model point (baseline ++ [proposed])) point
        channel = .ok result ∧
      (result.admitted = true ↔ HasRoom arith model coupling point channel baseline proposed) := by
  have sums := baseline_mw_total arith coupling nonneg point channel (grantsInNeighborhood model point baseline) 0 0
  have notNegative : ¬ coupling proposed point channel proposed.maxEirpDbmMhz < 0 := not_lt.mpr (nonneg _ _ _ _)
  rw [evaluateChannel, fresh_neighbors model point baseline proposed fresh, sums]
  refine ⟨admissionChannelResult arith model coupling proposed point channel
    (computedPartMw arith model coupling point channel baseline true)
    (computedPartMw arith model coupling point channel baseline false), ?_, ?_⟩
  · simp only [bind, Except.bind, if_neg notNegative]
    rfl
  · simp only [admissionChannelResult, decide_eq_true_eq]
    rfl

theorem applicable_sites_iff (proposed : GrantRfInfo K) (baseline : List (GrantRfInfo K))
    (points : List (ProtectionPoint K)) (fresh : ∀ grant ∈ baseline, grant.grantId ≠ proposed.grantId)
    (point : ProtectionPoint K) (channel : FrequencyChannel) :
    (point, channel) ∈ applicableSites model proposed baseline points ↔
      point ∈ points ∧ channel ∈ iapChannels model point ∧ Applicable model point channel proposed := by
  have present : ∀ p, ((grantsInNeighborhood model p (baseline ++ [proposed])).any
      fun g => g.grantId == proposed.grantId) = inNeighborhood model p proposed := by
    intro p
    have absent : (grantsInNeighborhood model p baseline).any (fun g => g.grantId == proposed.grantId) = false := by
      rw [List.any_eq_false]
      intro grant member
      simpa using fresh grant (List.mem_of_mem_filter member)
    rw [grantsInNeighborhood, List.filter_append, List.any_append]
    rw [grantsInNeighborhood] at absent
    rw [absent, Bool.false_or]
    cases near : inNeighborhood model p proposed <;> simp [near]
  constructor
  · intro member
    obtain ⟨p, pMember, inSites⟩ := List.mem_flatMap.mp member
    rw [present] at inSites
    by_cases near : inNeighborhood model p proposed = true
    · rw [if_pos near] at inSites
      obtain ⟨c, cMember, same⟩ := List.mem_map.mp inSites
      obtain ⟨pointEq, channelEq⟩ := Prod.mk.inj same
      obtain ⟨inChannels, overlap⟩ := List.mem_filter.mp cMember
      subst pointEq channelEq
      exact ⟨pMember, inChannels, near, overlap⟩
    · rw [if_neg near] at inSites
      cases inSites
  · rintro ⟨pMember, inChannels, near, overlap⟩
    refine List.mem_flatMap.mpr ⟨point, pMember, ?_⟩
    rw [present, if_pos near]
    exact List.mem_map.mpr ⟨channel, List.mem_filter.mpr ⟨inChannels, overlap⟩, rfl⟩

theorem evaluate_sites_allow (nonneg : ∀ grant point channel eirp, 0 ≤ coupling grant point channel eirp)
    (proposed : GrantRfInfo K) (baseline : List (GrantRfInfo K))
    (fresh : ∀ grant ∈ baseline, grant.grantId ≠ proposed.grantId)
    (sites : List (ProtectionPoint K × FrequencyChannel)) (applicable : Bool)
    (results : List (IapAdmissionChannelResult K)) :
    ∃ decision, evaluateSites arith model coupling proposed baseline sites applicable results = .ok decision ∧
      (decision.allow = true ↔ ∀ site ∈ sites, HasRoom arith model coupling site.1 site.2 baseline proposed) := by
  induction sites generalizing applicable results with
  | nil =>
      refine ⟨_, rfl, ?_⟩
      cases applicable <;> simp
  | cons site rest ih =>
      obtain ⟨point, channel⟩ := site
      obtain ⟨result, run, admits⟩ := evaluate_channel_admits arith model coupling nonneg proposed baseline point channel fresh
      by_cases fits : result.admitted = true
      · obtain ⟨decision, restRun, allows⟩ := ih true (results ++ [result])
        refine ⟨decision, ?_, ?_⟩
        · rw [evaluateSites, run]
          simp only [bind, Except.bind, fits, if_true, restRun]
        · rw [allows, List.forall_mem_cons]
          exact ⟨fun all => ⟨admits.mp fits, all⟩, fun both => both.2⟩
      · refine ⟨⟨false, "iap_headroom_exceeded", true, results ++ [result]⟩, ?_, ?_⟩
        · rw [evaluateSites, run]
          simp only [bind, Except.bind, fits, Bool.false_eq_true, if_false, pure, Except.pure]
        · simp only [Bool.false_eq_true, false_iff]
          intro all
          exact fits (admits.mpr (all (point, channel) List.mem_cons_self))

theorem evaluate_proposal_correct (nonneg : ∀ grant point channel eirp, 0 ≤ coupling grant point channel eirp)
    (proposed : GrantRfInfo K) (baseline : List (GrantRfInfo K)) (points : List (ProtectionPoint K))
    (fresh : ∀ grant ∈ baseline, grant.grantId ≠ proposed.grantId) :
    ∃ decision, evaluateProposalAgainstHeadroom arith model coupling proposed baseline points = .ok decision ∧
      (decision.allow = true ↔ ∀ point ∈ points, ∀ channel ∈ iapChannels model point,
        Applicable model point channel proposed → HasRoom arith model coupling point channel baseline proposed) := by
  obtain ⟨decision, run, allows⟩ := evaluate_sites_allow arith model coupling nonneg proposed baseline fresh
    (applicableSites model proposed baseline points) false []
  refine ⟨decision, run, allows.trans ?_⟩
  constructor
  · intro all point pMember channel cMember applies
    exact all (point, channel) ((applicable_sites_iff model proposed baseline points fresh point channel).mpr
      ⟨pMember, cMember, applies⟩)
  · rintro all ⟨point, channel⟩ member
    obtain ⟨pMember, cMember, applies⟩ :=
      (applicable_sites_iff model proposed baseline points fresh point channel).mp member
    exact all point pMember channel cMember applies

section Bounds

variable (nonneg : ∀ grant point channel eirp, 0 ≤ coupling grant point channel eirp)
variable (point : ProtectionPoint K) (channel : FrequencyChannel) (baseline : List (GrantRfInfo K)) (proposed : GrantRfInfo K)

theorem eps_nonneg : (0 : K) ≤ epsMw := by
  rw [epsMw]
  positivity

theorem eps_within : arith.Within 1 epsMw (headroomEpsMw arith) := within_fl arith (within_refl arith epsMw) eps_nonneg

theorem limit_nonneg : 0 ≤ admissionLimitMw arith model point := add_nonneg (model.dbmToMw_pos _).le eps_nonneg

include nonneg

-- What has room stays, with the baseline, below the limit up to the roundings of the sums.
theorem has_room_bound (room : HasRoom arith model coupling point channel baseline proposed) :
    arith.keep ^ ((countedGrants model point channel baseline).length + 3) *
        (aggregateMw model coupling point channel baseline + coupling proposed point channel proposed.maxEirpDbmMhz) ≤
      admissionLimitMw arith model point :=
  fits_bound arith (model.dbmToMw_pos _).le eps_nonneg (aggregate_nonneg model coupling nonneg point channel baseline)
    (nonneg _ _ _ _) (computed_within arith model coupling nonneg point channel baseline) (eps_within arith) room

theorem no_room_bound (full : ¬ HasRoom arith model coupling point channel baseline proposed) :
    arith.keep ^ ((countedGrants model point channel baseline).length + 3) * admissionLimitMw arith model point <
      aggregateMw model coupling point channel baseline + coupling proposed point channel proposed.maxEirpDbmMhz :=
  misfit_bound arith (model.dbmToMw_pos _).le eps_nonneg (aggregate_nonneg model coupling nonneg point channel baseline)
    (nonneg _ _ _ _) (computed_within arith model coupling nonneg point channel baseline) (eps_within arith) full

end Bounds

-- The ids still to come are new, and so are those that were let in on the way.
def FreshIds (baseline proposals : List (GrantRfInfo K)) : Prop := ((baseline ++ proposals).map (·.grantId)).Nodup

theorem fresh_ids_next (points : List (ProtectionPoint K)) (baseline : List (GrantRfInfo K)) (proposed : GrantRfInfo K)
    (rest : List (GrantRfInfo K)) (fresh : FreshIds baseline (proposed :: rest)) :
    FreshIds (Headroom.admitOne (proposalAllowed arith model coupling points) baseline proposed) rest := by
  unfold Headroom.admitOne
  split
  · simpa [FreshIds] using fresh
  · have fewer : (baseline ++ rest).Sublist (baseline ++ proposed :: rest) :=
      (List.Sublist.refl baseline).append (List.sublist_cons_self proposed rest)
    exact fresh.sublist (fewer.map _)

theorem fresh_ids_head (baseline : List (GrantRfInfo K)) (proposed : GrantRfInfo K) (rest : List (GrantRfInfo K))
    (fresh : FreshIds baseline (proposed :: rest)) : ∀ grant ∈ baseline, grant.grantId ≠ proposed.grantId := by
  intro grant member same
  simp only [FreshIds, List.map_append, List.map_cons] at fresh
  exact List.disjoint_of_nodup_append fresh (List.mem_map_of_mem member) (same ▸ List.mem_cons_self)

theorem rounded_limit_grows (point : ProtectionPoint K) (channel : FrequencyChannel) (baseline : List (GrantRfInfo K))
    (grant : GrantRfInfo K) :
    roundedLimitMw arith model point channel baseline ≤ roundedLimitMw arith model point channel (baseline ++ [grant]) := by
  have counts : (countedGrants model point channel baseline).length ≤
      (countedGrants model point channel (baseline ++ [grant])).length := by
    rw [counted_length_append]
    exact Nat.le_add_right _ _
  refine div_le_div_of_nonneg_left (limit_nonneg arith model point) (pow_pos (keep_pos arith) _) ?_
  exact pow_le_pow_of_le_one (keep_pos arith).le (keep_le_one arith) (Nat.add_le_add_right counts 2)

theorem allowed_respects (nonneg : ∀ grant point channel eirp, 0 ≤ coupling grant point channel eirp)
    (points : List (ProtectionPoint K)) (point : ProtectionPoint K) (pointMember : point ∈ points)
    (channel : FrequencyChannel) (channelMember : channel ∈ iapChannels model point) (baseline : List (GrantRfInfo K))
    (proposed : GrantRfInfo K) (fresh : ∀ grant ∈ baseline, grant.grantId ≠ proposed.grantId) :
    Headroom.Respects (siteWeight model coupling point channel) (roundedLimitMw arith model point channel)
      (proposalAllowed arith model coupling points) baseline proposed := by
  intro allowed
  obtain ⟨decision, run, allows⟩ := evaluate_proposal_correct arith model coupling nonneg proposed baseline points fresh
  rw [proposalAllowed, run] at allowed
  by_cases applies : Applicable model point channel proposed
  · have bound := has_room_bound arith model coupling nonneg point channel baseline proposed
      (allows.mp allowed point pointMember channel channelMember applies)
    have reached : (inNeighborhood model point proposed && grantOverlapsChannel proposed channel point.entityKind) = true := by
      simpa [Applicable] using applies
    right
    rw [roundedLimitMw, counted_length_append, if_pos reached, le_div_iff₀ (pow_pos (keep_pos arith) _), mul_comm,
      ← aggregate_load, siteWeight, if_pos reached]
    exact bound
  · refine Or.inl (if_neg ?_)
    simpa [Applicable] using applies

-- An admission in doubles: what is let in and what is refused, both against the exact aggregate.
structure AdmissionVerdict (points : List (ProtectionPoint K)) (baseline : List (GrantRfInfo K)) (proposed : GrantRfInfo K)
    (allow : Bool) : Prop where
  refused_iff : allow = false ↔ ∃ point ∈ points, ∃ channel ∈ iapChannels model point,
    Applicable model point channel proposed ∧ ¬ HasRoom arith model coupling point channel baseline proposed
  refused_exceeds : allow = false → ∃ point ∈ points, ∃ channel ∈ iapChannels model point,
    Applicable model point channel proposed ∧
      arith.keep ^ ((countedGrants model point channel baseline).length + 3) * admissionLimitMw arith model point <
        aggregateMw model coupling point channel (baseline ++ [proposed])
  allowed_within : allow = true → ∀ point ∈ points, ∀ channel ∈ iapChannels model point,
    Applicable model point channel proposed →
      arith.keep ^ ((countedGrants model point channel baseline).length + 3) *
        aggregateMw model coupling point channel (baseline ++ [proposed]) ≤ admissionLimitMw arith model point
  over_refused : ∀ point ∈ points, ∀ channel ∈ iapChannels model point, Applicable model point channel proposed →
    admissionLimitMw arith model point < arith.keep ^ ((countedGrants model point channel baseline).length + 3) *
      aggregateMw model coupling point channel baseline → allow = false

theorem admission_verdict (nonneg : ∀ grant point channel eirp, 0 ≤ coupling grant point channel eirp)
    (points : List (ProtectionPoint K)) (baseline : List (GrantRfInfo K)) (proposed : GrantRfInfo K)
    (fresh : ∀ grant ∈ baseline, grant.grantId ≠ proposed.grantId) :
    ∃ decision, evaluateProposalAgainstHeadroom arith model coupling proposed baseline points = .ok decision ∧
      AdmissionVerdict arith model coupling points baseline proposed decision.allow := by
  obtain ⟨decision, run, allows⟩ := evaluate_proposal_correct arith model coupling nonneg proposed baseline points fresh
  have refused : decision.allow = false ↔ ∃ point ∈ points, ∃ channel ∈ iapChannels model point,
      Applicable model point channel proposed ∧ ¬ HasRoom arith model coupling point channel baseline proposed := by
    rw [← Bool.not_eq_true, allows]
    push Not
    rfl
  have grown : ∀ point channel, Applicable model point channel proposed →
      aggregateMw model coupling point channel (baseline ++ [proposed]) =
        aggregateMw model coupling point channel baseline + coupling proposed point channel proposed.maxEirpDbmMhz := by
    rintro point channel ⟨near, overlap⟩
    rw [aggregate_load, aggregate_load, Headroom.load_append]
    simp [siteWeight, near, overlap]
  have within : decision.allow = true → ∀ point ∈ points, ∀ channel ∈ iapChannels model point,
      Applicable model point channel proposed →
        arith.keep ^ ((countedGrants model point channel baseline).length + 3) *
          aggregateMw model coupling point channel (baseline ++ [proposed]) ≤ admissionLimitMw arith model point := by
    intro allowed point pointMember channel channelMember applies
    rw [grown point channel applies]
    exact has_room_bound arith model coupling nonneg point channel baseline proposed
      (allows.mp allowed point pointMember channel channelMember applies)
  refine ⟨decision, run, refused, ?_, within, ?_⟩
  · intro denied
    obtain ⟨point, pointMember, channel, channelMember, applies, full⟩ := refused.mp denied
    refine ⟨point, pointMember, channel, channelMember, applies, ?_⟩
    rw [grown point channel applies]
    exact no_room_bound arith model coupling nonneg point channel baseline proposed full
  · intro point pointMember channel channelMember applies exceeded
    by_contra allowed
    have bound := within (by simpa using allowed) point pointMember channel channelMember applies
    have added : aggregateMw model coupling point channel baseline ≤
        aggregateMw model coupling point channel (baseline ++ [proposed]) := by
      rw [grown point channel applies]
      exact le_add_of_nonneg_right (nonneg _ _ _ _)
    have scaled := mul_le_mul_of_nonneg_left added
      (keep_pow_nonneg arith ((countedGrants model point channel baseline).length + 3))
    exact absurd exceeded (not_lt.mpr (scaled.trans bound))

theorem admission_run_protected (points : List (ProtectionPoint K)) (baseline proposals : List (GrantRfInfo K))
    (fresh : FreshIds baseline proposals)
    (nonneg : ∀ grant point channel eirp, 0 ≤ coupling grant point channel eirp) :
    (∀ point ∈ points, ∀ channel ∈ iapChannels model point, ∀ taken, taken <+: proposals →
      aggregateMw model coupling point channel (admissionRun arith model coupling points baseline taken) ≤
        max (aggregateMw model coupling point channel baseline)
          (roundedLimitMw arith model point channel (admissionRun arith model coupling points baseline taken))) ∧
    ∀ taken proposed rest, proposals = taken ++ proposed :: rest →
      ∃ decision, evaluateProposalAgainstHeadroom arith model coupling proposed
          (admissionRun arith model coupling points baseline taken) points = .ok decision ∧
        AdmissionVerdict arith model coupling points (admissionRun arith model coupling points baseline taken) proposed
          decision.allow := by
  refine ⟨?_, ?_⟩
  · intro point pointMember channel channelMember taken isPrefix
    obtain ⟨rest, split⟩ := isPrefix
    have takenFresh : FreshIds baseline taken := by
      rw [← split] at fresh
      refine fresh.sublist (List.Sublist.map _ ?_)
      exact (List.Sublist.refl baseline).append (List.sublist_append_left taken rest)
    rw [aggregate_load, aggregate_load]
    exact Headroom.admit_all_load _ (rounded_limit_grows arith model point channel) _ _ FreshIds
      (fresh_ids_next arith model coupling points)
      (fun held item later isFresh => allowed_respects arith model coupling nonneg points point pointMember channel
        channelMember held item (fresh_ids_head held item later isFresh)) baseline taken takenFresh
  · intro taken proposed rest split
    rw [split] at fresh
    have current : FreshIds (admissionRun arith model coupling points baseline taken) (proposed :: rest) :=
      Headroom.admit_all_invariant _ FreshIds (fresh_ids_next arith model coupling points) baseline taken _ fresh
    exact admission_verdict arith model coupling nonneg points _ proposed (fresh_ids_head _ proposed rest current)

end Correct

section Sample

-- A threshold of 10 mW, and couplings of as many mW as the grant has EIRP.
def tenMwPoint : ProtectionPoint Rat := { samplePoint with thresholdDbm := 11 }

def linearCoupling : InterferenceCoupling Rat := fun _ _ _ eirp => max 0 eirp

theorem linear_nonneg (grant : GrantRfInfo Rat) (point : ProtectionPoint Rat) (channel : FrequencyChannel) (eirp : Rat) :
    0 ≤ linearCoupling grant point channel eirp := le_max_left _ _

theorem ten_mw_channels : iapChannels stepModel tenMwPoint = [.mk 3550000000 3555000000] := sample_channels

-- The baseline is at 10 mW and a peer adds less than half the spacing of the doubles there; so does the proposal.
def fullBaseline : List (GrantRfInfo Rat) :=
  [sampleGrant "a" 10, { sampleGrant "b" (1 / 2 ^ 51) with isManagingSas := false }]

def tinyProposal : GrantRfInfo Rat := sampleGrant "c" (1 / 2 ^ 50)

theorem tiny_proposal_allowed : proposalAllowed binary64 stepModel linearCoupling [tenMwPoint] fullBaseline tinyProposal = true := by
  have sites : applicableSites stepModel tinyProposal fullBaseline [tenMwPoint] =
      [(tenMwPoint, .mk 3550000000 3555000000)] := by
    rw [applicableSites, List.flatMap_cons, ten_mw_channels]
    decide +kernel
  rw [proposalAllowed, evaluateProposalAgainstHeadroom, sites]
  decide +kernel

-- The proposal is let in, and the exact aggregate ends above the threshold and the epsilon.
theorem tiny_proposal_exceeds :
    max (aggregateMw stepModel linearCoupling tenMwPoint (.mk 3550000000 3555000000) fullBaseline)
        (admissionLimitMw binary64 stepModel tenMwPoint) <
      aggregateMw stepModel linearCoupling tenMwPoint (.mk 3550000000 3555000000)
        (admissionRun binary64 stepModel linearCoupling [tenMwPoint] fullBaseline [tinyProposal]) := by
  rw [admissionRun, Headroom.admitAll, List.foldl_cons, Headroom.admitOne, if_pos tiny_proposal_allowed, List.foldl_nil]
  decide +kernel

theorem admission_run_protected_sample :
    aggregateMw stepModel linearCoupling tenMwPoint (.mk 3550000000 3555000000)
        (admissionRun binary64 stepModel linearCoupling [tenMwPoint] fullBaseline [tinyProposal, sampleGrant "d" 5]) ≤
      max (aggregateMw stepModel linearCoupling tenMwPoint (.mk 3550000000 3555000000) fullBaseline)
        (roundedLimitMw binary64 stepModel tenMwPoint (.mk 3550000000 3555000000)
          (admissionRun binary64 stepModel linearCoupling [tenMwPoint] fullBaseline [tinyProposal, sampleGrant "d" 5])) :=
  (admission_run_protected binary64 stepModel linearCoupling [tenMwPoint] fullBaseline [tinyProposal, sampleGrant "d" 5]
    (by unfold FreshIds; decide) linear_nonneg).1 tenMwPoint (List.mem_singleton_self _) _
    (by rw [ten_mw_channels]; exact List.mem_singleton_self _) _ (List.prefix_refl _)

end Sample

end SasCore.Iap
