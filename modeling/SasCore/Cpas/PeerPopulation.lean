import SasCore.Iap.PeerFad
import SasCore.Cpas.Movelists
import Mathlib.Analysis.SpecialFunctions.Log.Base

set_option autoImplicit false
set_option linter.unusedSectionVars false

namespace SasCore.Cpas

open Registry

variable {K : Type} [Field K] [LinearOrder K]

-- json.loads(data_json or "{}"), kept when it is an object.
def loadRecord (readers : PyReaders K) (dataJson : String) : Option (Json K) :=
  (readers.loads (if dataJson = "" then "\x7b\x7d" else dataJson)).filter (·.isObject)

def frozenPeerCbsdRows (readers : PyReaders K) (records : List (Nat × PeerFadRecord)) : List (Nat × Json K) :=
  records.filterMap fun entry =>
    if entry.2.recordType = "cbsd" then (loadRecord readers entry.2.dataJson).map fun data => (entry.1, data) else none

def dpaGrantOfPeer (info : Iap.GrantRfInfo K) : Dpa.DpaGrantRf K :=
  { grantId := info.grantId
    cbsdId := info.cbsdId
    latitude := info.latitude
    longitude := info.longitude
    heightM := info.heightM
    heightIsAgl := info.heightIsAgl
    indoor := info.indoor
    lowHz := info.lowHz
    highHz := info.highHz
    maxEirpDbmMhz := info.maxEirpDbmMhz
    isManagingSas := false
    cbsdCategory := .a }

def dpaGrantsFromFrozenPeerCbsds (readers : PyReaders K) (rows : List (Nat × Json K)) : Option (List (Dpa.DpaGrantRf K)) :=
  (Iap.grantRfInfosFromFrozenPeerCbsds readers rows).map (·.map dpaGrantOfPeer)

-- The local transmitters that a CPAS run started now evaluates.
def frozenLocals (now : Int) (db : Database K) : List (Dpa.DpaGrantRf K) :=
  (freezeCpasSnapshot now db).localGrants.filterMap frozenToDpaGrantRf

def storedPeers (readers : PyReaders K) (db : Database K) : Option (List (Dpa.DpaGrantRf K)) :=
  dpaGrantsFromFrozenPeerCbsds readers (frozenPeerCbsdRows readers (peerRecords db.peers))

section Agreement

variable (backends : Dpa.DpaBackends K) (channels : List (Dpa.ProtectedDpaChannel K)) (now : Int) (db : Database K)
variable (cbsd : Cbsd K) (lowHz highHz : Int) (maxEirp : K) (peers : List (Dpa.DpaGrantRf K))

-- What the admission lets pass keeps every overlapped channel around the CBSD within its threshold, counted
-- over the population of CPAS and the proposal.
def AdmissionAgrees : Prop :=
  Dpa.proposedGrantViolatesDpa backends channels db.store cbsd lowHz highHz maxEirp = false →
    ∀ proposed, Dpa.proposedRf cbsd lowHz highHz maxEirp = some proposed → ∀ channel ∈ channels,
      Dpa.overlapsChannel lowHz highHz channel = true →
        Dpa.cbsdInsideProtectedNeighborhood backends cbsd channel = some true →
          (Dpa.evaluateProtectedChannel backends channel
            (neighborhood backends channel (frozenLocals now db ++ peers) ++ [proposed]) Dpa.defaultDpaMarginDb).ok = true

-- The own grants that the admission takes for replaced by the proposal.
def replaced (rf : Dpa.DpaGrantRf K) : Bool := rf.cbsdId == cbsd.cbsdId && (rf.lowHz < highHz && rf.highHz > lowHz)

-- What CPAS counts and the admission does not: replaced grants, unterminated rows with a RELINQUISHED or
-- EXPIRED column, and everything of the peers.
def rowUncounted (store : Store K) (grant : Grant K) : Option (Dpa.DpaGrantRf K) :=
  if grant.terminated then none
  else
    ((store.findCbsd grant.cbsdId).bind (Dpa.dpaGrantRfFromCbsdGrant · grant)).filter fun rf =>
      !Dpa.countsForDpa grant || replaced cbsd lowHz highHz rf

def uncounted : List (Dpa.DpaGrantRf K) := db.store.grants.filterMap (rowUncounted cbsd lowHz highHz db.store) ++ peers

def countedAt (channel : Dpa.ProtectedDpaChannel K) (grants : List (Dpa.DpaGrantRf K)) : List (Dpa.DpaGrantRf K) :=
  (neighborhood backends channel grants).filter fun g => Dpa.overlapsChannel g.lowHz g.highHz channel

-- The admission refuses whatever the path loss is.
def AlwaysRefused : Prop :=
  (∃ channel ∈ channels, Dpa.overlapsChannel lowHz highHz channel = true ∧
    (Dpa.proposedRf cbsd lowHz highHz maxEirp = none ∨ Dpa.cbsdInsideProtectedNeighborhood backends cbsd channel = none ∨
      Dpa.cbsdInsideProtectedNeighborhood backends cbsd channel = some true ∧
        channel.geometry.bind Dpa.polygonRepresentativePoint = none))

def NothingUncounted : Prop :=
  ∀ channel ∈ channels, Dpa.overlapsChannel lowHz highHz channel = true →
    Dpa.cbsdInsideProtectedNeighborhood backends cbsd channel = some true →
      countedAt backends channel (uncounted db cbsd lowHz highHz peers) = []

theorem frozen_rf_eq (grant : Grant K) (found : Cbsd K) (named : found.cbsdId = grant.cbsdId) :
    frozenToDpaGrantRf (frozenLocalGrantFromOrm grant found) = Dpa.dpaGrantRfFromCbsdGrant found grant := by
  rw [frozenToDpaGrantRf, frozenLocalGrantFromOrm, Dpa.dpaGrantRfFromCbsdGrant, Dpa.installedAt]
  cases params : found.registration.installationParam with
  | none => rfl
  | some inst =>
      cases lat : inst.latitude with
      | none => simp only [Option.bind_some, lat, Option.map_none]
      | some latitude =>
          cases lon : inst.longitude with
          | none => simp only [Option.bind_some, lat, lon, Option.isSome_some, if_true, Option.map_none]
          | some longitude =>
              have category : (frozenCategory found).getD .a =
                  Dpa.normalizedCategory (textOr found.registration.cbsdCategory found.cbsdCategory) := by
                rw [frozenCategory, Dpa.normalizedCategory]
                cases textOr found.registration.cbsdCategory found.cbsdCategory with
                | none => rfl
                | some text =>
                    rw [Option.getD_some, Option.getD_some]
                    split
                    · rename_i isA
                      rw [isA]
                      rfl
                    · rename_i isB
                      rw [isB]
                      rfl
                    · rename_i notB
                      rw [if_neg notB]
                      rfl
              simp only [Option.bind_some, lat, lon, Option.isSome_some, if_true, Option.map_some, category, named,
                Option.getD_some]

theorem frozen_locals_eq :
    frozenLocals now db = db.store.grants.filterMap fun grant =>
      if grant.terminated then none else (db.store.findCbsd grant.cbsdId).bind (Dpa.dpaGrantRfFromCbsdGrant · grant) := by
  rw [frozenLocals, freezeCpasSnapshot]
  dsimp only
  rw [List.filterMap_filterMap, List.filterMap_filter]
  refine List.filterMap_congr fun grant _ => ?_
  cases grant.terminated with
  | true => rfl
  | false =>
      simp only [Bool.not_false, if_true, Bool.false_eq_true, if_false]
      rw [frozenOf]
      cases found : db.store.findCbsd grant.cbsdId with
      | none => rfl
      | some row =>
          simp only [Option.map_some, Option.bind_some]
          exact frozen_rf_eq grant row (Dpa.find_cbsd_named db.store grant.cbsdId row found)

def admitted (channel : Dpa.ProtectedDpaChannel K) (proposed : Dpa.DpaGrantRf K) : List (Dpa.DpaGrantRf K) :=
  (Dpa.filterGrantsInNeighborhood backends channel (Dpa.collectActiveDpaGrants db.store)).filter fun g =>
    !(g.cbsdId == proposed.cbsdId && (g.lowHz < proposed.highHz && g.highHz > proposed.lowHz))

theorem counted_same (channel : Dpa.ProtectedDpaChannel K) (proposed : Dpa.DpaGrantRf K)
    (located : Dpa.proposedRf cbsd lowHz highHz maxEirp = some proposed)
    (none : countedAt backends channel (uncounted db cbsd lowHz highHz peers) = []) :
    countedAt backends channel (frozenLocals now db ++ peers) =
      (admitted backends db channel proposed).filter fun g => Dpa.overlapsChannel g.lowHz g.highHz channel := by
  have labels : proposed.cbsdId = cbsd.cbsdId ∧ proposed.lowHz = lowHz ∧ proposed.highHz = highHz := by
    obtain ⟨place, _, same⟩ := Option.map_eq_some_iff.mp located
    rw [← same]
    exact ⟨rfl, rfl, rfl⟩
  rw [countedAt, neighborhood, Dpa.filterGrantsInNeighborhood, List.filter_filter] at none
  have outside := List.filter_eq_nil_iff.mp none
  have peersOut : peers.filter (fun g => Dpa.overlapsChannel g.lowHz g.highHz channel &&
      Dpa.rfInsideProtectedNeighborhood backends g channel != some false) = [] :=
    List.filter_eq_nil_iff.mpr fun g member => outside g (List.mem_append_right _ member)
  rw [countedAt, neighborhood, Dpa.filterGrantsInNeighborhood, List.filter_filter, List.filter_append, peersOut,
    List.append_nil, admitted, Dpa.filterGrantsInNeighborhood, List.filter_filter, List.filter_filter, frozen_locals_eq,
    Dpa.collectActiveDpaGrants, List.filter_filterMap, List.filter_filterMap, labels.1, labels.2.1, labels.2.2]
  refine List.filterMap_congr fun grant member => ?_
  by_cases ended : grant.terminated = true
  · simp only [ended, if_true, Option.filter_none, Dpa.rowRf, Dpa.countsForDpa, Bool.not_true, Bool.false_and,
      Bool.false_eq_true, if_false]
  · rw [if_neg ended, Dpa.rowRf]
    cases found : (db.store.findCbsd grant.cbsdId).bind (Dpa.dpaGrantRfFromCbsdGrant · grant) with
    | none => simp only [ite_self, Option.filter_none]
    | some rf =>
        by_cases skipped : (!Dpa.countsForDpa grant || replaced cbsd lowHz highHz rf) = true
        · have isUncounted : rf ∈ uncounted db cbsd lowHz highHz peers := by
            refine List.mem_append_left _ (List.mem_filterMap.mpr ⟨grant, member, ?_⟩)
            rw [rowUncounted, if_neg ended, found, Option.filter_some, if_pos skipped]
          have out := Bool.eq_false_of_not_eq_true (outside rf isUncounted)
          rw [Option.filter_some, out, if_neg Bool.false_ne_true]
          by_cases counts : Dpa.countsForDpa grant = true
          · rw [if_pos counts, Option.filter_some, if_neg]
            intro all
            simp only [Bool.and_eq_true] at all
            rw [all.1.1, all.2] at out
            cases out
          · rw [if_neg counts, Option.filter_none]
        · simp only [Bool.not_eq_true, Bool.or_eq_false_iff, Bool.not_eq_false'] at skipped
          rw [if_pos skipped.1, Option.filter_some, Option.filter_some]
          have kept := skipped.2
          rw [replaced] at kept
          simp only [kept, Bool.not_false, Bool.and_true]

-- What a proposal that passes has been checked for.
theorem passed_channel (passed : Dpa.proposedGrantViolatesDpa backends channels db.store cbsd lowHz highHz maxEirp = false)
    (channel : Dpa.ProtectedDpaChannel K) (member : channel ∈ channels)
    (overlaps : Dpa.overlapsChannel lowHz highHz channel = true) :
    ∃ proposed, Dpa.proposedRf cbsd lowHz highHz maxEirp = some proposed ∧
      Dpa.channelViolated backends (Dpa.collectActiveDpaGrants db.store) cbsd proposed channel = false := by
  have overlapped : channel ∈ channels.filter (Dpa.overlapsChannel lowHz highHz) := List.mem_filter.mpr ⟨member, overlaps⟩
  rw [Dpa.proposedGrantViolatesDpa] at passed
  simp only [List.isEmpty_iff, if_neg (List.ne_nil_of_mem overlapped)] at passed
  cases located : Dpa.proposedRf cbsd lowHz highHz maxEirp with
  | none =>
      rw [located] at passed
      cases passed
  | some proposed =>
      rw [located] at passed
      exact ⟨proposed, rfl, Bool.eq_false_of_not_eq_true (List.any_eq_false.mp passed channel overlapped)⟩

theorem channel_passed_ok (proposed : Dpa.DpaGrantRf K) (channel : Dpa.ProtectedDpaChannel K)
    (passed : Dpa.channelViolated backends (Dpa.collectActiveDpaGrants db.store) cbsd proposed channel = false)
    (inside : Dpa.cbsdInsideProtectedNeighborhood backends cbsd channel = some true) :
    (Dpa.evaluateProtectedChannel backends channel (admitted backends db channel proposed ++ [proposed])
      Dpa.defaultDpaMarginDb).ok = true := by
  rw [Dpa.channelViolated, inside] at passed
  simpa only [admitted, Bool.not_eq_false'] using passed

theorem agrees_of_nothing_uncounted (nothing : NothingUncounted backends channels db cbsd lowHz highHz peers) :
    AdmissionAgrees backends channels now db cbsd lowHz highHz maxEirp peers := by
  intro passed proposed located channel member overlaps inside
  obtain ⟨found, isFound, unviolated⟩ := passed_channel backends channels db cbsd lowHz highHz maxEirp passed channel member
    overlaps
  have same : found = proposed := Option.some.inj (isFound.symm.trans located)
  rw [same] at unviolated
  rw [← channel_passed_ok backends db cbsd proposed channel unviolated inside]
  apply Dpa.evaluate_overlapping
  have counted := counted_same backends now db cbsd lowHz highHz maxEirp peers channel proposed located
    (nothing channel member overlaps inside)
  rw [countedAt] at counted
  rw [List.filter_append, List.filter_append, counted]

theorem agrees_of_refused (refused : AlwaysRefused backends channels cbsd lowHz highHz maxEirp) :
    AdmissionAgrees backends channels now db cbsd lowHz highHz maxEirp peers := by
  intro passed proposed located
  obtain ⟨channel, member, overlaps, why⟩ := refused
  obtain ⟨found, isFound, unviolated⟩ := passed_channel backends channels db cbsd lowHz highHz maxEirp passed channel member
    overlaps
  exfalso
  rcases why with unlocated | indeterminate | ⟨inside, noCentre⟩
  · rw [unlocated] at isFound
    cases isFound
  · rw [Dpa.channelViolated, indeterminate] at unviolated
    cases unviolated
  · have ok := channel_passed_ok backends db cbsd found channel unviolated inside
    rw [Dpa.evaluate_ok, noCentre] at ok
    cases ok

end Agreement

-- 10 * log10 and 10 ** (x / 10) undo each other and grow.
structure DecibelLaws (log10 pow10 : K → K) : Prop where
  positive : ∀ x, 0 < pow10 x
  log_pow : ∀ x, log10 (pow10 x) = x
  pow_log : ∀ y, 0 < y → pow10 (log10 y) = y
  pow_grows : ∀ x y, x ≤ y → pow10 x ≤ pow10 y
  log_grows : ∀ x y, 0 < x → x ≤ y → log10 x ≤ log10 y

theorem exists_bound (values : List K) : ∃ bound, ∀ value ∈ values, value ≤ bound := by
  induction values with
  | nil => exact ⟨0, fun _ member => by cases member⟩
  | cons value rest ih =>
      obtain ⟨bound, above⟩ := ih
      refine ⟨max value bound, fun other member => ?_⟩
      rcases List.mem_cons.mp member with here | later
      · rw [here]
        exact le_max_left _ _
      · exact (above other later).trans (le_max_right _ _)

section Quiet

variable [IsStrictOrderedRing K] (backends : Dpa.DpaBackends K)

def withLoss (pathLoss : Dpa.DpaGrantRf K → K → K → K → Option K) : Dpa.DpaBackends K :=
  { backends with pathLoss := pathLoss }

def limitDbm (channel : Dpa.ProtectedDpaChannel K) : K :=
  channel.thresholdDbmPer10mhz + Dpa.defaultDpaMarginDb + Dpa.comparisonSlackDb

-- The power that the limit leaves to each of `count` transmitters.
def shareMw (count : Nat) (channel : Dpa.ProtectedDpaChannel K) : K :=
  backends.pow10 (limitDbm channel / Dpa.decibelsPerBel) / count

theorem bel_positive : (0 : K) < Dpa.decibelsPerBel := Nat.cast_pos.mpr (by decide)

theorem quiet_hit (pathLoss : Dpa.DpaGrantRf K → K → K → K → Option K) (channel : Dpa.ProtectedDpaChannel K)
    (point : K × K) (grants : List (Dpa.DpaGrantRf K)) (loss : K)
    (quiet : ∀ g ∈ grants, ∀ lat lon height, pathLoss g lat lon height = some loss) (item : Interferer K)
    (member : item ∈ interferers (withLoss backends pathLoss) channel point grants) :
    ∃ eirp, Dpa.cochannelEirpDbm backends item.grant channel.lowHz channel.highHz = some eirp ∧
      item.arrives = backends.pow10 ((eirp - loss) / Dpa.decibelsPerBel) := by
  obtain ⟨g, gMember, found⟩ := List.mem_filterMap.mp member
  obtain ⟨hit, hitFound, same⟩ := Option.map_eq_some_iff.mp found
  rw [hitAt, Option.join_eq_some_iff, Dpa.interferenceDbmAtPoint] at hitFound
  split at hitFound
  · cases hitFound
  · have isLoss := quiet g gMember point.1 point.2 channel.refHeightM
    simp only [withLoss, isLoss] at hitFound
    split at hitFound
    · cases hitFound
    · rename_i eirp isEirp
      refine ⟨eirp, ?_, ?_⟩
      · rw [← same]
        exact isEirp
      · rw [← same, Interferer.arrives, ← Option.some.inj (Option.some.inj hitFound)]
        rfl

-- Some path loss keeps any few transmitters under the limit of every channel.
theorem quiet_within (laws : DecibelLaws backends.log10 backends.pow10) (channels : List (Dpa.ProtectedDpaChannel K))
    (population : List (Dpa.DpaGrantRf K)) (count : Nat) (nonempty : 0 < count) :
    ∃ loss, ∀ pathLoss : Dpa.DpaGrantRf K → K → K → K → Option K, ∀ channel ∈ channels, ∀ point,
      ∀ grants : List (Dpa.DpaGrantRf K), grants.length ≤ count → (∀ g ∈ grants, g ∈ population) →
        (∀ g ∈ grants, ∀ lat lon height, pathLoss g lat lon height = some loss) →
          within (withLoss backends pathLoss) channel (interferers (withLoss backends pathLoss) channel point grants) = true := by
  obtain ⟨loss, above⟩ := exists_bound (channels.flatMap fun channel => population.filterMap fun g =>
    (Dpa.cochannelEirpDbm backends g channel.lowHz channel.highHz).map fun eirp =>
      eirp - Dpa.decibelsPerBel * backends.log10 (shareMw backends count channel))
  refine ⟨loss, fun pathLoss channel member point grants few known quiet => ?_⟩
  have countPositive : (0 : K) < count := Nat.cast_pos.mpr nonempty
  have totalPositive : 0 < backends.pow10 (limitDbm channel / Dpa.decibelsPerBel) := laws.positive _
  have sharePositive : 0 < shareMw backends count channel := div_pos totalPositive countPositive
  have each : ∀ item ∈ interferers (withLoss backends pathLoss) channel point grants,
      cost item ≤ shareMw backends count channel := by
    intro item itemMember
    obtain ⟨eirp, isEirp, arrives⟩ := quiet_hit backends pathLoss channel point grants loss quiet item itemMember
    have inPopulation := known item.grant (interferer_of _ channel point grants item itemMember).1
    have le := above (eirp - Dpa.decibelsPerBel * backends.log10 (shareMw backends count channel))
      (List.mem_flatMap.mpr ⟨channel, member, List.mem_filterMap.mpr ⟨item.grant, inPopulation, by rw [isEirp]; rfl⟩⟩)
    have exponent : (eirp - loss) / Dpa.decibelsPerBel ≤ backends.log10 (shareMw backends count channel) := by
      rw [div_le_iff₀ bel_positive]
      linarith
    rw [cost, arrives]
    refine max_le sharePositive.le ?_
    rw [← laws.pow_log _ sharePositive]
    exact laws.pow_grows _ _ exponent
  have total : Headroom.load cost (interferers (withLoss backends pathLoss) channel point grants) ≤
      backends.pow10 (limitDbm channel / Dpa.decibelsPerBel) := by
    have bounded := List.sum_le_card_nsmul ((interferers (withLoss backends pathLoss) channel point grants).map cost)
      (shareMw backends count channel) fun value valueMember => by
        obtain ⟨item, itemMember, same⟩ := List.mem_map.mp valueMember
        exact same ▸ each item itemMember
    have length : ((interferers (withLoss backends pathLoss) channel point grants).map cost).length ≤ count := by
      rw [List.length_map]
      exact (List.length_filterMap_le _ _).trans few
    calc Headroom.load cost (interferers (withLoss backends pathLoss) channel point grants)
        ≤ ((interferers (withLoss backends pathLoss) channel point grants).map cost).length •
            shareMw backends count channel := bounded
      _ ≤ count • shareMw backends count channel := nsmul_le_nsmul_left sharePositive.le length
      _ = backends.pow10 (limitDbm channel / Dpa.decibelsPerBel) := by
          rw [nsmul_eq_mul, shareMw, mul_div_cancel₀ _ countPositive.ne']
  rw [within_accepted, Greedy.accepted]
  refine fits_antitone (withLoss backends pathLoss) channel laws.log_grows _ _ total ?_
  rw [fits, if_pos totalPositive, Dpa.mwToDbm, if_neg (not_le.mpr totalPositive), Dpa.AggregateDbm.within]
  have log : (withLoss backends pathLoss).log10 (backends.pow10 (limitDbm channel / Dpa.decibelsPerBel)) =
      limitDbm channel / Dpa.decibelsPerBel := laws.log_pow _
  rw [log, mul_div_cancel₀ _ bel_positive.ne']
  exact decide_eq_true (le_refl _)

end Quiet

section Necessity

variable (backends : Dpa.DpaBackends K) (channels : List (Dpa.ProtectedDpaChannel K)) (now : Int) (db : Database K)
variable (cbsd : Cbsd K) (lowHz highHz : Int) (maxEirp : K) (peers : List (Dpa.DpaGrantRf K))

-- grant_id is a unique column, and no row is named like the proposal.
def DistinctRows (store : Store K) : Prop := ("__proposed__" :: store.grants.map (·.grantId)).Nodup

theorem local_rf (store : Store K) (grant : Grant K) (rf : Dpa.DpaGrantRf K)
    (found : (store.findCbsd grant.cbsdId).bind (Dpa.dpaGrantRfFromCbsdGrant · grant) = some rf) :
    rf.grantId = grant.grantId ∧ rf.isManagingSas = true := by
  obtain ⟨row, _, stored⟩ := Option.bind_eq_some_iff.mp found
  obtain ⟨place, _, same⟩ := Option.map_eq_some_iff.mp stored
  rw [← same]
  exact ⟨rfl, rfl⟩

theorem proposed_labels (proposed : Dpa.DpaGrantRf K)
    (located : Dpa.proposedRf cbsd lowHz highHz maxEirp = some proposed) :
    proposed.grantId = "__proposed__" ∧ proposed.isManagingSas = true ∧ proposed.cbsdId = cbsd.cbsdId ∧
      proposed.lowHz = lowHz ∧ proposed.highHz = highHz := by
  obtain ⟨place, _, same⟩ := Option.map_eq_some_iff.mp located
  rw [← same]
  exact ⟨rfl, rfl, rfl, rfl, rfl⟩

-- What the admission does not count is no transmitter that it counts.
theorem uncounted_apart (distinct : DistinctRows db.store) (foreign : ∀ g ∈ peers, g.isManagingSas = false)
    (e : Dpa.DpaGrantRf K) (left : e ∈ uncounted db cbsd lowHz highHz peers) (proposed : Dpa.DpaGrantRf K)
    (located : Dpa.proposedRf cbsd lowHz highHz maxEirp = some proposed) (channel : Dpa.ProtectedDpaChannel K) :
    e ∉ admitted backends db channel proposed ++ [proposed] := by
  obtain ⟨label, managing, name, low, high⟩ := proposed_labels cbsd lowHz highHz maxEirp proposed located
  intro member
  rcases List.mem_append.mp left with own | peer
  · obtain ⟨grant, grantMember, isRow⟩ := List.mem_filterMap.mp own
    rw [rowUncounted] at isRow
    split at isRow
    · cases isRow
    · rename_i live
      obtain ⟨rowFound, skipped⟩ := Option.filter_eq_some_iff.mp isRow
      have eId := (local_rf db.store grant e rowFound).1
      rcases List.mem_append.mp member with kept | isProposed
      · obtain ⟨inNeighborhood, notReplaced⟩ := List.mem_filter.mp kept
        obtain ⟨other, otherMember, isOther⟩ := List.mem_filterMap.mp (List.mem_of_mem_filter inNeighborhood)
        rw [Dpa.rowRf] at isOther
        split at isOther
        · rename_i counts
          have otherId := (local_rf db.store other e isOther).1
          have same : other = grant := List.inj_on_of_nodup_map (List.nodup_cons.mp distinct).2 otherMember grantMember
            (otherId.symm.trans eId)
          rw [same] at counts
          rw [counts, Bool.not_true, Bool.false_or, replaced] at skipped
          rw [name, low, high, skipped] at notReplaced
          cases notReplaced
        · cases isOther
      · rw [List.mem_singleton.mp isProposed, label] at eId
        exact (List.nodup_cons.mp distinct).1 (List.mem_map.mpr ⟨grant, grantMember, eId.symm⟩)
  · have eForeign := foreign e peer
    rcases List.mem_append.mp member with kept | isProposed
    · obtain ⟨other, _, isOther⟩ := List.mem_filterMap.mp (List.mem_of_mem_filter (List.mem_of_mem_filter kept))
      rw [Dpa.rowRf] at isOther
      split at isOther
      · rw [(local_rf db.store other e isOther).2] at eForeign
        cases eForeign
      · cases isOther
    · rw [List.mem_singleton.mp isProposed, managing] at eForeign
      cases eForeign

-- A transmitter without a path loss puts the channel over its threshold.
theorem unavailable_over (channel : Dpa.ProtectedDpaChannel K) (grants : List (Dpa.DpaGrantRf K)) (e : Dpa.DpaGrantRf K)
    (member : e ∈ grants) (overlaps : Dpa.overlapsChannel e.lowHz e.highHz channel = true)
    (raises : ∀ lat lon height, backends.pathLoss e lat lon height = none) :
    (Dpa.evaluateProtectedChannel backends channel grants Dpa.defaultDpaMarginDb).ok = false := by
  rw [Dpa.evaluate_ok]
  cases channel.geometry.bind Dpa.polygonRepresentativePoint with
  | none => rfl
  | some point =>
      have missing : Dpa.hitMw backends channel point e = none := by
        have inside : ¬ (e.lowHz ≥ channel.highHz ∨ e.highHz ≤ channel.lowHz) := by
          simp only [Dpa.overlapsChannel, Bool.and_eq_true, decide_eq_true_eq] at overlaps
          omega
        rw [Dpa.hitMw, Dpa.interferenceDbmAtPoint, if_neg inside, raises]
        rfl
      have all : (grants.filter fun g => Dpa.overlapsChannel g.lowHz g.highHz channel).mapM
          (Dpa.hitMw backends channel point) = none :=
        Collect.one_missing _ _ e (List.mem_filter.mpr ⟨member, overlaps⟩) missing
      simp only [all]

theorem uncounted_collected (e : Dpa.DpaGrantRf K) (left : e ∈ uncounted db cbsd lowHz highHz peers) :
    e ∈ frozenLocals now db ++ peers := by
  rcases List.mem_append.mp left with own | peer
  · refine List.mem_append_left _ ?_
    obtain ⟨grant, grantMember, isRow⟩ := List.mem_filterMap.mp own
    rw [frozen_locals_eq]
    refine List.mem_filterMap.mpr ⟨grant, grantMember, ?_⟩
    rw [rowUncounted] at isRow
    split at isRow
    · cases isRow
    · rename_i live
      rw [if_neg live]
      exact (Option.filter_eq_some_iff.mp isRow).1
  · exact List.mem_append_right _ peer

variable [IsStrictOrderedRing K]

-- A path loss that raises toward one transmitter and keeps all others quiet passes the admission.
theorem quiet_passes (laws : DecibelLaws backends.log10 backends.pow10) (possible : ¬ AlwaysRefused backends channels cbsd lowHz
      highHz maxEirp) (proposed : Dpa.DpaGrantRf K) (located : Dpa.proposedRf cbsd lowHz highHz maxEirp = some proposed)
    (e : Dpa.DpaGrantRf K) (apart : ∀ channel, e ∉ admitted backends db channel proposed ++ [proposed]) :
    ∃ pathLoss, (∀ lat lon height, pathLoss e lat lon height = none) ∧
      Dpa.proposedGrantViolatesDpa (withLoss backends pathLoss) channels db.store cbsd lowHz highHz maxEirp = false := by
  obtain ⟨loss, quiet⟩ := quiet_within backends laws channels (Dpa.collectActiveDpaGrants db.store ++ [proposed])
    ((Dpa.collectActiveDpaGrants db.store).length + 1) (Nat.succ_pos _)
  refine ⟨fun g _ _ _ => if g = e then none else some loss, fun _ _ _ => if_pos rfl, ?_⟩
  have unviolated : ∀ channel ∈ channels.filter (Dpa.overlapsChannel lowHz highHz),
      Dpa.channelViolated (withLoss backends fun g _ _ _ => if g = e then none else some loss)
        (Dpa.collectActiveDpaGrants db.store) cbsd proposed channel = false := by
    intro channel overlapped
    obtain ⟨member, overlaps⟩ := List.mem_filter.mp overlapped
    rw [Dpa.channelViolated]
    cases inside : Dpa.cbsdInsideProtectedNeighborhood
        (withLoss backends fun g _ _ _ => if g = e then none else some loss) cbsd channel with
    | none => exact absurd ⟨channel, member, overlaps, Or.inr (Or.inl inside)⟩ possible
    | some isInside =>
        cases isInside with
        | false => rfl
        | true =>
            cases centre : channel.geometry.bind Dpa.polygonRepresentativePoint with
            | none => exact absurd ⟨channel, member, overlaps, Or.inr (Or.inr ⟨inside, centre⟩)⟩ possible
            | some point =>
                have losses : ∀ g ∈ admitted backends db channel proposed ++ [proposed],
                    (if g = e then none else some loss) = some loss := fun g held =>
                  if_neg fun (same : g = e) => apart channel (same ▸ held)
                have rf : RfAvailable (withLoss backends fun g _ _ _ => if g = e then none else some loss) channel point
                    (admitted backends db channel proposed ++ [proposed]) :=
                  ⟨centre, fun g held _ => by
                    change (if g = e then none else some loss) ≠ none
                    rw [losses g held]
                    exact Option.some_ne_none loss⟩
                have length : (admitted backends db channel proposed ++ [proposed]).length ≤
                    (Dpa.collectActiveDpaGrants db.store).length + 1 := by
                  rw [List.length_append, List.length_singleton]
                  exact Nat.succ_le_succ ((List.length_filter_le _ _).trans (List.length_filter_le _ _))
                have known : ∀ g ∈ admitted backends db channel proposed ++ [proposed],
                    g ∈ Dpa.collectActiveDpaGrants db.store ++ [proposed] := by
                  intro g held
                  rcases List.mem_append.mp held with kept | isProposed
                  · exact List.mem_append_left _ (List.mem_of_mem_filter (List.mem_of_mem_filter kept))
                  · exact List.mem_append_right _ isProposed
                have within := quiet (fun g _ _ _ => if g = e then none else some loss) channel member point _ length known
                  fun g held _ _ _ => losses g held
                rw [← (evaluate_available _ channel point _ _ rf fun _ held => held).2] at within
                exact congrArg Bool.not within
  rw [Dpa.proposedGrantViolatesDpa]
  split
  · rfl
  · rw [located]
    exact List.any_eq_false.mpr fun channel overlapped => Bool.not_eq_true _ ▸ unviolated channel overlapped

end Necessity

-- For every database and proposal: the admission agrees with the population of CPAS under every path loss
-- exactly when it leaves nothing of that population out, or refuses whatever the path loss is.
theorem admission_agrees_iff [IsStrictOrderedRing K] (readers : PyReaders K) (backends : Dpa.DpaBackends K)
    (laws : DecibelLaws backends.log10 backends.pow10) (channels : List (Dpa.ProtectedDpaChannel K)) (now : Int)
    (db : Database K) (cbsd : Cbsd K) (lowHz highHz : Int) (maxEirp : K) (peers : List (Dpa.DpaGrantRf K))
    (parsed : storedPeers readers db = some peers) :
    (AlwaysRefused backends channels cbsd lowHz highHz maxEirp ∨
        NothingUncounted backends channels db cbsd lowHz highHz peers →
      ∀ pathLoss, AdmissionAgrees (withLoss backends pathLoss) channels now db cbsd lowHz highHz maxEirp peers) ∧
    (DistinctRows db.store →
      (∀ pathLoss, AdmissionAgrees (withLoss backends pathLoss) channels now db cbsd lowHz highHz maxEirp peers) →
      AlwaysRefused backends channels cbsd lowHz highHz maxEirp ∨
        NothingUncounted backends channels db cbsd lowHz highHz peers) := by
  have foreign : ∀ g ∈ peers, g.isManagingSas = false := by
    obtain ⟨infos, _, same⟩ := Option.map_eq_some_iff.mp parsed
    intro g member
    rw [← same] at member
    obtain ⟨info, _, isPeer⟩ := List.mem_map.mp member
    rw [← isPeer]
    rfl
  constructor
  · intro condition pathLoss
    rcases condition with refused | nothing
    · exact agrees_of_refused (withLoss backends pathLoss) channels now db cbsd lowHz highHz maxEirp peers refused
    · exact agrees_of_nothing_uncounted (withLoss backends pathLoss) channels now db cbsd lowHz highHz maxEirp peers nothing
  · intro distinct agrees
    by_contra neither
    rw [not_or] at neither
    obtain ⟨notRefused, some⟩ := neither
    simp only [NothingUncounted, not_forall] at some
    obtain ⟨channel, member, overlaps, inside, counted⟩ := some
    obtain ⟨e, eCounted⟩ := List.exists_mem_of_ne_nil _ counted
    obtain ⟨inNeighborhood, eOverlaps⟩ := List.mem_filter.mp eCounted
    obtain ⟨left, near⟩ := List.mem_filter.mp inNeighborhood
    cases located : Dpa.proposedRf cbsd lowHz highHz maxEirp with
    | none => exact notRefused ⟨channel, member, overlaps, Or.inl located⟩
    | some proposed =>
        obtain ⟨pathLoss, raises, passed⟩ := quiet_passes backends channels db cbsd lowHz highHz maxEirp laws notRefused
          proposed located e fun other => uncounted_apart backends db cbsd lowHz highHz maxEirp peers distinct foreign e left
            proposed located other
        have ok := agrees pathLoss passed proposed located channel member overlaps inside
        have collected : e ∈ neighborhood (withLoss backends pathLoss) channel (frozenLocals now db ++ peers) ++ [proposed] :=
          List.mem_append_left _ (List.mem_filter.mpr
            ⟨uncounted_collected now db cbsd lowHz highHz peers e left, near⟩)
        rw [unavailable_over (withLoss backends pathLoss) channel _ e collected eOverlaps raises] at ok
        cases ok

-- One stored peer record with a grant at 10 dBm/MHz, and a local CBSD that asks for 0 dBm/MHz.
def peerRange : Json K := .object [("lowFrequency", .int 3550000000), ("highFrequency", .int 3560000000)]

def peerGrantJson : Json K :=
  .object [("id", .text "g"), ("operationParam", .object [("maxEirp", .int 10), ("operationFrequencyRange", peerRange)])]

def peerRecordJson : Json K :=
  .object [("id", .text "fcc/peer"), ("installationParam", .object [("latitude", .int 0), ("longitude", .int 0)]),
    ("grants", .array [peerGrantJson])]

def peerReaders : PyReaders K :=
  ⟨fun _ => some peerRecordJson, fun _ => none, fun _ => none, fun _ => 0, fun _ => ""⟩

def peerDatabase : Database K :=
  { (Database.empty : Database K) with peers := [⟨1, none, [⟨"cbsd", "fcc/peer", "stored"⟩]⟩] }

def askingCbsd : Cbsd K :=
  ⟨0, "fcc/sn", "fcc", "user", "sn", none, none, none,
    ⟨none, some ⟨some 0, some 0, none, none, none, none, none, none, none, none⟩, []⟩⟩

-- The numbers of the record are its JSON integers, cast.
def peerInfo : Iap.GrantRfInfo K where
  grantId := "peer/1/g"
  cbsdId := "fcc/peer"
  latitude := (0 : Int)
  longitude := (0 : Int)
  heightM := 0
  lowHz := 3550000000
  highHz := 3560000000
  maxEirpDbmMhz := (10 : Int)
  isManagingSas := false
  sourceSasId := some "1"

theorem peer_name_read : ((peerRecordJson : Json K).field "id").strippedText peerReaders = "fcc/peer".toList := by
  have truthy : ((peerRecordJson : Json K).field "id").truthy = true := rfl
  rw [Json.strippedText, if_pos truthy]
  change PyText.strip "fcc/peer".toList = _
  rfl

theorem peer_grant_read : Iap.peerGrantRange (peerReaders : PyReaders K) peerGrantJson =
    some ("g", ((10 : Int) : K), 3550000000, 3560000000) := by
  have name : ((peerGrantJson : Json K).field "id").strippedText peerReaders = "g".toList := by
    have truthy : ((peerGrantJson : Json K).field "id").truthy = true := rfl
    rw [Json.strippedText, if_pos truthy]
    change PyText.strip "g".toList = _
    rfl
  rw [Iap.peerGrantRange]
  simp only [name]
  rfl

theorem peer_record_read :
    Iap.grantRfInfosFromPeerCbsdRecord (peerReaders : PyReaders K) peerRecordJson "1" = some [peerInfo] := by
  have grants : (((peerRecordJson : Json K).field "grants").items.filterMap (Iap.peerGrantRange peerReaders)) =
      [("g", ((10 : Int) : K), 3550000000, 3560000000)] := by
    change List.filterMap (Iap.peerGrantRange peerReaders) [peerGrantJson] = _
    rw [List.filterMap_cons, peer_grant_read, List.filterMap_nil]
  rw [Iap.grantRfInfosFromPeerCbsdRecord]
  simp only [peer_name_read, grants]
  rfl

theorem sample_peers : storedPeers (peerReaders : PyReaders K) peerDatabase = some [dpaGrantOfPeer peerInfo] := by
  have rows : (frozenPeerCbsdRows (peerReaders : PyReaders K) (peerRecords (peerDatabase : Database K).peers)).filter
      (·.2.isObject) = [(1, peerRecordJson)] := rfl
  have one : toString 1 = "1" := rfl
  rw [storedPeers, dpaGrantsFromFrozenPeerCbsds, Iap.grantRfInfosFromFrozenPeerCbsds, rows]
  simp only [List.mapM_cons, List.mapM_nil, one, peer_record_read, Option.bind_eq_bind, Option.bind_some, Option.pure_def,
    Option.map_some, List.flatten_cons, List.flatten_nil, List.append_nil, List.mergeSort_singleton, List.map_cons,
    List.map_nil]

def storedPeer : Dpa.DpaGrantRf Rat := dpaGrantOfPeer peerInfo

theorem peer_not_admitted_for :
    ¬ ∀ (db : Database Rat) (cbsd : Cbsd Rat) (lowHz highHz : Int) (maxEirp : Rat) (peers : List (Dpa.DpaGrantRf Rat)),
      storedPeers peerReaders db = some peers → ∀ pathLoss, AdmissionAgrees (withLoss movelistContext.backends pathLoss)
        [movelistChannel] 0 db cbsd lowHz highHz maxEirp peers := by
  intro claim
  have agrees := claim peerDatabase askingCbsd 3550000000 3560000000 0 [storedPeer] sample_peers
    (fun _ _ _ _ => some 20) (by decide +kernel)
  have located : (Dpa.proposedRf (askingCbsd : Cbsd Rat) 3550000000 3560000000 0).isSome = true := by decide +kernel
  obtain ⟨proposed, isProposed⟩ := Option.isSome_iff_exists.mp located
  have ok := agrees proposed isProposed movelistChannel List.mem_cons_self (by decide) (by decide +kernel)
  have beyond : ∀ p ∈ Dpa.proposedRf askingCbsd 3550000000 3560000000 0,
      (Dpa.evaluateProtectedChannel (withLoss movelistContext.backends fun _ _ _ _ => some 20) movelistChannel
        (neighborhood (withLoss movelistContext.backends fun _ _ _ _ => some 20) movelistChannel
          (frozenLocals 0 peerDatabase ++ [storedPeer]) ++ [p]) Dpa.defaultDpaMarginDb).ok = false := by decide +kernel
  rw [beyond proposed isProposed] at ok
  cases ok

noncomputable def realBackends : Dpa.DpaBackends ℝ :=
  ⟨Real.logb (10 : Nat), fun x => ((10 : Nat) : ℝ) ^ x, fun _ _ _ _ => true, fun _ _ => none, fun _ _ _ _ => none⟩

theorem real_decibel_laws : DecibelLaws realBackends.log10 realBackends.pow10 where
  positive := fun x => Real.rpow_pos_of_pos (by norm_num) x
  log_pow := fun x => Real.logb_rpow (by norm_num) (by norm_num)
  pow_log := fun y positive => Real.rpow_logb (by norm_num) (by norm_num) positive
  pow_grows := fun x y le => Real.rpow_le_rpow_of_exponent_le (by norm_num) le
  log_grows := fun x y positive le => Real.logb_le_logb_of_le (by norm_num) positive le

-- Two local CBSDs and the peer transmit over 3550-3560 MHz, the second of them up to 3580 MHz.
def besideCbsd : Cbsd ℝ :=
  ⟨1, "fcc/beside", "fcc", "user", "beside", none, none, none,
    ⟨none, some ⟨some 0, some 1, none, none, none, none, none, none, none, none⟩, []⟩⟩

def heldGrant (pk : Nat) (grantId : String) (cbsd : Cbsd ℝ) (highHz : Int) : Grant ℝ :=
  ⟨pk, grantId, cbsd.id, cbsd.cbsdId, .gaa, 3550000000, highHz, none, 0, 0, none, true, false, false, some .authorized,
    ⟨⟨0, 0, 0, 0⟩, none⟩⟩

noncomputable def sharedStore : Store ℝ :=
  ⟨[askingCbsd, besideCbsd], [heldGrant 1 "own" askingCbsd 3560000000, heldGrant 2 "beside" besideCbsd 3580000000], 2, 3⟩

noncomputable def sharedDatabase : Database ℝ := { (peerDatabase : Database ℝ) with store := sharedStore }

noncomputable def realChannel (lowHz highHz : Int) : Dpa.ProtectedDpaChannel ℝ :=
  ⟨"dpa", lowHz, highHz, .active, some (.point [0, 0]), [], -5, 50⟩

noncomputable def realChannels : List (Dpa.ProtectedDpaChannel ℝ) :=
  [realChannel 3550000000 3560000000, realChannel 3570000000 3580000000]

noncomputable def realPeer : Dpa.DpaGrantRf ℝ := dpaGrantOfPeer peerInfo

theorem shared_distinct : DistinctRows sharedDatabase.store := by
  change ["__proposed__", "own", "beside"].Nodup
  decide

theorem asking_inside (channel : Dpa.ProtectedDpaChannel ℝ) (member : channel ∈ realChannels) :
    channel.geometry = some (.point [0, 0]) ∧
      Dpa.cbsdInsideProtectedNeighborhood realBackends askingCbsd channel = some true := by
  rcases List.mem_cons.mp member with low | rest
  · rw [low]
    exact ⟨rfl, rfl⟩
  · rw [List.mem_singleton.mp rest]
    exact ⟨rfl, rfl⟩

theorem asking_not_refused (lowHz highHz : Int) :
    ¬ AlwaysRefused realBackends realChannels (askingCbsd : Cbsd ℝ) lowHz highHz 0 := by
  rintro ⟨channel, member, _, unlocated | outside | ⟨_, unplaced⟩⟩
  · cases unlocated
  · rw [(asking_inside channel member).2] at outside
    cases outside
  · rw [(asking_inside channel member).1] at unplaced
    cases unplaced

-- Above 3570 MHz the admission counts the grant beside, and nothing else is there.
theorem upper_counted : NothingUncounted realBackends realChannels sharedDatabase askingCbsd 3570000000 3580000000 [realPeer] := by
  have left : uncounted sharedDatabase askingCbsd 3570000000 3580000000 [realPeer] = [realPeer] := rfl
  intro channel member overlaps _
  rw [left]
  rcases List.mem_cons.mp member with low | rest
  · rw [low] at overlaps
    cases overlaps
  · rw [List.mem_singleton.mp rest]
    rfl

-- Below 3560 MHz it leaves out the grant that the proposal replaces, and the peer.
theorem lower_uncounted :
    ¬ NothingUncounted realBackends realChannels sharedDatabase askingCbsd 3550000000 3560000000 [realPeer] := by
  intro nothing
  have none := nothing (realChannel 3550000000 3560000000) List.mem_cons_self (by decide)
    (asking_inside _ List.mem_cons_self).2
  have peer : realPeer ∈ uncounted sharedDatabase askingCbsd 3550000000 3560000000 [realPeer] :=
    List.mem_append_right _ List.mem_cons_self
  have counted : realPeer ∈ countedAt realBackends (realChannel 3550000000 3560000000)
      (uncounted sharedDatabase askingCbsd 3550000000 3560000000 [realPeer]) :=
    List.mem_filter.mpr ⟨List.mem_filter.mpr ⟨peer, rfl⟩, rfl⟩
  rw [none] at counted
  cases counted

theorem admission_agrees_iff_sample :
    (∀ pathLoss, AdmissionAgrees (withLoss realBackends pathLoss) realChannels 0 sharedDatabase askingCbsd 3570000000
        3580000000 0 [realPeer]) ∧
      ¬ ∀ pathLoss, AdmissionAgrees (withLoss realBackends pathLoss) realChannels 0 sharedDatabase askingCbsd 3550000000
        3560000000 0 [realPeer] := by
  have upper := admission_agrees_iff peerReaders realBackends real_decibel_laws realChannels 0 sharedDatabase askingCbsd
    3570000000 3580000000 0 [realPeer] sample_peers
  have lower := admission_agrees_iff peerReaders realBackends real_decibel_laws realChannels 0 sharedDatabase askingCbsd
    3550000000 3560000000 0 [realPeer] sample_peers
  refine ⟨upper.1 (Or.inr upper_counted), fun agrees => ?_⟩
  rcases lower.2 shared_distinct agrees with refused | nothing
  · exact asking_not_refused 3550000000 3560000000 refused
  · exact lower_uncounted nothing

end SasCore.Cpas
