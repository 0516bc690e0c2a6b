import SasCore.Dpa.Protection

set_option autoImplicit false
set_option linter.unusedSectionVars false

namespace SasCore.Dpa

open Registry

variable {K : Type} [Field K] [LinearOrder K]

-- Path loss that is a function of where the transmitter stands, not of the labels of its grant.
def PathLossByPlace (backends : DpaBackends K) : Prop :=
  ∀ (rf : DpaGrantRf K) (grantId : String) (category : Category),
    backends.pathLoss { rf with grantId := grantId, cbsdCategory := category } = backends.pathLoss rf

section Evaluate

variable (backends : DpaBackends K)

-- The one number of a hit that the aggregate reads.
def hitMw (channel : ProtectedDpaChannel K) (point : K × K) (grant : DpaGrantRf K) : Option (Option K) :=
  (interferenceDbmAtPoint backends grant point.1 point.2 channel.refHeightM channel.lowHz channel.highHz).map
    (Option.map (·.interferenceMw))

theorem map_mapM_option {α β γ : Type} (f : α → Option β) (h : β → γ) (items : List α) :
    (items.mapM f).map (List.map h) = items.mapM fun item => (f item).map h := by
  induction items with
  | nil => rfl
  | cons item rest ih =>
      rw [List.mapM_cons, List.mapM_cons, ← ih]
      cases f item with
      | none => rfl
      | some first => cases rest.mapM f <;> rfl

theorem hits_mw (hits : List (Option (PointInterference K))) :
    (hits.filterMap id).map (·.interferenceMw) = (hits.map (Option.map (·.interferenceMw))).filterMap id := by
  rw [List.map_filterMap, List.filterMap_map]
  rfl

-- Whether a channel is kept depends on the powers of the overlapping grants alone.
theorem evaluate_ok (channel : ProtectedDpaChannel K) (grants : List (DpaGrantRf K)) (marginDb : K) :
    (evaluateProtectedChannel backends channel grants marginDb).ok =
      match channel.geometry.bind polygonRepresentativePoint with
      | none => false
      | some point =>
          match (grants.filter fun g => overlapsChannel g.lowHz g.highHz channel).mapM (hitMw backends channel point) with
          | none => false
          | some mws =>
              let totalMw := Iap.sumInterferenceMw (mws.filterMap id)
              (if 0 < totalMw then mwToDbm backends totalMw else .negInf).within
                (channel.thresholdDbmPer10mhz + marginDb + comparisonSlackDb) := by
  simp only [evaluateProtectedChannel]
  cases channel.geometry.bind polygonRepresentativePoint with
  | none => rfl
  | some point =>
      have powers : ((grants.filter fun g => overlapsChannel g.lowHz g.highHz channel).mapM fun g =>
            interferenceDbmAtPoint backends g point.1 point.2 channel.refHeightM channel.lowHz channel.highHz).map
              (List.map (Option.map (·.interferenceMw))) =
          (grants.filter fun g => overlapsChannel g.lowHz g.highHz channel).mapM (hitMw backends channel point) :=
        map_mapM_option _ _ _
      simp only
      rw [← powers]
      cases (grants.filter fun g => overlapsChannel g.lowHz g.highHz channel).mapM
          (fun g => interferenceDbmAtPoint backends g point.1 point.2 channel.refHeightM channel.lowHz channel.highHz) with
      | none => rfl
      | some hits =>
          simp only [Option.map_some]
          rw [← hits_mw]
          rfl

theorem evaluate_overlapping (channel : ProtectedDpaChannel K) (first second : List (DpaGrantRf K)) (marginDb : K)
    (same : (first.filter fun g => overlapsChannel g.lowHz g.highHz channel) =
      second.filter fun g => overlapsChannel g.lowHz g.highHz channel) :
    (evaluateProtectedChannel backends channel first marginDb).ok =
      (evaluateProtectedChannel backends channel second marginDb).ok := by
  rw [evaluate_ok, evaluate_ok, same]

theorem evaluate_relabel (channel : ProtectedDpaChannel K) (grants : List (DpaGrantRf K)) (rf other : DpaGrantRf K)
    (marginDb : K) (range : other.lowHz = rf.lowHz ∧ other.highHz = rf.highHz)
    (power : ∀ point, hitMw backends channel point other = hitMw backends channel point rf) :
    (evaluateProtectedChannel backends channel (grants ++ [other]) marginDb).ok =
      (evaluateProtectedChannel backends channel (grants ++ [rf]) marginDb).ok := by
  rw [evaluate_ok, evaluate_ok, List.filter_append, List.filter_append]
  by_cases overlaps : overlapsChannel rf.lowHz rf.highHz channel = true
  · have otherOverlaps : overlapsChannel other.lowHz other.highHz channel = true := by
      rw [range.1, range.2]
      exact overlaps
    simp only [List.filter_cons, overlaps, otherOverlaps, if_true, List.filter_nil, List.mapM_append, List.mapM_cons,
      List.mapM_nil, power]
  · have otherApart : ¬ overlapsChannel other.lowHz other.highHz channel = true := by
      rw [range.1, range.2]
      exact overlaps
    simp only [List.filter_cons, overlaps, otherApart, Bool.false_eq_true, if_false]

end Evaluate

theorem installed_located (cbsd : Cbsd K) (inst : InstallationParam K) (lat lon height : K)
    (installed : installedAt cbsd = some (inst, lat, lon, height)) : cbsdLocation cbsd = some (lat, lon) := by
  rw [installedAt] at installed
  rw [cbsdLocation]
  cases params : cbsd.registration.installationParam with
  | none =>
      rw [params] at installed
      cases installed
  | some found =>
      simp only [params] at installed ⊢
      cases latFound : found.latitude with
      | none => simp only [latFound, reduceCtorEq] at installed
      | some latValue =>
          cases lonFound : found.longitude with
          | none => simp only [latFound, lonFound, reduceCtorEq] at installed
          | some lonValue =>
              simp only [latFound, lonFound, Option.some.injEq, Prod.mk.injEq] at installed ⊢
              exact ⟨installed.2.1, installed.2.2.1⟩

-- The row a granted proposal leaves is the proposed transmitter under other labels.
theorem stored_rf_relabels (cbsd : Cbsd K) (grant : Grant K) (rf : DpaGrantRf K)
    (stored : dpaGrantRfFromCbsdGrant cbsd grant = some rf) :
    ∃ proposed, proposedRf cbsd grant.lowFrequency grant.highFrequency (grant.maxEirp.getD 0) = some proposed ∧
      rf = { proposed with grantId := rf.grantId, cbsdCategory := rf.cbsdCategory } := by
  obtain ⟨place, found, same⟩ := Option.map_eq_some_iff.mp stored
  refine ⟨_, by rw [proposedRf, found]; rfl, ?_⟩
  rw [← same]

theorem relabel_power (backends : DpaBackends K) (byPlace : PathLossByPlace backends) (channel : ProtectedDpaChannel K)
    (rf : DpaGrantRf K) (grantId : String) (category : Category) (point : K × K) :
    hitMw backends channel point { rf with grantId := grantId, cbsdCategory := category } =
      hitMw backends channel point rf := by
  simp only [hitMw, interferenceDbmAtPoint, byPlace rf grantId category, cochannelEirpDbm]
  split
  · rfl
  · cases backends.pathLoss rf point.1 point.2 channel.refHeightM with
    | none => rfl
    | some loss =>
        simp only
        split
        · rfl
        · rfl

-- The two neighbourhood tests differ only in the height they take and in where a category may be named.
theorem neighborhood_tests_agree (backends : DpaBackends K) (cbsd : Cbsd K) (grant : Grant K) (rf : DpaGrantRf K)
    (channel : ProtectedDpaChannel K) (stored : dpaGrantRfFromCbsdGrant cbsd grant = some rf)
    (agl : ∀ place ∈ installedAt cbsd, PyText.stripUpper (heightTypeOf place.1) = ['A', 'G', 'L'])
    (named : (textOr cbsd.registration.cbsdCategory cbsd.cbsdCategory).getD "" ≠ "") :
    cbsdInsideProtectedNeighborhood backends cbsd channel = rfInsideProtectedNeighborhood backends rf channel := by
  obtain ⟨⟨inst, lat, lon, height⟩, installed, same⟩ := Option.map_eq_some_iff.mp stored
  have heightAgl := agl _ installed
  have category : textOr (textOr cbsd.registration.cbsdCategory cbsd.cbsdCategory) (textOr inst.cbsdCategory (some "A")) =
      textOr cbsd.registration.cbsdCategory cbsd.cbsdCategory := if_neg named
  rw [← same, cbsdInsideProtectedNeighborhood, rfInsideProtectedNeighborhood, installed]
  cases channel.geometry with
  | none => rfl
  | some geometry =>
      simp only at heightAgl
      simp only [resolveHeightAglM, heightAgl, if_true, Option.map_some, category]

section Counted

variable (backends : DpaBackends K)

-- The active grants that a channel's evaluation adds up.
def countedGrants (store : Store K) (channel : ProtectedDpaChannel K) : List (DpaGrantRf K) :=
  (filterGrantsInNeighborhood backends channel (collectActiveDpaGrants store)).filter fun g =>
    overlapsChannel g.lowHz g.highHz channel

theorem channel_within_counted (store : Store K) (channel : ProtectedDpaChannel K) :
    channelWithin backends store channel =
      (evaluateProtectedChannel backends channel (countedGrants backends store channel) defaultDpaMarginDb).ok := by
  apply evaluate_overlapping
  rw [countedGrants, List.filter_filter]
  simp only [Bool.and_self]

theorem collect_add_grant (store : Store K) (grant : Grant K) :
    collectActiveDpaGrants (store.addGrant grant) = collectActiveDpaGrants store ++ (rowRf store grant).toList := by
  have cbsdsSame : rowRf (store.addGrant grant) = rowRf store := rfl
  rw [collectActiveDpaGrants, cbsdsSame, Store.addGrant, List.filterMap_append]
  congr 1

theorem counted_add_grant (store : Store K) (grant : Grant K) (channel : ProtectedDpaChannel K) :
    countedGrants backends (store.addGrant grant) channel = countedGrants backends store channel ++
      ((rowRf store grant).toList.filter fun rf => rfInsideProtectedNeighborhood backends rf channel != some false).filter
        fun rf => overlapsChannel rf.lowHz rf.highHz channel := by
  rw [countedGrants, collect_add_grant, filterGrantsInNeighborhood, List.filter_append, List.filter_append]
  simp only [countedGrants, filterGrantsInNeighborhood]

theorem find_cbsd_named (store : Store K) (cbsdId : String) (cbsd : Cbsd K) (found : store.findCbsd cbsdId = some cbsd) :
    cbsd.cbsdId = cbsdId := by
  simpa using List.find?_some found

-- A collected transmitter belongs to a live row with the same CBSD and range.
theorem collected_row (store : Store K) (rf : DpaGrantRf K) (member : rf ∈ collectActiveDpaGrants store) :
    ∃ row ∈ store.grants, row.terminated = false ∧ row.cbsdId = rf.cbsdId ∧ row.lowFrequency = rf.lowHz ∧
      row.highFrequency = rf.highHz := by
  obtain ⟨row, rowMember, collected⟩ := List.mem_filterMap.mp member
  rw [rowRf] at collected
  split at collected
  · rename_i counts
    obtain ⟨cbsd, found, stored⟩ := Option.bind_eq_some_iff.mp collected
    obtain ⟨place, _, same⟩ := Option.map_eq_some_iff.mp stored
    refine ⟨row, rowMember, ?_, ?_⟩
    · simp only [countsForDpa, Bool.and_eq_true, Bool.not_eq_true'] at counts
      exact counts.1.1
    · rw [← same]
      exact ⟨(find_cbsd_named store row.cbsdId cbsd found).symm, rfl, rfl⟩
  · cases collected

theorem counted_collected (store : Store K) (channel : ProtectedDpaChannel K) (rf : DpaGrantRf K)
    (member : rf ∈ countedGrants backends store channel) : rf ∈ collectActiveDpaGrants store :=
  List.mem_of_mem_filter (List.mem_of_mem_filter member)

end Counted

end SasCore.Dpa
