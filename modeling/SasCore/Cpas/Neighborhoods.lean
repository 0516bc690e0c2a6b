import SasCore.Cpas.PeerPopulation

set_option autoImplicit false
set_option linter.unusedSectionVars false

namespace SasCore.Cpas

open Registry

variable {K : Type} [Field K] [LinearOrder K]

-- The category that the test of a CBSD row reads, and the one that reaches a frozen grant.
def ownCategory (cbsd : Cbsd K) (inst : InstallationParam K) : Dpa.Category :=
  Dpa.normalizedCategory
    (textOr (textOr cbsd.registration.cbsdCategory cbsd.cbsdCategory) (textOr inst.cbsdCategory (some "A")))

def storedCategory (cbsd : Cbsd K) : Dpa.Category :=
  Dpa.normalizedCategory (textOr cbsd.registration.cbsdCategory cbsd.cbsdCategory)

def givenAmsl (inst : InstallationParam K) : Bool := PyText.stripUpper (Dpa.heightTypeOf inst) == ['A', 'M', 'S', 'L']

-- The record of another SAS states the place, the height, the indoor flag and the category of this CBSD.
structure SameInstallation (readers : PyReaders K) (record install : Json K) (cbsd : Cbsd K) (inst : InstallationParam K) :
    Prop where
  stored : cbsd.registration.installationParam = some inst
  stated : Iap.peerInstallationParam record = some install
  latitude : (install.field "latitude").toFloat readers = inst.latitude
  longitude : (install.field "longitude").toFloat readers = inst.longitude
  height : (if (install.field "height").truthy then (install.field "height").toFloat readers else some 0) =
    some (inst.height.getD 0)
  heightType : (install.field "heightType").isText "AMSL" = givenAmsl inst
  indoor : (install.field "indoorDeployment").truthy = inst.indoorDeployment.getD false
  category : Dpa.normalizedCategory (Iap.peerCategory readers (Iap.peerCbsdCategoryRaw record)) = ownCategory cbsd inst

section Membership

variable (backends : Dpa.DpaBackends K) (cbsd : Cbsd K) (channel : Dpa.ProtectedDpaChannel K)

-- What the row test answers, the frozen grants of the CBSD and every peer record of its installation answer too.
def PathIndependent (readers : PyReaders K) : Prop :=
  ∀ answer, Dpa.cbsdInsideProtectedNeighborhood backends cbsd channel = some answer →
    (∀ grant rf, grant.cbsdId = cbsd.cbsdId → frozenToDpaGrantRf (frozenLocalGrantFromOrm grant cbsd) = some rf →
      Dpa.rfInsideProtectedNeighborhood backends rf channel = some answer) ∧
    ∀ sourceSasId record install inst grants, SameInstallation readers record install cbsd inst →
      dpaGrantsFromFrozenPeerCbsds readers [(sourceSasId, record)] = some grants →
        ∀ rf ∈ grants, Dpa.rfInsideProtectedNeighborhood backends rf channel = some answer

def neighborhoodDistanceM (category : Dpa.Category) (indoor : Bool) (heightM : K) : K :=
  Dpa.bufferM (Dpa.neighborhoodRadiusKm channel.neighborhoodKm category indoor heightM)

-- Inside one of two distances of the protected area and outside the other.
def Separated (lat lon : K) (geometry : Dpa.Geometry K) (first second : K) : Prop :=
  backends.withinBuffer lat lon geometry first ≠ backends.withinBuffer lat lon geometry second

-- The distance for the height above ground and the category of the CBSD, and the distance for the height as it is
-- given and another category, are one, or the installation does not lie between them.
def ReadAlike (category : Dpa.Category) : Prop :=
  ∀ geometry inst lat lon height heightAgl, channel.geometry = some geometry →
    Dpa.installedAt cbsd = some (inst, lat, lon, height) →
      Dpa.resolveHeightAglM backends.elevation lat lon height (Dpa.heightTypeOf inst) = some heightAgl →
        neighborhoodDistanceM channel (ownCategory cbsd inst) (inst.indoorDeployment.getD false) heightAgl =
            neighborhoodDistanceM channel category (inst.indoorDeployment.getD false) height ∨
          ¬ Separated backends lat lon geometry
            (neighborhoodDistanceM channel (ownCategory cbsd inst) (inst.indoorDeployment.getD false) heightAgl)
            (neighborhoodDistanceM channel category (inst.indoorDeployment.getD false) height)

-- The table is asked for a category, the indoor flag and the side of six metres only.
theorem distance_same_side (category : Dpa.Category) (indoor : Bool) (first second : K) (side : first ≤ 6 ↔ second ≤ 6) :
    neighborhoodDistanceM channel category indoor first = neighborhoodDistanceM channel category indoor second := by
  simp only [neighborhoodDistanceM, Dpa.neighborhoodRadiusKm, side]

theorem read_alike_same_side (category : Dpa.Category)
    (sameCategory : ∀ inst, cbsd.registration.installationParam = some inst → ownCategory cbsd inst = category)
    (side : ∀ inst lat lon height heightAgl, Dpa.installedAt cbsd = some (inst, lat, lon, height) →
      Dpa.resolveHeightAglM backends.elevation lat lon height (Dpa.heightTypeOf inst) = some heightAgl →
        (heightAgl ≤ 6 ↔ height ≤ 6)) :
    ReadAlike backends cbsd channel category := by
  intro geometry inst lat lon height heightAgl _ installed resolved
  have isStored : cbsd.registration.installationParam = some inst := by
    rw [Dpa.installedAt] at installed
    split at installed
    · rename_i stored found
      split at installed
      · cases installed
        exact found
      · cases installed
    · cases installed
  left
  rw [sameCategory inst isStored]
  exact distance_same_side channel category _ heightAgl height (side inst lat lon height heightAgl installed resolved)

-- Every grant of a peer record stands where the record says, at the height as given, in category A.
theorem peer_grant_place (readers : PyReaders K) (sourceSasId : Nat) (record install : Json K) (inst : InstallationParam K)
    (same : SameInstallation readers record install cbsd inst) (grants : List (Dpa.DpaGrantRf K))
    (read : dpaGrantsFromFrozenPeerCbsds readers [(sourceSasId, record)] = some grants) (rf : Dpa.DpaGrantRf K)
    (member : rf ∈ grants) :
    Dpa.installedAt cbsd = some (inst, rf.latitude, rf.longitude, rf.heightM) ∧
      rf.indoor = inst.indoorDeployment.getD false ∧ rf.cbsdCategory = .a := by
  obtain ⟨infos, parsed, mapped⟩ := Option.map_eq_some_iff.mp read
  rw [← mapped] at member
  obtain ⟨info, infoMember, isRf⟩ := List.mem_map.mp member
  obtain ⟨collected, all, sorted⟩ := Option.map_eq_some_iff.mp parsed
  rw [← sorted, List.mem_mergeSort] at infoMember
  obtain ⟨group, groupMember, inGroup⟩ := List.mem_flatten.mp infoMember
  obtain ⟨row, rowMember, found⟩ := Collect.mem_source _ _ _ all group groupMember
  have isRow : row = (sourceSasId, record) := List.mem_singleton.mp (List.mem_filter.mp rowMember).1
  rw [isRow, Iap.grantRfInfosFromPeerCbsdRecord, same.stated] at found
  dsimp only at found
  split at found
  · cases found
    cases inGroup
  · split at found
    · rename_i lat lon isLat isLon
      rw [same.latitude] at isLat
      rw [same.longitude] at isLon
      rw [same.height, Option.map_some] at found
      rw [← Option.some.inj found] at inGroup
      obtain ⟨entry, _, isInfo⟩ := List.mem_map.mp inGroup
      rw [← isRf, ← isInfo]
      refine ⟨?_, same.indoor, rfl⟩
      simp only [Dpa.installedAt, same.stored, isLat, isLon, dpaGrantOfPeer]
    · cases found
      cases inGroup

theorem local_grant_place (grant : Grant K) (owner : grant.cbsdId = cbsd.cbsdId) (rf : Dpa.DpaGrantRf K)
    (built : frozenToDpaGrantRf (frozenLocalGrantFromOrm grant cbsd) = some rf) :
    ∃ inst, Dpa.installedAt cbsd = some (inst, rf.latitude, rf.longitude, rf.heightM) ∧
      rf.indoor = inst.indoorDeployment.getD false ∧ rf.cbsdCategory = storedCategory cbsd := by
  rw [frozen_rf_eq grant cbsd owner.symm] at built
  obtain ⟨⟨inst, lat, lon, height⟩, installed, isRf⟩ := Option.map_eq_some_iff.mp built
  rw [← isRf]
  exact ⟨inst, installed, rfl, rfl⟩

-- An installed CBSD has a frozen grant.
theorem local_grant_exists (installed : (Dpa.installedAt cbsd).isSome) :
    ∃ grant rf, grant.cbsdId = cbsd.cbsdId ∧ frozenToDpaGrantRf (frozenLocalGrantFromOrm grant cbsd) = some rf := by
  obtain ⟨place, isPlace⟩ := Option.isSome_iff_exists.mp installed
  let grant : Grant K := ⟨0, "grant", cbsd.id, cbsd.cbsdId, .gaa, 3550000000, 3560000000, none, 0, 0, none, false, false, false,
    none, ⟨⟨0, 0, 0, 0⟩, none⟩⟩
  refine ⟨grant, ?_⟩
  rw [frozen_rf_eq grant cbsd rfl, Dpa.dpaGrantRfFromCbsdGrant, isPlace]
  exact ⟨_, rfl, rfl⟩

-- Two answers for one place are the same unless the place lies between the distances.
theorem answers_same_iff (inst : InstallationParam K) (rf : Dpa.DpaGrantRf K) (answer : Bool)
    (installed : Dpa.installedAt cbsd = some (inst, rf.latitude, rf.longitude, rf.heightM))
    (indoor : rf.indoor = inst.indoorDeployment.getD false)
    (answered : Dpa.cbsdInsideProtectedNeighborhood backends cbsd channel = some answer) :
    Dpa.rfInsideProtectedNeighborhood backends rf channel = some answer ↔
      ReadAlike backends cbsd channel rf.cbsdCategory := by
  rw [Dpa.cbsdInsideProtectedNeighborhood, installed] at answered
  cases isGeometry : channel.geometry with
  | none =>
      rw [isGeometry] at answered
      cases answered
  | some geometry =>
      rw [isGeometry] at answered
      obtain ⟨heightAgl, resolved, isAnswer⟩ := Option.map_eq_some_iff.mp answered
      rw [Dpa.rfInsideProtectedNeighborhood, isGeometry, Option.map_some, Option.some_inj, ← isAnswer, indoor]
      constructor
      · intro same shape other lat lon height agl isShape isPlace isAgl
        cases isGeometry.symm.trans isShape
        cases installed.symm.trans isPlace
        cases resolved.symm.trans isAgl
        exact Or.inr fun apart => apart same.symm
      · intro alike
        rcases alike geometry inst _ _ _ heightAgl isGeometry installed resolved with oneDistance | together
        · exact congrArg (backends.withinBuffer rf.latitude rf.longitude geometry) oneDistance.symm
        · exact (not_ne_iff.mp together).symm

-- The CBSD as another SAS would list it, with one grant.
def restatedInstall (inst : InstallationParam K) (lat lon height : K) : Json K :=
  .object [("latitude", .float lat), ("longitude", .float lon), ("height", .float height),
    ("heightType", .text (if givenAmsl inst then "AMSL" else "AGL")),
    ("indoorDeployment", .bool (inst.indoorDeployment.getD false))]

def restatedGrant : Json K :=
  .object [("id", .text "g"),
    ("operationParam", .object [("maxEirp", .int 0),
      ("operationFrequencyRange", .object [("lowFrequency", .int 3550000000), ("highFrequency", .int 3560000000)])])]

def categoryName : Dpa.Category → String
  | .a => "A"
  | .b => "B"

def restatedRecord (inst : InstallationParam K) (lat lon height : K) : Json K :=
  .object [("id", .text "peer/cbsd"), ("cbsdCategory", .text (categoryName (ownCategory cbsd inst))),
    ("installationParam", restatedInstall inst lat lon height), ("grants", .array [restatedGrant])]

theorem restated_category (readers : PyReaders K) (category : Dpa.Category) :
    Dpa.normalizedCategory (Iap.peerCategory readers (.text (categoryName category))) = category := by
  have upperA : PyText.upper (PyText.strip "A".toList) = ['A'] := by decide
  have upperB : PyText.upper (PyText.strip "B".toList) = ['B'] := by decide
  cases category with
  | a =>
      have read : Iap.peerCategory readers (.text "A") = some "A" := by
        simp only [Iap.peerCategory, Json.isNull, Json.toText, upperA]
        rfl
      rw [categoryName, read]
      decide
  | b =>
      have read : Iap.peerCategory readers (.text "B") = some "B" := by
        simp only [Iap.peerCategory, Json.isNull, Json.toText, upperB]
        rfl
      rw [categoryName, read]
      decide

-- A height of zero is read as an absent one, which is zero.
theorem float_height (readers : PyReaders K) (height : K) :
    (if (Json.float height).truthy then (Json.float height).toFloat readers else some 0) = some height := by
  by_cases zero : height = 0
  · simp [Json.truthy, zero]
  · simp [Json.truthy, Json.toFloat, zero]

theorem restated_same (readers : PyReaders K) (inst : InstallationParam K) (lat lon height : K)
    (installed : Dpa.installedAt cbsd = some (inst, lat, lon, height)) :
    SameInstallation readers (restatedRecord cbsd inst lat lon height) (restatedInstall inst lat lon height) cbsd inst := by
  have place : cbsd.registration.installationParam = some inst ∧ inst.latitude = some lat ∧ inst.longitude = some lon ∧
      inst.height.getD 0 = height := by
    rw [Dpa.installedAt] at installed
    split at installed
    · rename_i stored found
      split at installed
      · rename_i isLat isLon
        cases installed
        exact ⟨found, isLat, isLon, rfl⟩
      · cases installed
    · cases installed
  obtain ⟨stored, isLat, isLon, isHeight⟩ := place
  refine ⟨stored, rfl, isLat.symm, isLon.symm, ?_, ?_, rfl, restated_category readers _⟩
  · have reads : (restatedInstall inst lat lon height).field "height" = .float height := rfl
    rw [reads, isHeight]
    exact float_height readers height
  · have reads : (restatedInstall inst lat lon height).field "heightType" =
        .text (if givenAmsl inst then "AMSL" else "AGL") := rfl
    rw [reads]
    cases givenAmsl inst <;> rfl

theorem restated_range (readers : PyReaders K) :
    Iap.peerGrantRange readers restatedGrant = some ("g", ((0 : Int) : K), 3550000000, 3560000000) := by
  have named : (restatedGrant.field "id").strippedText readers = PyText.strip "g".toList := rfl
  have kept : PyText.strip "g".toList = ['g'] := by decide
  rw [Iap.peerGrantRange, named, kept]
  rfl

theorem restated_read (readers : PyReaders K) (inst : InstallationParam K) (lat lon height : K) :
    ∃ rf, dpaGrantsFromFrozenPeerCbsds readers [(0, restatedRecord cbsd inst lat lon height)] = some [rf] := by
  have named : ((restatedRecord cbsd inst lat lon height).field "id").strippedText readers =
      PyText.strip "peer/cbsd".toList := rfl
  have kept : PyText.strip "peer/cbsd".toList ≠ [] := by decide
  have stated : Iap.peerInstallationParam (restatedRecord cbsd inst lat lon height) =
      some (restatedInstall inst lat lon height) := rfl
  have isHeight : (restatedInstall inst lat lon height).field "height" = .float height := rfl
  have isLat : ((restatedInstall inst lat lon height).field "latitude").toFloat readers = some lat := rfl
  have isLon : ((restatedInstall inst lat lon height).field "longitude").toFloat readers = some lon := rfl
  have listed : ((restatedRecord cbsd inst lat lon height).field "grants").items = [restatedGrant] := rfl
  have infos : ∃ info, Iap.grantRfInfosFromPeerCbsdRecord readers (restatedRecord cbsd inst lat lon height) (toString 0) =
      some [info] := by
    rw [Iap.grantRfInfosFromPeerCbsdRecord, named, stated]
    simp only [kept, if_false, isHeight, isLat, isLon, listed, float_height, List.filterMap_cons, restated_range]
    exact ⟨_, rfl⟩
  obtain ⟨info, isInfo⟩ := infos
  have isDict : (restatedRecord cbsd inst lat lon height).isObject = true := rfl
  refine ⟨dpaGrantOfPeer info, ?_⟩
  simp only [dpaGrantsFromFrozenPeerCbsds, Iap.grantRfInfosFromFrozenPeerCbsds, List.filter_cons, isDict, if_true,
    List.filter_nil, List.mapM_cons, List.mapM_nil, isInfo]
  simp

-- Membership is the same on every path exactly when no reading of the CBSD moves it across a distance.
theorem membership_path_independent_iff (readers : PyReaders K) :
    PathIndependent backends cbsd channel readers ↔
      ReadAlike backends cbsd channel (storedCategory cbsd) ∧ ReadAlike backends cbsd channel .a := by
  constructor
  · intro independent
    have answers : ∀ geometry inst lat lon height heightAgl, channel.geometry = some geometry →
        Dpa.installedAt cbsd = some (inst, lat, lon, height) →
          Dpa.resolveHeightAglM backends.elevation lat lon height (Dpa.heightTypeOf inst) = some heightAgl →
            ∃ answer, Dpa.cbsdInsideProtectedNeighborhood backends cbsd channel = some answer := by
      intro geometry inst lat lon height heightAgl isGeometry installed resolved
      rw [Dpa.cbsdInsideProtectedNeighborhood, isGeometry, installed]
      dsimp only
      rw [resolved, Option.map_some]
      exact ⟨_, rfl⟩
    constructor
    · intro geometry inst lat lon height heightAgl isGeometry installed resolved
      obtain ⟨answer, answered⟩ := answers geometry inst lat lon height heightAgl isGeometry installed resolved
      obtain ⟨grant, rf, owner, built⟩ := local_grant_exists cbsd (Option.isSome_iff_exists.mpr ⟨_, installed⟩)
      obtain ⟨stored, place, indoor, category⟩ := local_grant_place cbsd grant owner rf built
      have same := (independent answer answered).1 grant rf owner built
      have alike := (answers_same_iff backends cbsd channel stored rf answer place indoor answered).mp same
      rw [category] at alike
      exact alike geometry inst lat lon height heightAgl isGeometry installed resolved
    · intro geometry inst lat lon height heightAgl isGeometry installed resolved
      obtain ⟨answer, answered⟩ := answers geometry inst lat lon height heightAgl isGeometry installed resolved
      have restated := restated_same cbsd readers inst lat lon height installed
      obtain ⟨rf, read⟩ := restated_read cbsd readers inst lat lon height
      have member : rf ∈ [rf] := List.mem_singleton.mpr rfl
      obtain ⟨place, indoor, category⟩ := peer_grant_place cbsd readers 0 _ _ inst restated [rf] read rf member
      have same := (independent answer answered).2 0 _ _ inst [rf] restated read rf member
      have alike := (answers_same_iff backends cbsd channel inst rf answer place indoor answered).mp same
      rw [category] at alike
      exact alike geometry inst lat lon height heightAgl isGeometry installed resolved
  · rintro ⟨localAlike, peerAlike⟩ answer answered
    constructor
    · intro grant rf owner built
      obtain ⟨inst, place, indoor, category⟩ := local_grant_place cbsd grant owner rf built
      rw [answers_same_iff backends cbsd channel inst rf answer place indoor answered, category]
      exact localAlike
    · intro sourceSasId record install inst grants same read rf member
      obtain ⟨place, indoor, category⟩ :=
        peer_grant_place cbsd readers sourceSasId record install inst same grants read rf member
      rw [answers_same_iff backends cbsd channel inst rf answer place indoor answered, category]
      exact peerAlike

end Membership

-- Everything stands 50 km from the area, on ground 15 m above the sea.
def ringBackends : Dpa.DpaBackends Rat :=
  { plainContext.backends with
    withinBuffer := fun _ _ _ bufferM => decide (50000 ≤ bufferM)
    elevation := fun _ _ => some 15 }

def ringChannel : Dpa.ProtectedDpaChannel Rat :=
  ⟨"dpa", 3550000000, 3560000000, .active, some (.polygon []),
    [("catA_Outdoor_6m_NeighborhoodDistanceKm", 20), ("catA_Outdoor_NeighborhoodDistanceKm", 100),
      ("catBNeighborhoodDistanceKm", 200)], 0, 0⟩

def ringInstallation (height : Rat) (heightType : String) : InstallationParam Rat :=
  ⟨some 0, some 0, some height, some heightType, some false, none, none, none, none, none⟩

def ringCbsd (category : String) (height : Rat) (heightType : String) : Cbsd Rat :=
  ⟨0, "fcc/sn", "fcc", "user", "sn", none, none, none, ⟨some category, some (ringInstallation height heightType), []⟩⟩

def ringGrant : Grant Rat :=
  ⟨0, "grant", 0, "fcc/sn", .gaa, 3550000000, 3560000000, none, 0, 0, none, false, false, false, none,
    ⟨⟨0, 0, 0, 0⟩, none⟩⟩

def ringRf : Dpa.DpaGrantRf Rat := ⟨"grant", "fcc/sn", 0, 0, 20, false, false, 3550000000, 3560000000, 0, true, .a⟩

-- Twenty metres above the sea are five above the ground, and a category B device of a peer is taken for category A.
theorem ring_membership_differs :
    ¬ PathIndependent ringBackends (ringCbsd "A" 20 "AMSL") ringChannel peerReaders ∧
      ¬ PathIndependent ringBackends (ringCbsd "B" 5 "AGL") ringChannel peerReaders := by
  constructor
  · intro independent
    have outside : Dpa.cbsdInsideProtectedNeighborhood ringBackends (ringCbsd "A" 20 "AMSL") ringChannel = some false := by
      decide +kernel
    have built : frozenToDpaGrantRf (frozenLocalGrantFromOrm ringGrant (ringCbsd "A" 20 "AMSL")) = some ringRf := by
      decide +kernel
    have same := (independent false outside).1 ringGrant ringRf rfl built
    have inside : Dpa.rfInsideProtectedNeighborhood ringBackends ringRf ringChannel = some true := by decide +kernel
    cases inside.symm.trans same
  · intro independent
    have inside : Dpa.cbsdInsideProtectedNeighborhood ringBackends (ringCbsd "B" 5 "AGL") ringChannel = some true := by
      decide +kernel
    have installed : Dpa.installedAt (ringCbsd "B" 5 "AGL") = some (ringInstallation 5 "AGL", 0, 0, 5) := rfl
    have restated := restated_same (ringCbsd "B" 5 "AGL") peerReaders _ 0 0 5 installed
    obtain ⟨rf, read⟩ := restated_read (ringCbsd "B" 5 "AGL") peerReaders (ringInstallation 5 "AGL") 0 0 5
    have member : rf ∈ [rf] := List.mem_singleton.mpr rfl
    have same := (independent true inside).2 0 _ _ _ [rf] restated read rf member
    obtain ⟨place, indoor, category⟩ := peer_grant_place _ peerReaders 0 _ _ _ restated [rf] read rf member
    have height : rf.heightM = 5 := by
      rw [installed, Option.some_inj] at place
      exact congrArg (·.2.2.2) place.symm
    rw [Dpa.rfInsideProtectedNeighborhood, indoor, category, height] at same
    have within : some (decide ((50000 : Rat) ≤ neighborhoodDistanceM ringChannel .a false 5)) = some true := same
    exact absurd within (by decide +kernel)

end SasCore.Cpas
