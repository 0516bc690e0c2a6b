import SasCore.Federal.Protection
import SasCore.Federal.Sync

set_option autoImplicit false
set_option linter.unusedSectionVars false

namespace SasCore.Federal

open Injection Registry

variable {K : Type} [Field K] [LinearOrder K] (env : FeedEnv K) (geometry : GeometryEnv K)

def fssReadable (sites : List (Json K)) : Bool := sites.all fun site => (fssLocationAndFreq env site).isSome

-- A near station with a GWBL in its neighbourhood.
def NeighboringPair (lat lon : K) (tables : Tables K) : Prop :=
  ∃ site ∈ loadKind .fss tables, ∃ station, fssLocationAndFreq env site = some (some station) ∧
    stationNear geometry lat lon station = true ∧ fssHasNeighboringGwbl env geometry station (loadKind .gwbl tables) = true

section Sites

variable (lat lon : K)

theorem sites_near_unreadable (sites : List (Json K)) (unreadable : fssReadable env sites = false) :
    ∃ error, fssSitesNear env geometry lat lon sites = .error error := by
  induction sites with
  | nil => cases unreadable
  | cons site rest ih =>
      rw [fssReadable, List.all_cons, Bool.and_eq_false_iff] at unreadable
      rw [fssSitesNear]
      cases found : fssLocationAndFreq env site with
      | none => exact ⟨_, rfl⟩
      | some place =>
          have later : fssReadable env rest = false := by
            rcases unreadable with here | there
            · rw [found] at here
              cases here
            · exact there
          obtain ⟨error, raised⟩ := ih later
          cases place with
          | none => exact ⟨error, raised⟩
          | some station =>
              simp only
              rw [raised]
              exact ⟨error, rfl⟩

theorem sites_near_readable (sites : List (Json K)) (readable : fssReadable env sites = true) :
    ∃ near, fssSitesNear env geometry lat lon sites = .ok near ∧ ∀ site ∈ sites, ∀ station,
      fssLocationAndFreq env site = some (some station) → stationNear geometry lat lon station = true → station ∈ near := by
  induction sites with
  | nil => exact ⟨[], rfl, fun site member => by cases member⟩
  | cons site rest ih =>
      rw [fssReadable, List.all_cons, Bool.and_eq_true] at readable
      obtain ⟨near, done, listed⟩ := ih readable.2
      rw [fssSitesNear]
      cases found : fssLocationAndFreq env site with
      | none =>
          rw [found] at readable
          cases readable.1
      | some place =>
          cases place with
          | none =>
              refine ⟨near, done, ?_⟩
              rw [List.forall_mem_cons]
              refine ⟨fun station here => ?_, listed⟩
              rw [found] at here
              cases here
          | some held =>
              simp only
              rw [done]
              refine ⟨_, rfl, ?_⟩
              rw [List.forall_mem_cons]
              constructor
              · intro station here isNear
                rw [found] at here
                cases here
                simp only
                rw [if_pos isNear]
                exact List.mem_cons_self
              · intro other member station located isNear
                have kept := listed other member station located isNear
                split
                · exact List.mem_cons_of_mem _ kept
                · exact kept

end Sites

theorem run_any_neighboring (counts : Bool) (near : List (StationSite K)) (tables : Tables K) :
    (anyNeighboringGwbl env geometry counts near).run (look tables) =
      (near.any (fssHasNeighboringGwbl env geometry · (loadKind .gwbl tables)) && counts) := by
  induction near with
  | nil => rfl
  | cons station rest ih =>
      rw [anyNeighboringGwbl, Query.run_ask, List.any_cons]
      by_cases found : (fssHasNeighboringGwbl env geometry station (look tables .gwbl) && counts) = true
      · rw [if_pos found, Query.run_done]
        obtain ⟨here, counted⟩ := Bool.and_eq_true_iff.mp found
        have neighbored : fssHasNeighboringGwbl env geometry station (loadKind .gwbl tables) = true := here
        rw [neighbored, counted]
        rfl
      · rw [if_neg found, ih]
        have missed : (fssHasNeighboringGwbl env geometry station (loadKind .gwbl tables) && counts) = false := eq_false_of_ne_true found
        rw [Bool.and_or_distrib_right, missed, Bool.false_or]

theorem newer_feed_terminates_iff (tables : Tables K) (cbsd : Cbsd K) (grant : Grant K) (lat lon : K)
    (located : cbsdLocation cbsd = some (lat, lon))
    (noZone : (exclusionZoneCode env geometry lat lon grant (getSyncMeta tables)).run (look tables) = .ok none)
    (noDpa : ¬ (0 < (getSyncMeta tables).dpa ∧ overlapsHz grant.lowFrequency grant.highFrequency scheduledLowHz scheduledHighHz = true))
    (band : overlapsHz grant.lowFrequency grant.highFrequency fssGwblLowHz fssGwblHighHz = true)
    (pair : NeighboringPair env geometry lat lon tables)
    (newer : grant.grantJson.stamp.fss < (getSyncMeta tables).fss ∨ grant.grantJson.stamp.gwbl < (getSyncMeta tables).gwbl) :
    (heartbeatFederalCode env geometry (some cbsd) grant).run (look tables) = .ok (some 500) ↔
      fssReadable env (loadKind .fss tables) = true ∧
        (grant.grantJson.stamp.fss < (getSyncMeta tables).fss ∨ grant.grantJson.stamp.fss < (getSyncMeta tables).gwbl) := by
  have start : (heartbeatFederalCode env geometry (some cbsd) grant).run (look tables) =
      (nearbyCode env geometry lat lon grant (getSyncMeta tables) (loadKind .fss tables)).run (look tables) := by
    rw [heartbeatFederalCode, Option.bind_some, located]
    simp only [Query.run_ask, Query.run_and_then, look, noZone]
    rw [pastZonesCode, if_neg noDpa]
    rfl
  rw [start, nearbyCode]
  by_cases readable : fssReadable env (loadKind .fss tables) = true
  · obtain ⟨near, done, listed⟩ := sites_near_readable env geometry lat lon _ readable
    obtain ⟨site, member, station, found, isNear, neighbored⟩ := pair
    have inNear := listed site member station found isNear
    have shielded : protects grant near = true := by
      rw [protects, List.any_eq_true]
      exact ⟨station, inNear, by rw [band, Bool.true_or]⟩
    have any : near.any (fssHasNeighboringGwbl env geometry · (loadKind .gwbl tables)) = true :=
      List.any_eq_true.mpr ⟨station, inNear, neighbored⟩
    rw [done]
    simp only [shielded, if_true, readable, true_and, stationCode, Query.run_map, Except.ok.injEq, Option.some.injEq]
    by_cases counted : 0 < (getSyncMeta tables).gwbl
    · rw [if_pos counted, run_any_neighboring, any, Bool.true_and]
      by_cases combined : max grant.grantJson.stamp.fss grant.grantJson.stamp.gwbl < max (getSyncMeta tables).fss (getSyncMeta tables).gwbl
      · simp only [combined, decide_true, if_true, true_iff]
        omega
      · by_cases older : grant.grantJson.stamp.fss < (getSyncMeta tables).fss
        · simp [combined, codeOf, older]
        · simp only [combined, codeOf, older, decide_false, Bool.false_eq_true, if_false, false_or]
          omega
    · rw [if_neg counted, Query.run_done]
      by_cases older : grant.grantJson.stamp.fss < (getSyncMeta tables).fss
      · simp [codeOf, older]
      · omega
  · obtain ⟨error, raised⟩ := sites_near_unreadable env geometry lat lon _ (eq_false_of_ne_true readable)
    rw [raised]
    simp [readable]

-- Every point is near every other one and inside every zone.
def nearbyGeometry : GeometryEnv Rat := ⟨fun _ _ _ _ => 0, fun _ _ _ _ => true, .ok []⟩

def stationCbsd : Cbsd Rat where
  id := 1
  cbsdId := "cbsd-1"
  fccId := "fcc"
  userId := "user"
  cbsdSerialNumber := "sn"
  cbsdCategory := some "A"
  certificateHash := none
  lifecycleState := some .registered
  registration := ⟨some "A", some ⟨some 40, some (-100), none, none, none, none, none, none, none, none⟩, []⟩

def stampedGrant (stamp : SyncStamp) : Grant Rat where
  id := 1
  grantId := "grant/1"
  cbsdPk := 1
  cbsdId := "cbsd-1"
  channelType := .gaa
  lowFrequency := 3660000000
  highFrequency := 3670000000
  maxEirp := some 20
  grantExpireTime := 900000000
  heartbeatInterval := 60
  transmitExpireTime := none
  authorized := false
  measReportRequested := false
  terminated := false
  lifecycleState := some .granted
  grantJson := ⟨stamp, none⟩

def pairTables (current : SyncStamp) : Tables Rat :=
  let station : Json Rat := siteRecord (syncSampleEnv ByteArray.empty).feeds (.object []) ⟨40, -100, 3600000000, 3700000000⟩
  let point : Json Rat := .object [("latitude", .int 40), ("longitude", .int (-100))]
  { (Tables.empty.setRecords .fss fun _ => .stored [some station]).setRecords .gwbl fun _ => .stored [some point] with
    federal := .stored [current] }

theorem newer_feed_terminates_iff_sample :
    let env := (syncSampleEnv ByteArray.empty).feeds
    (heartbeatFederalCode env nearbyGeometry (some stationCbsd) (stampedGrant ⟨1, 1, 0, 0⟩)).run (look (pairTables ⟨1, 2, 0, 0⟩)) =
        .ok (some 500) ↔
      fssReadable env (loadKind .fss (pairTables ⟨1, 2, 0, 0⟩)) = true ∧
        ((stampedGrant ⟨1, 1, 0, 0⟩).grantJson.stamp.fss < (getSyncMeta (pairTables ⟨1, 2, 0, 0⟩)).fss ∨
          (stampedGrant ⟨1, 1, 0, 0⟩).grantJson.stamp.fss < (getSyncMeta (pairTables ⟨1, 2, 0, 0⟩)).gwbl) :=
  newer_feed_terminates_iff (syncSampleEnv ByteArray.empty).feeds nearbyGeometry (pairTables ⟨1, 2, 0, 0⟩) stationCbsd
    (stampedGrant ⟨1, 1, 0, 0⟩) 40 (-100) rfl rfl (by decide) (by decide)
    ⟨_, List.mem_singleton_self _, ⟨40, -100, 3600000000, 3700000000⟩, rfl, by decide +kernel, by decide +kernel⟩ (by decide)

-- Two GWBL updates reach the FSS counter of the grant, and the maximum of the two hides the second.
theorem newer_gwbl_suspends :
    let env := (syncSampleEnv ByteArray.empty).feeds
    let grant := stampedGrant ⟨2, 1, 0, 0⟩
    let current : SyncStamp := ⟨2, 2, 0, 0⟩
    grant.grantJson.stamp.gwbl < (getSyncMeta (pairTables current)).gwbl ∧
      overlapsHz grant.lowFrequency grant.highFrequency fssGwblLowHz fssGwblHighHz = true ∧
      ((loadKind .fss (pairTables current)).any fun site =>
        match fssLocationAndFreq env site with
        | some (some station) =>
            stationNear nearbyGeometry 40 (-100) station &&
              fssHasNeighboringGwbl env nearbyGeometry station (loadKind .gwbl (pairTables current))
        | _ => false) = true ∧
      (heartbeatFederalCode env nearbyGeometry (some stationCbsd) grant).run (look (pairTables current)) = .ok (some 501) := by
  decide +kernel

end SasCore.Federal
