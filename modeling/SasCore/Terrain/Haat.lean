import SasCore.Lib.Runs
import SasCore.Terrain.Ned
import SasCore.Registry.AcceptedRegistration

set_option autoImplicit false
set_option linter.unusedSectionVars false

namespace SasCore.Terrain

variable {K : Type} [Field K] [LinearOrder K]

def catAOutdoorHaatLimitM : K := (6 : Nat)

def radialBearingsDeg : List K := (List.range 8).map fun i => (i : K) * (45 : Nat)

def distancesKm : List K := (List.range 50).map fun i => (3 : Nat) + ((16 : Nat) - (3 : Nat)) * (i : K) / (49 : Nat)

-- geodesic_point of a place, a distance in km and a bearing in degrees.
abbrev GeodesicPoint (K : Type) := K → K → K → K → K × K

def samplePlaces (geodesicPoint : GeodesicPoint K) (lat lon : K) : List (K × K) :=
  (lat, lon) :: radialBearingsDeg.flatMap fun bearing => distancesKm.map fun distance => geodesicPoint lat lon distance bearing

-- The height of the site over the mean of the radials, and the height of the site.
def normalized : List K → K × K
  | [] => (0, 0)
  | site :: radials => (site - radials.sum / (radials.length : K), site)

structure HaatCall (K : Type) where
  lat : K
  lon : K
  heightM : K
  heightIsAgl : Bool
deriving DecidableEq

def haatOf (call : HaatCall K) (site : K × K) : K :=
  if call.heightIsAgl then call.heightM + site.1 else call.heightM - site.2 + site.1

section Provider

variable [FloorRing K] (geodesicPoint : GeodesicPoint K) (dir : TerrainDir K)

-- WinnForumHaatProvider.compute_haat_m over a provider that holds the given tiles.
def computeHaatM (tileCacheSize : Nat) (call : HaatCall K) (tiles : Lru.Cache TileKey (Tile K)) :
    Except TerrainError K × Lru.Cache TileKey (Tile K) :=
  match validateCoords call.lat call.lon with
  | .error fault => (.error fault, tiles)
  | .ok _ =>
      let read := elevationsAt dir tileCacheSize (samplePlaces geodesicPoint call.lat call.lon) tiles
      (read.1.map fun elevations => haatOf call (normalized elevations), read.2)

-- The same from the directory.
def trueHaat (call : HaatCall K) : Except TerrainError K := do
  validateCoords call.lat call.lon
  let elevations ← (samplePlaces geodesicPoint call.lat call.lon).mapM fun place => groundElevation dir place.1 place.2
  return haatOf call (normalized elevations)

theorem compute_haat (tileCacheSize : Nat) (call : HaatCall K) (history : List TileKey) (tiles : Lru.Cache TileKey (Tile K))
    (recent : Lru.Recent (readTile dir) (max 1 tileCacheSize) history tiles) :
    (computeHaatM geodesicPoint dir tileCacheSize call tiles).1 = trueHaat geodesicPoint dir call ∧
      ∃ later, Lru.Recent (readTile dir) (max 1 tileCacheSize) later (computeHaatM geodesicPoint dir tileCacheSize call tiles).2 := by
  rw [computeHaatM, trueHaat]
  cases validateCoords call.lat call.lon with
  | error fault => exact ⟨rfl, history, recent⟩
  | ok checked =>
      obtain ⟨answers, later⟩ := elevations_recent dir tileCacheSize (samplePlaces geodesicPoint call.lat call.lon) history tiles
        recent
      dsimp only
      rw [answers]
      exact ⟨rfl, later⟩

-- A height above sea level is the height above the ground of what remains over the ground.
theorem haat_amsl (call : HaatCall K) (site : K × K) (amsl : call.heightIsAgl = false) :
    haatOf call site = haatOf { call with heightM := call.heightM - site.2, heightIsAgl := true } site := by
  simp [haatOf, amsl]

end Provider

section Shared

-- What the cache keys a call by: the call rounded, with the version of the data set.
structure HaatKey (K : Type) where
  lat : K
  lon : K
  heightM : K
  heightIsAgl : Bool
  datasetVersion : String
deriving DecidableEq

structure HaatCacheEnv (K : Type) where
  roundTo : Nat → K → K
  datasetVersion : String
  maxEntries : Nat
  compute : HaatCall K → Except TerrainError K

variable (env : HaatCacheEnv K)

def haatKey (call : HaatCall K) : HaatKey K :=
  ⟨env.roundTo 8 call.lat, env.roundTo 8 call.lon, env.roundTo 6 call.heightM, call.heightIsAgl, env.datasetVersion⟩

-- Where a thread is in compute_haat_m: the lock is held for the look into the cache and for the store, not between.
inductive HaatPhase (K : Type) where
  | idle
  | missed (call : HaatCall K)
  | computed (call : HaatCall K) (value : K)

structure HaatServer (K : Type) where
  cache : Lru.Cache (HaatKey K) K
  phase : Nat → HaatPhase K
  answers : List (HaatCall K × Except TerrainError K)

inductive HaatEvent (K : Type) where
  | begin (thread : Nat) (call : HaatCall K)
  | compute (thread : Nat)
  | store (thread : Nat)
  | clear

def HaatServer.start : HaatServer K := ⟨Lru.empty, fun _ => .idle, []⟩

def HaatServer.moves (server : HaatServer K) (thread : Nat) (phase : HaatPhase K) : HaatServer K :=
  { server with phase := Function.update server.phase thread phase }

def HaatServer.answer (server : HaatServer K) (call : HaatCall K) (outcome : Except TerrainError K) : HaatServer K :=
  { server with answers := server.answers ++ [(call, outcome)] }

def haatStep (event : HaatEvent K) (server : HaatServer K) : Option (HaatServer K) :=
  match event with
  | .begin thread call =>
      match server.phase thread with
      | .idle =>
          match Lru.lookup (haatKey env call) server.cache with
          | some hit => some ({ server with cache := Lru.touch (haatKey env call) server.cache }.answer call (.ok hit))
          | none => some (server.moves thread (.missed call))
      | _ => none
  | .compute thread =>
      match server.phase thread with
      | .missed call =>
          match env.compute call with
          | .ok value => some (server.moves thread (.computed call value))
          | .error fault => some ((server.moves thread .idle).answer call (.error fault))
      | _ => none
  | .store thread =>
      match server.phase thread with
      | .computed call value =>
          some (({ server with cache := Lru.store (max 1 env.maxEntries) (haatKey env call) value server.cache }.moves thread
            .idle).answer call (.ok value))
      | _ => none
  | .clear => some { server with cache := Lru.empty }

-- A value is right for a key when it is what a call of that key computes.
def RightFor (key : HaatKey K) (value : K) : Prop := ∃ call, haatKey env call = key ∧ env.compute call = .ok value

def AnswerRight (call : HaatCall K) : Except TerrainError K → Prop
  | .ok value => RightFor env (haatKey env call) value
  | .error fault => env.compute call = .error fault

structure HaatInvariant (server : HaatServer K) : Prop where
  within : Lru.Within (max 1 env.maxEntries) (RightFor env) server.cache
  computed : ∀ thread call value, server.phase thread = .computed call value → env.compute call = .ok value
  answered : ∀ entry ∈ server.answers, AnswerRight env entry.1 entry.2

theorem start_invariant : HaatInvariant env HaatServer.start := by
  refine ⟨Lru.empty_within _ _, fun thread call value phase => ?_, fun entry member => (List.not_mem_nil member).elim⟩
  cases phase

theorem answer_invariant (server : HaatServer K) (invariant : HaatInvariant env server) (call : HaatCall K)
    (outcome : Except TerrainError K) (right : AnswerRight env call outcome) :
    HaatInvariant env (server.answer call outcome) := by
  refine ⟨invariant.within, invariant.computed, fun entry member => ?_⟩
  rcases List.mem_append.mp member with among | last
  · exact invariant.answered entry among
  · rw [List.mem_singleton.mp last]
    exact right

theorem moves_invariant (server : HaatServer K) (invariant : HaatInvariant env server) (thread : Nat) (phase : HaatPhase K)
    (right : ∀ call value, phase = .computed call value → env.compute call = .ok value) :
    HaatInvariant env (server.moves thread phase) := by
  refine ⟨invariant.within, fun other call value found => ?_, invariant.answered⟩
  by_cases same : other = thread
  · have entered : (server.moves thread phase).phase thread = phase := Function.update_self ..
    rw [same, entered] at found
    exact right call value found
  · have left : (server.moves thread phase).phase other = server.phase other := Function.update_of_ne same ..
    rw [left] at found
    exact invariant.computed other call value found

theorem cache_invariant (server : HaatServer K) (invariant : HaatInvariant env server) (cache : Lru.Cache (HaatKey K) K)
    (within : Lru.Within (max 1 env.maxEntries) (RightFor env) cache) : HaatInvariant env { server with cache := cache } :=
  ⟨within, invariant.computed, invariant.answered⟩

theorem haat_step_invariant (event : HaatEvent K) (server next : HaatServer K) (taken : haatStep env event server = some next)
    (invariant : HaatInvariant env server) : HaatInvariant env next := by
  cases event with
  | begin thread call =>
      rw [haatStep] at taken
      cases phase : server.phase thread with
      | idle =>
          rw [phase] at taken
          dsimp only at taken
          cases found : Lru.lookup (haatKey env call) server.cache with
          | some hit =>
              rw [found] at taken
              cases taken
              obtain ⟨right, within⟩ := Lru.hit_within _ _ server.cache invariant.within _ _ found
              exact answer_invariant env _ (cache_invariant env server invariant _ within) call (.ok hit) right
          | none =>
              rw [found] at taken
              cases taken
              refine moves_invariant env server invariant thread _ fun other value same => ?_
              cases same
      | missed held =>
          rw [phase] at taken
          cases taken
      | computed held value =>
          rw [phase] at taken
          cases taken
  | compute thread =>
      rw [haatStep] at taken
      cases phase : server.phase thread with
      | missed call =>
          rw [phase] at taken
          dsimp only at taken
          cases computed : env.compute call with
          | ok value =>
              rw [computed] at taken
              cases taken
              refine moves_invariant env server invariant thread _ fun other held same => ?_
              cases same
              exact computed
          | error fault =>
              rw [computed] at taken
              cases taken
              refine answer_invariant env _ (moves_invariant env server invariant thread _ fun other held same => ?_) call _ computed
              cases same
      | idle =>
          rw [phase] at taken
          cases taken
      | computed held value =>
          rw [phase] at taken
          cases taken
  | store thread =>
      rw [haatStep] at taken
      cases phase : server.phase thread with
      | computed call value =>
          rw [phase] at taken
          cases taken
          have right : RightFor env (haatKey env call) value := ⟨call, rfl, invariant.computed thread call value phase⟩
          have stored := cache_invariant env server invariant _ (Lru.store_within _ _ server.cache invariant.within _ _ right)
          refine answer_invariant env _ (moves_invariant env _ stored thread .idle fun other held same => ?_) call _ right
          cases same
      | idle =>
          rw [phase] at taken
          cases taken
      | missed held =>
          rw [phase] at taken
          cases taken
  | clear =>
      cases taken
      exact cache_invariant env server invariant _ (Lru.empty_within _ _)

theorem haat_run_invariant (events : List (HaatEvent K)) (last : HaatServer K)
    (run : Runs.run (haatStep env) events HaatServer.start = some last) : HaatInvariant env last :=
  Runs.run_keeps (haatStep env) (fun _ _ => True) (HaatInvariant env)
    (fun event server next _ taken holds => haat_step_invariant env event server next taken holds) events HaatServer.start last
    (Runs.all_steps_true (haatStep env) events HaatServer.start) run (start_invariant env)

-- A thread alone with a call that the cache does not know computes it, stores it and answers.
theorem first_call_runs (call : HaatCall K) (value : K) (computed : env.compute call = .ok value) :
    ∃ last, Runs.run (haatStep env) [.begin 0 call, .compute 0, .store 0] HaatServer.start = some last ∧
      (call, .ok value) ∈ last.answers := by
  have missed : Lru.lookup (haatKey env call) (Lru.empty : Lru.Cache (HaatKey K) K) = none := rfl
  simp [Runs.run, haatStep, HaatServer.start, HaatServer.moves, HaatServer.answer, missed, computed]

-- However the threads interleave, the cache stays within its size and no answer is one of another key or of an older data set.
theorem haat_cache_interleaved (events : List (HaatEvent K)) (last : HaatServer K)
    (run : Runs.run (haatStep env) events HaatServer.start = some last) :
    last.cache.entries.length ≤ max 1 env.maxEntries ∧ last.cache.order.length ≤ max 1 env.maxEntries ∧
      (∀ entry ∈ last.cache.entries, RightFor env entry.1 entry.2) ∧
      ∀ entry ∈ last.answers, AnswerRight env entry.1 entry.2 := by
  have invariant := haat_run_invariant env events last run
  exact ⟨Lru.size_within _ _ _ invariant.within, invariant.within.bounded, invariant.within.right, invariant.answered⟩

-- Two threads that missed the same key both store it.
def sharedEnv : HaatCacheEnv Rat := ⟨fun _ value => value, "1", 2, fun call => .ok call.heightM⟩

def sharedCall : HaatCall Rat := ⟨40, -100, 3, true⟩

def sharedEvents : List (HaatEvent Rat) :=
  [.begin 0 sharedCall, .begin 1 sharedCall, .compute 0, .compute 1, .store 0, .store 1]

theorem haat_cache_interleaved_pair : ∃ last, Runs.run (haatStep sharedEnv) sharedEvents HaatServer.start = some last ∧
    last.cache.entries.length ≤ 2 := by
  have ran : (Runs.run (haatStep sharedEnv) sharedEvents HaatServer.start).isSome = true := by decide +kernel
  obtain ⟨last, run⟩ := Option.isSome_iff_exists.mp ran
  exact ⟨last, run, (haat_cache_interleaved sharedEnv sharedEvents last run).1⟩

end Shared

section Gate

open Registry

-- haat_exceeds_cat_a_outdoor_limit of an installation, with what the provider answers; terrain that cannot be read exceeds.
def catAOutdoorHaatInvalid (readers : PyReaders K) (answer : HaatCall K → Except TerrainError K) (installation : Json K) :
    Except TerrainError Bool :=
  match (installation.field "latitude").toFloat readers, (installation.field "longitude").toFloat readers,
      (installation.field "height").toFloat readers with
  | some lat, some lon, some height =>
      match answer ⟨lat, lon, height, !(installation.field "heightType").isText "AMSL"⟩ with
      | .ok haat => .ok (decide (catAOutdoorHaatLimitM < haat))
      | .error _ => .ok true
  | _, _, _ => .error (.coordinate "installation coordinates/height invalid")

-- The gate of registration, where an exception would end the request as well.
def haatGate (readers : PyReaders K) (answer : HaatCall K → Except TerrainError K) (installation : Json K) : Bool :=
  match catAOutdoorHaatInvalid readers answer installation with
  | .ok exceeds => exceeds
  | .error _ => true

theorem number_to_float (readers : PyReaders K) (data : Json K) (value : K) (read : data.number = some value) :
    data.toFloat readers = some value := by
  cases data with
  | null => cases read
  | bool held => exact read
  | int held => exact read
  | float held => exact read
  | text held => cases read
  | array held => cases read
  | object held => cases read

variable (readers : PyReaders K) (answer : HaatCall K → Except TerrainError K)

theorem gate_open (installation : Json K) (lat lon height : K) (latRead : (installation.field "latitude").number = some lat)
    (lonRead : (installation.field "longitude").number = some lon) (heightRead : (installation.field "height").number = some height)
    (passed : haatGate readers answer installation = false) :
    ∃ haat, answer ⟨lat, lon, height, !(installation.field "heightType").isText "AMSL"⟩ = .ok haat ∧
      haat ≤ catAOutdoorHaatLimitM := by
  rw [haatGate, catAOutdoorHaatInvalid, number_to_float readers _ _ latRead, number_to_float readers _ _ lonRead,
    number_to_float readers _ _ heightRead] at passed
  dsimp only at passed
  cases answered : answer ⟨lat, lon, height, !(installation.field "heightType").isText "AMSL"⟩ with
  | error fault =>
      rw [answered] at passed
      cases passed
  | ok haat =>
      rw [answered] at passed
      exact ⟨haat, rfl, not_lt.mp (of_decide_eq_false passed)⟩

end Gate

section Registered

open Registry

variable [FloorRing K] (env : RegistrationEnv K) (geodesicPoint : GeodesicPoint K) (dir : TerrainDir K)

-- CachedHaatProvider over the WInnForum provider of a terrain directory.
def nedHaatCache (roundTo : Nat → K → K) (datasetVersion : String) (maxEntries : Nat) : HaatCacheEnv K :=
  ⟨roundTo, datasetVersion, maxEntries, trueHaat geodesicPoint dir⟩

theorem true_haat_read (call : HaatCall K) (haat : K) (found : trueHaat geodesicPoint dir call = .ok haat) :
    ∃ elevations, ((samplePlaces geodesicPoint call.lat call.lon).mapM fun place => groundElevation dir place.1 place.2) =
      .ok elevations ∧ haat = haatOf call (normalized elevations) := by
  obtain ⟨_, _, later⟩ := Collect.bind_ok _ _ _ found
  obtain ⟨elevations, read, same⟩ := Collect.bind_ok _ _ _ later
  cases same
  exact ⟨elevations, read, rfl⟩

-- Registration with its outdoor gate on what the provider answers.
def terrainGated (answer : HaatCall K → Except TerrainError K) : RegistrationEnv K :=
  { env with catAOutdoorHaatExceeds := haatGate env.readers answer }

theorem outdoor_gate_passed (answer : HaatCall K → Except TerrainError K) (request merged installation : Json K)
    (ran : checkRegistration (terrainGated env answer) request = .ok merged) (installed : installationOf merged = .ok installation)
    (category : (merged.field "cbsdCategory").isText "A" = true) (outdoor : isFalse (installation.field "indoorDeployment") = true)
    (latRead : (installation.field "latitude").number.isSome = true) (lonRead : (installation.field "longitude").number.isSome = true)
    (heightRead : (installation.field "height").number.isSome = true) : haatGate env.readers answer installation = false := by
  obtain ⟨held, accepted⟩ := check_registration_accepted _ request merged ran
  have sameInstallation : held = installation := Except.ok.inj (accepted.installed.symm.trans installed)
  subst sameInstallation
  have complete := accepted.complete
  simp only [hasPendingParams, Bool.or_eq_false_iff, requiredCommon, List.any_cons, List.any_nil, fieldMissing] at complete
  have typed : (held.field "heightType").isNull = false := complete.1.1.2.2.2.2.1
  have outside := valid_outdoor _ request merged held accepted.valid
  simp only [invalidOutdoor, category, outdoor, latRead, lonRead, heightRead, typed, Bool.true_and, Bool.not_false,
    Bool.or_eq_false_iff] at outside
  exact outside.2

variable (roundTo : Nat → K → K) (datasetVersion : String) (maxEntries : Nat)

-- An outdoor category A device that registers was found at most 6 m over the average of terrain that could be read at the
-- site and at every place of its radials, for a call that the cache does not tell from its own.
theorem registered_within_haat (events : List (HaatEvent K)) (last : HaatServer K)
    (run : Runs.run (haatStep (nedHaatCache geodesicPoint dir roundTo datasetVersion maxEntries)) events HaatServer.start = some last)
    (answer : HaatCall K → Except TerrainError K) (request merged installation : Json K)
    (ran : checkRegistration (terrainGated env answer) request = .ok merged) (installed : installationOf merged = .ok installation)
    (category : (merged.field "cbsdCategory").isText "A" = true) (outdoor : isFalse (installation.field "indoorDeployment") = true)
    (asked : HaatCall K) (latRead : (installation.field "latitude").number = some asked.lat)
    (lonRead : (installation.field "longitude").number = some asked.lon)
    (heightRead : (installation.field "height").number = some asked.heightM)
    (reference : asked.heightIsAgl = !(installation.field "heightType").isText "AMSL")
    (answered : (asked, answer asked) ∈ last.answers) :
    ∃ call elevations,
      haatKey (nedHaatCache geodesicPoint dir roundTo datasetVersion maxEntries) call =
        haatKey (nedHaatCache geodesicPoint dir roundTo datasetVersion maxEntries) asked ∧
      ((samplePlaces geodesicPoint call.lat call.lon).mapM fun place => groundElevation dir place.1 place.2) = .ok elevations ∧
      haatOf call (normalized elevations) ≤ catAOutdoorHaatLimitM := by
  have passed := outdoor_gate_passed env answer request merged installation ran installed category outdoor
    (Option.isSome_of_eq_some latRead) (Option.isSome_of_eq_some lonRead) (Option.isSome_of_eq_some heightRead)
  obtain ⟨haat, isAnswer, small⟩ := gate_open env.readers answer installation _ _ _ latRead lonRead heightRead passed
  rw [← reference] at isAnswer
  have isRight := (haat_run_invariant _ events last run).answered _ answered
  dsimp only at isRight
  rw [isAnswer] at isRight
  obtain ⟨call, sameKey, computed⟩ := isRight
  obtain ⟨elevations, read, isHaat⟩ := true_haat_read geodesicPoint dir call haat computed
  exact ⟨call, elevations, sameKey, read, isHaat ▸ small⟩

end Registered

section Terrace

open Registry

def siteCall : HaatCall Rat := ⟨40, -100, 3, true⟩

-- The plane that touches the globe at the site, in degrees of 111 km to the north and of 85 km to the east.
def bearingParts (bearing : Rat) : Rat × Rat :=
  if bearing = 0 then (1, 0)
  else if bearing = 45 then (707 / 1000, 707 / 1000)
  else if bearing = 90 then (0, 1)
  else if bearing = 135 then (-707 / 1000, 707 / 1000)
  else if bearing = 180 then (-1, 0)
  else if bearing = 225 then (-707 / 1000, -707 / 1000)
  else if bearing = 270 then (0, -1)
  else (707 / 1000, -707 / 1000)

def planePoint : GeodesicPoint Rat := fun lat lon distance bearing =>
  (lat + distance * (bearingParts bearing).1 / 111, lon + distance * (bearingParts bearing).2 / 85)

theorem terrace_samples (places : List (Rat × Rat)) (valid : ∀ place ∈ places, validateCoords place.1 place.2 = .ok ()) :
    (places.mapM fun place => groundElevation terraceDir place.1 place.2) =
      .ok (places.map fun place => rasterElevation terrace place.1 place.2) := by
  induction places with
  | nil => rfl
  | cons place rest ih =>
      rw [List.mapM_cons, terrace_ground _ _ (valid place List.mem_cons_self),
        ih fun other member => valid other (List.mem_cons_of_mem place member)]
      rfl

-- The site is half way up the ridge with two radials along it, and the six others are over the plain: the limit is just met.
theorem site_haat : trueHaat planePoint terraceDir siteCall = .ok 6 := by
  have checked : validateCoords siteCall.lat siteCall.lon = .ok () := by decide +kernel
  have site : haatOf siteCall (normalized ((samplePlaces planePoint siteCall.lat siteCall.lon).map fun place =>
      rasterElevation terrace place.1 place.2)) = 6 := by decide +kernel
  have read := terrace_samples (samplePlaces planePoint siteCall.lat siteCall.lon) (by decide +kernel)
  rw [trueHaat, checked, read]
  exact congrArg Except.ok site

def outdoorInstallation : Json Rat :=
  .object [("latitude", .int 40), ("longitude", .int (-100)), ("height", .int 3), ("heightType", .text "AGL"),
    ("indoorDeployment", .bool false)]

def outdoorRequest : Json Rat :=
  .object [("fccId", .text "fcc"), ("cbsdSerialNumber", .text "1"), ("userId", .text "user"), ("cbsdCategory", .text "A"),
    ("airInterface", .object [("radioTechnology", .text "E_UTRA")]), ("installationParam", outdoorInstallation)]

def outdoorEnv : RegistrationEnv Rat where
  readers := ⟨fun _ => none, fun _ => none, fun _ => none, fun _ => 0, fun _ => ""⟩
  blacklisted := fun _ _ => false
  verifyRequestCpi := fun _ => .ok none
  conditionals := fun _ _ => .object []
  fccMaxEirp := fun _ => some 47
  userKnown := fun _ => true
  catAOutdoorHaatExceeds := fun _ => false
  quietZoneBlocks := fun _ _ => false
  registrationOf := fun _ => ⟨some "A", none, []⟩

theorem outdoor_accepted :
    checkRegistration (terrainGated outdoorEnv fun _ => .ok 6) outdoorRequest = .ok outdoorRequest := by
  rfl

theorem registered_within_haat_terrace : ∃ call elevations,
    haatKey (nedHaatCache planePoint terraceDir (fun _ value => value) "1" 2) call =
      haatKey (nedHaatCache planePoint terraceDir (fun _ value => value) "1" 2) siteCall ∧
    ((samplePlaces planePoint call.lat call.lon).mapM fun place => groundElevation terraceDir place.1 place.2) = .ok elevations ∧
    haatOf call (normalized elevations) ≤ catAOutdoorHaatLimitM := by
  obtain ⟨last, run, answered⟩ := first_call_runs (nedHaatCache planePoint terraceDir (fun _ value => value) "1" 2) siteCall 6
    site_haat
  exact registered_within_haat outdoorEnv planePoint terraceDir (fun _ value => value) "1" 2 _ last run (fun _ => .ok 6)
    outdoorRequest outdoorRequest outdoorInstallation outdoor_accepted rfl (by decide +kernel) (by decide +kernel) siteCall
    (by decide +kernel) (by decide +kernel) (by decide +kernel) (by decide +kernel) answered

end Terrace

end SasCore.Terrain
