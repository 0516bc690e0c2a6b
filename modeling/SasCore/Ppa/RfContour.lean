import SasCore.Lib.Smoothing
import SasCore.Lib.Outcomes
import SasCore.Geometry.BufferBox
import SasCore.Ppa.Creation

set_option autoImplicit false
set_option linter.unusedSectionVars false

namespace SasCore.Ppa

open Registry SasCore.Geometry

variable {K : Type} [Field K] [LinearOrder K]

-- What comes out of a path loss that has none: an unavailable backend with its text, or another exception by its class.
inductive EngineFailure where
  | unavailable (text : String)
  | raised (name : String)
deriving DecidableEq, Repr

-- PpaRfContourError with its text, or what the code lets pass.
inductive RfFault where
  | contour (text : String)
  | unavailable (text : String)
  | raised (name : String)
deriving DecidableEq, Repr

-- What calc_hybrid is called with.
structure HybridCall (K : Type) where
  latCbsd : K
  lonCbsd : K
  heightCbsd : K
  latRx : K
  lonRx : K
  heightRx : K
  cbsdIndoor : Bool
  reliability : K
  region : String
  isHeightCbsdAmsl : Bool

-- One number for all azimuths, or one for each.
inductive AntennaGains (K : Type) where
  | same (gain : K)
  | each (gains : List K)

structure PpaRfEngines (K : Type) where
  calcHybrid : HybridCall K → Except EngineFailure K
  antennaStandardGains : List Nat → Json K → Json K → K → Except String (AntennaGains K)
  regionType : Option (K → K → Except String String)

-- The readers of JSON values, math, Vincenty's direct formula and the union that Shapely computes.
structure RfEnv (K : Type) where
  readers : PyReaders K
  math : MathModule K
  geodesicPoint : K → K → K → K → K × K
  unionGeojsonPolygons : List (Json K) → Except RfFault (Json K)

def thresholdPer10mhzDbm : K := -((96 : Nat) : K)
def rxHeightM : K := ((15 : Nat) : K) / ((10 : Nat) : K)
def radialStepKm : K := ((2 : Nat) : K) / ((10 : Nat) : K)
-- int(40.0 / 0.2)
def radialSteps : Nat := 200
def hammingWindow : Nat := 15
def azimuths : List Nat := List.range 360

def distancesKm : List K := (List.range radialSteps).map fun i => radialStepKm * ((i + 1 : Nat) : K)

section Hamming

variable (math : MathModule K)

def hammingShape (windowLen : Nat) : List K :=
  (List.range windowLen).map fun i =>
    ((54 : Nat) : K) / ((100 : Nat) : K) -
      ((46 : Nat) : K) / ((100 : Nat) : K) * math.cos (((2 : Nat) : K) * math.pi * ((i : Nat) : K) / ((windowLen - 1 : Nat) : K))

def hammingWeights (windowLen : Nat) : List K :=
  (hammingShape math windowLen).map fun weight => weight / (hammingShape math windowLen).sum

-- `none` where extended[i + j] raises IndexError.
def hammingFilter (values : List K) (windowLen : Nat) : Option (List K) :=
  if windowLen < 3 || values.isEmpty then some values
  else
    let half := windowLen / 2
    let extended := values.drop (values.length - half) ++ values ++ values.take half
    (List.range values.length).mapM fun i =>
      (hammingWeights math windowLen).zipIdx.foldlM
        (fun acc entry => (extended[i + entry.2]?).map fun value => acc + value * entry.1) 0

end Hamming

section Device

variable (readers : PyReaders K)

-- The installation as the radials read it.
structure RfInstall (K : Type) where
  latitude : K
  longitude : K
  height : K
  antennaGain : K
  indoorDeployment : Bool
  heightAmsl : Bool
  antennaAzimuth : Json K
  antennaBeamwidth : Json K

def maxAllowableEirpDbm10mhz (device : Json K) : Except RfFault K :=
  let install := device.field "installationParam"
  if install.has "eirpCapability" && !(install.field "eirpCapability").isNull then
    match (install.field "eirpCapability").toFloat readers with
    | some eirp => .ok eirp
    | none => .error (.contour "invalid_eirpCapability")
  else
    let category := if (device.field "cbsdCategory").truthy then (device.field "cbsdCategory").toText readers else "A"
    .ok (if PyText.upper category.toList = ['A'] then catAMaxEirp10mhz else catBMaxEirp10mhz)

def requiredInstallKeys : List String := ["latitude", "longitude", "height", "heightType", "antennaGain", "indoorDeployment"]

def requireInstall (device : Json K) : Except RfFault (RfInstall K) :=
  let install := device.field "installationParam"
  if !install.isObject then .error (.contour "missing_installationParam")
  else
    match requiredInstallKeys.find? fun key => !install.has key with
    | some key => .error (.contour ("missing_" ++ key))
    | none =>
        match (install.field "latitude").toFloat readers, (install.field "longitude").toFloat readers,
          (install.field "height").toFloat readers, (install.field "antennaGain").toFloat readers with
        | some latitude, some longitude, some height, some antennaGain =>
            let heightType := PyText.upper ((install.field "heightType").toText readers).toList
            if heightType = "AGL".toList ∨ heightType = "AMSL".toList then
              .ok
                { latitude, longitude, height, antennaGain
                  indoorDeployment := (install.field "indoorDeployment").truthy
                  heightAmsl := heightType = "AMSL".toList
                  antennaAzimuth := install.field "antennaAzimuth"
                  antennaBeamwidth := install.field "antennaBeamwidth" }
            else .error (.contour "invalid_heightType")
        | _, _, _, _ => .error (.contour "invalid_installationParam")

end Device

section Contour

variable (env : RfEnv K) (engines : PpaRfEngines K)

-- The gain toward each azimuth.
def gainList (install : RfInstall K) : Except RfFault (List K) :=
  match engines.antennaStandardGains azimuths install.antennaAzimuth install.antennaBeamwidth install.antennaGain with
  | .error name => .error (.contour ("antenna_gain_failed:" ++ name))
  | .ok (.same gain) => .ok (List.replicate 360 gain)
  | .ok (.each gains) => if gains.length = 360 then .ok gains else .error (.contour "antenna_gain_length")

def regionOf (install : RfInstall K) : Except RfFault String :=
  match engines.regionType with
  | none => .ok "SUBURBAN"
  | some regionType =>
      match regionType install.latitude install.longitude with
      | .error name => .error (.contour ("region_type_failed:" ++ name))
      | .ok region => .ok (if region = "" then "SUBURBAN" else region)

def hybridCall (install : RfInstall K) (region : String) (place : K × K) : HybridCall K where
  latCbsd := install.latitude
  lonCbsd := install.longitude
  heightCbsd := install.height
  latRx := place.1
  lonRx := place.2
  heightRx := rxHeightM
  cbsdIndoor := install.indoorDeployment
  reliability := ((5 : Nat) : K) / ((10 : Nat) : K)
  region := region
  isHeightCbsdAmsl := install.heightAmsl

def pathLossDb (install : RfInstall K) (region : String) (place : K × K) : Except RfFault K :=
  match engines.calcHybrid (hybridCall install region place) with
  | .ok loss => .ok loss
  | .error (.unavailable text) => .error (.unavailable text)
  | .error (.raised name) => .error (.contour ("hybrid_path_loss_failed:" ++ name))

-- Steps at or over the threshold count wherever they lie on the radial.
def radialCoverageKm (install : RfInstall K) (eirpCapability antennaGainDir : K) (region : String) (radial : List (K × K)) :
    Except RfFault K := do
  let count ← radial.foldlM (fun count place => do
    let loss ← pathLossDb engines install region place
    .ok (if thresholdPer10mhzDbm ≤ eirpCapability - install.antennaGain + antennaGainDir - loss then count + 1 else count)) 0
  .ok (((count : Nat) : K) * radialStepKm)

def geodesicPoints (lat lon : K) (distances : List K) (bearing : K) : List (K × K) :=
  distances.map fun distance => env.geodesicPoint lat lon distance bearing

-- The coverage along each azimuth, with the installation.
def contourDists (device : Json K) : Except RfFault (RfInstall K × List K) := do
  let install ← requireInstall env.readers device
  let eirp ← maxAllowableEirpDbm10mhz env.readers device
  let gains ← gainList engines install
  let region ← regionOf engines install
  let dists ← (azimuths.zip gains).mapM fun entry =>
    radialCoverageKm engines install eirp entry.2 region
      (geodesicPoints env install.latitude install.longitude distancesKm ((entry.1 : Nat) : K))
  .ok (install, dists)

-- How far the contour reaches along each azimuth, with the installation.
def contourReach (device : Json K) : Except RfFault (RfInstall K × List K) := do
  let found ← contourDists env engines device
  match hammingFilter env.math found.2 hammingWindow with
  | none => .error (.raised "IndexError")
  | some smoothed => .ok (found.1, smoothed.map fun distance => max distance radialStepKm)

-- Longitude and latitude of the point at that distance.
def vertexAt (install : RfInstall K) (distance : K) (azimuth : Nat) : K × K :=
  (env.geodesicPoint install.latitude install.longitude distance ((azimuth : Nat) : K)).swap

def closeRing (ring : List (K × K)) : List (K × K) := if ring.head? = ring.getLast? then ring else ring ++ ring.take 1

def cbsdRfContourRing (device : Json K) : Except RfFault (List (K × K)) := do
  let found ← contourReach env engines device
  let ring := closeRing ((found.2.zip azimuths).map fun entry => vertexAt env found.1 entry.1 entry.2)
  if ring.length < 4 then .error (.contour "degenerate_rf_contour") else .ok ring

def polygonOf (ring : List (K × K)) : Json K :=
  .object [("type", .text "Polygon"),
    ("coordinates", .array [.array (ring.map fun vertex => .array [.float vertex.1, .float vertex.2])])]

def unionFeature (geometry : Json K) : Json K := feature (.object [("source", .text "ppa_rf_contour")]) geometry

def unionOf (rings : List (List (K × K))) : Except RfFault (Json K) :=
  if rings.isEmpty then .error (.contour "empty_union_input") else env.unionGeojsonPolygons (rings.map polygonOf)

def maximumRfPpaContour (devices : List (Json K)) : Except RfFault (Json K) := do
  if devices.isEmpty then .error (.contour "empty_cluster")
  else do
    let rings ← devices.mapM fun device =>
      if device.isObject then cbsdRfContourRing env engines device else .error (.contour "invalid_device")
    let geometry ← unionOf env rings
    .ok (collection [unionFeature geometry])

-- The device of a registration and of the category of its row, `none` where the registration is no JSON.
def cbsdOrmToPpaDevice (registration : Option (Json K)) (cbsdCategory : Option String) : Except RfFault (Json K) :=
  match registration with
  | none => .error (.contour "invalid_registration_json")
  | some registration =>
      if !registration.isObject then .error (.contour "invalid_registration_json")
      else if !(registration.field "installationParam").isObject then .error (.contour "missing_installationParam")
      else
        let category :=
          if (registration.field "cbsdCategory").truthy then (registration.field "cbsdCategory").toText env.readers
          else match cbsdCategory with
            | some category => if category = "" then "A" else category
            | none => "A"
        .ok (.object [("cbsdCategory", .text (String.ofList (PyText.upper category.toList))),
          ("installationParam", registration.field "installationParam")])

end Contour

section Weights

variable [IsStrictOrderedRing K] (math : MathModule K) (cosine : ∀ x, math.cos x ≤ 1)

include cosine

theorem shape_pos (windowLen : Nat) (weight : K) (member : weight ∈ hammingShape math windowLen) : 0 < weight := by
  obtain ⟨i, _, same⟩ := List.mem_map.mp member
  have bounded := cosine (((2 : Nat) : K) * math.pi * ((i : Nat) : K) / ((windowLen - 1 : Nat) : K))
  have share : (0 : K) < ((46 : Nat) : K) / ((100 : Nat) : K) := by positivity
  have part := mul_le_mul_of_nonneg_left bounded share.le
  have room : ((46 : Nat) : K) / ((100 : Nat) : K) < ((54 : Nat) : K) / ((100 : Nat) : K) :=
    div_lt_div_of_pos_right (Nat.cast_lt.mpr (by decide)) (Nat.cast_pos.mpr (by decide))
  rw [← same]
  linarith

theorem shape_sum_pos (windowLen : Nat) (given : 0 < windowLen) : 0 < (hammingShape math windowLen).sum := by
  refine List.sum_pos _ (shape_pos math cosine windowLen) fun none => ?_
  have length : (hammingShape math windowLen).length = windowLen := by
    rw [hammingShape, List.length_map, List.length_range]
  rw [none] at length
  exact given.ne length

theorem weights_nonneg (windowLen : Nat) (given : 0 < windowLen) (weight : K) (member : weight ∈ hammingWeights math windowLen) :
    0 ≤ weight := by
  obtain ⟨shape, inShape, same⟩ := List.mem_map.mp member
  rw [← same]
  exact div_nonneg (shape_pos math cosine windowLen shape inShape).le (shape_sum_pos math cosine windowLen given).le

theorem weights_whole (windowLen : Nat) (given : 0 < windowLen) : (hammingWeights math windowLen).sum = 1 := by
  have scaled : (hammingWeights math windowLen).sum = (hammingShape math windowLen).sum * (hammingShape math windowLen).sum⁻¹ := by
    simp only [hammingWeights, div_eq_mul_inv, List.sum_map_mul_right, List.map_id']
  rw [scaled, mul_inv_cancel₀ (shape_sum_pos math cosine windowLen given).ne']

end Weights

section Smoothed

variable [IsStrictOrderedRing K] (math : MathModule K)

theorem weights_length (windowLen : Nat) : (hammingWeights math windowLen).length = windowLen := by
  rw [hammingWeights, hammingShape, List.length_map, List.length_map, List.length_range]

-- The values as the windows meet them.
def circular (values : List K) (place : Nat) : K := (Smoothing.wrapped 7 values).getD place 0

theorem circular_read (values : List K) (enough : 7 ≤ values.length) (place offset : Nat) (inside : place < values.length)
    (small : offset < 15) :
    ∃ known : Smoothing.turned values.length 7 place offset < values.length,
      Smoothing.Near values.length 7 place (Smoothing.turned values.length 7 place offset) ∧
      circular values (place + offset) = values[Smoothing.turned values.length 7 place offset] ∧
      (Smoothing.wrapped 7 values)[place + offset]? = some (circular values (place + offset)) := by
  obtain ⟨known, close, read⟩ := Smoothing.window_read 7 values enough place offset inside (by omega)
  rw [List.getElem?_eq_getElem known] at read
  have same : circular values (place + offset) = values[Smoothing.turned values.length 7 place offset] := by
    rw [circular, List.getD_eq_getElem?_getD, read, Option.getD_some]
  exact ⟨known, close, same, same ▸ read⟩

theorem hamming_filter_laid (values : List K) (enough : 7 ≤ values.length) :
    hammingFilter math values hammingWindow =
      some ((List.range values.length).map (Smoothing.laid (circular values) (hammingWeights math hammingWindow))) := by
  have given : (decide (hammingWindow < 3) || values.isEmpty) = false := by
    cases values with
    | nil => cases enough
    | cons => rfl
  rw [hammingFilter, given, if_neg Bool.false_ne_true]
  refine Collect.all_found _ _ _ fun i member => ?_
  have inside := List.mem_range.mp member
  have read := Smoothing.accumulated (fun place => (Smoothing.wrapped 7 values)[place]?) (circular values)
    (hammingWeights math hammingWindow) i 0 0 fun offset small => by
      rw [weights_length] at small
      obtain ⟨_, _, _, found⟩ := circular_read values enough i (0 + offset) inside (by rw [Nat.zero_add]; exact small)
      exact found
  rw [Nat.add_zero, zero_add] at read
  exact read

end Smoothed

section Radials

variable [IsStrictOrderedRing K] (env : RfEnv K) (engines : PpaRfEngines K)

-- A point of a radial where the path loss leaves the threshold.
def covered (install : RfInstall K) (eirp gain : K) (region : String) (place : K × K) : Bool :=
  match pathLossDb engines install region place with
  | .ok loss => decide (thresholdPer10mhzDbm ≤ eirp - install.antennaGain + gain - loss)
  | .error _ => false

def radialAt (install : RfInstall K) (azimuth : Nat) : List (K × K) :=
  geodesicPoints env install.latitude install.longitude distancesKm ((azimuth : Nat) : K)

-- The length of as many steps as there are covered points on the radial.
def coverageKm (install : RfInstall K) (eirp : K) (gains : List K) (region : String) (azimuth : Nat) : K :=
  (((radialAt env install azimuth).countP (covered engines install eirp (gains.getD azimuth 0) region) : Nat) : K) * radialStepKm

theorem step_pos : (0 : K) < radialStepKm := by
  rw [radialStepKm]
  positivity

theorem counted (install : RfInstall K) (eirp gain : K) (region : String) (radial : List (K × K)) (start count : Nat)
    (ran : radial.foldlM (fun count place => do
      let loss ← pathLossDb engines install region place
      .ok (if thresholdPer10mhzDbm ≤ eirp - install.antennaGain + gain - loss then count + 1 else count)) start = .ok count) :
    count = start + radial.countP (covered engines install eirp gain region) := by
  induction radial generalizing start with
  | nil =>
      cases ran
      rfl
  | cons place rest ih =>
      rw [List.foldlM_cons] at ran
      obtain ⟨next, stepped, later⟩ := Collect.bind_ok _ _ _ ran
      obtain ⟨loss, found, isNext⟩ := Collect.bind_ok _ _ _ stepped
      cases isNext
      rw [ih _ later, List.countP_cons, covered, found]
      dsimp only
      by_cases reaches : thresholdPer10mhzDbm ≤ eirp - install.antennaGain + gain - loss
      · rw [if_pos reaches, if_pos (decide_eq_true reaches)]
        omega
      · rw [if_neg reaches, if_neg (by rw [decide_eq_false reaches]; exact Bool.false_ne_true)]
        omega

theorem count_runs (install : RfInstall K) (eirp gain : K) (region : String) (radial : List (K × K))
    (heard : ∀ place ∈ radial, ∃ loss, pathLossDb engines install region place = .ok loss) (start : Nat) :
    radial.foldlM (fun count place => do
      let loss ← pathLossDb engines install region place
      .ok (if thresholdPer10mhzDbm ≤ eirp - install.antennaGain + gain - loss then count + 1 else count)) start =
        .ok (start + radial.countP (covered engines install eirp gain region)) := by
  obtain ⟨count, ran⟩ : ∃ count, radial.foldlM (fun count place => do
      let loss ← pathLossDb engines install region place
      .ok (if thresholdPer10mhzDbm ≤ eirp - install.antennaGain + gain - loss then count + 1 else count)) start = .ok count := by
    induction radial generalizing start with
    | nil => exact ⟨start, rfl⟩
    | cons place rest ih =>
        obtain ⟨loss, found⟩ := heard place List.mem_cons_self
        rw [List.foldlM_cons, found]
        exact ih (fun other member => heard other (List.mem_cons_of_mem place member)) _
  rw [ran, counted engines install eirp gain region radial start count ran]

theorem radial_covered (install : RfInstall K) (eirp gain : K) (region : String) (radial : List (K × K)) (coverage : K)
    (ran : radialCoverageKm engines install eirp gain region radial = .ok coverage) :
    coverage = ((radial.countP (covered engines install eirp gain region) : Nat) : K) * radialStepKm := by
  obtain ⟨count, counting, same⟩ := Collect.bind_ok _ _ _ ran
  cases same
  rw [counted engines install eirp gain region radial 0 count counting, Nat.zero_add]

theorem coverage_within (install : RfInstall K) (eirp : K) (gains : List K) (region : String) (azimuth : Nat) :
    coverageKm env engines install eirp gains region azimuth ≤ (40 : Nat) := by
  have few : (radialAt env install azimuth).countP (covered engines install eirp (gains.getD azimuth 0) region) ≤ 200 := by
    refine le_trans List.countP_le_length ?_
    rw [radialAt, geodesicPoints, List.length_map, distancesKm, List.length_map, List.length_range]
    exact le_refl 200
  calc
    coverageKm env engines install eirp gains region azimuth ≤ ((200 : Nat) : K) * radialStepKm :=
      mul_le_mul_of_nonneg_right (Nat.cast_le.mpr few) step_pos.le
    _ = (40 : Nat) := by
      rw [radialStepKm]
      push_cast
      norm_num

theorem gains_length (install : RfInstall K) (gains : List K) (found : gainList engines install = .ok gains) : gains.length = 360 := by
  rw [gainList] at found
  split at found
  · cases found
  · cases found
    exact List.length_replicate
  · split at found
    · rename_i same
      cases found
      exact same
    · cases found

-- What the radials of a device are measured with.
structure Measured (device : Json K) (install : RfInstall K) (eirp : K) (gains : List K) (region : String) : Prop where
  installed : requireInstall env.readers device = .ok install
  powered : maxAllowableEirpDbm10mhz env.readers device = .ok eirp
  aimed : gainList engines install = .ok gains
  situated : regionOf engines install = .ok region

theorem dists_measured (device : Json K) (install : RfInstall K) (dists : List K)
    (ran : contourDists env engines device = .ok (install, dists)) :
    ∃ eirp gains region, Measured env engines device install eirp gains region ∧
      dists = (List.range 360).map (coverageKm env engines install eirp gains region) := by
  obtain ⟨found, installed, powering⟩ := Collect.bind_ok _ _ _ ran
  obtain ⟨eirp, powered, aiming⟩ := Collect.bind_ok _ _ _ powering
  obtain ⟨gains, aimed, situating⟩ := Collect.bind_ok _ _ _ aiming
  obtain ⟨region, situated, measuring⟩ := Collect.bind_ok _ _ _ situating
  obtain ⟨measured, all, same⟩ := Collect.bind_ok _ _ _ measuring
  cases same
  refine ⟨eirp, gains, region, ⟨installed, powered, aimed, situated⟩, ?_⟩
  have lengths : (azimuths.zip gains).length = 360 := by
    rw [List.length_zip, azimuths, List.length_range, gains_length engines install gains aimed, min_self]
  have each := Collect.all_ok _ _ _ all
  have measuredLength : dists.length = 360 := by
    have same := congrArg List.length each
    rw [List.length_map, List.length_map, lengths] at same
    exact same.symm
  refine List.ext_getElem (by rw [measuredLength, List.length_map, List.length_range]) fun azimuth known _ => ?_
  have inside : azimuth < 360 := measuredLength ▸ known
  have here := List.getElem_of_eq each (i := azimuth) (by rw [List.length_map, lengths]; exact inside)
  simp only [List.getElem_map, List.getElem_zip, azimuths, List.getElem_range] at here
  rw [List.getElem_map, List.getElem_range, coverageKm, radial_covered engines install eirp _ region _ _ here]
  rw [List.getD_eq_getElem?_getD, List.getElem?_eq_getElem (by rw [gains_length engines install gains aimed]; exact inside),
    Option.getD_some]
  rfl

end Radials

section Reach

variable [IsStrictOrderedRing K] (env : RfEnv K) (engines : PpaRfEngines K)

-- The smoothed coverage of an azimuth, one step at least.
def reachKm (install : RfInstall K) (eirp : K) (gains : List K) (region : String) (azimuth : Nat) : K :=
  max (Smoothing.laid (circular ((List.range 360).map (coverageKm env engines install eirp gains region)))
    (hammingWeights env.math hammingWindow) azimuth) radialStepKm

theorem reach_measured (device : Json K) (install : RfInstall K) (reach : List K)
    (ran : contourReach env engines device = .ok (install, reach)) :
    ∃ eirp gains region, Measured env engines device install eirp gains region ∧
      reach = (List.range 360).map (reachKm env engines install eirp gains region) := by
  obtain ⟨⟨found, dists⟩, measuring, smoothing⟩ := Collect.bind_ok _ _ _ ran
  have length : ∀ f : Nat → K, ((List.range 360).map f).length = 360 := fun f => by rw [List.length_map, List.length_range]
  obtain ⟨eirp, gains, region, measured, isDists⟩ := dists_measured env engines device found dists measuring
  rw [hamming_filter_laid env.math dists (by rw [isDists, length]; decide)] at smoothing
  cases smoothing
  refine ⟨eirp, gains, region, measured, ?_⟩
  rw [List.map_map, isDists, length]
  rfl

variable (install : RfInstall K) (eirp : K) (gains : List K) (region : String)

-- The windows of an azimuth take in the azimuths within seven degrees of it.
theorem coverage_read (azimuth offset : Nat) (inside : azimuth < 360) (small : offset < 15) :
    Smoothing.turned 360 7 azimuth offset < 360 ∧ Smoothing.Near 360 7 azimuth (Smoothing.turned 360 7 azimuth offset) ∧
      circular ((List.range 360).map (coverageKm env engines install eirp gains region)) (azimuth + offset) =
        coverageKm env engines install eirp gains region (Smoothing.turned 360 7 azimuth offset) := by
  have length : ((List.range 360).map (coverageKm env engines install eirp gains region)).length = 360 := by
    rw [List.length_map, List.length_range]
  obtain ⟨known, close, read, _⟩ := circular_read _ (by rw [length]; decide) azimuth offset (by rw [length]; exact inside) small
  rw [List.getElem_map, List.getElem_range] at read
  rw [length] at known close read
  exact ⟨known, close, read⟩

variable (cosine : ∀ x, env.math.cos x ≤ 1)

include cosine

theorem reach_within (azimuth : Nat) (inside : azimuth < 360) :
    radialStepKm ≤ reachKm env engines install eirp gains region azimuth ∧
      reachKm env engines install eirp gains region azimuth ≤ (40 : Nat) ∧
      (∃ near < 360, Smoothing.Near 360 7 azimuth near ∧
        coverageKm env engines install eirp gains region near ≤ reachKm env engines install eirp gains region azimuth) ∧
      ∃ near < 360, Smoothing.Near 360 7 azimuth near ∧
        reachKm env engines install eirp gains region azimuth ≤ max (coverageKm env engines install eirp gains region near) radialStepKm := by
  have given : hammingWeights env.math hammingWindow ≠ [] := fun none => by
    have length := weights_length env.math hammingWindow
    rw [none] at length
    cases length
  obtain ⟨⟨lower, lowerSmall, below⟩, upper, upperSmall, above⟩ := Smoothing.laid_between
    (circular ((List.range 360).map (coverageKm env engines install eirp gains region))) (hammingWeights env.math hammingWindow)
    (weights_nonneg env.math cosine hammingWindow (by decide)) (weights_whole env.math cosine hammingWindow (by decide)) azimuth given
  rw [weights_length] at lowerSmall upperSmall
  obtain ⟨shorterIn, shorterNear, isShorter⟩ :=
    coverage_read env engines install eirp gains region azimuth lower inside lowerSmall
  obtain ⟨longerIn, longerNear, isLonger⟩ :=
    coverage_read env engines install eirp gains region azimuth upper inside upperSmall
  rw [isShorter] at below
  rw [isLonger] at above
  refine ⟨le_max_right _ _, ?_, ⟨_, shorterIn, shorterNear, le_trans below (le_max_left _ _)⟩, _, longerIn, longerNear,
    max_le_max_right _ above⟩
  have step : (radialStepKm : K) ≤ (40 : Nat) := by
    rw [radialStepKm]
    push_cast
    norm_num
  exact max_le (le_trans above (coverage_within env engines install eirp gains region _)) step

end Reach

section Rings

variable [IsStrictOrderedRing K] (env : RfEnv K) (engines : PpaRfEngines K)

theorem ring_closed (ring : List (K × K)) : (closeRing ring).head? = (closeRing ring).getLast? := by
  rw [closeRing]
  split
  · assumption
  · cases ring with
    | nil => rfl
    | cons vertex rest =>
        rw [List.take_succ_cons, List.take_zero, List.getLast?_append, List.cons_append, List.head?_cons]
        rfl

theorem ring_long (vertices : List (K × K)) (all : vertices.length = 360) : 360 ≤ (closeRing vertices).length := by
  rw [closeRing]
  split
  · exact all.ge
  · rw [List.length_append, all]
    exact Nat.le_add_right 360 _

-- A ring of one vertex for each degree, closed. Each vertex lies in its direction, a step to 40 km away, and
-- between the coverages of two azimuths within seven degrees of its own.
structure RfRing (device : Json K) (ring : List (K × K)) : Prop where
  measured : ∃ install eirp gains region, ∃ reach : Nat → K, Measured env engines device install eirp gains region ∧
    ring = closeRing ((List.range 360).map fun azimuth => vertexAt env install (reach azimuth) azimuth) ∧
    ∀ azimuth < 360, radialStepKm ≤ reach azimuth ∧ reach azimuth ≤ (40 : Nat) ∧
      (∃ near < 360, Smoothing.Near 360 7 azimuth near ∧ coverageKm env engines install eirp gains region near ≤ reach azimuth) ∧
      ∃ near < 360, Smoothing.Near 360 7 azimuth near ∧
        reach azimuth ≤ max (coverageKm env engines install eirp gains region near) radialStepKm
  closed : ring.head? = ring.getLast?
  long : 360 ≤ ring.length

theorem ring_made (cosine : ∀ x, env.math.cos x ≤ 1) (device : Json K) (ring : List (K × K))
    (made : cbsdRfContourRing env engines device = .ok ring) : RfRing env engines device ring := by
  obtain ⟨⟨install, reach⟩, reaching, closing⟩ := Collect.bind_ok _ _ _ made
  obtain ⟨eirp, gains, region, measured, isReach⟩ := reach_measured env engines device install reach reaching
  have vertices : (reach.zip azimuths).map (fun entry => vertexAt env install entry.1 entry.2) =
      (List.range 360).map fun azimuth => vertexAt env install (reachKm env engines install eirp gains region azimuth) azimuth := by
    refine List.ext_getElem (by simp [isReach, azimuths]) fun azimuth _ _ => ?_
    simp only [isReach, azimuths, List.getElem_map, List.getElem_zip, List.getElem_range]
  dsimp only at closing
  rw [vertices] at closing
  split at closing
  · cases closing
  · cases closing
    refine ⟨⟨install, eirp, gains, region, _, measured, rfl, fun azimuth inside => ?_⟩, ring_closed _, ?_⟩
    · exact reach_within env engines install eirp gains region cosine azimuth inside
    · exact ring_long _ (by rw [List.length_map, List.length_range])

theorem reach_exists (device : Json K) (install : RfInstall K) (eirp : K) (gains : List K) (region : String)
    (measured : Measured env engines device install eirp gains region)
    (heard : ∀ azimuth < 360, ∀ place ∈ radialAt env install azimuth, ∃ loss, pathLossDb engines install region place = .ok loss) :
    ∃ reach, contourReach env engines device = .ok (install, reach) ∧ reach.length = 360 := by
  have length := gains_length engines install gains measured.aimed
  have counting : ∀ (gain : K) (radial : List (K × K)), (∀ place ∈ radial, ∃ loss, pathLossDb engines install region place = .ok loss) →
      radialCoverageKm engines install eirp gain region radial =
        .ok (((radial.countP (covered engines install eirp gain region) : Nat) : K) * radialStepKm) := by
    intro gain radial answered
    rw [radialCoverageKm, count_runs engines install eirp gain region radial answered 0, Nat.zero_add]
    rfl
  have dists : contourDists env engines device = .ok (install, (azimuths.zip gains).map fun entry =>
      (((radialAt env install entry.1).countP (covered engines install eirp entry.2 region) : Nat) : K) * radialStepKm) := by
    simp only [contourDists, measured.installed, measured.powered, measured.aimed, measured.situated, bind, Except.bind]
    have each := Collect.each_ok (fun entry : Nat × K => radialCoverageKm engines install eirp entry.2 region
        (geodesicPoints env install.latitude install.longitude distancesKm ((entry.1 : Nat) : K))) _ (azimuths.zip gains)
      fun entry member => counting entry.2 _ (heard entry.1 (List.mem_range.mp (List.of_mem_zip member).1))
    rw [each]
    rfl
  have size : ((azimuths.zip gains).map fun entry =>
      (((radialAt env install entry.1).countP (covered engines install eirp entry.2 region) : Nat) : K) * radialStepKm).length = 360 := by
    rw [List.length_map, List.length_zip, azimuths, List.length_range, length, min_self]
  rw [contourReach, dists]
  simp only [bind, Except.bind]
  rw [hamming_filter_laid env.math _ (by rw [size]; decide), size]
  exact ⟨_, rfl, by rw [List.length_map, List.length_map, List.length_range]⟩

-- A ring fails only with what it is measured with, or with a path loss toward one of its points.
theorem ring_exists (device : Json K) (install : RfInstall K) (eirp : K) (gains : List K) (region : String)
    (measured : Measured env engines device install eirp gains region)
    (heard : ∀ azimuth < 360, ∀ place ∈ radialAt env install azimuth, ∃ loss, pathLossDb engines install region place = .ok loss) :
    ∃ ring, cbsdRfContourRing env engines device = .ok ring := by
  obtain ⟨reach, ran, size⟩ := reach_exists env engines device install eirp gains region measured heard
  have long : ¬ (closeRing ((reach.zip azimuths).map fun entry => vertexAt env install entry.1 entry.2)).length < 4 := by
    refine not_lt_of_ge (le_trans (by decide) (ring_long _ ?_))
    rw [List.length_map, List.length_zip, size, azimuths, List.length_range, min_self]
  rw [cbsdRfContourRing, ran]
  exact ⟨_, if_neg long⟩

end Rings

section Growth

variable [IsStrictOrderedRing K] (env : RfEnv K) (engines : PpaRfEngines K)

-- The power toward each azimuth.
def eirpToward (device : Json K) : Except RfFault (List K) := do
  let install ← requireInstall env.readers device
  let eirp ← maxAllowableEirpDbm10mhz env.readers device
  let gains ← gainList engines install
  .ok (gains.map fun gain => eirp - install.antennaGain + gain)

structure AtOnePlace (first second : RfInstall K) : Prop where
  latitude : first.latitude = second.latitude
  longitude : first.longitude = second.longitude
  height : first.height = second.height
  indoorDeployment : first.indoorDeployment = second.indoorDeployment
  heightAmsl : first.heightAmsl = second.heightAmsl

variable (first second : RfInstall K) (place : AtOnePlace first second)

include place

theorem region_shared : regionOf engines first = regionOf engines second := by
  rw [regionOf, regionOf, place.latitude, place.longitude]

theorem loss_shared (region : String) (point : K × K) : pathLossDb engines first region point = pathLossDb engines second region point := by
  have same : hybridCall first region point = hybridCall second region point := by
    simp only [hybridCall, place.latitude, place.longitude, place.height, place.indoorDeployment, place.heightAmsl]
  rw [pathLossDb, pathLossDb, same]

theorem coverage_grows (firstEirp secondEirp : K) (firstGains secondGains : List K) (region : String) (azimuth : Nat)
    (stronger : firstEirp - first.antennaGain + firstGains.getD azimuth 0 ≤ secondEirp - second.antennaGain + secondGains.getD azimuth 0) :
    coverageKm env engines first firstEirp firstGains region azimuth ≤
      coverageKm env engines second secondEirp secondGains region azimuth := by
  refine mul_le_mul_of_nonneg_right (Nat.cast_le.mpr ?_) step_pos.le
  have radial : radialAt env first azimuth = radialAt env second azimuth := by
    rw [radialAt, radialAt, place.latitude, place.longitude]
  rw [radial]
  refine List.countP_mono_left fun point _ reached => ?_
  rw [covered, loss_shared engines first second place] at reached
  rw [covered]
  cases loss : pathLossDb engines second region point with
  | error fault =>
      rw [loss] at reached
      cases reached
  | ok found =>
      rw [loss] at reached
      have before := of_decide_eq_true reached
      exact decide_eq_true (by linarith)

omit place in
theorem power_known (device : Json K) (install : RfInstall K) (eirp : K) (gains : List K) (region : String) (power : List K)
    (measured : Measured env engines device install eirp gains region) (toward : eirpToward env engines device = .ok power)
    (azimuth : Nat) (inside : azimuth < 360) : power.getD azimuth 0 = eirp - install.antennaGain + gains.getD azimuth 0 := by
  simp only [eirpToward, measured.installed, measured.powered, measured.aimed, bind, Except.bind] at toward
  cases toward
  have length := gains_length engines install gains measured.aimed
  rw [List.getD_eq_getElem?_getD, List.getD_eq_getElem?_getD, List.getElem?_map,
    List.getElem?_eq_getElem (length ▸ inside), Option.map_some, Option.getD_some, Option.getD_some]

-- With at least as much power toward all azimuths within seven degrees of one, a contour reaches at least as far along it,
-- whatever the power is elsewhere.
theorem reach_grows (cosine : ∀ x, env.math.cos x ≤ 1) (device other : Json K) (reach otherReach power otherPower : List K)
    (ran : contourReach env engines device = .ok (first, reach)) (otherRan : contourReach env engines other = .ok (second, otherReach))
    (toward : eirpToward env engines device = .ok power) (otherToward : eirpToward env engines other = .ok otherPower)
    (azimuth : Nat) (inside : azimuth < 360)
    (stronger : ∀ near < 360, Smoothing.Near 360 7 azimuth near → power.getD near 0 ≤ otherPower.getD near 0) :
    reach.getD azimuth 0 ≤ otherReach.getD azimuth 0 := by
  obtain ⟨eirp, gains, region, measured, isReach⟩ := reach_measured env engines device first reach ran
  obtain ⟨otherEirp, otherGains, otherRegion, otherMeasured, isOther⟩ := reach_measured env engines other second otherReach otherRan
  have oneRegion : region = otherRegion := by
    have shared := measured.situated.symm.trans ((region_shared engines first second place).trans otherMeasured.situated)
    injection shared
  have read : ∀ f : Nat → K, ((List.range 360).map f).getD azimuth 0 = f azimuth := fun f => by
    rw [List.getD_eq_getElem?_getD, List.getElem?_map, List.getElem?_range inside, Option.map_some, Option.getD_some]
  rw [isReach, isOther, read, read, ← oneRegion]
  refine max_le_max_right _ (Smoothing.laid_mono _ _ _ (weights_nonneg env.math cosine hammingWindow (by decide)) azimuth ?_)
  intro offset small
  rw [weights_length] at small
  obtain ⟨known, close, isFirst⟩ := coverage_read env engines first eirp gains region azimuth offset inside small
  obtain ⟨_, _, isSecond⟩ := coverage_read env engines second otherEirp otherGains region azimuth offset inside small
  rw [isFirst, isSecond]
  refine coverage_grows env engines first second place eirp otherEirp gains otherGains region _ ?_
  rw [← power_known env engines device first eirp gains region power measured toward _ known,
    ← power_known env engines other second otherEirp otherGains otherRegion otherPower otherMeasured otherToward _ known]
  exact stronger _ known close

end Growth

section Cluster

variable [IsStrictOrderedRing K] (env : RfEnv K) (engines : PpaRfEngines K) (registrationJson : Cbsd K → Option (Json K))

-- The contour of a cluster as creation asks for it; what is raised past PpaRfContourError goes by its text.
def rfMaximum (cbsds : List (Cbsd K)) : Except String (Json K) :=
  let contour := do
    let devices ← cbsds.mapM fun cbsd => cbsdOrmToPpaDevice env (registrationJson cbsd) cbsd.cbsdCategory
    maximumRfPpaContour env engines devices
  contour.mapError fun fault =>
    match fault with
    | .contour text => "rf_contour_unavailable:" ++ text
    | .unavailable text => text
    | .raised name => name

def withRfEngines (creation : PpaEnv K) : PpaEnv K := { creation with maximumRfPpaContour := rfMaximum env engines registrationJson }

theorem with_rf_maximum (creation : PpaEnv K) (cbsds : List (Cbsd K)) :
    (withRfEngines env engines registrationJson creation).maximumRfPpaContour cbsds = rfMaximum env engines registrationJson cbsds :=
  rfl

theorem maximum_rings (cosine : ∀ x, env.math.cos x ≤ 1) (devices : List (Json K)) (contour : Json K)
    (made : maximumRfPpaContour env engines devices = .ok contour) :
    ∃ rings geometry, rings ≠ [] ∧ List.Forall₂ (RfRing env engines) devices rings ∧
      env.unionGeojsonPolygons (rings.map polygonOf) = .ok geometry ∧ contour = collection [unionFeature geometry] := by
  rw [maximumRfPpaContour] at made
  split at made
  · cases made
  · obtain ⟨rings, all, uniting⟩ := Collect.bind_ok _ _ _ made
    obtain ⟨geometry, united, same⟩ := Collect.bind_ok _ _ _ uniting
    cases same
    have pairs := (Outcomes.turn_pairs _ devices rings all).imp fun device ring ringed => by
      split at ringed
      · exact ring_made env engines cosine device ring ringed
      · cases ringed
    rw [unionOf] at united
    split at united
    · cases united
    · rename_i given
      exact ⟨rings, geometry, fun none => given (by rw [none]; rfl), pairs, united, rfl⟩

theorem rf_maximum_rings (cosine : ∀ x, env.math.cos x ≤ 1) (cbsds : List (Cbsd K)) (contour : Json K)
    (made : rfMaximum env engines registrationJson cbsds = .ok contour) :
    ∃ devices rings geometry,
      List.Forall₂ (fun (cbsd : Cbsd K) device => cbsdOrmToPpaDevice env (registrationJson cbsd) cbsd.cbsdCategory = .ok device)
        cbsds devices ∧
      rings ≠ [] ∧ List.Forall₂ (RfRing env engines) devices rings ∧
      env.unionGeojsonPolygons (rings.map polygonOf) = .ok geometry ∧ contour = collection [unionFeature geometry] := by
  rw [rfMaximum] at made
  cases ran : (do
    let devices ← cbsds.mapM fun cbsd => cbsdOrmToPpaDevice env (registrationJson cbsd) cbsd.cbsdCategory
    maximumRfPpaContour env engines devices) with
  | error fault =>
      rw [ran] at made
      cases made
  | ok found =>
      rw [ran] at made
      cases made
      obtain ⟨devices, read, maximum⟩ := Collect.bind_ok _ _ _ ran
      obtain ⟨rings, geometry, given, pairs, united, same⟩ := maximum_rings env engines cosine devices contour maximum
      exact ⟨devices, rings, geometry, Outcomes.turn_pairs _ cbsds devices read, given, pairs, united, same⟩

theorem rf_maximum_one (cbsd : Cbsd K) (device geometry : Json K) (ring : List (K × K))
    (read : cbsdOrmToPpaDevice env (registrationJson cbsd) cbsd.cbsdCategory = .ok device) (isDict : device.isObject = true)
    (ringed : cbsdRfContourRing env engines device = .ok ring) (united : env.unionGeojsonPolygons [polygonOf ring] = .ok geometry) :
    rfMaximum env engines registrationJson [cbsd] = .ok (collection [unionFeature geometry]) := by
  simp only [rfMaximum, List.mapM_cons, List.mapM_nil, read, bind, Except.bind, pure, Except.pure, maximumRfPpaContour, List.isEmpty_cons,
    Bool.false_eq_true, if_false, isDict, if_true, ringed, unionOf, List.map_cons, List.map_nil, united]
  rfl

theorem claimed_covered (creation : PpaEnv K) (serviceArea : Option (Json K)) (contour provided claimed : Json K)
    (made : claimedContour creation serviceArea contour provided = .ok claimed) :
    creation.polygonCoveredBy claimed contour = .ok true := by
  -- The geometry is usable, the claim lies in the area: what is left is the comparison with the maximum.
  have settle : ∀ (area : Except String Bool) (usable : Bool), (if !usable then .error "invalid_providedContour" else do
      let inArea ← area
      if !inArea then .error "claimedBoundary_outside_service_area"
      else do
        let covered ← creation.polygonCoveredBy (asFeatureCollection provided) contour
        if covered then .ok (asFeatureCollection provided) else .error "claimedBoundary_exceeds_rf_maximum") = .ok claimed →
      creation.polygonCoveredBy claimed contour = .ok true := by
    intro area usable ran
    cases usable with
    | false => cases ran
    | true =>
        obtain ⟨inArea, _, comparing⟩ := Collect.bind_ok _ _ _ ran
        cases inArea with
        | false => cases comparing
        | true =>
            obtain ⟨within, isWithin, ending⟩ := Collect.bind_ok _ _ _ comparing
            cases within with
            | false => cases ending
            | true =>
                cases ending
                exact isWithin
  obtain ⟨whole, _, checking⟩ := Collect.bind_ok _ _ _ made
  cases whole with
  | true =>
      cases serviceArea with
      | none => exact settle (.ok true) true checking
      | some area => exact settle (creation.polygonWithinServiceArea (asFeatureCollection provided) area) true checking
  | false =>
      obtain ⟨usable, _, accepting⟩ := Collect.bind_ok _ _ _ checking
      cases serviceArea with
      | none => exact settle (.ok true) usable accepting
      | some area => exact settle (creation.polygonWithinServiceArea (asFeatureCollection provided) area) usable accepting

-- No PPA gets a contour unless every CBSD of its cluster has a ring of its own; the contour is their union, clipped, or
-- claimed within that.
theorem ppa_contour_rings (creation : PpaEnv K) (cosine : ∀ x, env.math.cos x ≤ 1) (tables : PpaTables K) (body : Json K)
    (selected : List (Json K)) (cbsds : List (Cbsd K)) (locations : List (K × K)) (contour : Json K)
    (made : ppaContour (withRfEngines env engines registrationJson creation) tables body selected cbsds locations = .ok contour) :
    ∃ devices rings geometry serviceArea inCensus clipped,
      List.Forall₂ (fun (cbsd : Cbsd K) device => cbsdOrmToPpaDevice env (registrationJson cbsd) cbsd.cbsdCategory = .ok device)
        cbsds devices ∧
      rings ≠ [] ∧ List.Forall₂ (RfRing env engines) devices rings ∧ env.unionGeojsonPolygons (rings.map polygonOf) = .ok geometry ∧
      clipInside creation creation.census locations "contour_outside_census" (collection [unionFeature geometry]) = .ok inCensus ∧
      clipInside creation serviceArea locations "cbsd_outside_max_contour" inCensus = .ok clipped ∧
      (contour = clipped ∨ creation.polygonCoveredBy contour clipped = .ok true) := by
  obtain ⟨serviceArea, _, checking⟩ := Collect.bind_ok _ _ _ made
  obtain ⟨_, _, checkingCensus⟩ := Collect.bind_ok _ _ _ checking
  obtain ⟨_, _, widening⟩ := Collect.bind_ok _ _ _ checkingCensus
  obtain ⟨widest, widened, inCensusClip⟩ := Collect.bind_ok _ _ _ widening
  obtain ⟨inCensus, censused, areaClip⟩ := Collect.bind_ok _ _ _ inCensusClip
  obtain ⟨clipped, isClipped, ending⟩ := Collect.bind_ok _ _ _ areaClip
  obtain ⟨devices, rings, geometry, read, given, pairs, united, isWidest⟩ :=
    rf_maximum_rings env engines registrationJson cosine cbsds widest widened
  refine ⟨devices, rings, geometry, serviceArea, inCensus, clipped, read, given, pairs, united, isWidest ▸ censused, isClipped, ?_⟩
  dsimp only at ending
  split at ending
  · cases ending
    exact .inl rfl
  · exact .inr (claimed_covered creation serviceArea clipped _ contour ending)

end Cluster

-- With no PAL, no dataset and nothing claimed, the contour is the widest one.
theorem unlimited_contour (creation : PpaEnv K) (tables : PpaTables K) (cbsds : List (Cbsd K)) (locations : List (K × K)) (widest : Json K)
    (uncut : creation.census = none) (unconfigured : tables.config = none)
    (widened : creation.maximumRfPpaContour cbsds = .ok widest) :
    ppaContour creation tables (.object []) [] cbsds locations = .ok widest := by
  have areas : unionServiceAreas creation [] = .ok none := rfl
  have unclaimed : (Injection.orValue ((Json.object [] : Json K).field "providedContour")
      ((Json.object [] : Json K).field "claimedBoundary")).isNull = true := rfl
  simp only [ppaContour, areas, uncut, pcrConfig, unconfigured, checkDataset, clipInside, unclaimed, widened, bind, Except.bind,
    Bool.false_eq_true, if_false, if_true]

noncomputable section Rooftop

-- Flat ground, with the same loss everywhere; a single polygon is its own union.
def rooftopEnv : RfEnv ℝ where
  readers := ⟨fun _ => none, fun _ => none, fun _ => none, fun _ => 0, fun _ => ""⟩
  math := realMath
  geodesicPoint := fun lat lon distance bearing =>
    (lat + distance / (111 : Nat) * Real.cos (radians realMath bearing), lon + distance / (111 : Nat) * Real.sin (radians realMath bearing))
  unionGeojsonPolygons := fun polygons =>
    match polygons with
    | [polygon] => .ok polygon
    | _ => .error (.contour "union_failed:GEOSException")

def rooftopEngines : PpaRfEngines ℝ where
  calcHybrid := fun _ => .ok (100 : Nat)
  antennaStandardGains := fun _ _ _ gain => .ok (.same gain)
  regionType := none

def rooftopDevice (eirp : Int) : Json ℝ :=
  .object [("cbsdCategory", .text "A"),
    ("installationParam", .object [("latitude", .int 39), ("longitude", .int (-94)), ("height", .int 10), ("heightType", .text "AGL"),
      ("antennaGain", .int 6), ("indoorDeployment", .bool false), ("eirpCapability", .int eirp)])]

def rooftopInstall : RfInstall ℝ := ⟨((39 : Int) : ℝ), ((-94 : Int) : ℝ), ((10 : Int) : ℝ), ((6 : Int) : ℝ), false, false, .null, .null⟩

theorem rooftop_measured (eirp : Int) : Measured rooftopEnv rooftopEngines (rooftopDevice eirp) rooftopInstall ((eirp : Int) : ℝ)
    (List.replicate 360 ((6 : Int) : ℝ)) "SUBURBAN" where
  installed := by
    simp [requireInstall, requiredInstallKeys, rooftopDevice, rooftopInstall, Json.field, Json.has, Json.isObject, PyDict.lookup, Json.toFloat,
      Json.toText, PyText.upper, Json.truthy]
  powered := rfl
  aimed := rfl
  situated := rfl

theorem rooftop_heard (azimuth : Nat) (_ : azimuth < 360) (place : ℝ × ℝ) (_ : place ∈ radialAt rooftopEnv rooftopInstall azimuth) :
    ∃ loss, pathLossDb rooftopEngines rooftopInstall "SUBURBAN" place = .ok loss :=
  ⟨_, rfl⟩

theorem rooftop_reach (eirp : Int) : ∃ reach, contourReach rooftopEnv rooftopEngines (rooftopDevice eirp) = .ok (rooftopInstall, reach) := by
  obtain ⟨reach, ran, _⟩ := reach_exists rooftopEnv rooftopEngines _ _ _ _ _ (rooftop_measured eirp) rooftop_heard
  exact ⟨reach, ran⟩

theorem rooftop_power (eirp : Int) : eirpToward rooftopEnv rooftopEngines (rooftopDevice eirp) =
    .ok (List.replicate 360 (((eirp : Int) : ℝ) - ((6 : Int) : ℝ) + ((6 : Int) : ℝ))) := by
  have measured := rooftop_measured eirp
  simp only [eirpToward, measured.installed, measured.powered, measured.aimed, bind, Except.bind, List.map_replicate]
  rfl

theorem reach_grows_rooftop : ∃ reach otherReach : List ℝ,
    contourReach rooftopEnv rooftopEngines (rooftopDevice 20) = .ok (rooftopInstall, reach) ∧
      contourReach rooftopEnv rooftopEngines (rooftopDevice 30) = .ok (rooftopInstall, otherReach) ∧
      reach.getD 90 0 ≤ otherReach.getD 90 0 := by
  obtain ⟨reach, ran⟩ := rooftop_reach 20
  obtain ⟨otherReach, otherRan⟩ := rooftop_reach 30
  refine ⟨reach, otherReach, ran, otherRan, ?_⟩
  refine reach_grows rooftopEnv rooftopEngines rooftopInstall rooftopInstall ⟨rfl, rfl, rfl, rfl, rfl⟩ Real.cos_le_one _ _ reach otherReach
    _ _ ran otherRan (rooftop_power 20) (rooftop_power 30) 90 (by decide) fun near inside _ => ?_
  simp only [List.getD_eq_getElem?_getD, List.getElem?_replicate, if_pos inside, Option.getD_some]
  norm_num

def rooftopCbsd : Cbsd ℝ := ⟨0, "fcc/sn", "fcc", "user", "sn", some "A", none, some .registered, ⟨some "A", none, []⟩⟩

-- Creation without any dataset or limit of its own.
def rooftopCreation : PpaEnv ℝ where
  feeds :=
    { injection :=
        { settings := ⟨"admin", "base", "v1.3", ⟨fun _ => [], fun _ => none⟩, fun _ => "", fun _ => none, fun _ => 0, fun _ => "", fun _ => ""⟩
          upper := id
          sortedDumps := fun _ => ""
          urlparse := fun _ => none }
      hzOfMhz := fun _ => .ok none
      decodeReplacing := fun _ => ""
      zipNames := fun _ => .ok []
      zipRead := fun _ _ => .ok ByteArray.empty
      parseXml := fun _ => none
      isDecimal := fun _ => false
      columnText := fun _ => none
      geometryUsable := fun _ => true }
  tests := ⟨fun _ => .ok true, fun _ _ => false⟩
  loadCountyGeometry := fun _ => none
  census := none
  unionGeojson := fun _ => .ok none
  intersectGeojson := fun contour _ => .ok (some contour)
  reshape := fun _ => .ok none
  pointCoveredByArea := fun _ _ _ => .ok true
  polygonWithinServiceArea := fun _ _ => .ok true
  polygonCoveredBy := fun _ _ => .ok true
  maximumRfPpaContour := fun _ => .error "rf_contour_unavailable"
  dictOf := .ok

def rooftopTables : PpaTables ℝ := ⟨⟨Injection.Tables.empty, []⟩, Store.empty, none, []⟩

def rooftopRegistration (_ : Cbsd ℝ) : Option (Json ℝ) := some (rooftopDevice 20)

theorem rooftop_device : cbsdOrmToPpaDevice rooftopEnv (rooftopRegistration rooftopCbsd) rooftopCbsd.cbsdCategory = .ok (rooftopDevice 20) := by
  rfl

theorem ppa_contour_rings_rooftop :
    ∃ rings, rings ≠ [] ∧ List.Forall₂ (RfRing rooftopEnv rooftopEngines) [rooftopDevice 20] rings := by
  obtain ⟨ring, ringed⟩ := ring_exists rooftopEnv rooftopEngines _ _ _ _ _ (rooftop_measured 20) rooftop_heard
  have united : rfMaximum rooftopEnv rooftopEngines rooftopRegistration [rooftopCbsd] = .ok (collection [unionFeature (polygonOf ring)]) :=
    rf_maximum_one rooftopEnv rooftopEngines rooftopRegistration rooftopCbsd _ _ ring rooftop_device rfl ringed rfl
  have made : ppaContour (withRfEngines rooftopEnv rooftopEngines rooftopRegistration rooftopCreation) rooftopTables (.object []) []
      [rooftopCbsd] [] = .ok (collection [unionFeature (polygonOf ring)]) := by
    refine unlimited_contour (withRfEngines rooftopEnv rooftopEngines rooftopRegistration rooftopCreation) rooftopTables _ _ _ rfl rfl ?_
    rw [with_rf_maximum]
    exact united
  obtain ⟨devices, rings, _, _, _, _, read, given, pairs, _⟩ :=
    ppa_contour_rings rooftopEnv rooftopEngines rooftopRegistration rooftopCreation Real.cos_le_one rooftopTables (.object []) []
      [rooftopCbsd] [] _ made
  cases read with
  | cons isDevice rest =>
      cases rest
      rw [rooftop_device] at isDevice
      cases isDevice
      exact ⟨rings, given, pairs⟩

end Rooftop

end SasCore.Ppa
