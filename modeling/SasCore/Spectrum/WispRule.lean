import SasCore.Spectrum.PalRules
import SasCore.Registry.GrantSession
import SasCore.Cpas.PreIap
import SasCore.Lib.Scan

set_option autoImplicit false
set_option linter.unusedSectionVars false

namespace SasCore.Spectrum

open Injection Federal Registry

variable {K : Type} [Field K] [LinearOrder K] (env : SpectrumEnv K)

section Rules

def gwpzBufferM : K := 0

-- gwpz_blocks: `none` for a record that cannot be evaluated.
def gwpzBlocks (lat lon : K) (low high : Int) (payload : Json K) : Except String (Option Bool) :=
  match Cpas.parseGwpzZoneAndFreq env.feeds.readers payload with
  | none => .error "AttributeError"
  | some none => .ok none
  | some (some (zone, zoneLow, zoneHigh)) =>
      .ok (if !env.feeds.geometryUsable zone then none
        else if !Cpas.freqOverlap low high zoneLow zoneHigh then some false
        else some (env.geometry.withinGeojsonBufferM lat lon zone gwpzBufferM))

-- One round of the loop of gwpz_blocks_any.
def gwpzRound (failClosed : Bool) (lat lon : K) (low high : Int) (payload : Json K) : Except String Bool :=
  if !payload.isObject then if failClosed then .error "non-object GWPZ/WISP payload" else .ok false
  else
    match gwpzBlocks env lat lon low high payload with
    | .error error => .error error
    | .ok none => if failClosed then .error "malformed or indeterminate GWPZ/WISP protection data" else .ok false
    | .ok (some blocks) => .ok blocks

def gwpzBlocksAny (failClosed : Bool) (lat lon : K) (low high : Int) (records : List (Json K)) : Except String Bool :=
  records.anyM (gwpzRound env failClosed lat lon low high)

-- load_injected keeps what is an object.
def loadInjected (kind : Kind) (tables : Tables K) : List (Json K) := (loadKind kind tables).filter (·.isObject)

def grantBlockedByGwpz (tables : Tables K) (lat lon : K) (low high : Int) : Except String Bool :=
  gwpzBlocksAny env true lat lon low high (loadInjected .wisp tables)

-- The checks of process_grant with the WISP records of the tables.
def withWisps (tables : Tables K) (checks : GrantChecks K) : GrantChecks K := { checks with gwpz := grantBlockedByGwpz env tables }

def overlapsWisp (low high : Int) (wisp : Json K) : Except String Bool :=
  match wispFreq env wisp with
  | none => .error "wisp"
  | some none => .ok false
  | some (some range) => .ok (overlapsHz low high range.1 range.2)

-- The rule of process_heartbeat.
def grantOverlapsWisp (tables : Tables K) (grant : Grant K) : Except String Bool :=
  (loadKind .wisp tables).anyM (overlapsWisp env grant.lowFrequency grant.highFrequency)

end Rules

section Records

variable (low high : Int) (wisp : Json K)

-- The range of the record meets the range from low to high.
def MeetsWisp : Prop := ∃ range, wispFreq env wisp = some (some range) ∧ overlapsHz low high range.1 range.2 = true

def Evaluable : Prop :=
  ∃ found, Cpas.parseGwpzZoneAndFreq env.feeds.readers wisp = some (some found) ∧ env.feeds.geometryUsable found.1 = true

def InsideWisp (place : K × K) : Prop := env.geometry.withinGeojsonBufferM place.1 place.2 (wisp.field "zone") gwpzBufferM = true

theorem dict_field_some (data : Json K) (key : String) (found : Json K) (isDict : data.dictField key = some found) :
    data.isObject = true ∧ data.field key = found ∧ found.isObject = true := by
  rw [Json.dictField] at isDict
  cases held : data.field key with
  | object fields =>
      rw [held] at isDict
      cases isDict
      refine ⟨?_, rfl, rfl⟩
      cases data with
      | object fields => rfl
      | _ => cases held
  | _ =>
      rw [held] at isDict
      cases isDict

-- An object in which a field is found is no empty object.
theorem truthy_of_field (data : Json K) (key : String) (present : (data.field key).isNull = false) : data.truthy = true := by
  cases data with
  | object fields =>
      cases fields with
      | nil => cases present
      | cons entry rest => rfl
  | _ => cases present

theorem object_of_field (data : Json K) (key : String) (present : (data.field key).isNull = false) : data.isObject = true := by
  cases data with
  | object fields => rfl
  | _ => cases present

theorem present_of_int (readers : PyReaders K) (data : Json K) (value : Int) (read : data.toInt readers = some value) :
    data.isNull = false := by
  cases data with
  | null => cases read
  | _ => rfl

theorem first_deployment (record deployment : Json K) (isFirst : Cpas.firstDeployment record = some deployment) :
    ∃ others, record.field "deploymentParam" = .array (deployment :: others) ∧ deployment.isObject = true := by
  rw [Cpas.firstDeployment] at isFirst
  obtain ⟨isHead, isDict⟩ := Option.filter_eq_some_iff.mp isFirst
  cases held : record.field "deploymentParam" with
  | array items =>
      rw [held] at isHead
      cases items with
      | nil => cases isHead
      | cons head others =>
          cases isHead
          exact ⟨others, rfl, isDict⟩
  | _ =>
      rw [held] at isHead
      cases isHead

-- What grant time can evaluate, inquiry and heartbeat read in the same way.
theorem parsed_wisp_freq (zone : Json K) (zoneLow zoneHigh : Int)
    (parsed : Cpas.parseGwpzZoneAndFreq env.feeds.readers wisp = some (some (zone, zoneLow, zoneHigh))) :
    wispFreq env wisp = some (some (zoneLow, zoneHigh)) ∧ wisp.field "zone" = zone := by
  rw [Cpas.parseGwpzZoneAndFreq] at parsed
  cases isZone : wisp.dictField "zone" with
  | none =>
      rw [isZone] at parsed
      cases parsed
  | some shape =>
      cases isRecord : wisp.dictField "record" with
      | none =>
          rw [isZone, isRecord] at parsed
          cases parsed
      | some record =>
          cases isFirst : Cpas.firstDeployment record with
          | none =>
              rw [isZone, isRecord, Option.bind_some, isFirst] at parsed
              cases parsed
          | some deployment =>
              rw [isZone, isRecord, Option.bind_some, isFirst] at parsed
              simp only [Cpas.deploymentRange, Option.map_map] at parsed
              obtain ⟨op, isOp, read⟩ := Option.map_eq_some_iff.mp parsed
              obtain ⟨lowHz, isLow, rest⟩ := Option.bind_eq_some_iff.mp read
              obtain ⟨highHz, isHigh, ordered⟩ := Option.bind_eq_some_iff.mp rest
              have hasLow := present_of_int env.feeds.readers _ lowHz isLow
              have hasHigh := present_of_int env.feeds.readers _ highHz isHigh
              have isRange : (op.field "operationFrequencyRange").orEmpty = some (op.field "operationFrequencyRange") := by
                rw [Json.orEmpty, truthy_of_field _ _ hasLow, object_of_field _ _ hasLow]
                rfl
              obtain ⟨isDict, sameZone, _⟩ := dict_field_some wisp "zone" shape isZone
              obtain ⟨_, sameRecord, recordDict⟩ := dict_field_some wisp "record" record isRecord
              obtain ⟨others, listed, deploymentDict⟩ := first_deployment record deployment isFirst
              have present : ((record.field "deploymentParam").isNull) = false := by rw [listed]; rfl
              have isInner : recordOf wisp = some record := by
                simp [recordOf, isDict, sameRecord, orValue, truthy_of_field record _ present, recordDict]
              split at ordered
              · cases ordered
              · cases ordered
                refine ⟨?_, sameZone⟩
                rw [wispFreq, isInner]
                simp [listed, Json.truthy, deploymentDict, isOp, isRange, hasLow, hasHigh, isLow, isHigh]

-- The answer of gwpz_blocks for a record that can be evaluated.
theorem gwpz_blocks_read (here : K × K) (zone : Json K) (zoneLow zoneHigh : Int)
    (parsed : Cpas.parseGwpzZoneAndFreq env.feeds.readers wisp = some (some (zone, zoneLow, zoneHigh)))
    (usable : env.feeds.geometryUsable zone = true) :
    gwpzBlocks env here.1 here.2 low high wisp = .ok (some false) ↔ ¬ (MeetsWisp env low high wisp ∧ InsideWisp env wisp here) := by
  obtain ⟨isRange, isZone⟩ := parsed_wisp_freq env wisp zone zoneLow zoneHigh parsed
  have meets : MeetsWisp env low high wisp ↔ Cpas.freqOverlap low high zoneLow zoneHigh = true := by
    constructor
    · rintro ⟨range, same, met⟩
      cases isRange.symm.trans same
      exact met
    · exact fun met => ⟨_, isRange, met⟩
  rw [gwpzBlocks, parsed, meets, InsideWisp, isZone]
  simp only [usable, Bool.not_true, Bool.false_eq_true, if_false]
  by_cases met : Cpas.freqOverlap low high zoneLow zoneHigh = true
  · simp [met]
  · simp [met]

theorem gwpz_round_clear (here : K × K) (isDict : wisp.isObject = true) :
    gwpzRound env true here.1 here.2 low high wisp = .ok false ↔
      Evaluable env wisp ∧ ¬ (MeetsWisp env low high wisp ∧ InsideWisp env wisp here) := by
  rw [gwpzRound, isDict]
  simp only [Bool.not_true, Bool.false_eq_true, if_false, if_true]
  cases parsed : Cpas.parseGwpzZoneAndFreq env.feeds.readers wisp with
  | none =>
      have closed : ¬ Evaluable env wisp := by simp [Evaluable, parsed]
      simp [gwpzBlocks, parsed, closed]
  | some read =>
      cases read with
      | none =>
          have closed : ¬ Evaluable env wisp := by simp [Evaluable, parsed]
          simp [gwpzBlocks, parsed, closed]
      | some found =>
          obtain ⟨zone, zoneLow, zoneHigh⟩ := found
          by_cases usable : env.feeds.geometryUsable zone = true
          · have evaluable : Evaluable env wisp := ⟨_, parsed, usable⟩
            have answer := gwpz_blocks_read env low high wisp here zone zoneLow zoneHigh parsed usable
            rw [← answer]
            simp only [evaluable, true_and]
            cases asked : gwpzBlocks env here.1 here.2 low high wisp with
            | error error => simp
            | ok result => cases result <;> simp
          · have closed : ¬ Evaluable env wisp := by simp [Evaluable, parsed, usable]
            simp [gwpzBlocks, parsed, closed, usable]

theorem overlaps_wisp_hit : overlapsWisp env low high wisp = .ok true ↔ MeetsWisp env low high wisp := by
  rw [overlapsWisp, MeetsWisp]
  cases wispFreq env wisp with
  | none => simp
  | some found => cases found <;> simp

theorem overlaps_wisp_read : (∃ hit, overlapsWisp env low high wisp = .ok hit) ↔ (wispFreq env wisp).isSome = true := by
  rw [overlapsWisp]
  cases wispFreq env wisp with
  | none => simp
  | some found => cases found <;> simp

end Records

section Agreement

variable (tables : Tables K)

-- As soon as heartbeat comes to a record that meets the range, the CBSD has a location, and some record either cannot
-- be evaluated or meets the range with the CBSD inside.
def WispsHold (place : Option (K × K)) (low high : Int) : Prop :=
  ∀ before wisp after, loadKind .wisp tables = before ++ wisp :: after → (∀ earlier ∈ before, (wispFreq env earlier).isSome = true) →
    MeetsWisp env low high wisp →
      ∃ here ∈ place, ∃ record ∈ loadInjected .wisp tables,
        ¬ Evaluable env record ∨ (MeetsWisp env low high record ∧ InsideWisp env record here)

theorem grant_overlaps_iff (grant : Grant K) :
    grantOverlapsWisp env tables grant = .ok true ↔
      ∃ before wisp after, loadKind .wisp tables = before ++ wisp :: after ∧
        (∀ earlier ∈ before, (wispFreq env earlier).isSome = true) ∧ MeetsWisp env grant.lowFrequency grant.highFrequency wisp := by
  rw [grantOverlapsWisp, Scan.any_hit_iff]
  simp only [overlaps_wisp_hit, overlaps_wisp_read]

theorem gwpz_allows_iff (checks : GrantChecks K) (store : Store K) (cbsd : Cbsd K) (proposal : Proposal K) :
    locationBlocks (withWisps env tables checks) store cbsd proposal .gwpz = false ↔
      ∀ here ∈ cbsdLocation cbsd, ∀ record ∈ loadInjected .wisp tables, Evaluable env record ∧
        ¬ (MeetsWisp env proposal.range.low proposal.range.high record ∧ InsideWisp env record here) := by
  have isDict : ∀ record ∈ loadInjected .wisp tables, record.isObject = true := fun record member => (List.mem_filter.mp member).2
  rw [locationBlocks]
  cases cbsdLocation cbsd with
  | none => simp
  | some here =>
      have asked : raisedOrHit (grantBlockedByGwpz env tables here.1 here.2 proposal.range.low proposal.range.high) = false ↔
          grantBlockedByGwpz env tables here.1 here.2 proposal.range.low proposal.range.high = .ok false := by
        cases grantBlockedByGwpz env tables here.1 here.2 proposal.range.low proposal.range.high <;> simp [raisedOrHit]
      simp only [Option.any_some, withWisps, asked, Option.mem_some_iff, forall_eq']
      rw [grantBlockedByGwpz, gwpzBlocksAny, Scan.any_clear_iff]
      exact forall₂_congr fun record member => gwpz_round_clear env _ _ record here (isDict record member)

-- For every set of WISP records, CBSD and range: the rules agree exactly when the records hold.
theorem wisp_rules_agree_iff (checks : GrantChecks K) (req : GrantRequest K) (store : Store K) (cbsd : Cbsd K)
    (proposal : Proposal K) (grantId : String) (clock : Clock) :
    (locationBlocks (withWisps env tables checks) store cbsd proposal .gwpz = false →
        grantOverlapsWisp env tables (newGrant checks req cbsd proposal grantId clock) ≠ .ok true) ↔
      WispsHold env tables (cbsdLocation cbsd) proposal.range.low proposal.range.high := by
  rw [gwpz_allows_iff, ne_eq, grant_overlaps_iff]
  constructor
  · intro agree before wisp after split readable met
    by_contra none_holds
    refine agree (fun here isHere record member => ?_) ⟨before, wisp, after, split, readable, met⟩
    by_contra fails
    refine none_holds ⟨here, isHere, record, member, ?_⟩
    by_cases evaluable : Evaluable env record
    · exact .inr (by_contra fun apart => fails ⟨evaluable, apart⟩)
    · exact .inl evaluable
  · rintro holds allowed ⟨before, wisp, after, split, readable, met⟩
    obtain ⟨here, isHere, record, member, hit⟩ := holds before wisp after split readable met
    obtain ⟨evaluable, apart⟩ := allowed here isHere record member
    rcases hit with closed | both
    · exact closed evaluable
    · exact apart both

end Agreement

-- A protected zone on 3550-3560 MHz far to the east of the CBSD.
def outsideEnv : SpectrumEnv Rat :=
  { plainsEnv with geometry := { nearZones with withinGeojsonBufferM := fun _ _ _ _ => false } }

def eastWisp : Json Rat :=
  .object [("id", .text "zone/gwpz/sas/1"),
    ("record", .object [("deploymentParam", .array [.object [("operationParam", .object [("operationFrequencyRange", lowBlock)])]])]),
    ("zone", .object [("type", .text "Polygon"), ("coordinates", .array [eastRing])])]

def wispTables : Tables Rat :=
  { (Tables.empty : Tables Rat) with records := fun kind => if kind = .wisp then .stored [some eastWisp] else .stored [] }

theorem outside_grant_killed :
    ¬ ∀ (tables : Tables Rat) (cbsd : Cbsd Rat) (proposal : Proposal Rat) (grantId : String) (clock : Clock),
      locationBlocks (withWisps outsideEnv tables openGrantChecks) (Store.empty : Store Rat) cbsd proposal .gwpz = false →
        grantOverlapsWisp outsideEnv tables (newGrant openGrantChecks sampleRequest cbsd proposal grantId clock) ≠ .ok true := by
  intro claim
  have allowed : locationBlocks (withWisps outsideEnv wispTables openGrantChecks) (Store.empty : Store Rat) plainsCbsd
      sampleProposal .gwpz = false := rfl
  exact claim wispTables plainsCbsd sampleProposal "grant/1" (fun _ => 0) allowed rfl

end SasCore.Spectrum
