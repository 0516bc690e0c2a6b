import SasCore.Spectrum.Pals
import SasCore.Federal.ExclusionAgreement
import SasCore.Dpa.Activations
import Mathlib.Data.List.Sort

set_option autoImplicit false
set_option linter.unusedSectionVars false

namespace SasCore.Spectrum

open Injection Federal Registry

variable {K : Type} [Field K] [LinearOrder K]

def channelHz : Int := 10000000
def fssProtectionKm : K := (150 : Nat)
def fssExclusionLowHz : Int := 3650000000

-- What inquiry and grant take from outside: the readers, the geometry, the UTC second of a text in the form
-- %Y-%m-%dT%H:%M:%SZ and the instant that fromisoformat reads, `none` where they raise.
structure SpectrumEnv (K : Type) where
  feeds : FeedEnv K
  geometry : GeometryEnv K
  pointInGeojson : K → K → Json K → Bool
  strptime : Json K → Option Int
  fromIsoFormat : String → Option Int

-- The tables, and the rows of the kind pal from before there was a table of PALs.
structure SpectrumTables (K : Type) where
  tables : Tables K
  legacyPals : List (Option (Json K))

section Ranges

-- The pieces of one segment outside a range.
def outside (low high exLow exHigh : Int) : List (Int × Int) :=
  if !overlapsHz low high exLow exHigh then [(low, high)]
  else (if low < exLow then [(low, min high exLow)] else []) ++ (if exHigh < high then [(max low exHigh, high)] else [])

def subtractRange (segments : List (Int × Int)) (exLow exHigh : Int) : List (Int × Int) :=
  (segments.flatMap fun segment => outside segment.1 segment.2 exLow exHigh).filter fun piece => piece.1 < piece.2

-- The first bound of the 10 MHz grid from a start on.
def alignedStart (start : Int) : Int :=
  let ceiling := (start + channelHz - 1) / channelHz * channelHz
  if start % channelHz = 0 then start
  else if start ≤ ceiling - channelHz ∧ cbrsLowHz ≤ ceiling - channelHz then ceiling - channelHz
  else ceiling

def split10mhz (low high : Int) : List (Int × Int) :=
  let start := max low cbrsLowHz
  let stop := min high cbrsHighHz
  if stop ≤ start then []
  else
    let aligned := alignedStart start
    (if start < aligned then (if start < min aligned stop then [(start, min aligned stop)] else []) else []) ++
      Dpa.channelsFrom stop (stop - aligned).toNat aligned

-- A segment of an inquiry, as far as it lies in the band.
def clipToCbrs (range : Int × Int) : Option (Int × Int) :=
  let low := max range.1 cbrsLowHz
  let high := min range.2 cbrsHighHz
  if low < high then some (low, high) else none

end Ranges

section Links

variable (env : SpectrumEnv K)

-- payload.get("record") or payload, `none` where it has no fields.
def recordOf (payload : Json K) : Option (Json K) :=
  if !payload.isObject then none else some (orValue (payload.field "record") payload) |>.filter (·.isObject)

-- A PAL that a PPA names, with its range.
structure LinkedPal (K : Type) where
  low : Int
  high : Int
  inCluster : Bool
  inPpa : Bool
  palId : Json K
  pal : Json K

-- {p.get("palId"): p for p in pals}: the last record of an id wins.
def palById (pals : List (Json K)) (palId : Json K) : Option (Json K) :=
  pals.reverse.find? fun pal => (pal.field "palId").truthy && (pal.field "palId").equal palId

def linkPal (pals : List (Json K)) (inCluster inPpa : Bool) (palId : Json K) : Except String (List (LinkedPal K)) :=
  if !palId.hashable then .error "TypeError"
  else
    match palById pals palId with
    | none => .ok []
    | some pal =>
        (inquiryPalFreq env.feeds pal).map fun found =>
          (found.map fun range => ⟨range.1, range.2, inCluster, inPpa, palId, pal⟩).toList

-- set(ppa_info.get("cbsdReferenceId") or [])
def referenceSet (ppaInfo : Json K) : Option (List (Json K)) :=
  ((ppaInfo.field "cbsdReferenceId").iterated).filter fun listed => listed.all (·.hashable)

def zonePals (pals : List (Json K)) (cbsd : Cbsd K) (payload : Json K) : Except String (List (LinkedPal K)) :=
  match recordOf payload with
  | none => .error "AttributeError"
  | some record =>
      if !(record.field "usage").isText "PPA" && !record.has "ppaInfo" then .ok []
      else
        match (record.field "ppaInfo").orEmpty with
        | none => .error "AttributeError"
        | some ppaInfo =>
            match referenceSet ppaInfo, (ppaInfo.field "palId").iterated with
            | some cluster, some palIds =>
                let inCluster := cluster.any (·.isText cbsd.cbsdId)
                let inPpa := (cbsdLocation cbsd).any fun place => env.pointInGeojson place.1 place.2 (record.field "zone")
                (palIds.mapM (linkPal env pals inCluster inPpa)).map List.flatten
            | _, _ => .error "TypeError"

-- The loop over the zones and their PALs, which inquiry and grant both run.
def linkedPals (state : SpectrumTables K) (pals : List (Json K)) (cbsd : Cbsd K) : Except String (List (LinkedPal K)) :=
  ((loadKind .zone state.tables).mapM (zonePals env pals cbsd)).map List.flatten

def loadPals (state : SpectrumTables K) : Except String (List (Json K)) :=
  loadPalRecords state.tables.pals.all state.legacyPals

end Links

section Inquiry

variable (env : SpectrumEnv K)

structure AvailableChannel where
  lowFrequency : Int
  highFrequency : Int
  channelType : ChannelType
  ruleApplied : String
deriving DecidableEq, Repr

def ruleApplied : String := "FCC_PART_96"

-- The range of the first deployment of a WISP record: `some none` when it is missing, `none` where reading it raises.
def wispFreq (payload : Json K) : Option (Option (Int × Int)) :=
  match recordOf payload with
  | none => none
  | some record =>
      if !(record.field "deploymentParam").truthy then some none
      else
        match record.field "deploymentParam" with
        | .array (first :: _) =>
            if !first.isObject then none
            else
              match ((first.field "operationParam").orEmpty).bind fun op => (op.field "operationFrequencyRange").orEmpty with
              | none => none
              | some range =>
                  if (range.field "lowFrequency").isNull || (range.field "highFrequency").isNull then some none
                  else
                    match (range.field "lowFrequency").toInt env.feeds.readers, (range.field "highFrequency").toInt env.feeds.readers with
                    | some low, some high => some (some (low, high))
                    | _, _ => none
        | _ => none

def withholdWisps (lat lon : K) : List (Json K) → List (Int × Int) → Except String (List (Int × Int))
  | [], segments => .ok segments
  | wisp :: rest, segments =>
      match wispFreq env wisp with
      | none => .error "wisp"
      | some none => withholdWisps lat lon rest segments
      | some (some range) =>
          withholdWisps lat lon rest
            (if env.pointInGeojson lat lon (wisp.field "zone") then subtractRange segments range.1 range.2 else segments)

def withholdFsses (lat lon : K) : List (Json K) → List (Int × Int) → Except String (List (Int × Int))
  | [], segments => .ok segments
  | fss :: rest, segments =>
      match fssLocationAndFreq env.feeds fss with
      | none => .error "fss"
      | some none => withholdFsses lat lon rest segments
      | some (some station) =>
          withholdFsses lat lon rest
            (if env.geometry.haversineM lat lon station.latitude station.longitude / (1000 : Nat) ≤ fssProtectionKm then
              subtractRange segments fssExclusionLowHz cbrsHighHz
            else segments)

def exclusionRangesAtPoint (state : SpectrumTables K) (lat lon : K) : Except ZoneFault (List (Int × Int)) :=
  match env.geometry.ntiaZones with
  | .error fault => .error fault
  | .ok ntia => exclusionFreqRangesAtPoint env.feeds env.geometry lat lon (loadKind .exclusionZone state.tables ++ ntia)

-- What the incumbents leave; `ok none` when the exclusion zones are unusable, which withholds the whole band.
def openSegments (state : SpectrumTables K) (cbsd : Cbsd K) (segments : List (Int × Int)) :
    Except String (Option (List (Int × Int))) :=
  match cbsdLocation cbsd with
  | none => .ok (some segments)
  | some (lat, lon) =>
      match exclusionRangesAtPoint env state lat lon with
      | .error .exclusionZone => .ok none
      | .error .other => .error "exclusion_zone"
      | .ok excluded =>
          ((withholdWisps env lat lon (loadKind .wisp state.tables)
            (excluded.foldl (fun held range => subtractRange held range.1 range.2) segments)).bind
              (withholdFsses env lat lon (loadKind .fss state.tables))).map some

structure PalSegments where
  segments : List (Int × Int)
  palChannels : List (Int × Int)
deriving DecidableEq, Repr

def handlePal (userPalIds : List (Json K)) (held : PalSegments) (entry : LinkedPal K) : PalSegments :=
  let left := subtractRange held.segments entry.low entry.high
  if entry.inCluster && userPalIds.any (·.equal entry.palId) then
    -- A cluster CBSD of the licensee may use the PAL.
    ⟨left, if held.segments.any fun segment => overlapsHz segment.1 segment.2 entry.low entry.high then
      held.palChannels ++ [(entry.low, entry.high)] else held.palChannels⟩
  else if entry.inCluster then ⟨left, held.palChannels⟩
  else if entry.inPpa then ⟨left, held.palChannels⟩
  -- Outside the PPA the range of the PAL remains GAA.
  else held

def userPalIds (pals : List (Json K)) (userId : String) : List (Json K) :=
  (pals.filter fun pal => (pal.field "userId").isText userId && (pal.field "palId").truthy).map (·.field "palId")

def channelOf (channelType : ChannelType) (range : Int × Int) : AvailableChannel := ⟨range.1, range.2, channelType, ruleApplied⟩

def channelOrder (first second : AvailableChannel) : Prop :=
  first.lowFrequency < second.lowFrequency ∨
    (first.lowFrequency = second.lowFrequency ∧ first.highFrequency ≤ second.highFrequency)

instance : DecidableRel channelOrder := fun first second =>
  inferInstanceAs (Decidable (first.lowFrequency < second.lowFrequency ∨
    (first.lowFrequency = second.lowFrequency ∧ first.highFrequency ≤ second.highFrequency)))

def buildAvailableChannels (state : SpectrumTables K) (cbsd : Cbsd K) (inquired : List (Int × Int)) :
    Except String (List AvailableChannel) :=
  (loadPals state).bind fun pals =>
    (openSegments env state cbsd (inquired.filterMap clipToCbrs)).bind fun opened =>
      match opened with
      | none => .ok []
      | some segments =>
          (linkedPals env state pals cbsd).map fun linked =>
            let held := linked.foldl (handlePal (userPalIds pals cbsd.userId)) ⟨segments, []⟩
            (held.palChannels.map (channelOf .pal) ++
              (held.segments.flatMap fun segment => split10mhz segment.1 segment.2).map (channelOf .gaa)).insertionSort channelOrder

end Inquiry

section Grant

variable (env : SpectrumEnv K)

structure PalContext (K : Type) where
  low : Int
  high : Int
  inCluster : Bool
  inPpa : Bool
  licenseExp : Json K
  userId : Json K
  palId : Json K

def palContext (entry : LinkedPal K) : Except String (PalContext K) :=
  (innerField entry.pal "license" "licenseExpiration").map fun licenseExp =>
    ⟨entry.low, entry.high, entry.inCluster, entry.inPpa, licenseExp, entry.pal.field "userId", entry.palId⟩

def ppaPalContext (state : SpectrumTables K) (cbsd : Cbsd K) : Except String (List (PalContext K)) :=
  (loadPals state).bind fun pals => (linkedPals env state pals cbsd).bind fun linked => linked.mapM palContext

def coversRange (context : PalContext K) (low high : Int) : Bool := context.low ≤ low && high ≤ context.high

def palGrant (context : PalContext K) : ChannelGrant :=
  ⟨.pal, if context.licenseExp.truthy then (env.strptime context.licenseExp).map (· * second) else none,
    if context.palId.truthy then some (context.palId.toText env.feeds.readers) else none⟩

def resolveChannel (contexts : List (PalContext K)) (low high : Int) (userId : String) : Except Nat ChannelGrant :=
  let overlapping := contexts.filter fun context => overlapsHz low high context.low context.high
  let covering := overlapping.filter fun context => coversRange context low high
  if overlapping.any fun context => context.inPpa && !context.inCluster then .error interference
  else if overlapping.any fun context => context.inCluster && !coversRange context low high then .error invalidParam
  else if covering.isEmpty then .ok ⟨.gaa, none, none⟩
  else
    match covering.find? fun context => context.inCluster && context.userId.isText userId with
    | some context => .ok (palGrant env context)
    | none => .error interference

end Grant

end SasCore.Spectrum
