import Mathlib.Data.Int.ConditionallyCompleteOrder
import SasCore.Spectrum.PalRules
import SasCore.Lib.Ranges

set_option autoImplicit false
set_option linter.unusedSectionVars false

namespace SasCore.Spectrum

open Injection Federal Registry Ranges

variable {K : Type} [Field K] [LinearOrder K]

section Cutting

theorem outside_points (exLow exHigh : Int) (range : Int × Int) :
    points (outside range.1 range.2 exLow exHigh) = span range ∩ (Set.Ico exLow exHigh)ᶜ := by
  ext f
  simp only [points, Set.mem_ofPred_eq, mem_span, Set.mem_inter_iff, Set.mem_compl_iff, Set.mem_Ico]
  rw [outside]
  by_cases meets : overlapsHz range.1 range.2 exLow exHigh = true
  · rw [overlaps_hz_iff] at meets
    have isMet : (!overlapsHz range.1 range.2 exLow exHigh) = false := by simp [overlapsHz, meets]
    rw [isMet]
    simp only [Bool.false_eq_true, if_false, List.mem_append]
    by_cases before : range.1 < exLow
    · by_cases after : exHigh < range.2
      · simp only [before, after, if_true, List.mem_singleton, or_and_right, exists_or, exists_eq_left]
        omega
      · simp only [before, after, if_true, if_false, List.mem_singleton, List.not_mem_nil, or_false, exists_eq_left]
        omega
    · by_cases after : exHigh < range.2
      · simp only [before, after, if_true, if_false, List.mem_singleton, List.not_mem_nil, false_or, exists_eq_left]
        omega
      · simp only [before, after, if_false, List.not_mem_nil, or_self, false_and, exists_false, false_iff]
        omega
  · have isApart : (!overlapsHz range.1 range.2 exLow exHigh) = true := by simpa using meets
    rw [overlaps_hz_iff] at meets
    rw [isApart]
    simp only [if_true, List.mem_singleton, exists_eq_left]
    omega

theorem outside_pieces_apart (exLow exHigh : Int) (proper : exLow < exHigh) (range : Int × Int) :
    (outside range.1 range.2 exLow exHigh).Pairwise Apart := by
  rw [outside]
  split
  · exact List.pairwise_singleton _ _
  · split
    · split
      · refine List.pairwise_pair.mpr (apart_ordered _ _ ?_)
        simp only
        omega
      · exact List.pairwise_singleton _ _
    · split
      · exact List.pairwise_singleton _ _
      · exact List.Pairwise.nil

theorem subtract_points (segments : List (Int × Int)) (exLow exHigh : Int) :
    points (subtractRange segments exLow exHigh) = points segments \ Set.Ico exLow exHigh := by
  have cut := cut_points _ _ (outside_points exLow exHigh) segments
  rw [Set.sdiff_eq, ← cut, subtractRange]
  ext f
  constructor
  · rintro ⟨piece, member, inside⟩
    exact ⟨piece, List.mem_of_mem_filter member, inside⟩
  · rintro ⟨piece, member, inside⟩
    exact ⟨piece, List.mem_filter.mpr ⟨member, decide_eq_true (inside.1.trans_lt inside.2)⟩, inside⟩

theorem subtract_apart (segments : List (Int × Int)) (exclusion : Int × Int) (proper : exclusion.1 < exclusion.2)
    (apart : segments.Pairwise Apart) : (subtractRange segments exclusion.1 exclusion.2).Pairwise Apart := by
  have cuts : Cuts (fun segment : Int × Int => outside segment.1 segment.2 exclusion.1 exclusion.2)
      (Set.Ico exclusion.1 exclusion.2)ᶜ :=
    ⟨outside_points exclusion.1 exclusion.2, outside_pieces_apart exclusion.1 exclusion.2 proper⟩
  exact (cut_apart _ _ cuts segments apart).filter _

end Cutting

section Splitting

def OnGrid (f : Int) : Prop := f % channelHz = 0

-- A proper range of at most one channel with no grid line in between.
structure Cell (range : Int × Int) : Prop where
  proper : range.1 < range.2
  narrow : range.2 - range.1 ≤ channelHz
  uncrossed : ∀ line, OnGrid line → ¬ (range.1 < line ∧ line < range.2)

theorem cell_of_grid (low high : Int) (grid : OnGrid low) (proper : low < high) (narrow : high ≤ low + channelHz) :
    Cell (low, high) := by
  have width : channelHz = 10000000 := rfl
  refine ⟨proper, by simp only; omega, fun line isLine between => ?_⟩
  simp only [OnGrid, width] at grid isLine between narrow
  omega

-- The regular part of the split, from a grid line on with enough rounds.
theorem channels_from_cells (high : Int) (fuel : Nat) (cur : Int) (grid : OnGrid cur) (enough : (high - cur).toNat ≤ fuel) :
    ∀ channel ∈ Dpa.channelsFrom high fuel cur, Cell channel := by
  have width : channelHz = 10000000 := rfl
  have same : Dpa.channelHz = 10000000 := rfl
  induction fuel generalizing cur with
  | zero =>
      intro channel member
      rw [Dpa.channelsFrom, if_neg (by omega)] at member
      cases member
  | succ fuel ih =>
      intro channel member
      rw [Dpa.channelsFrom] at member
      split at member
      · rcases List.mem_cons.mp member with here | later
        · rw [here]
          exact cell_of_grid cur (cur + Dpa.channelHz) grid (by omega) (by omega)
        · refine ih (cur + Dpa.channelHz) ?_ (by omega) channel later
          simp only [OnGrid, width, same] at grid ⊢
          omega
      · split at member
        · rw [List.mem_singleton.mp member]
          exact cell_of_grid cur high grid (by omega) (by omega)
        · cases member

theorem channels_from_points (high : Int) (fuel : Nat) (cur : Int) (enough : (high - cur).toNat ≤ fuel) :
    points (Dpa.channelsFrom high fuel cur) = Set.Ico cur high := by
  have same : Dpa.channelHz = 10000000 := rfl
  induction fuel generalizing cur with
  | zero =>
      rw [Dpa.channelsFrom, if_neg (by omega), points_nil, Set.Ico_eq_empty (by omega)]
  | succ fuel ih =>
      rw [Dpa.channelsFrom]
      split
      · rw [points_cons, ih (cur + Dpa.channelHz) (by omega)]
        exact Set.Ico_union_Ico_eq_Ico (by omega) (by omega)
      · split
        · rw [points_cons, points_nil, Set.union_empty, span]
        · rw [points_nil, Set.Ico_eq_empty (by omega)]

theorem channels_from_apart (high : Int) (fuel : Nat) (cur : Int) : (Dpa.channelsFrom high fuel cur).Pairwise Apart := by
  induction fuel generalizing cur with
  | zero =>
      rw [Dpa.channelsFrom]
      split
      · exact List.pairwise_singleton _ _
      · exact List.Pairwise.nil
  | succ fuel ih =>
      rw [Dpa.channelsFrom]
      split
      · refine List.Pairwise.cons (fun later member => apart_ordered _ _ ?_) (ih (cur + Dpa.channelHz))
        exact Dpa.channels_from_bound high fuel (cur + Dpa.channelHz) later member
      · split
        · exact List.pairwise_singleton _ _
        · exact List.Pairwise.nil

-- The redundant step back of the alignment is never taken: the start of the regular part is the next grid line.
theorem aligned_start_grid (start : Int) : OnGrid (alignedStart start) ∧ start ≤ alignedStart start ∧
    alignedStart start < start + channelHz := by
  have width : channelHz = 10000000 := rfl
  rw [alignedStart]
  by_cases onGrid : start % channelHz = 0
  · rw [if_pos onGrid]
    exact ⟨onGrid, le_refl start, by omega⟩
  · rw [if_neg onGrid, if_neg (by rw [width] at onGrid ⊢; omega)]
    simp only [OnGrid, width] at onGrid ⊢
    omega

-- The part of a segment before its first grid line.
def headOf (start aligned stop : Int) : List (Int × Int) :=
  if start < aligned then (if start < min aligned stop then [(start, min aligned stop)] else []) else []

theorem head_points (start aligned stop : Int) (after : start ≤ aligned) :
    points (headOf start aligned stop) = Set.Ico start (min aligned stop) := by
  rw [headOf]
  split
  · split
    · rw [points_cons, points_nil, Set.union_empty, span]
    · rw [points_nil, Set.Ico_eq_empty (by omega)]
  · rw [points_nil, Set.Ico_eq_empty (by omega)]

theorem head_member (start aligned stop : Int) (piece : Int × Int) (member : piece ∈ headOf start aligned stop) :
    piece = (start, min aligned stop) ∧ start < min aligned stop := by
  rw [headOf] at member
  split at member
  · split at member
    · rename_i proper
      exact ⟨List.mem_singleton.mp member, proper⟩
    · cases member
  · cases member

theorem split_shape (low high : Int) : split10mhz low high =
    if min high cbrsHighHz ≤ max low cbrsLowHz then []
    else headOf (max low cbrsLowHz) (alignedStart (max low cbrsLowHz)) (min high cbrsHighHz) ++
      Dpa.channelsFrom (min high cbrsHighHz) (min high cbrsHighHz - alignedStart (max low cbrsLowHz)).toNat
        (alignedStart (max low cbrsLowHz)) := rfl

theorem split_points (range : Int × Int) :
    points (split10mhz range.1 range.2) = span range ∩ Set.Ico cbrsLowHz cbrsHighHz := by
  obtain ⟨_, after, _⟩ := aligned_start_grid (max range.1 cbrsLowHz)
  have clipped : span range ∩ Set.Ico cbrsLowHz cbrsHighHz = Set.Ico (max range.1 cbrsLowHz) (min range.2 cbrsHighHz) := Set.Ico_inter_Ico
  rw [split_shape, clipped]
  split
  · rw [points_nil, Set.Ico_eq_empty (by omega)]
  · rw [points_append, head_points _ _ _ after, channels_from_points _ _ _ (le_refl _)]
    by_cases early : alignedStart (max range.1 cbrsLowHz) ≤ min range.2 cbrsHighHz
    · rw [min_eq_left early]
      exact Set.Ico_union_Ico_eq_Ico after early
    · have none_left : Set.Ico (alignedStart (max range.1 cbrsLowHz)) (min range.2 cbrsHighHz) = ∅ :=
        Set.Ico_eq_empty (not_lt.mpr (not_le.mp early).le)
      rw [min_eq_right (not_le.mp early).le, none_left, Set.union_empty]

theorem split_cells (range : Int × Int) : ∀ channel ∈ split10mhz range.1 range.2, Cell channel := by
  have width : channelHz = 10000000 := rfl
  obtain ⟨grid, after, near⟩ := aligned_start_grid (max range.1 cbrsLowHz)
  intro channel member
  rw [split_shape] at member
  split at member
  · cases member
  · rcases List.mem_append.mp member with isHead | regular
    · obtain ⟨same, proper⟩ := head_member _ _ _ channel isHead
      rw [same]
      refine ⟨proper, by simp only; omega, fun line isLine between => ?_⟩
      simp only [OnGrid, width] at grid isLine between near
      omega
    · exact channels_from_cells _ _ _ grid (le_refl _) channel regular

theorem split_apart (range : Int × Int) : (split10mhz range.1 range.2).Pairwise Apart := by
  rw [split_shape]
  split
  · exact List.Pairwise.nil
  · rw [List.pairwise_append]
    refine ⟨?_, channels_from_apart _ _ _, fun first isHead second regular => apart_ordered _ _ ?_⟩
    · rw [headOf]
      split
      · split
        · exact List.pairwise_singleton _ _
        · exact List.Pairwise.nil
      · exact List.Pairwise.nil
    · obtain ⟨same, _⟩ := head_member _ _ _ first isHead
      rw [same]
      exact (min_le_left _ _).trans (Dpa.channels_from_bound _ _ _ second regular)

theorem split_cuts : Cuts (fun segment : Int × Int => split10mhz segment.1 segment.2) (Set.Ico cbrsLowHz cbrsHighHz) :=
  ⟨split_points, split_apart⟩

end Splitting

section Withheld

variable (env : SpectrumEnv K) (state : SpectrumTables K) (cbsd : Cbsd K)

-- The range that one WISP record withholds at a place, if any.
def wispApplied (lat lon : K) (wisp : Json K) : Except String (List (Int × Int)) :=
  match wispFreq env wisp with
  | none => .error "wisp"
  | some none => .ok []
  | some (some range) => .ok (if env.pointInGeojson lat lon (wisp.field "zone") then [range] else [])

def fssApplied (lat lon : K) (fss : Json K) : Except String (List (Int × Int)) :=
  match fssLocationAndFreq env.feeds fss with
  | none => .error "fss"
  | some none => .ok []
  | some (some station) =>
      .ok (if env.geometry.haversineM lat lon station.latitude station.longitude / (1000 : Nat) ≤ fssProtectionKm then
        [(fssExclusionLowHz, cbrsHighHz)] else [])

def appliedRanges (applied : Json K → Except String (List (Int × Int))) (records : List (Json K)) :
    Except String (List (Int × Int)) :=
  (records.mapM applied).map List.flatten

-- The ranges of the incumbents that apply at the location; `none` where the exclusion zones are unusable.
def incumbentRanges : Except String (Option (List (Int × Int))) :=
  match cbsdLocation cbsd with
  | none => .ok (some [])
  | some (lat, lon) =>
      match exclusionRangesAtPoint env state lat lon with
      | .error .exclusionZone => .ok none
      | .error .other => .error "exclusion_zone"
      | .ok excluded =>
          (appliedRanges (wispApplied env lat lon) (loadKind .wisp state.tables)).bind fun wisps =>
            (appliedRanges (fssApplied env lat lon) (loadKind .fss state.tables)).map fun fsses =>
              some (excluded ++ (wisps ++ fsses))

def entryRange (entry : LinkedPal K) : Int × Int := (entry.low, entry.high)

def protectedRanges (linked : List (LinkedPal K)) : List (Int × Int) :=
  (linked.filter fun entry => entry.inCluster || entry.inPpa).map entryRange

-- All that is withheld from GAA; unusable exclusion zones withhold the whole band.
def withheldRanges : Except String (List (Int × Int)) :=
  (loadPals state).bind fun pals =>
    (incumbentRanges env state cbsd).bind fun incumbents =>
      match incumbents with
      | none => .ok [(cbrsLowHz, cbrsHighHz)]
      | some ranges => (linkedPals env state pals cbsd).map fun linked => ranges ++ protectedRanges linked

def subtractAll (segments ranges : List (Int × Int)) : List (Int × Int) :=
  ranges.foldl (fun held range => subtractRange held range.1 range.2) segments

theorem subtract_all_append (segments first second : List (Int × Int)) :
    subtractAll segments (first ++ second) = subtractAll (subtractAll segments first) second := List.foldl_append

theorem applied_cons (applied : Json K → Except String (List (Int × Int))) (record : Json K) (rest : List (Json K)) :
    appliedRanges applied (record :: rest) =
      (applied record).bind fun own => (appliedRanges applied rest).map fun others => own ++ others := by
  rw [appliedRanges, appliedRanges, List.mapM_cons]
  cases applied record with
  | error error => rfl
  | ok own =>
      simp only [bind, Except.bind]
      cases rest.mapM applied with
      | error error => rfl
      | ok others => rfl

theorem withhold_wisps_applied (lat lon : K) (wisps : List (Json K)) (segments : List (Int × Int)) :
    withholdWisps env lat lon wisps segments =
      (appliedRanges (wispApplied env lat lon) wisps).map (subtractAll segments) := by
  induction wisps generalizing segments with
  | nil => rfl
  | cons wisp rest ih =>
      rw [withholdWisps, applied_cons, wispApplied]
      cases wispFreq env wisp with
      | none => rfl
      | some found =>
          cases found with
          | none =>
              simp only [ih, Except.bind]
              cases appliedRanges (wispApplied env lat lon) rest <;> rfl
          | some range =>
              simp only [ih, Except.bind]
              by_cases inside : env.pointInGeojson lat lon (wisp.field "zone") = true
              · rw [if_pos inside, if_pos inside]
                cases appliedRanges (wispApplied env lat lon) rest <;> rfl
              · rw [if_neg inside, if_neg inside]
                cases appliedRanges (wispApplied env lat lon) rest <;> rfl

theorem withhold_fsses_applied (lat lon : K) (fsses : List (Json K)) (segments : List (Int × Int)) :
    withholdFsses env lat lon fsses segments =
      (appliedRanges (fssApplied env lat lon) fsses).map (subtractAll segments) := by
  induction fsses generalizing segments with
  | nil => rfl
  | cons fss rest ih =>
      rw [withholdFsses, applied_cons, fssApplied]
      cases fssLocationAndFreq env.feeds fss with
      | none => rfl
      | some found =>
          cases found with
          | none =>
              simp only [ih, Except.bind]
              cases appliedRanges (fssApplied env lat lon) rest <;> rfl
          | some station =>
              simp only [ih, Except.bind]
              by_cases near : env.geometry.haversineM lat lon station.latitude station.longitude / (1000 : Nat) ≤ fssProtectionKm
              · rw [if_pos near, if_pos near]
                cases appliedRanges (fssApplied env lat lon) rest <;> rfl
              · rw [if_neg near, if_neg near]
                cases appliedRanges (fssApplied env lat lon) rest <;> rfl

-- What the incumbents leave is the segments without their ranges.
theorem open_segments_withheld (segments : List (Int × Int)) :
    openSegments env state cbsd segments =
      (incumbentRanges env state cbsd).map fun incumbents => incumbents.map (subtractAll segments) := by
  rw [openSegments, incumbentRanges]
  cases cbsdLocation cbsd with
  | none => rfl
  | some place =>
      obtain ⟨lat, lon⟩ := place
      simp only
      cases exclusionRangesAtPoint env state lat lon with
      | error fault => cases fault <;> rfl
      | ok excluded =>
          simp only
          rw [withhold_wisps_applied]
          cases appliedRanges (wispApplied env lat lon) (loadKind .wisp state.tables) with
          | error error => rfl
          | ok wisps =>
              simp only [Except.map, Except.bind]
              rw [withhold_fsses_applied]
              cases appliedRanges (fssApplied env lat lon) (loadKind .fss state.tables) with
              | error error => rfl
              | ok fsses =>
                  simp only [Except.map, Option.map_some, subtract_all_append]
                  rfl

theorem handle_pal_subtracts (owned : List (Json K)) (held : PalSegments) (entry : LinkedPal K) :
    (handlePal owned held entry).segments =
      if entry.inCluster || entry.inPpa then subtractRange held.segments entry.low entry.high else held.segments := by
  rw [handlePal]
  cases cluster : entry.inCluster with
  | true => cases owner : owned.any (·.equal entry.palId) <;> simp
  | false => cases ppa : entry.inPpa <;> simp

theorem handled_subtracts (owned : List (Json K)) (linked : List (LinkedPal K)) (held : PalSegments) :
    (linked.foldl (handlePal owned) held).segments = subtractAll held.segments (protectedRanges linked) := by
  induction linked generalizing held with
  | nil => rfl
  | cons entry rest ih =>
      rw [List.foldl_cons, ih, handle_pal_subtracts, protectedRanges, protectedRanges, List.filter_cons]
      cases protects : entry.inCluster || entry.inPpa with
      | true => rfl
      | false => rfl

end Withheld

section Tiles

variable (env : SpectrumEnv K) (state : SpectrumTables K) (cbsd : Cbsd K)

structure Tiles (inquired exclusions channels : List (Int × Int)) : Prop where
  union : points channels = (points inquired ∩ Set.Ico cbrsLowHz cbrsHighHz) \ points exclusions
  cells : ∀ channel ∈ channels, Cell channel
  apart : inquired.Pairwise Apart → channels.Pairwise Apart

def channelRange (channel : AvailableChannel) : Int × Int := (channel.lowFrequency, channel.highFrequency)

def gaaRanges (channels : List AvailableChannel) : List (Int × Int) :=
  (channels.filter fun channel => channel.channelType = .gaa).map channelRange

theorem clip_cuts : Cuts (fun range => (clipToCbrs range).toList) (Set.Ico cbrsLowHz cbrsHighHz) := by
  refine ⟨fun range => ?_, fun range => ?_⟩
  · have clipped : span range ∩ Set.Ico cbrsLowHz cbrsHighHz = Set.Ico (max range.1 cbrsLowHz) (min range.2 cbrsHighHz) := Set.Ico_inter_Ico
    simp only [clipped, clipToCbrs]
    split
    · rw [Option.toList_some, points_cons, points_nil, Set.union_empty, span]
    · rename_i empty
      rw [Option.toList_none, points_nil, Set.Ico_eq_empty empty]
  · cases clipToCbrs range with
    | none => exact List.Pairwise.nil
    | some piece => exact List.pairwise_singleton _ _

theorem subtract_all_points (segments exclusions : List (Int × Int)) :
    points (subtractAll segments exclusions) = points segments \ points exclusions :=
  fold_points _ span (fun ranges range => subtract_points ranges range.1 range.2) exclusions segments

-- The pure core: clip, take out the exclusions, split.
theorem pieces_tile (inquired exclusions : List (Int × Int)) (proper : ∀ exclusion ∈ exclusions, exclusion.1 < exclusion.2) :
    Tiles inquired exclusions
      ((subtractAll (inquired.filterMap clipToCbrs) exclusions).flatMap fun segment => split10mhz segment.1 segment.2) := by
  have clipped : inquired.filterMap clipToCbrs = inquired.flatMap fun range => (clipToCbrs range).toList :=
    List.filterMap_eq_flatMap_toList clipToCbrs inquired
  refine ⟨?_, fun channel member => ?_, fun apart => ?_⟩
  · rw [cut_points _ _ split_points, subtract_all_points, clipped, cut_points _ _ clip_cuts.exact]
    ext f
    simp only [Set.mem_inter_iff, Set.mem_sdiff]
    tauto
  · obtain ⟨segment, _, inSplit⟩ := List.mem_flatMap.mp member
    exact split_cells segment channel inSplit
  · apply cut_apart _ _ split_cuts
    refine fold_apart _ (fun exclusion : Int × Int => exclusion.1 < exclusion.2)
      (fun ranges exclusion => subtract_apart ranges exclusion) exclusions proper _ ?_
    rw [clipped]
    exact cut_apart _ _ clip_cuts inquired apart

theorem tiles_perm (inquired exclusions first second : List (Int × Int)) (perm : first.Perm second)
    (tiles : Tiles inquired exclusions second) : Tiles inquired exclusions first where
  union := (points_perm first second perm).trans tiles.union
  cells channel member := tiles.cells channel (perm.mem_iff.mp member)
  apart distinct := (perm.pairwise_iff fun apart => apart_symm _ _ apart).mpr (tiles.apart distinct)

theorem gaa_ranges_perm (first second : List AvailableChannel) (perm : first.Perm second) :
    (gaaRanges first).Perm (gaaRanges second) := (perm.filter _).map _

theorem gaa_ranges_built (palChannels pieces : List (Int × Int)) :
    (gaaRanges ((palChannels.map (channelOf .pal) ++ pieces.map (channelOf .gaa)).insertionSort channelOrder)).Perm pieces := by
  refine (gaa_ranges_perm _ _ (List.perm_insertionSort channelOrder _)).trans ?_
  have noPal : (palChannels.map (channelOf .pal)).filter (fun channel => decide (channel.channelType = .gaa)) = [] := by
    rw [List.filter_eq_nil_iff]
    intro channel member
    obtain ⟨range, _, same⟩ := List.mem_map.mp member
    rw [← same]
    simp [channelOf]
  have allGaa : (pieces.map (channelOf .gaa)).filter (fun channel => decide (channel.channelType = .gaa)) = pieces.map (channelOf .gaa) := by
    rw [List.filter_eq_self]
    intro channel member
    obtain ⟨range, _, same⟩ := List.mem_map.mp member
    rw [← same]
    simp [channelOf]
  rw [gaaRanges, List.filter_append, noPal, List.nil_append, allGaa, List.map_map]
  have back : channelRange ∘ channelOf .gaa = id := rfl
  rw [back, List.map_id]

-- For every database state, CBSD and inquiry: the GAA channels returned tile what is inquired in the band without
-- what is withheld.
theorem gaa_channels_tile (inquired : List (Int × Int)) (channels : List AvailableChannel)
    (built : buildAvailableChannels env state cbsd inquired = .ok channels) :
    ∃ exclusions, withheldRanges env state cbsd = .ok exclusions ∧
      ((∀ exclusion ∈ exclusions, exclusion.1 < exclusion.2) → Tiles inquired exclusions (gaaRanges channels)) := by
  rw [buildAvailableChannels] at built
  rw [withheldRanges]
  cases loaded : loadPals state with
  | error error =>
      rw [loaded] at built
      cases built
  | ok pals =>
      rw [loaded] at built
      simp only [Except.bind, open_segments_withheld] at built ⊢
      cases known : incumbentRanges env state cbsd with
      | error error =>
          rw [known] at built
          cases built
      | ok incumbents =>
          rw [known] at built
          cases incumbents with
          | none =>
              cases built
              refine ⟨_, rfl, fun _ => ⟨?_, fun channel member => absurd member List.not_mem_nil, fun _ => List.Pairwise.nil⟩⟩
              rw [gaaRanges, List.filter_nil, List.map_nil, points_nil, points_cons, points_nil, Set.union_empty, span]
              exact (Set.sdiff_eq_empty.mpr Set.inter_subset_right).symm
          | some ranges =>
              obtain ⟨linked, isLinked, isList⟩ := Collect.map_ok _ _ channels built
              refine ⟨ranges ++ protectedRanges linked, by simp [isLinked, Except.map], fun proper => ?_⟩
              rw [← isList]
              refine tiles_perm _ _ _ _ (gaa_ranges_built _ _) ?_
              rw [handled_subtracts, ← subtract_all_append]
              exact pieces_tile inquired _ proper

end Tiles

-- A station at the CBSD, and a cluster with the PAL of its user and a narrow one of another user.
def stationRecord : Json Rat :=
  .object [("id", .text "fss/1"), ("deploymentParam", .array [deploymentOf ⟨40, -100, 3600000000, 4200000000⟩])]

def narrowPalRow : PalRow Rat :=
  ⟨"pal/2", "other", 3566000000, 3568000000, "VALID", none, .object [("palId", .text "pal/2"), ("userId", .text "other")]⟩

def pairPpa : Json Rat :=
  .object [("id", .text "zone/ppa/sas/1"), ("usage", .text "PPA"),
    ("ppaInfo", .object [("palId", .array [.text "pal/1", .text "pal/2"]), ("cbsdReferenceId", .array [.text "fcc/sn"])]),
    ("zone", .object [("type", .text "Polygon"), ("coordinates", .array [eastRing])])]

def withheldTables : SpectrumTables Rat where
  tables :=
    { (Tables.empty : Tables Rat) with
      records := fun kind => .stored (if kind = .zone then [some pairPpa] else if kind = .fss then [some stationRecord] else [])
      pals := .stored [lowPalRow assignedPal, narrowPalRow] }
  legacyPals := []

-- The first range begins below the band and the edges of all three are off the grid, which leaves a head or a tail.
def unalignedInquiry : List (Int × Int) :=
  [(3541000000, 3573000000), (3582000000, 3603000000), (3644000000, 3655000000)]

def unalignedCells : List (Int × Int) :=
  [(3560000000, 3566000000), (3568000000, 3570000000), (3570000000, 3573000000), (3582000000, 3590000000),
    (3590000000, 3600000000), (3600000000, 3603000000), (3644000000, 3650000000)]

theorem gaa_channels_tile_sample :
    Tiles unalignedInquiry [(3650000000, 3700000000), (3550000000, 3560000000), (3566000000, 3568000000)] unalignedCells := by
  obtain ⟨exclusions, withheld, tiles⟩ := gaa_channels_tile plainsEnv withheldTables plainsCbsd unalignedInquiry
    (channelOf .pal (3550000000, 3560000000) :: unalignedCells.map (channelOf .gaa)) (by decide +kernel)
  have ranges : withheldRanges plainsEnv withheldTables plainsCbsd =
      .ok [(3650000000, 3700000000), (3550000000, 3560000000), (3566000000, 3568000000)] := by decide +kernel
  cases ranges.symm.trans withheld
  exact tiles (by decide)

end SasCore.Spectrum
