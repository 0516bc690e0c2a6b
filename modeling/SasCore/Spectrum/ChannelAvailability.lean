import SasCore.Spectrum.ZoneOrder
import SasCore.Spectrum.WispRule

set_option autoImplicit false
set_option linter.unusedSectionVars false

namespace SasCore.Spectrum

open Injection Federal Registry Ranges

variable {K : Type} [Field K] [LinearOrder K]

section States

-- A PPA with its palId entries in another order; any other record only as itself.
def ZoneShuffled (payload other : Json K) : Prop :=
  payload = other ∨ ∃ record otherRecord info otherInfo palIds otherIds,
    recordOf payload = some record ∧ recordOf other = some otherRecord ∧
    otherRecord.field "usage" = record.field "usage" ∧ otherRecord.field "zone" = record.field "zone" ∧
    otherRecord.has "ppaInfo" = record.has "ppaInfo" ∧
    (record.field "ppaInfo").orEmpty = some info ∧ (otherRecord.field "ppaInfo").orEmpty = some otherInfo ∧
    otherInfo.field "cbsdReferenceId" = info.field "cbsdReferenceId" ∧
    (info.field "palId").iterated = some palIds ∧ (otherInfo.field "palId").iterated = some otherIds ∧ palIds.Perm otherIds

-- The same tables with the zone rows, and the palId entries inside them, in another order.
structure Reordered (state other : SpectrumTables K) : Prop where
  legacy : other.legacyPals = state.legacyPals
  pals : other.tables.pals = state.tables.pals
  kinds : ∀ kind, kind ≠ .zone → loadKind kind other.tables = loadKind kind state.tables
  zones : ∃ middle, middle.Perm (loadKind .zone state.tables) ∧ List.Forall₂ ZoneShuffled middle (loadKind .zone other.tables)

def withZones (state : SpectrumTables K) (zones : List (Json K)) : SpectrumTables K :=
  { state with tables :=
      { state.tables with records := fun kind => if kind = .zone then .stored (zones.map some) else state.tables.records kind } }

theorem with_zones_loaded (state : SpectrumTables K) (zones : List (Json K)) : loadKind .zone (withZones state zones).tables = zones := by
  simp only [loadKind, withZones, if_true, Orm.Table.all, Orm.Table.stored, List.map_map, List.filterMap_map]
  exact List.filterMap_some

theorem with_zones_reordered (state : SpectrumTables K) (middle zones : List (Json K)) (perm : middle.Perm (loadKind .zone state.tables))
    (shuffled : List.Forall₂ ZoneShuffled middle zones) : Reordered state (withZones state zones) where
  legacy := rfl
  pals := rfl
  kinds kind other := by
    simp only [loadKind, withZones]
    rw [if_neg other]
  zones := ⟨middle, perm, by rw [with_zones_loaded]; exact shuffled⟩

end States

section Loading

variable (env : SpectrumEnv K) (cbsd : Cbsd K)

theorem reordered_pals (state other : SpectrumTables K) (reordered : Reordered state other) : loadPals other = loadPals state := by
  rw [loadPals, loadPals, reordered.pals, reordered.legacy]

theorem reordered_incumbents (state other : SpectrumTables K) (reordered : Reordered state other) :
    incumbentRanges env other cbsd = incumbentRanges env state cbsd := by
  have exclusion := reordered.kinds .exclusionZone (by decide)
  have wisp := reordered.kinds .wisp (by decide)
  have fss := reordered.kinds .fss (by decide)
  simp only [incumbentRanges, exclusionRangesAtPoint, exclusion, wisp, fss]

-- A shuffled PPA links the same PALs in another order.
theorem zone_shuffled_pals (pals : List (Json K)) (payload other : Json K) (shuffled : ZoneShuffled payload other)
    (block : List (LinkedPal K)) (read : zonePals env pals cbsd payload = .ok block) :
    ∃ found, zonePals env pals cbsd other = .ok found ∧ block.Perm found := by
  rcases shuffled with rfl | ⟨record, otherRecord, info, otherInfo, palIds, otherIds, isRecord, isOther, usage, zone, known, isInfo,
    isOtherInfo, cluster, listed, otherListed, perm⟩
  · exact ⟨block, read, List.Perm.refl _⟩
  · rw [zonePals, isRecord] at read
    rw [zonePals, isOther]
    simp only [usage, zone, known, isInfo, isOtherInfo, referenceSet, cluster, listed, otherListed] at read ⊢
    split at read
    · rename_i isPlain
      cases read
      exact ⟨[], by rw [if_pos isPlain], List.Perm.refl _⟩
    · rename_i isPpa
      rw [if_neg isPpa]
      split at read
      · rename_i clusterIds palIds' isCluster isIds
        cases isIds
        obtain ⟨lists, isRead, same⟩ := Collect.map_ok _ _ block read
        obtain ⟨found, isFound, isPerm⟩ := Collect.ok_perm _ palIds otherIds lists perm isRead
        simp only [isCluster, isFound]
        refine ⟨found.flatten, rfl, ?_⟩
        rw [← same]
        exact isPerm.flatten
      · cases read

theorem blocks_shuffled (pals : List (Json K)) (state other : SpectrumTables K) (reordered : Reordered state other)
    (blocks : List (List (LinkedPal K))) (read : (loadKind .zone state.tables).mapM (zonePals env pals cbsd) = .ok blocks) :
    ∃ others, (loadKind .zone other.tables).mapM (zonePals env pals cbsd) = .ok others ∧ Shuffled blocks others := by
  obtain ⟨middle, perm, shuffled⟩ := reordered.zones
  obtain ⟨held, isHeld, isPerm⟩ := Collect.ok_perm _ _ middle blocks perm.symm read
  suffices inner : ∃ others, (loadKind .zone other.tables).mapM (zonePals env pals cbsd) = .ok others ∧ List.Forall₂ List.Perm held others by
    obtain ⟨others, isRead, blockwise⟩ := inner
    exact ⟨others, isRead, held, isPerm.symm, blockwise⟩
  generalize loadKind .zone other.tables = zones at shuffled
  clear perm isPerm read
  induction shuffled generalizing held with
  | nil =>
      cases isHeld
      exact ⟨[], rfl, List.Forall₂.nil⟩
  | cons own _ ih =>
      rename_i payload otherPayload rest otherRest _
      rw [List.mapM_cons] at isHeld
      obtain ⟨block, isBlock, later⟩ := Collect.bind_ok _ _ held isHeld
      obtain ⟨blocks', isBlocks, same⟩ := Collect.bind_ok _ _ held later
      cases same
      obtain ⟨found, isFound, blockPerm⟩ := zone_shuffled_pals env cbsd pals payload otherPayload own block isBlock
      obtain ⟨others, isOthers, blockwise⟩ := ih blocks' isBlocks
      refine ⟨found :: others, ?_, List.Forall₂.cons blockPerm blockwise⟩
      rw [List.mapM_cons, isFound, isOthers]
      rfl

theorem link_single (pals : List (Json K)) (inCluster inPpa : Bool) (palId : Json K) (entries : List (LinkedPal K))
    (linked : linkPal env pals inCluster inPpa palId = .ok entries) : ∀ own ∈ entries, entries = [own] := by
  rw [linkPal] at linked
  split at linked
  · cases linked
  · split at linked
    · cases linked
      exact fun own absent => absurd absent List.not_mem_nil
    · obtain ⟨found, _, same⟩ := Collect.map_ok _ _ entries linked
      rw [← same]
      cases found with
      | none => exact fun own absent => absurd absent List.not_mem_nil
      | some range => exact fun own member => by rw [List.mem_singleton.mp member]; rfl

theorem object_present (data : Json K) (isDict : data.isObject = true) : data.isNull = false := by
  cases data with
  | object fields => rfl
  | _ => cases isDict

-- The record of a zone with other palId entries.
def withPalIds (palIds : List (Json K)) (record : Json K) : Json K :=
  record.put "ppaInfo" ((record.field "ppaInfo").put "palId" (.array palIds))

def rezoned (palIds : List (Json K)) (payload : Json K) : Json K :=
  if (payload.field "record").truthy then payload.put "record" (withPalIds palIds (payload.field "record"))
  else withPalIds palIds payload

theorem with_pal_ids_truthy (palIds : List (Json K)) (record : Json K) (isDict : record.isObject = true)
    (infoDict : (record.field "ppaInfo").isObject = true) : (withPalIds palIds record).truthy = true := by
  apply truthy_of_field _ "ppaInfo"
  rw [withPalIds, Json.field_put _ _ _ _ isDict, if_pos rfl]
  exact object_present _ ((Json.put_object _ _ _).trans infoDict)

theorem rezoned_record (palIds : List (Json K)) (payload record : Json K) (isRecord : recordOf payload = some record)
    (infoDict : (record.field "ppaInfo").isObject = true) : recordOf (rezoned palIds payload) = some (withPalIds palIds record) := by
  rw [recordOf] at isRecord
  cases isDict : payload.isObject with
  | false =>
      rw [isDict] at isRecord
      cases isRecord
  | true =>
      rw [isDict] at isRecord
      simp only [Bool.not_true, Bool.false_eq_true, if_false] at isRecord
      obtain ⟨same, recordDict⟩ := Option.filter_eq_some_iff.mp isRecord
      have sameRecord := Option.some.inj same
      have madeTruthy := with_pal_ids_truthy palIds record recordDict infoDict
      have madeDict : (withPalIds palIds record).isObject = true := (Json.put_object _ _ _).trans recordDict
      rw [orValue] at sameRecord
      rw [rezoned, recordOf]
      by_cases wrapped : (payload.field "record").truthy = true
      · rw [if_pos wrapped] at sameRecord ⊢
        rw [sameRecord]
        simp [Json.put_object, isDict, Json.field_put, orValue, madeTruthy, madeDict]
      · rw [if_neg wrapped] at sameRecord ⊢
        have kept : (withPalIds palIds payload).field "record" = payload.field "record" := by
          rw [withPalIds, Json.field_put _ _ _ _ isDict, if_neg (by decide)]
        rw [sameRecord] at kept ⊢
        simp only [madeDict, orValue, kept]
        rw [← sameRecord, if_neg wrapped, sameRecord]
        simp [madeDict]

-- A ppaInfo with palIds is there as an object.
theorem info_held (record info : Json K) (palIds : List (Json K)) (isInfo : (record.field "ppaInfo").orEmpty = some info)
    (isIds : (info.field "palId").iterated = some palIds) (nonempty : palIds ≠ []) :
    (record.field "ppaInfo").isObject = true ∧ record.field "ppaInfo" = info := by
  have present : ((record.field "ppaInfo").field "palId").isNull = false := by
    by_contra missing
    rw [Json.orEmpty] at isInfo
    split at isInfo
    · cases isInfo
      cases isIds
      exact nonempty rfl
    · split at isInfo
      · cases isInfo
        cases held : (record.field "ppaInfo").field "palId" with
        | null =>
            rw [held] at isIds
            cases isIds
            exact nonempty rfl
        | _ =>
            rw [held] at missing
            exact missing rfl
      · cases isInfo
  have infoTruthy := truthy_of_field (record.field "ppaInfo") "palId" present
  have infoDict := object_of_field (record.field "ppaInfo") "palId" present
  rw [Json.orEmpty, infoTruthy, infoDict] at isInfo
  exact ⟨infoDict, Option.some.inj isInfo⟩

theorem put_ids_iterated (info : Json K) (palIds : List (Json K)) (infoDict : info.isObject = true) :
    ((info.put "palId" (.array palIds)).field "palId").iterated = some palIds := by
  rw [Json.field_put _ _ _ _ infoDict, if_pos rfl, Json.iterated]
  cases palIds with
  | nil => rfl
  | cons first rest => rfl

theorem put_ids_or_empty (info : Json K) (palIds : List (Json K)) (infoDict : info.isObject = true) :
    (info.put "palId" (.array palIds)).orEmpty = some (info.put "palId" (.array palIds)) := by
  have dict : (info.put "palId" (.array palIds)).isObject = true := (Json.put_object _ _ _).trans infoDict
  have truthy : (info.put "palId" (.array palIds)).truthy = true := by
    apply truthy_of_field _ "palId"
    rw [Json.field_put _ _ _ _ infoDict, if_pos rfl]
    rfl
  rw [Json.orEmpty, truthy, dict]
  rfl

-- A PPA with its palId entries in another order is a shuffle of the zone, and its PALs are read in that order.
theorem rezoned_read (pals : List (Json K)) (payload record : Json K) (isRecord : recordOf payload = some record)
    (infoDict : (record.field "ppaInfo").isObject = true) (isInfo : (record.field "ppaInfo").orEmpty = some (record.field "ppaInfo"))
    (palIds otherIds : List (Json K)) (isIds : ((record.field "ppaInfo").field "palId").iterated = some palIds)
    (perm : palIds.Perm otherIds) (cluster : List (Json K)) (isCluster : referenceSet (record.field "ppaInfo") = some cluster)
    (entries : Json K → List (LinkedPal K))
    (each : ∀ palId ∈ palIds, linkPal env pals (cluster.any (·.isText cbsd.cbsdId))
      ((cbsdLocation cbsd).any fun place => env.pointInGeojson place.1 place.2 (record.field "zone")) palId = .ok (entries palId)) :
    ZoneShuffled payload (rezoned otherIds payload) ∧ zonePals env pals cbsd (rezoned otherIds payload) = .ok (otherIds.flatMap entries) := by
  have recordDict := object_of_field record "ppaInfo" (object_present _ infoDict)
  have otherRecord := rezoned_record otherIds payload record isRecord infoDict
  have otherInfo : (withPalIds otherIds record).field "ppaInfo" = (record.field "ppaInfo").put "palId" (.array otherIds) := by
    rw [withPalIds, Json.field_put _ _ _ _ recordDict, if_pos rfl]
  have keeps : ∀ key, "ppaInfo" ≠ key → (withPalIds otherIds record).field key = record.field key := by
    intro key apart
    rw [withPalIds, Json.field_put _ _ _ _ recordDict, if_neg apart]
  have infoKeeps : ((record.field "ppaInfo").put "palId" (.array otherIds)).field "cbsdReferenceId" =
      (record.field "ppaInfo").field "cbsdReferenceId" := by
    rw [Json.field_put _ _ _ _ infoDict, if_neg (by decide)]
  have infoIds := put_ids_iterated (record.field "ppaInfo") otherIds infoDict
  have known : (withPalIds otherIds record).has "ppaInfo" = true := by
    rw [withPalIds, Json.has_put _ _ _ _ recordDict, decide_eq_true rfl, Bool.true_or]
  have wasKnown : record.has "ppaInfo" = true := has_of_field record "ppaInfo" (object_present _ infoDict)
  have isOtherInfo : ((withPalIds otherIds record).field "ppaInfo").orEmpty =
      some ((record.field "ppaInfo").put "palId" (.array otherIds)) := by
    rw [otherInfo, put_ids_or_empty _ otherIds infoDict]
  refine ⟨.inr ⟨record, withPalIds otherIds record, _, _, palIds, otherIds, isRecord, otherRecord, keeps "usage" (by decide),
    keeps "zone" (by decide), known.trans wasKnown.symm, isInfo, isOtherInfo, infoKeeps, isIds, infoIds, perm⟩, ?_⟩
  have sameCluster : referenceSet ((record.field "ppaInfo").put "palId" (.array otherIds)) = some cluster := by
    rw [← isCluster, referenceSet, referenceSet, infoKeeps]
  have allRead := Collect.each_ok _ _ otherIds fun palId isId => each palId (perm.mem_iff.mpr isId)
  rw [zonePals, otherRecord]
  simp only [known, Bool.not_true, Bool.and_false, Bool.false_eq_true, if_false, isOtherInfo, sameCluster, infoIds,
    keeps "zone" (by decide), allRead]
  rw [List.flatMap_def]
  rfl

-- Every order of the palId entries of a PPA that links a PAL is read from a shuffle of the zone.
theorem zone_realized (pals : List (Json K)) (payload : Json K) (block : List (LinkedPal K))
    (read : zonePals env pals cbsd payload = .ok block) (entry : LinkedPal K) (member : entry ∈ block) :
    ∃ (palIds : List (Json K)) (entries : Json K → List (LinkedPal K)), block = palIds.flatMap entries ∧
      (∀ palId ∈ palIds, ∀ own ∈ entries palId, entries palId = [own]) ∧
      ∀ otherIds, palIds.Perm otherIds →
        ∃ other, ZoneShuffled payload other ∧ zonePals env pals cbsd other = .ok (otherIds.flatMap entries) := by
  rw [zonePals] at read
  cases isRecord : recordOf payload with
  | none =>
      rw [isRecord] at read
      cases read
  | some record =>
      rw [isRecord] at read
      simp only at read
      split at read
      · cases read
        cases member
      · split at read
        · cases read
        · rename_i info isInfo
          split at read
          · rename_i cluster palIds isCluster isIds
            obtain ⟨lists, isRead, same⟩ := Collect.map_ok _ _ block read
            have nonempty : palIds ≠ [] := by
              intro empty
              rw [empty] at isRead
              cases isRead
              rw [← same] at member
              cases member
            obtain ⟨infoDict, sameInfo⟩ := info_held record info palIds isInfo isIds nonempty
            rw [← sameInfo] at isInfo isIds isCluster
            obtain ⟨values, each⟩ := Collect.ok_values _ palIds lists isRead
            refine ⟨palIds, _, by rw [← same, values, List.flatMap_def], fun palId isId own isOwn => ?_, fun otherIds perm => ?_⟩
            · exact link_single env pals _ _ palId _ (each palId isId) own isOwn
            · exact ⟨_, rezoned_read env cbsd pals payload record isRecord infoDict isInfo palIds otherIds isIds perm cluster isCluster _ each⟩
          · cases read

end Loading

section Silent

variable (owned : List (Json K)) (range : Int × Int)

-- Whether no PAL of some is one that the user may use in a range.
def silent (block : List (LinkedPal K)) : Bool := block.all fun held => !uses owned range held

theorem silent_iff (block : List (LinkedPal K)) : silent owned range block = true ↔ ∀ held ∈ block, uses owned range held = false := by
  simp [silent]

end Silent

section Availability

variable (env : SpectrumEnv K) (state : SpectrumTables K) (cbsd : Cbsd K) (inquired : List (Int × Int))

-- Every channel lies in an inquired range in the band and apart from what the incumbents withhold at the location, and
-- the list is the same for every order of the zone rows and of their palId entries.
structure Available (channels : List AvailableChannel) : Prop where
  within : ∀ channel ∈ channels, ∃ range ∈ inquired.filterMap clipToCbrs,
    range.1 ≤ channel.lowFrequency ∧ channel.highFrequency ≤ range.2
  clear : ∀ ranges, incumbentRanges env state cbsd = .ok (some ranges) →
    ∀ channel ∈ channels, ∀ range ∈ ranges, Apart (channelRange channel) range
  orderless : ∀ other, Reordered state other → buildAvailableChannels env other cbsd inquired = .ok channels

-- What an inquiry reads: the PAL records, the ranges of the incumbents and the linked PALs of each zone.
structure Reads (pals : List (Json K)) (ranges : List (Int × Int)) (blocks : List (List (LinkedPal K))) : Prop where
  records : loadPals state = .ok pals
  incumbents : incumbentRanges env state cbsd = .ok (some ranges)
  zones : (loadKind .zone state.tables).mapM (zonePals env pals cbsd) = .ok blocks

def leftSegments (ranges : List (Int × Int)) : List (Int × Int) := subtractAll (inquired.filterMap clipToCbrs) ranges

def ownedIds (pals : List (Json K)) : List (Json K) := userPalIds pals cbsd.userId

-- Every PAL that the CBSD may use, and that meets what the incumbents leave of the inquiry, lies in one inquired range
-- and apart from the incumbents, and the protected PALs do the same in every order.
structure PalsClear (pals : List (Json K)) (ranges : List (Int × Int)) (blocks : List (List (LinkedPal K))) : Prop where
  inside : ∀ entry ∈ blocks.flatten, usable (ownedIds cbsd pals) entry = true →
    met (leftSegments inquired ranges) (entryRange entry) = true →
      (∃ range ∈ inquired.filterMap clipToCbrs, range.1 ≤ entry.low ∧ entry.high ≤ range.2) ∧
        ∀ range ∈ ranges, Apart (entryRange entry) range
  order : OrderSafe (ownedIds cbsd pals) (leftSegments inquired ranges) blocks

theorem clipped_proper : Proper (inquired.filterMap clipToCbrs) := by
  intro segment member
  obtain ⟨range, _, clipped⟩ := List.mem_filterMap.mp member
  rw [clipToCbrs] at clipped
  split at clipped
  · rename_i proper
    cases clipped
    exact proper
  · cases clipped

theorem left_proper (ranges : List (Int × Int)) : Proper (leftSegments inquired ranges) :=
  subtract_all_proper _ ranges (clipped_proper inquired)

theorem build_from_reads (pals : List (Json K)) (ranges : List (Int × Int)) (blocks : List (List (LinkedPal K)))
    (reads : Reads env state cbsd pals ranges blocks) :
    buildAvailableChannels env state cbsd inquired =
      .ok (channelsFromLinked (ownedIds cbsd pals) (leftSegments inquired ranges) blocks.flatten) := by
  have linked : linkedPals env state pals cbsd = .ok blocks.flatten := by
    rw [linkedPals, reads.zones]
    rfl
  rw [buildAvailableChannels, reads.records]
  simp only [Except.bind, open_segments_withheld, reads.incumbents, Except.map, Option.map_some, linked]
  exact congrArg Except.ok (channels_from_handled _ _ _)

-- The two ways an inquiry ends without an exception.
theorem build_cases (channels : List AvailableChannel) (built : buildAvailableChannels env state cbsd inquired = .ok channels) :
    (incumbentRanges env state cbsd = .ok none ∧ channels = []) ∨
      ∃ pals ranges blocks, Reads env state cbsd pals ranges blocks ∧
        channels = channelsFromLinked (ownedIds cbsd pals) (leftSegments inquired ranges) blocks.flatten := by
  have whole := built
  rw [buildAvailableChannels] at built
  cases loaded : loadPals state with
  | error error =>
      rw [loaded] at built
      cases built
  | ok pals =>
      rw [loaded] at built
      simp only [Except.bind, open_segments_withheld] at built
      cases known : incumbentRanges env state cbsd with
      | error error =>
          rw [known] at built
          cases built
      | ok incumbents =>
          rw [known] at built
          cases incumbents with
          | none =>
              cases built
              exact .inl ⟨rfl, rfl⟩
          | some ranges =>
              obtain ⟨linked, isLinked, _⟩ := Collect.map_ok _ _ channels built
              obtain ⟨blocks, isBlocks, _⟩ := Collect.map_ok _ _ linked isLinked
              have reads : Reads env state cbsd pals ranges blocks := ⟨loaded, known, isBlocks⟩
              refine .inr ⟨pals, ranges, blocks, reads, ?_⟩
              exact Except.ok.inj (whole.symm.trans (build_from_reads env state cbsd inquired pals ranges blocks reads))

theorem reads_reordered (other : SpectrumTables K) (reordered : Reordered state other) (pals : List (Json K))
    (ranges : List (Int × Int)) (blocks : List (List (LinkedPal K))) (reads : Reads env state cbsd pals ranges blocks) :
    ∃ others, Reads env other cbsd pals ranges others ∧ Shuffled blocks others := by
  obtain ⟨others, isRead, shuffled⟩ := blocks_shuffled env cbsd pals state other reordered blocks reads.zones
  exact ⟨others, ⟨(reordered_pals state other reordered).trans reads.records,
    (reordered_incumbents env cbsd state other reordered).trans reads.incumbents, isRead⟩, shuffled⟩

-- A GAA channel always lies in an inquired range and apart from the incumbents.
theorem gaa_piece_clear (ranges taken : List (Int × Int)) (range : Int × Int)
    (member : range ∈ (subtractAll (leftSegments inquired ranges) taken).flatMap fun segment => split10mhz segment.1 segment.2) :
    (∃ outer ∈ inquired.filterMap clipToCbrs, outer.1 ≤ range.1 ∧ range.2 ≤ outer.2) ∧ ∀ held ∈ ranges, Apart range held := by
  obtain ⟨segment, inSegments, inSplit⟩ := List.mem_flatMap.mp member
  obtain ⟨low, high, proper⟩ := split_inside segment.1 segment.2 range inSplit
  have clipped := within_refl _ (clipped_proper inquired)
  rw [leftSegments, ← subtract_all_append] at inSegments
  obtain ⟨_, outer, inClipped, outerLow, outerHigh⟩ := within_subtract_all _ _ _ clipped segment inSegments
  refine ⟨⟨outer, inClipped, outerLow.trans low, high.trans outerHigh⟩, fun held isHeld => ?_⟩
  rw [Apart, Set.disjoint_left]
  intro f inRange inHeld
  rw [mem_span] at inRange
  have inside : f ∈ points (subtractAll (inquired.filterMap clipToCbrs) (ranges ++ taken)) :=
    ⟨segment, inSegments, low.trans inRange.1, inRange.2.trans_le high⟩
  rw [subtract_all_points] at inside
  exact inside.2 ⟨held, List.mem_append_left taken isHeld, inHeld⟩

theorem clear_available (pals : List (Json K)) (ranges : List (Int × Int)) (blocks : List (List (LinkedPal K)))
    (reads : Reads env state cbsd pals ranges blocks) (clear : PalsClear cbsd inquired pals ranges blocks) :
    Available env state cbsd inquired (channelsFromLinked (ownedIds cbsd pals) (leftSegments inquired ranges) blocks.flatten) := by
  have proper := left_proper inquired ranges
  have each : ∀ channel ∈ channelsFromLinked (ownedIds cbsd pals) (leftSegments inquired ranges) blocks.flatten,
      (∃ outer ∈ inquired.filterMap clipToCbrs, outer.1 ≤ channel.lowFrequency ∧ channel.highFrequency ≤ outer.2) ∧
        ∀ held ∈ ranges, Apart (channelRange channel) held := by
    intro channel member
    rcases (mem_assembled _ _ channel).mp member with ⟨range, offered, rfl⟩ | ⟨range, isPiece, rfl⟩
    · obtain ⟨isMet, entry, inLinked, isUsable, same⟩ := offered_met _ _ _ (within_refl _ proper) _ range offered
      rw [← same] at isMet ⊢
      exact clear.inside entry inLinked isUsable isMet
    · exact gaa_piece_clear inquired ranges _ range isPiece
  refine ⟨fun channel member => (each channel member).1, fun others isOthers channel member => ?_, fun other reordered => ?_⟩
  · cases reads.incumbents.symm.trans isOthers
    exact (each channel member).2
  · obtain ⟨others, otherReads, shuffled⟩ := reads_reordered env state cbsd other reordered pals ranges blocks reads
    rw [build_from_reads env other cbsd inquired pals ranges others otherReads]
    exact congrArg Except.ok
      (channels_shuffled (ownedIds cbsd pals) (leftSegments inquired ranges) blocks others shuffled proper clear.order)

-- The zone that links a PAL, between the zones before it and after it.
theorem zone_of_block (pals : List (Json K)) (ranges : List (Int × Int)) (blocks : List (List (LinkedPal K)))
    (reads : Reads env state cbsd pals ranges blocks) (block : List (LinkedPal K)) (inBlocks : block ∈ blocks) :
    ∃ before payload after, loadKind .zone state.tables = before ++ payload :: after ∧ zonePals env pals cbsd payload = .ok block := by
  obtain ⟨payload, member, isRead⟩ := Collect.ok_source _ _ blocks reads.zones block inBlocks
  obtain ⟨before, after, split⟩ := List.append_of_mem member
  exact ⟨before, payload, after, split, isRead⟩

theorem reads_with_zones (pals : List (Json K)) (ranges : List (Int × Int)) (blocks others : List (List (LinkedPal K)))
    (zones : List (Json K)) (reads : Reads env state cbsd pals ranges blocks)
    (isRead : zones.mapM (zonePals env pals cbsd) = .ok others) : Reads env (withZones state zones) cbsd pals ranges others := by
  refine ⟨reads.records, ?_, by rw [with_zones_loaded]; exact isRead⟩
  have same : ∀ kind, kind ≠ .zone → loadKind kind (withZones state zones).tables = loadKind kind state.tables := by
    intro kind other
    simp only [loadKind, withZones]
    rw [if_neg other]
  have incumbents := reads.incumbents
  simp only [incumbentRanges, exclusionRangesAtPoint] at incumbents ⊢
  rw [same .exclusionZone (by decide), same .wisp (by decide), same .fss (by decide)]
  exact incumbents

theorem same_zones (zones : List (Json K)) : List.Forall₂ ZoneShuffled zones zones :=
  List.forall₂_same.mpr fun _ _ => .inl rfl

-- Any linked PAL is the first of some order.
theorem arranged_first (pals : List (Json K)) (ranges : List (Int × Int)) (blocks : List (List (LinkedPal K)))
    (reads : Reads env state cbsd pals ranges blocks) (channels : List AvailableChannel)
    (orderless : ∀ other, Reordered state other → buildAvailableChannels env other cbsd inquired = .ok channels)
    (entry : LinkedPal K) (inLinked : entry ∈ blocks.flatten) :
    ∃ after, (entry :: after).Perm blocks.flatten ∧
      channels = channelsFromLinked (ownedIds cbsd pals) (leftSegments inquired ranges) (entry :: after) := by
  obtain ⟨block, inBlocks, inBlock⟩ := List.mem_flatten.mp inLinked
  obtain ⟨before, payload, after, split, isRead⟩ := zone_of_block env state cbsd pals ranges blocks reads block inBlocks
  obtain ⟨palIds, entries, isBlock, single, realized⟩ := zone_realized env cbsd pals payload block isRead entry inBlock
  rw [isBlock] at inBlock
  obtain ⟨palId, inIds, own⟩ := List.mem_flatMap.mp inBlock
  obtain ⟨front, back, ids⟩ := List.append_of_mem inIds
  have idsPerm : palIds.Perm (palId :: (front ++ back)) := ids ▸ List.perm_middle
  obtain ⟨other, isShuffled, otherRead⟩ := realized (palId :: (front ++ back)) idsPerm
  have restRead : ∃ rest, (before ++ after).mapM (zonePals env pals cbsd) = .ok rest ∧ blocks.Perm (block :: rest) := by
    have zones := reads.zones
    rw [split] at zones
    obtain ⟨held, isHeld, perm⟩ := Collect.ok_perm _ _ (payload :: (before ++ after)) blocks List.perm_middle zones
    rw [List.mapM_cons] at isHeld
    obtain ⟨own, isOwn, later⟩ := Collect.bind_ok _ _ held isHeld
    cases isRead.symm.trans isOwn
    obtain ⟨rest, isRest, same⟩ := Collect.bind_ok _ _ held later
    cases same
    exact ⟨rest, isRest, perm⟩
  obtain ⟨rest, isRest, blocksPerm⟩ := restRead
  have newRead : (other :: (before ++ after)).mapM (zonePals env pals cbsd) =
      .ok ((palId :: (front ++ back)).flatMap entries :: rest) := by
    rw [List.mapM_cons, otherRead, isRest]
    rfl
  have reordered : Reordered state (withZones state (other :: (before ++ after))) :=
    with_zones_reordered state (payload :: (before ++ after)) _ (split ▸ List.perm_middle.symm)
      (List.Forall₂.cons isShuffled (same_zones _))
  have built := orderless _ reordered
  rw [build_from_reads env _ cbsd inquired pals ranges _ (reads_with_zones env state cbsd pals ranges blocks _ _ reads newRead)] at built
  have flat : ((palId :: (front ++ back)).flatMap entries :: rest).flatten =
      entry :: ((front ++ back).flatMap entries ++ rest.flatten) := by
    rw [List.flatten_cons, List.flatMap_cons, single palId inIds entry own]
    rfl
  refine ⟨(front ++ back).flatMap entries ++ rest.flatten, ?_, by rw [← Except.ok.inj built, flat]⟩
  rw [← flat, List.flatten_cons]
  refine List.Perm.trans ?_ blocksPerm.flatten.symm
  rw [List.flatten_cons, isBlock]
  exact (idsPerm.flatMap_right entries).symm.append_right _

-- First in its order, a PAL that the CBSD may use is offered.
theorem offered_first (pals : List (Json K)) (ranges : List (Int × Int)) (blocks : List (List (LinkedPal K)))
    (reads : Reads env state cbsd pals ranges blocks) (channels : List AvailableChannel)
    (orderless : ∀ other, Reordered state other → buildAvailableChannels env other cbsd inquired = .ok channels)
    (entry : LinkedPal K) (inLinked : entry ∈ blocks.flatten)
    (isUsable : usable (ownedIds cbsd pals) entry = true) (isMet : met (leftSegments inquired ranges) (entryRange entry) = true) :
    channelOf .pal (entryRange entry) ∈ channels := by
  obtain ⟨after, _, same⟩ := arranged_first env state cbsd inquired pals ranges blocks reads channels orderless entry inLinked
  rw [same, channelsFromLinked, offered_assembled_iff, offeredRanges]
  refine List.mem_append_left _ ?_
  rw [if_pos (by rw [isUsable, isMet]; rfl)]
  exact List.mem_singleton_self _

-- After a PAL that encloses it, a flat one is not offered.
theorem enclosed_missing (pals : List (Json K)) (ranges : List (Int × Int)) (blocks : List (List (LinkedPal K)))
    (reads : Reads env state cbsd pals ranges blocks) (channels : List AvailableChannel)
    (orderless : ∀ other, Reordered state other → buildAvailableChannels env other cbsd inquired = .ok channels)
    (range : Int × Int) (other : LinkedPal K) (inLinked : other ∈ blocks.flatten) (protects : protecting other = true)
    (encloses : Encloses (entryRange other) range) (unused : ¬ uses (ownedIds cbsd pals) range other = true) :
    channelOf .pal range ∉ channels := by
  obtain ⟨after, _, same⟩ := arranged_first env state cbsd inquired pals ranges blocks reads channels orderless other inLinked
  rw [same, channelsFromLinked, offered_assembled_iff]
  exact flat_not_offered (ownedIds cbsd pals) _ (left_proper inquired ranges) range other after protects encloses unused

theorem left_in_band (ranges : List (Int × Int)) :
    ∀ segment ∈ leftSegments inquired ranges, cbrsLowHz ≤ segment.1 ∧ segment.2 ≤ cbrsHighHz := by
  intro segment member
  obtain ⟨_, outer, inClipped, low, high⟩ := within_subtract_all _ _ ranges (within_refl _ (clipped_proper inquired)) segment member
  obtain ⟨range, _, clipped⟩ := List.mem_filterMap.mp inClipped
  rw [clipToCbrs] at clipped
  split at clipped
  · cases clipped
    exact ⟨(le_max_right _ _).trans low, high.trans (min_le_right _ _)⟩
  · cases clipped

-- Where every order gives the same channels, no protected ranges are tangled.
theorem orderless_untangled (pals : List (Json K)) (ranges : List (Int × Int)) (blocks : List (List (LinkedPal K)))
    (reads : Reads env state cbsd pals ranges blocks) (channels : List AvailableChannel)
    (orderless : ∀ other, Reordered state other → buildAvailableChannels env other cbsd inquired = .ok channels) :
    Untangled (leftSegments inquired ranges) (protectedRanges blocks.flatten) := by
  by_contra tangled
  obtain ⟨f, some_tangled, least⟩ := least_tangled _ _ (tangled_of_not _ _ tangled)
  obtain ⟨range, blocker, isTangled, isListed, untangled, blocks'⟩ := tangle_blocked _ _ f some_tangled least
  have arranged : ∀ taken ∈ protectedRanges blocks.flatten, ∃ behind, (taken :: behind).Perm (protectedRanges blocks.flatten) ∧
      channels.countP (gaaAt f) = ((subtractAll (leftSegments inquired ranges) (taken :: behind)).filter (holds f)).length := by
    intro taken isTaken
    obtain ⟨entry, inLinked, protects, same⟩ := (mem_protected _ taken).mp isTaken
    obtain ⟨after, perm, isChannels⟩ :=
      arranged_first env state cbsd inquired pals ranges blocks reads channels orderless entry inLinked
    have first : protectedRanges (entry :: after) = taken :: protectedRanges after := by
      have kept : (entry.inCluster || entry.inPpa) = true := protects
      rw [protectedRanges, List.filter_cons, if_pos kept, List.map_cons, same]
      rfl
    refine ⟨protectedRanges after, first ▸ protected_perm _ _ perm, ?_⟩
    rw [isChannels, ← first]
    exact gaa_counted (ownedIds cbsd pals) f _ (left_proper inquired ranges) (left_in_band inquired ranges) (entry :: after)
  obtain ⟨after, one, most⟩ := arranged range isTangled.listed
  obtain ⟨behind, two, fewest⟩ := arranged blocker isListed
  have fewer := tangled_disagree _ _ f range blocker isTangled isListed untangled blocks' after behind one two
  omega

def zoneBlock (pals : List (Json K)) (zone : Json K) : List (LinkedPal K) := (zonePals env pals cbsd zone).toOption.getD default

-- Some order has the zones of a test first and behind them one that fails it, in another order of its palId entries.
theorem arranged_zone (pals : List (Json K)) (ranges : List (Int × Int)) (blocks : List (List (LinkedPal K)))
    (reads : Reads env state cbsd pals ranges blocks) (channels : List AvailableChannel)
    (orderless : ∀ other, Reordered state other → buildAvailableChannels env other cbsd inquired = .ok channels)
    (early : Json K → Bool) (payload : Json K) (inZones : payload ∈ loadKind .zone state.tables) (late : early payload = false)
    (other : Json K) (isShuffled : ZoneShuffled payload other) (block : List (LinkedPal K))
    (otherRead : zonePals env pals cbsd other = .ok block) :
    ∃ later, channels = channelsFromLinked (ownedIds cbsd pals) (leftSegments inquired ranges)
      ((((loadKind .zone state.tables).filter early).map (zoneBlock env cbsd pals)).flatten ++ (block ++ later)) := by
  have among : payload ∈ (loadKind .zone state.tables).filter fun zone => !early zone :=
    List.mem_filter.mpr ⟨inZones, by rw [late]; rfl⟩
  obtain ⟨front, back, split⟩ := List.append_of_mem among
  have perm : ((loadKind .zone state.tables).filter early ++ payload :: (front ++ back)).Perm (loadKind .zone state.tables) := by
    refine List.Perm.trans ?_ (List.filter_append_perm early (loadKind .zone state.tables))
    rw [split]
    exact List.perm_middle.symm.append_left _
  obtain ⟨_, each⟩ := Collect.ok_values _ _ blocks reads.zones
  have eachOther : ∀ zone ∈ (loadKind .zone state.tables).filter early ++ payload :: (front ++ back),
      zonePals env pals cbsd zone = .ok (zoneBlock env cbsd pals zone) :=
    fun zone member => each zone (perm.mem_iff.mp member)
  have earlyRead := Collect.each_ok _ _ ((loadKind .zone state.tables).filter early)
    fun zone member => eachOther zone (List.mem_append_left _ member)
  have restRead := Collect.each_ok _ _ (front ++ back)
    fun zone member => eachOther zone (List.mem_append_right _ (List.mem_cons_of_mem _ member))
  have newRead : ((loadKind .zone state.tables).filter early ++ other :: (front ++ back)).mapM (zonePals env pals cbsd) =
      .ok (((loadKind .zone state.tables).filter early).map (zoneBlock env cbsd pals) ++
        block :: (front ++ back).map (zoneBlock env cbsd pals)) := by
    rw [List.mapM_append, earlyRead, List.mapM_cons, otherRead, restRead]
    rfl
  have reordered : Reordered state (withZones state ((loadKind .zone state.tables).filter early ++ other :: (front ++ back))) :=
    with_zones_reordered state _ _ perm (List.rel_append (same_zones _) (List.Forall₂.cons isShuffled (same_zones _)))
  have built := orderless _ reordered
  rw [build_from_reads env _ cbsd inquired pals ranges _ (reads_with_zones env state cbsd pals ranges blocks _ _ reads newRead)] at built
  refine ⟨((front ++ back).map (zoneBlock env cbsd pals)).flatten, ?_⟩
  rw [← Except.ok.inj built, List.flatten_append, List.flatten_cons]

-- With all that can cover it first, a covered PAL is not offered.
theorem covered_missing (pals : List (Json K)) (ranges : List (Int × Int)) (blocks : List (List (LinkedPal K)))
    (reads : Reads env state cbsd pals ranges blocks) (channels : List AvailableChannel)
    (orderless : ∀ other, Reordered state other → buildAvailableChannels env other cbsd inquired = .ok channels)
    (block : List (LinkedPal K)) (inBlocks : block ∈ blocks) (entry : LinkedPal K) (inBlock : entry ∈ block)
    (isUse : uses (ownedIds cbsd pals) (entryRange entry) entry = true) (isProper : entry.low < entry.high)
    (covered : ¬ Uncovered (ownedIds cbsd pals) (leftSegments inquired ranges) blocks block (entryRange entry)) :
    channelOf .pal (entryRange entry) ∉ channels := by
  obtain ⟨payload, inZones, isRead⟩ := Collect.ok_source _ _ blocks reads.zones block inBlocks
  obtain ⟨palIds, entries, isBlock, single, realized⟩ := zone_realized env cbsd pals payload block isRead entry inBlock
  have values : blocks = (loadKind .zone state.tables).map (zoneBlock env cbsd pals) := (Collect.ok_values _ _ blocks reads.zones).1
  have payloadBlock : zoneBlock env cbsd pals payload = block := by
    rw [zoneBlock, isRead]
    rfl
  generalize wanted : entryRange entry = range at isUse covered ⊢
  -- Those palId entries and those zones come first that do not offer the range.
  obtain ⟨other, isShuffled, otherRead⟩ := realized
    (palIds.filter (fun palId => silent (ownedIds cbsd pals) range (entries palId)) ++
      palIds.filter fun palId => !silent (ownedIds cbsd pals) range (entries palId)) (List.filter_append_perm _ palIds).symm
  have loud : silent (ownedIds cbsd pals) range (zoneBlock env cbsd pals payload) = false := by
    rw [payloadBlock]
    exact List.all_eq_false.mpr ⟨entry, inBlock, by simp [isUse]⟩
  obtain ⟨later, same⟩ := arranged_zone env state cbsd inquired pals ranges blocks reads channels orderless
    (fun zone => silent (ownedIds cbsd pals) range (zoneBlock env cbsd pals zone)) payload inZones loud other isShuffled _ otherRead
  rw [same, channelsFromLinked, offered_assembled_iff, List.flatMap_append, List.append_assoc, ← List.append_assoc]
  refine covered_not_offered _ _ (left_proper inquired ranges) blocks block range ?_ covered _ _ _ ?_ ?_ ?_ ?_
  · rw [← wanted]
    exact isProper
  · intro rival isRival quiet
    rw [values] at isRival
    obtain ⟨zone, isZone, same⟩ := List.mem_map.mp isRival
    exact List.mem_map.mpr ⟨zone, List.mem_filter.mpr ⟨isZone, (silent_iff _ _ _).mpr (same ▸ quiet)⟩, same⟩
  · intro rival isRival
    obtain ⟨zone, isZone, same⟩ := List.mem_map.mp isRival
    exact same ▸ (silent_iff _ _ _).mp (List.mem_filter.mp isZone).2
  · intro held member unused
    rw [isBlock] at member
    obtain ⟨palId, inIds, own⟩ := List.mem_flatMap.mp member
    refine List.mem_flatMap.mpr ⟨palId, List.mem_filter.mpr ⟨inIds, (silent_iff _ _ _).mpr fun found isFound => ?_⟩, own⟩
    rw [single palId inIds held own] at isFound
    rw [List.mem_singleton.mp isFound, unused]
  · intro held member
    obtain ⟨palId, inIds, own⟩ := List.mem_flatMap.mp member
    exact (silent_iff _ _ _).mp (List.mem_filter.mp inIds).2 held own

-- For every database state, CBSD and inquiry: every channel is available in every order exactly when the PALs are clear.
theorem offered_channels_available_iff (channels : List AvailableChannel)
    (built : buildAvailableChannels env state cbsd inquired = .ok channels) :
    Available env state cbsd inquired channels ↔
      ∀ pals ranges blocks, Reads env state cbsd pals ranges blocks → PalsClear cbsd inquired pals ranges blocks := by
  constructor
  · intro available pals ranges blocks reads
    have offered : ∀ entry ∈ blocks.flatten, usable (ownedIds cbsd pals) entry = true →
        met (leftSegments inquired ranges) (entryRange entry) = true → channelOf .pal (entryRange entry) ∈ channels :=
      offered_first env state cbsd inquired pals ranges blocks reads channels available.orderless
    refine ⟨fun entry inLinked isUsable isMet => ?_, fun block inBlocks entry inBlock isUsable isMet isProper => ?_,
      fun entry inLinked isUsable isMet isFlat other isOther protects encloses => ?_,
      orderless_untangled env state cbsd inquired pals ranges blocks reads channels available.orderless⟩
    · have isChannel := offered entry inLinked isUsable isMet
      exact ⟨available.within _ isChannel, available.clear ranges reads.incumbents _ isChannel⟩
    · by_contra covered
      exact covered_missing env state cbsd inquired pals ranges blocks reads channels available.orderless block inBlocks entry inBlock
        ((uses_iff _ _ entry).mpr ⟨isUsable, rfl⟩) isProper covered
        (offered entry (List.mem_flatten.mpr ⟨block, inBlocks, inBlock⟩) isUsable isMet)
    · by_contra unused
      exact enclosed_missing env state cbsd inquired pals ranges blocks reads channels available.orderless _ other isOther protects
        encloses unused (offered entry inLinked isUsable isMet)
  · intro clear
    rcases build_cases env state cbsd inquired channels built with ⟨withheld, rfl⟩ | ⟨pals, ranges, blocks, reads, rfl⟩
    · refine ⟨fun channel absent => absurd absent List.not_mem_nil, fun _ _ channel absent => absurd absent List.not_mem_nil,
        fun other reordered => ?_⟩
      have loaded : ∃ pals, loadPals state = .ok pals := by
        rw [buildAvailableChannels] at built
        cases known : loadPals state with
        | error error =>
            rw [known] at built
            cases built
        | ok pals => exact ⟨pals, rfl⟩
      obtain ⟨pals, isLoaded⟩ := loaded
      rw [buildAvailableChannels, reordered_pals state other reordered, isLoaded]
      simp only [Except.bind, open_segments_withheld, reordered_incumbents env cbsd state other reordered, withheld]
      rfl
    · exact clear_available env state cbsd inquired pals ranges blocks reads (clear pals ranges blocks reads)

end Availability

-- A CBSD in the cluster of its user's PPA, whose PAL is on 3550-3560 MHz.
def memberPpa : Json Rat :=
  .object [("id", .text "zone/ppa/sas/1"), ("usage", .text "PPA"),
    ("ppaInfo", .object [("palId", .array [.text "pal/1"]), ("cbsdReferenceId", .array [.text "fcc/sn"])]),
    ("zone", .object [("type", .text "Polygon"), ("coordinates", .array [eastRing])])]

def memberTables : SpectrumTables Rat where
  tables :=
    { (Tables.empty : Tables Rat) with
      records := fun kind => if kind = .zone then .stored [some memberPpa] else .stored []
      pals := .stored [lowPalRow assignedPal] }
  legacyPals := []

def memberChannel : AvailableChannel := channelOf .pal (3550000000, 3560000000)

theorem offered_outside_inquiry :
    ¬ ∀ (state : SpectrumTables Rat) (cbsd : Cbsd Rat) (inquired : List (Int × Int)) (channels : List AvailableChannel),
      buildAvailableChannels plainsEnv state cbsd inquired = .ok channels → Available plainsEnv state cbsd inquired channels := by
  intro claim
  have available := claim memberTables plainsCbsd [(3550000000, 3555000000)] [memberChannel] (by decide +kernel)
  obtain ⟨range, member, _, below⟩ := available.within memberChannel (List.mem_singleton_self _)
  have clipped : [((3550000000 : Int), (3555000000 : Int))].filterMap clipToCbrs = [(3550000000, 3555000000)] := by decide
  rw [clipped, List.mem_singleton] at member
  rw [member] at below
  exact absurd below (by decide)

-- The PPA links the PAL of another user as well, whose range is the single bound 3575 MHz.
def boundPalRow : PalRow Rat :=
  ⟨"pal/2", "other", 3575000000, 3575000000, "VALID", none, .object [("palId", .text "pal/2"), ("userId", .text "other")]⟩

def sharedPpa : Json Rat :=
  .object [("id", .text "zone/ppa/sas/1"), ("usage", .text "PPA"),
    ("ppaInfo", .object [("palId", .array [.text "pal/2", .text "pal/1"]), ("cbsdReferenceId", .array [.text "fcc/sn"])]),
    ("zone", .object [("type", .text "Polygon"), ("coordinates", .array [eastRing])])]

def sharedTables : SpectrumTables Rat where
  tables :=
    { (Tables.empty : Tables Rat) with
      records := fun kind => if kind = .zone then .stored [some sharedPpa] else .stored []
      pals := .stored [lowPalRow assignedPal, boundPalRow] }
  legacyPals := []

def sharedPals : List (Json Rat) := [palRecordToDict (lowPalRow assignedPal), palRecordToDict boundPalRow]

def boundEntry : LinkedPal Rat := ⟨3575000000, 3575000000, true, false, .text "pal/2", palRecordToDict boundPalRow⟩

def memberEntry : LinkedPal Rat := ⟨3550000000, 3560000000, true, false, .text "pal/1", palRecordToDict (lowPalRow assignedPal)⟩

def sharedChannels : List AvailableChannel :=
  [memberChannel, channelOf .gaa (3560000000, 3570000000), channelOf .gaa (3570000000, 3575000000),
    channelOf .gaa (3575000000, 3580000000)]

theorem shared_reads (pals : List (Json Rat)) (ranges : List (Int × Int)) (blocks : List (List (LinkedPal Rat)))
    (reads : Reads plainsEnv sharedTables plainsCbsd pals ranges blocks) :
    pals = sharedPals ∧ ranges = [] ∧ blocks = [[boundEntry, memberEntry]] := by
  have isPals : loadPals sharedTables = .ok sharedPals := rfl
  cases isPals.symm.trans reads.records
  have isRanges : incumbentRanges plainsEnv sharedTables plainsCbsd = .ok (some []) := rfl
  cases isRanges.symm.trans reads.incumbents
  have isBlocks : (loadKind .zone sharedTables.tables).mapM (zonePals plainsEnv sharedPals plainsCbsd) =
      .ok [[boundEntry, memberEntry]] := rfl
  cases isBlocks.symm.trans reads.zones
  exact ⟨rfl, rfl, rfl⟩

theorem offered_channels_available_iff_sample :
    Available plainsEnv sharedTables plainsCbsd [(3550000000, 3580000000)] sharedChannels := by
  refine (offered_channels_available_iff plainsEnv sharedTables plainsCbsd [(3550000000, 3580000000)] sharedChannels
    (by decide +kernel)).mpr fun pals ranges blocks reads => ?_
  obtain ⟨rfl, rfl, rfl⟩ := shared_reads pals ranges blocks reads
  have foreign : usable (ownedIds plainsCbsd sharedPals) boundEntry = false := by decide +kernel
  have isUse : uses (ownedIds plainsCbsd sharedPals) (entryRange memberEntry) memberEntry = true := by decide +kernel
  have own : ∀ entry ∈ [boundEntry, memberEntry], usable (ownedIds plainsCbsd sharedPals) entry = true → entry = memberEntry := by
    intro entry member isUsable
    rcases List.mem_pair.mp member with rfl | rfl
    · exact absurd (foreign.symm.trans isUsable) Bool.false_ne_true
    · rfl
  refine ⟨fun entry member isUsable _ => ?_, fun block inBlocks entry inBlock isUsable _ _ => ?_, fun entry member isUsable _ isFlat => ?_,
    ?_⟩
  · rw [own entry member isUsable]
    exact ⟨⟨(3550000000, 3580000000), by decide, by decide, by decide⟩, fun range absent => absurd absent List.not_mem_nil⟩
  · rw [List.mem_singleton.mp inBlocks] at inBlock ⊢
    rw [own entry inBlock isUsable]
    refine ⟨3550000000, ⟨(3550000000, 3580000000), by decide, by decide, by decide⟩, ⟨by decide, by decide⟩, ?_, ?_⟩
    · intro other isOther _ unused
      rcases List.mem_pair.mp isOther with rfl | rfl
      · exact fun inside => absurd inside.1 (by decide)
      · rw [isUse] at unused
        cases unused
    · intro rival isRival silent
      rw [List.mem_singleton.mp isRival] at silent
      exact absurd ((silent memberEntry (by simp)).symm.trans isUse) Bool.false_ne_true
  · rw [own entry member isUsable] at isFlat
    exact absurd isFlat (by decide)
  · have listed : protectedRanges [[boundEntry, memberEntry]].flatten = [(3575000000, 3575000000), (3550000000, 3560000000)] := rfl
    rw [listed]
    intro range member _ f doubles
    rcases List.mem_pair.mp member with rfl | rfl <;> simp only [Doubles] at doubles <;> omega

end SasCore.Spectrum
