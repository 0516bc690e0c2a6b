import SasCore.Spectrum.Channels
import SasCore.Spectrum.PalFrequencies
import SasCore.Dpa.ActivationKeys

set_option autoImplicit false
set_option linter.unusedSectionVars false

namespace SasCore.Spectrum

open Injection Federal Registry

variable {K : Type} [Field K] [LinearOrder K]

section Ranges

theorem overlaps_hz_iff (aLow aHigh bLow bHigh : Int) : overlapsHz aLow aHigh bLow bHigh = true ↔ aLow < bHigh ∧ bLow < aHigh := by
  simp [overlapsHz]

-- What is left of a segment lies in it and meets nothing of the range.
theorem outside_apart (low high exLow exHigh : Int) (piece : Int × Int) (member : piece ∈ outside low high exLow exHigh) :
    low ≤ piece.1 ∧ piece.2 ≤ high ∧ ¬ overlapsHz piece.1 piece.2 exLow exHigh = true := by
  rw [outside] at member
  by_cases meets : overlapsHz low high exLow exHigh = true
  · have apart : (!overlapsHz low high exLow exHigh) = false := by rw [meets]; rfl
    rw [apart, if_neg Bool.false_ne_true] at member
    rw [overlaps_hz_iff] at meets ⊢
    rcases List.mem_append.mp member with front | back
    · by_cases before : low < exLow
      · rw [if_pos before] at front
        rw [List.mem_singleton.mp front]
        simp only
        omega
      · rw [if_neg before] at front
        cases front
    · by_cases after : exHigh < high
      · rw [if_pos after] at back
        rw [List.mem_singleton.mp back]
        simp only
        omega
      · rw [if_neg after] at back
        cases back
  · have apart : (!overlapsHz low high exLow exHigh) = true := by simpa using meets
    rw [apart, if_pos rfl] at member
    rw [List.mem_singleton.mp member]
    exact ⟨le_refl low, le_refl high, meets⟩

theorem subtract_inside (segments : List (Int × Int)) (exLow exHigh : Int) (piece : Int × Int)
    (member : piece ∈ subtractRange segments exLow exHigh) :
    ¬ overlapsHz piece.1 piece.2 exLow exHigh = true ∧ ∃ segment ∈ segments, segment.1 ≤ piece.1 ∧ piece.2 ≤ segment.2 := by
  obtain ⟨segment, inSegments, inPieces⟩ := List.mem_flatMap.mp (List.mem_of_mem_filter member)
  obtain ⟨low, high, apart⟩ := outside_apart segment.1 segment.2 exLow exHigh piece inPieces
  exact ⟨apart, segment, inSegments, low, high⟩

theorem apart_inside (segment piece : Int × Int) (low high : Int) (within : segment.1 ≤ piece.1 ∧ piece.2 ≤ segment.2)
    (apart : ¬ overlapsHz segment.1 segment.2 low high = true) : ¬ overlapsHz piece.1 piece.2 low high = true := by
  rw [overlaps_hz_iff] at apart ⊢
  omega

theorem channels_inside (high : Int) (fuel : Nat) (cur : Int) :
    ∀ channel ∈ Dpa.channelsFrom high fuel cur, channel.2 ≤ high ∧ channel.1 < channel.2 := by
  have positive : Dpa.channelHz = 10000000 := rfl
  induction fuel generalizing cur with
  | zero =>
      intro channel member
      rw [Dpa.channelsFrom] at member
      split at member
      · rw [List.mem_singleton.mp member]
        simp only
        omega
      · cases member
  | succ fuel ih =>
      intro channel member
      rw [Dpa.channelsFrom] at member
      split at member
      · rcases List.mem_cons.mp member with here | later
        · rw [here]
          simp only
          omega
        · exact ih (cur + Dpa.channelHz) channel later
      · split at member
        · rw [List.mem_singleton.mp member]
          simp only
          omega
        · cases member

theorem aligned_after (start : Int) : start ≤ alignedStart start := by
  have positive : channelHz = 10000000 := rfl
  rw [alignedStart]
  by_cases onGrid : start % channelHz = 0
  · rw [if_pos onGrid]
  · rw [if_neg onGrid]
    by_cases back : start ≤ (start + channelHz - 1) / channelHz * channelHz - channelHz ∧
        cbrsLowHz ≤ (start + channelHz - 1) / channelHz * channelHz - channelHz
    · rw [if_pos back]
      exact back.1
    · rw [if_neg back, positive]
      omega

-- A channel is a proper piece of its segment.
theorem split_inside (low high : Int) (channel : Int × Int) (member : channel ∈ split10mhz low high) :
    low ≤ channel.1 ∧ channel.2 ≤ high ∧ channel.1 < channel.2 := by
  simp only [split10mhz] at member
  have after := aligned_after (max low cbrsLowHz)
  split at member
  · cases member
  · rcases List.mem_append.mp member with head | grid
    · split at head
      · split at head
        · rw [List.mem_singleton.mp head]
          simp only
          omega
        · cases head
      · cases head
    · have bound := Dpa.channels_from_bound _ _ _ channel grid
      have inside := channels_inside _ _ _ channel grid
      omega

end Ranges

section Protection

variable (owned : List (Json K))

def Protects (entry : LinkedPal K) : Prop := entry.inCluster = true ∨ entry.inPpa = true

-- One PAL takes its range out of the segments when the PPA concerns the CBSD.
theorem handle_pal_segments (held : PalSegments) (entry : LinkedPal K) (piece : Int × Int)
    (member : piece ∈ (handlePal owned held entry).segments) :
    (Protects entry → ¬ overlapsHz piece.1 piece.2 entry.low entry.high = true) ∧
      ∃ segment ∈ held.segments, segment.1 ≤ piece.1 ∧ piece.2 ≤ segment.2 := by
  rw [handlePal] at member
  split at member
  · have left := subtract_inside _ _ _ piece member
    exact ⟨fun _ => left.1, left.2⟩
  · split at member
    · have left := subtract_inside _ _ _ piece member
      exact ⟨fun _ => left.1, left.2⟩
    · rename_i noCluster
      split at member
      · have left := subtract_inside _ _ _ piece member
        exact ⟨fun _ => left.1, left.2⟩
      · rename_i noPpa
        refine ⟨?_, piece, member, le_refl _, le_refl _⟩
        rintro (inCluster | inPpa)
        · exact absurd inCluster noCluster
        · exact absurd inPpa noPpa

theorem handled_segments (linked : List (LinkedPal K)) (held : PalSegments) (piece : Int × Int)
    (member : piece ∈ (linked.foldl (handlePal owned) held).segments) :
    (∀ entry ∈ linked, Protects entry → ¬ overlapsHz piece.1 piece.2 entry.low entry.high = true) ∧
      ∃ segment ∈ held.segments, segment.1 ≤ piece.1 ∧ piece.2 ≤ segment.2 := by
  induction linked generalizing held with
  | nil => exact ⟨fun entry absent => absurd absent List.not_mem_nil, piece, member, le_refl _, le_refl _⟩
  | cons entry rest ih =>
      obtain ⟨later, segment, inHeld, within⟩ := ih (handlePal owned held entry) member
      obtain ⟨apart, origin, inOrigin, around⟩ := handle_pal_segments owned held entry segment inHeld
      refine ⟨?_, origin, inOrigin, le_trans around.1 within.1, le_trans within.2 around.2⟩
      rw [List.forall_mem_cons]
      exact ⟨fun protects => apart_inside segment piece _ _ within (apart protects), later⟩

end Protection

section Resolution

variable (env : SpectrumEnv K)

variable (contexts : List (PalContext K)) (low high : Int) (userId : String)

def overlappingPals : List (PalContext K) := contexts.filter fun context => overlapsHz low high context.low context.high

-- No PPA around the CBSD without it in the cluster, and no range of its own clusters that is only met in part.
def Unmixed : Prop :=
  ∀ context ∈ overlappingPals contexts low high,
    (context.inPpa = true → context.inCluster = true) ∧ (context.inCluster = true → coversRange context low high = true)

theorem unmixed_iff : Unmixed contexts low high ↔
    ((overlappingPals contexts low high).any fun context => context.inPpa && !context.inCluster) = false ∧
      ((overlappingPals contexts low high).any fun context => context.inCluster && !coversRange context low high) = false := by
  rw [List.any_eq_false, List.any_eq_false, Unmixed, ← forall₂_and]
  refine forall₂_congr fun context _ => and_congr ?_ ?_
  · cases context.inPpa <;> cases context.inCluster <;> simp
  · cases context.inCluster <;> cases coversRange context low high <;> simp

-- The three outcomes of a request, in the order of the source.
theorem resolve_cases :
    (¬ Unmixed contexts low high ∧ ∃ code, resolveChannel env contexts low high userId = .error code) ∨
      (Unmixed contexts low high ∧ resolveChannel env contexts low high userId =
        if ((overlappingPals contexts low high).filter fun context => coversRange context low high).isEmpty then .ok ⟨.gaa, none, none⟩
        else
          match ((overlappingPals contexts low high).filter fun context => coversRange context low high).find? fun context =>
              context.inCluster && context.userId.isText userId with
          | some context => .ok (palGrant env context)
          | none => .error interference) := by
  have meeting : (contexts.filter fun context => overlapsHz low high context.low context.high) = overlappingPals contexts low high := rfl
  rw [unmixed_iff, resolveChannel]
  simp only [meeting]
  cases ppa : (overlappingPals contexts low high).any fun context => context.inPpa && !context.inCluster with
  | true => exact .inl ⟨by simp, interference, rfl⟩
  | false =>
      cases part : (overlappingPals contexts low high).any fun context => context.inCluster && !coversRange context low high with
      | true => exact .inl ⟨by simp, invalidParam, rfl⟩
      | false => exact .inr ⟨⟨rfl, rfl⟩, rfl⟩

theorem resolve_gaa_iff :
    (∃ granted, resolveChannel env contexts low high userId = .ok granted ∧ granted.channelType = .gaa) ↔
      Unmixed contexts low high ∧ ∀ context ∈ overlappingPals contexts low high, ¬ coversRange context low high = true := by
  rcases resolve_cases env contexts low high userId with ⟨mixed, code, refused⟩ | ⟨unmixed, answer⟩
  · rw [refused]
    refine iff_of_false ?_ fun both => mixed both.1
    rintro ⟨granted, done, _⟩
    cases done
  · rw [answer]
    simp only [unmixed, true_and]
    by_cases empty : ((overlappingPals contexts low high).filter fun context => coversRange context low high).isEmpty = true
    · rw [if_pos empty]
      refine iff_of_true ⟨_, rfl, rfl⟩ ?_
      rwa [List.isEmpty_iff, List.filter_eq_nil_iff] at empty
    · rw [if_neg empty]
      rw [List.isEmpty_iff, List.filter_eq_nil_iff] at empty
      refine iff_of_false ?_ empty
      rintro ⟨granted, done, isGaa⟩
      split at done
      · cases done
        cases isGaa
      · cases done

theorem resolve_pal_iff :
    (∃ granted, resolveChannel env contexts low high userId = .ok granted ∧ granted.channelType = .pal) ↔
      Unmixed contexts low high ∧ ∃ context ∈ overlappingPals contexts low high, coversRange context low high = true ∧
        context.inCluster = true ∧ context.userId.isText userId = true := by
  rcases resolve_cases env contexts low high userId with ⟨mixed, code, refused⟩ | ⟨unmixed, answer⟩
  · rw [refused]
    refine iff_of_false ?_ fun both => mixed both.1
    rintro ⟨granted, done, _⟩
    cases done
  · rw [answer]
    simp only [unmixed, true_and]
    cases found : ((overlappingPals contexts low high).filter fun context => coversRange context low high).find? fun context =>
        context.inCluster && context.userId.isText userId with
    | some context =>
        have isFound := List.find?_some found
        have member := List.mem_filter.mp (List.mem_of_find?_eq_some found)
        have nonempty : ¬ ((overlappingPals contexts low high).filter fun context => coversRange context low high).isEmpty = true := by
          rw [List.isEmpty_iff, List.filter_eq_nil_iff]
          exact fun absent => absent context member.1 member.2
        rw [if_neg nonempty]
        rw [Bool.and_eq_true] at isFound
        exact iff_of_true ⟨_, rfl, rfl⟩ ⟨context, member.1, member.2, isFound⟩
    | none =>
        rw [List.find?_eq_none] at found
        refine iff_of_false ?_ ?_
        · rintro ⟨granted, done, isPal⟩
          split at done
          · cases done
            cases isPal
          · cases done
        · rintro ⟨context, member, covering, cluster, owner⟩
          exact found context (List.mem_filter.mpr ⟨member, covering⟩) (by rw [cluster, owner]; rfl)

end Resolution

section Agreement

variable (env : SpectrumEnv K) (state : SpectrumTables K) (cbsd : Cbsd K)

-- The grant service answers to a channel of an inquiry, asked for exactly its range, with its type.
def GrantAgrees (channel : AvailableChannel) : Prop :=
  ∃ contexts, ppaPalContext env state cbsd = .ok contexts ∧
    ∃ granted, resolveChannel env contexts channel.lowFrequency channel.highFrequency cbsd.userId = .ok granted ∧
      granted.channelType = channel.channelType

def Meets (entry : LinkedPal K) (channel : AvailableChannel) : Prop :=
  overlapsHz channel.lowFrequency channel.highFrequency entry.low entry.high = true

def Contains (entry : LinkedPal K) (channel : AvailableChannel) : Prop :=
  entry.low ≤ channel.lowFrequency ∧ channel.highFrequency ≤ entry.high

-- The license of every linked PAL can be read; no range of a PPA that does not concern the CBSD contains a GAA channel;
-- and a PAL channel meets no PPA around the CBSD without it in the cluster, lies in every range of its clusters that it
-- meets, and one of these belongs to its user.
def ChannelClear (linked : List (LinkedPal K)) (channel : AvailableChannel) : Prop :=
  (∀ entry ∈ linked, (entry.pal.field "license").orEmpty.isSome) ∧
    match channel.channelType with
    | .gaa => ∀ entry ∈ linked, ¬ Protects entry → ¬ Contains entry channel
    | .pal =>
        (∀ entry ∈ linked, Meets entry channel →
          (entry.inPpa = true → entry.inCluster = true) ∧ (entry.inCluster = true → Contains entry channel)) ∧
        ∃ entry ∈ linked, Meets entry channel ∧ Contains entry channel ∧ entry.inCluster = true ∧
          (entry.pal.field "userId").isText cbsd.userId = true

theorem context_fields (entry : LinkedPal K) (context : PalContext K) (read : palContext entry = .ok context) :
    context.low = entry.low ∧ context.high = entry.high ∧ context.inCluster = entry.inCluster ∧ context.inPpa = entry.inPpa ∧
      context.userId = entry.pal.field "userId" := by
  obtain ⟨licenseExp, _, same⟩ := Collect.map_ok _ _ context read
  rw [← same]
  exact ⟨rfl, rfl, rfl, rfl, rfl⟩

theorem context_reads_iff (entry : LinkedPal K) :
    (∃ context, palContext entry = .ok context) ↔ (entry.pal.field "license").orEmpty.isSome := by
  rw [palContext, innerField]
  cases (entry.pal.field "license").orEmpty with
  | none =>
      refine iff_of_false ?_ Bool.false_ne_true
      rintro ⟨_, read⟩
      cases read
  | some license => exact iff_of_true ⟨_, rfl⟩ rfl

-- The contexts of a grant are the linked PALs, one for one.
theorem contexts_exist_iff (linked : List (LinkedPal K)) :
    (∃ contexts, linked.mapM palContext = .ok contexts) ↔ ∀ entry ∈ linked, (entry.pal.field "license").orEmpty.isSome := by
  constructor
  · rintro ⟨contexts, read⟩ entry member
    obtain ⟨context, _, isRead⟩ := Collect.ok_result _ _ _ read entry member
    exact (context_reads_iff entry).mp ⟨context, isRead⟩
  · intro reads
    induction linked with
    | nil => exact ⟨[], rfl⟩
    | cons entry rest ih =>
        rw [List.forall_mem_cons] at reads
        obtain ⟨context, isRead⟩ := (context_reads_iff entry).mpr reads.1
        obtain ⟨others, isRest⟩ := ih reads.2
        exact ⟨context :: others, by rw [List.mapM_cons, isRead, isRest]; rfl⟩

theorem contexts_meet (linked : List (LinkedPal K)) (contexts : List (PalContext K)) (read : linked.mapM palContext = .ok contexts)
    (low high : Int) (condition : PalContext K → Prop) :
    (∀ context ∈ overlappingPals contexts low high, condition context) ↔
      ∀ entry ∈ linked, overlapsHz low high entry.low entry.high = true →
        ∀ context, palContext entry = .ok context → condition context := by
  constructor
  · intro each entry member meets context isContext
    obtain ⟨found, inContexts, isFound⟩ := Collect.ok_result _ _ _ read entry member
    cases isContext.symm.trans isFound
    obtain ⟨isLow, isHigh, _⟩ := context_fields entry context isContext
    exact each context (List.mem_filter.mpr ⟨inContexts, by rw [isLow, isHigh]; exact meets⟩)
  · intro each context member
    rw [overlappingPals, List.mem_filter] at member
    obtain ⟨entry, inLinked, isContext⟩ := Collect.ok_source _ _ _ read context member.1
    obtain ⟨isLow, isHigh, _⟩ := context_fields entry context isContext
    exact each entry inLinked (by rw [← isLow, ← isHigh]; exact member.2) context isContext

theorem covers_contains (entry : LinkedPal K) (context : PalContext K) (channel : AvailableChannel)
    (isLow : context.low = entry.low) (isHigh : context.high = entry.high) :
    coversRange context channel.lowFrequency channel.highFrequency = true ↔ Contains entry channel := by
  simp [coversRange, Contains, isLow, isHigh]

theorem unmixed_linked (linked : List (LinkedPal K)) (contexts : List (PalContext K)) (read : linked.mapM palContext = .ok contexts)
    (channel : AvailableChannel) : Unmixed contexts channel.lowFrequency channel.highFrequency ↔
      ∀ entry ∈ linked, Meets entry channel →
        (entry.inPpa = true → entry.inCluster = true) ∧ (entry.inCluster = true → Contains entry channel) := by
  rw [Unmixed, contexts_meet linked contexts read]
  refine forall₂_congr fun entry member => imp_congr_right fun meets => ?_
  obtain ⟨known, _, isKnown⟩ := Collect.ok_result _ _ _ read entry member
  constructor
  · intro each
    obtain ⟨isLow, isHigh, cluster, ppa, _⟩ := context_fields entry known isKnown
    have own := each known isKnown
    rwa [cluster, ppa, covers_contains entry known channel isLow isHigh] at own
  · intro each context isContext
    obtain ⟨isLow, isHigh, cluster, ppa, _⟩ := context_fields entry context isContext
    rwa [cluster, ppa, covers_contains entry context channel isLow isHigh]

-- The agreement on a channel, for the PALs that are linked to the CBSD.
theorem linked_agrees_iff (pals : List (Json K)) (linked : List (LinkedPal K)) (channel : AvailableChannel)
    (loaded : loadPals state = .ok pals) (isLinked : linkedPals env state pals cbsd = .ok linked)
    (gaa : channel.channelType = .gaa → channel.lowFrequency < channel.highFrequency ∧
      ∀ entry ∈ linked, Protects entry → ¬ Meets entry channel) :
    GrantAgrees env state cbsd channel ↔ ChannelClear cbsd linked channel := by
  have context : ppaPalContext env state cbsd = linked.mapM palContext := by
    rw [ppaPalContext, loaded]
    exact congrArg (Except.bind · _) isLinked
  rw [GrantAgrees, context, ChannelClear, ← contexts_exist_iff]
  cases outcome : linked.mapM palContext with
  | error error => exact iff_of_false (fun ⟨contexts, read, _⟩ => by cases read) fun ⟨⟨contexts, read⟩, _⟩ => by cases read
  | ok contexts =>
      have unmixed := unmixed_linked linked contexts outcome channel
      simp only [Except.ok.injEq, exists_eq_left', exists_eq', true_and]
      cases shape : channel.channelType with
      | gaa =>
          obtain ⟨proper, apart⟩ := gaa shape
          rw [resolve_gaa_iff, unmixed, contexts_meet linked contexts outcome]
          constructor
          · rintro ⟨_, uncovered⟩ entry member open_ contains
            have meets : Meets entry channel := by
              rw [Meets, overlaps_hz_iff]
              rw [Contains] at contains
              omega
            obtain ⟨known, _, isKnown⟩ := Collect.ok_result _ _ _ outcome entry member
            obtain ⟨isLow, isHigh, _⟩ := context_fields entry known isKnown
            exact uncovered entry member meets known isKnown ((covers_contains entry known channel isLow isHigh).mpr contains)
          · intro clear
            refine ⟨fun entry member meets => ?_, fun entry member meets known isKnown covering => ?_⟩
            · have open_ : ¬ Protects entry := fun protects => apart entry member protects meets
              rw [Protects, not_or] at open_
              exact ⟨fun ppa => absurd ppa open_.2, fun cluster => absurd cluster open_.1⟩
            · have open_ : ¬ Protects entry := fun protects => apart entry member protects meets
              obtain ⟨isLow, isHigh, _⟩ := context_fields entry known isKnown
              exact clear entry member open_ ((covers_contains entry known channel isLow isHigh).mp covering)
      | pal =>
          rw [resolve_pal_iff, unmixed]
          refine and_congr_right fun _ => ?_
          constructor
          · rintro ⟨known, inMeeting, covering, cluster, owner⟩
            rw [overlappingPals, List.mem_filter] at inMeeting
            obtain ⟨entry, member, isKnown⟩ := Collect.ok_source _ _ _ outcome known inMeeting.1
            obtain ⟨isLow, isHigh, isCluster, _, isUser⟩ := context_fields entry known isKnown
            refine ⟨entry, member, ?_, (covers_contains entry known channel isLow isHigh).mp covering, isCluster ▸ cluster,
              isUser ▸ owner⟩
            rw [Meets, ← isLow, ← isHigh]
            exact inMeeting.2
          · rintro ⟨entry, member, meets, contains, cluster, owner⟩
            obtain ⟨known, inContexts, isKnown⟩ := Collect.ok_result _ _ _ outcome entry member
            obtain ⟨isLow, isHigh, isCluster, _, isUser⟩ := context_fields entry known isKnown
            refine ⟨known, List.mem_filter.mpr ⟨inContexts, ?_⟩, (covers_contains entry known channel isLow isHigh).mpr contains,
              isCluster.trans cluster, by rw [isUser]; exact owner⟩
            rw [isLow, isHigh]
            exact meets

-- What an inquiry says of a channel it returns.
theorem built_channel (inquired : List (Int × Int)) (channels : List AvailableChannel) (channel : AvailableChannel)
    (built : buildAvailableChannels env state cbsd inquired = .ok channels) (member : channel ∈ channels) :
    ∃ pals linked, loadPals state = .ok pals ∧ linkedPals env state pals cbsd = .ok linked ∧
      (channel.channelType = .gaa → channel.lowFrequency < channel.highFrequency ∧
        ∀ entry ∈ linked, Protects entry → ¬ Meets entry channel) := by
  rw [buildAvailableChannels] at built
  cases loaded : loadPals state with
  | error error =>
      rw [loaded] at built
      cases built
  | ok pals =>
      rw [loaded] at built
      simp only [Except.bind] at built
      cases opened : openSegments env state cbsd (inquired.filterMap clipToCbrs) with
      | error error =>
          rw [opened] at built
          cases built
      | ok found =>
          rw [opened] at built
          cases found with
          | none =>
              cases built
              cases member
          | some segments =>
              obtain ⟨linked, isLinked, isList⟩ := Collect.map_ok _ _ channels built
              refine ⟨pals, linked, rfl, isLinked, fun isGaa => ?_⟩
              rw [← isList, List.mem_insertionSort, List.mem_append] at member
              rcases member with isPal | isOpen
              · obtain ⟨range, _, same⟩ := List.mem_map.mp isPal
                rw [← same] at isGaa
                cases isGaa
              · obtain ⟨range, inPieces, same⟩ := List.mem_map.mp isOpen
                obtain ⟨segment, inSegments, inSplit⟩ := List.mem_flatMap.mp inPieces
                obtain ⟨low, high, proper⟩ := split_inside segment.1 segment.2 range inSplit
                rw [← same]
                refine ⟨proper, fun entry inLinked protects => ?_⟩
                have apart := (handled_segments _ linked _ segment inSegments).1 entry inLinked protects
                exact apart_inside segment range _ _ ⟨low, high⟩ apart

-- For every channel that an inquiry returns: grant agrees exactly when the linked PALs are clear of it.
theorem inquiry_grant_agree_iff (inquired : List (Int × Int)) (channels : List AvailableChannel) (channel : AvailableChannel)
    (built : buildAvailableChannels env state cbsd inquired = .ok channels) (member : channel ∈ channels) :
    GrantAgrees env state cbsd channel ↔
      ∃ pals linked, loadPals state = .ok pals ∧ linkedPals env state pals cbsd = .ok linked ∧ ChannelClear cbsd linked channel := by
  obtain ⟨pals, linked, loaded, isLinked, gaa⟩ := built_channel env state cbsd inquired channels channel built member
  rw [linked_agrees_iff env state cbsd pals linked channel loaded isLinked gaa]
  constructor
  · exact fun clear => ⟨pals, linked, loaded, isLinked, clear⟩
  · rintro ⟨others, found, isOthers, isFound, clear⟩
    cases loaded.symm.trans isOthers
    cases isLinked.symm.trans isFound
    exact clear

end Agreement

-- A CBSD at 40 north, 100 west, and the PPA of a PAL on 3550-3560 MHz far to its east.
def plainsEnv : SpectrumEnv Rat where
  feeds := palEnv
  geometry := nearZones
  pointInGeojson := fun _ _ _ => false
  strptime := fun _ => none
  fromIsoFormat := fun _ => none

def plainsInstallation : InstallationParam Rat := ⟨some 40, some (-100), none, none, none, none, none, none, none, none⟩

def plainsCbsd : Cbsd Rat :=
  ⟨0, "fcc/sn", "fcc", "user", "sn", some "A", none, some .registered, ⟨some "A", some plainsInstallation, []⟩⟩

def eastRing : Json Rat :=
  .array ([(-81, 39), (-79, 39), (-79, 41), (-81, 41), (-81, 39)].map fun (lon, lat) => .array [.int lon, .int lat])

def eastPpa : Json Rat :=
  .object [("id", .text "zone/ppa/sas/1"), ("usage", .text "PPA"),
    ("ppaInfo", .object [("palId", .array [.text "pal/1"]), ("cbsdReferenceId", .array [])]),
    ("zone", .object [("type", .text "Polygon"), ("coordinates", .array [eastRing])])]

def eastTables : SpectrumTables Rat where
  tables :=
    { (Tables.empty : Tables Rat) with
      records := fun kind => if kind = .zone then .stored [some eastPpa] else .stored []
      pals := .stored [lowPalRow assignedPal] }
  legacyPals := []

theorem offered_channel_refused :
    ¬ ∀ (cbsd : Cbsd Rat) (inquired : List (Int × Int)) (channels : List AvailableChannel) (channel : AvailableChannel),
      buildAvailableChannels plainsEnv eastTables cbsd inquired = .ok channels → channel ∈ channels →
        GrantAgrees plainsEnv eastTables cbsd channel := by
  intro claim
  obtain ⟨contexts, read, granted, resolved, _⟩ := claim plainsCbsd [(3550000000, 3560000000)]
    [channelOf .gaa (3550000000, 3560000000)] (channelOf .gaa (3550000000, 3560000000)) (by decide +kernel)
    (List.mem_singleton_self _)
  have isRead : ppaPalContext plainsEnv eastTables plainsCbsd =
      .ok [⟨3550000000, 3560000000, false, false, .null, .text "user", .text "pal/1"⟩] := rfl
  rw [isRead] at read
  cases read
  have refused : resolveChannel plainsEnv [⟨3550000000, 3560000000, false, false, .null, .text "user", .text "pal/1"⟩]
      3550000000 3560000000 "user" = .error interference := rfl
  exact absurd (resolved.symm.trans refused) nofun

theorem inquiry_grant_agree_iff_sample :
    GrantAgrees plainsEnv eastTables plainsCbsd (channelOf .gaa (3560000000, 3570000000)) := by
  apply (inquiry_grant_agree_iff plainsEnv eastTables plainsCbsd [(3560000000, 3570000000)]
    [channelOf .gaa (3560000000, 3570000000)] _ (by decide +kernel) (List.mem_singleton_self _)).mpr
  refine ⟨_, [⟨3550000000, 3560000000, false, false, .text "pal/1", _⟩], rfl, rfl, fun entry member => ?_, fun entry member _ contains => ?_⟩
  · rw [List.mem_singleton.mp member]
    rfl
  · rw [List.mem_singleton.mp member] at contains
    exact absurd contains.2 (by decide)

end SasCore.Spectrum
