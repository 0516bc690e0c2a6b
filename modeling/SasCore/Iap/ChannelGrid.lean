import SasCore.Iap.Aggregate
import Mathlib.Data.Int.ConditionallyCompleteOrder
import Mathlib.Data.Set.List
import Mathlib.Order.Interval.Set.Basic
import Mathlib.Tactic.Ring

set_option autoImplicit false

namespace SasCore.Iap

def FrequencyChannel.bounds (channel : FrequencyChannel) : Int × Int := (channel.lowHz, channel.highHz)

-- The bounds at a place of the grid from a first bound on.
def boundsAt (startHz channelHz : Int) (place : Nat) : Int × Int :=
  (startHz + place * channelHz, startHz + (place + 1) * channelHz)

def boundsSpan (bounds : Int × Int) : Set Int := Set.Ico bounds.1 bounds.2

-- The bounds that the loop tries to build channels from.
def boundsFrom (lowHz highHz channelHz : Int) (cursor : Int) : List (Int × Int) :=
  if _inside : cursor < highHz ∧ 0 < channelHz then
    (if lowHz < cursor + channelHz then [(cursor, cursor + channelHz)] else []) ++
      boundsFrom lowHz highHz channelHz (cursor + channelHz)
  else []
termination_by (highHz - cursor).toNat
decreasing_by omega

def overlappingBounds (originHz lowHz highHz channelHz : Int) : List (Int × Int) :=
  if highHz ≤ lowHz ∨ channelHz ≤ 0 then []
  else boundsFrom lowHz highHz channelHz (originHz + (max lowHz originHz - originHz) / channelHz * channelHz)

def checkedBounds (bounds : Int × Int) : Except ValidationError FrequencyChannel :=
  FrequencyChannel.checked bounds.1 bounds.2

section Checked

theorem checked_ok_iff (bounds : Int × Int) (channel : FrequencyChannel) :
    checkedBounds bounds = .ok channel ↔ channel.bounds = bounds := by
  obtain ⟨lowHz, highHz⟩ := bounds
  obtain ⟨channelLow, channelHigh, lowNonneg, highNonneg⟩ := channel
  rw [checkedBounds, FrequencyChannel.checked, FrequencyChannel.bounds]
  dsimp only
  constructor
  · intro built
    split at built
    · cases built
      rfl
    · cases built
  · intro same
    cases same
    rw [dif_pos ⟨lowNonneg, highNonneg⟩]

theorem bounds_injective : Function.Injective FrequencyChannel.bounds := by
  intro first second same
  exact Except.ok.inj (((checked_ok_iff _ first).mpr same).symm.trans ((checked_ok_iff _ second).mpr rfl))

-- Every bound that is refused is named by the error, and no other field is.
theorem checked_error_names (lowHz highHz : Int) (failure : ValidationError)
    (refused : FrequencyChannel.checked lowHz highHz = .error failure) :
    ("low_hz" ∈ failure.fields ↔ lowHz < 0) ∧ ("high_hz" ∈ failure.fields ↔ highHz < 0) := by
  rw [FrequencyChannel.checked] at refused
  split at refused
  · cases refused
  · cases refused
    by_cases low : lowHz < 0
    · by_cases high : highHz < 0
      · simp [low, high]
      · simp [low, high]
    · by_cases high : highHz < 0
      · simp [low, high]
      · simp [low, high]

theorem checked_all_ok_iff (bounds : List (Int × Int)) (channels : List FrequencyChannel) :
    bounds.mapM checkedBounds = .ok channels ↔ channels.map FrequencyChannel.bounds = bounds := by
  induction bounds generalizing channels with
  | nil =>
      rw [List.mapM_nil, List.map_eq_nil_iff]
      exact ⟨fun same => (Except.ok.inj same).symm, fun same => by rw [same]; rfl⟩
  | cons first rest ih =>
      rw [List.mapM_cons]
      cases built : checkedBounds first with
      | error failure =>
          constructor
          · intro same
            cases same
          · intro same
            obtain ⟨channel, channels', _, head, _⟩ := List.map_eq_cons_iff.mp same
            rw [(checked_ok_iff first channel).mpr head] at built
            cases built
      | ok channel =>
          have head := (checked_ok_iff first channel).mp built
          constructor
          · intro same
            cases tail : rest.mapM checkedBounds with
            | error failure =>
                rw [tail] at same
                cases same
            | ok others =>
                rw [tail] at same
                cases same
                rw [List.map_cons, head, (ih others).mp tail]
          · intro same
            obtain ⟨channel', others, isCons, head', tail⟩ := List.map_eq_cons_iff.mp same
            rw [isCons, (ih others).mpr tail, bounds_injective (head'.trans head.symm)]
            rfl

end Checked

section Loop

variable (lowHz highHz channelHz : Int)

theorem bounds_at_zero (startHz : Int) : boundsAt startHz channelHz 0 = (startHz, startHz + channelHz) := by
  simp [boundsAt]

theorem bounds_at_add (startHz : Int) (first place : Nat) :
    boundsAt (startHz + first * channelHz) channelHz place = boundsAt startHz channelHz (first + place) := by
  rw [boundsAt, boundsAt, Prod.mk.injEq]
  push_cast
  constructor
  · ring
  · ring

theorem bounds_at_succ (startHz : Int) (place : Nat) :
    boundsAt (startHz + channelHz) channelHz place = boundsAt startHz channelHz (place + 1) := by
  have added := bounds_at_add channelHz startHz 1 place
  rwa [Nat.cast_one, one_mul, Nat.add_comm] at added

theorem bounds_from_step (positive : 0 < channelHz) (cursor : Int) (inside : cursor < highHz) :
    boundsFrom lowHz highHz channelHz cursor =
      (if lowHz < cursor + channelHz then [(cursor, cursor + channelHz)] else []) ++
        boundsFrom lowHz highHz channelHz (cursor + channelHz) := by
  rw [boundsFrom, dif_pos ⟨inside, positive⟩]

theorem bounds_from_end (cursor : Int) (ended : highHz ≤ cursor) : boundsFrom lowHz highHz channelHz cursor = [] := by
  rw [boundsFrom, dif_neg (by omega)]

-- The break behind the end of the range stops a loop that has ended.
theorem break_idle (chHigh : Int) :
    (if highHz + channelHz < chHigh then pure [] else (boundsFrom lowHz highHz channelHz chHigh).mapM checkedBounds) =
      (boundsFrom lowHz highHz channelHz chHigh).mapM checkedBounds := by
  split
  · by_cases positive : 0 < channelHz
    · rw [bounds_from_end lowHz highHz channelHz chHigh (by omega), List.mapM_nil]
    · rw [boundsFrom, dif_neg (by omega), List.mapM_nil]
  · rfl

-- The loop of the source is the check of each of these bounds in turn.
theorem channels_from_checked (cursor : Int) :
    channelsFrom lowHz highHz channelHz cursor = (boundsFrom lowHz highHz channelHz cursor).mapM checkedBounds := by
  induction rounds : (highHz - cursor).toNat using Nat.strong_induction_on generalizing cursor with
  | _ rounds ih =>
      rw [channelsFrom, boundsFrom]
      by_cases inside : cursor < highHz ∧ 0 < channelHz
      · have later := ih (highHz - (cursor + channelHz)).toNat (by omega) (cursor + channelHz) rfl
        rw [dif_pos inside, dif_pos inside]
        simp only [later, break_idle]
        by_cases reaches : lowHz < cursor + channelHz
        · rw [if_pos reaches, if_pos reaches, List.singleton_append, List.mapM_cons, checkedBounds]
          cases FrequencyChannel.checked cursor (cursor + channelHz) with
          | error failure => rfl
          | ok channel => rfl
        · rw [if_neg reaches, if_neg reaches, List.nil_append, pure_bind]
          exact bind_pure _
      · rw [dif_neg inside, dif_neg inside, List.mapM_nil]

-- From a cursor on the loop collects the channels of the grid that meet the range.
theorem bounds_from_iff (positive : 0 < channelHz) (cursor : Int) (channel : Int × Int) :
    channel ∈ boundsFrom lowHz highHz channelHz cursor ↔
      ∃ place, channel = boundsAt cursor channelHz place ∧ channel.1 < highHz ∧ lowHz < channel.2 := by
  induction rounds : (highHz - cursor).toNat using Nat.strong_induction_on generalizing cursor with
  | _ rounds ih =>
      by_cases inside : cursor < highHz
      · have later := ih (highHz - (cursor + channelHz)).toNat (by omega) (cursor + channelHz) rfl
        rw [bounds_from_step lowHz highHz channelHz positive cursor inside, List.mem_append, later]
        constructor
        · rintro (here | ⟨place, isPlace, meets⟩)
          · split at here
            · rename_i reaches
              rw [List.mem_singleton.mp here]
              exact ⟨0, (bounds_at_zero channelHz cursor).symm, inside, reaches⟩
            · cases here
          · exact ⟨place + 1, isPlace.trans (bounds_at_succ channelHz cursor place), meets⟩
        · rintro ⟨place, isPlace, meets⟩
          cases place with
          | zero =>
              rw [bounds_at_zero] at isPlace
              rw [isPlace] at meets ⊢
              rw [if_pos meets.2]
              exact .inl (List.mem_singleton.mpr rfl)
          | succ place => exact .inr ⟨place, isPlace.trans (bounds_at_succ channelHz cursor place).symm, meets⟩
      · rw [bounds_from_end lowHz highHz channelHz cursor (by omega)]
        constructor
        · intro member
          cases member
        · rintro ⟨place, isPlace, meets⟩
          have steps : 0 ≤ (place : Int) * channelHz := Int.mul_nonneg (Int.natCast_nonneg place) positive.le
          rw [isPlace, boundsAt] at meets
          dsimp only at meets
          omega

theorem bounds_from_above (positive : 0 < channelHz) (cursor : Int) (channel : Int × Int)
    (member : channel ∈ boundsFrom lowHz highHz channelHz cursor) : cursor ≤ channel.1 := by
  obtain ⟨place, isPlace, _⟩ := (bounds_from_iff lowHz highHz channelHz positive cursor channel).mp member
  have steps : 0 ≤ (place : Int) * channelHz := Int.mul_nonneg (Int.natCast_nonneg place) positive.le
  rw [isPlace]
  exact le_add_of_nonneg_right steps

theorem bounds_from_increasing (positive : 0 < channelHz) (cursor : Int) :
    (boundsFrom lowHz highHz channelHz cursor).Pairwise fun first second => first.1 < second.1 := by
  induction rounds : (highHz - cursor).toNat using Nat.strong_induction_on generalizing cursor with
  | _ rounds ih =>
      by_cases inside : cursor < highHz
      · have later := ih (highHz - (cursor + channelHz)).toNat (by omega) (cursor + channelHz) rfl
        rw [bounds_from_step lowHz highHz channelHz positive cursor inside]
        split
        · rw [List.singleton_append, List.pairwise_cons]
          refine ⟨?_, later⟩
          intro channel member
          have above := bounds_from_above lowHz highHz channelHz positive (cursor + channelHz) channel member
          dsimp only
          omega
        · exact later
      · rw [bounds_from_end lowHz highHz channelHz cursor (by omega)]
        exact List.Pairwise.nil

end Loop

section Enumeration

variable (originHz lowHz highHz channelHz : Int)

-- The place of a frequency on the grid of the origin.
def gridPlace (frequency : Int) : Nat := ((frequency - originHz) / channelHz).toNat

theorem place_of_span (positive : 0 < channelHz) (frequency : Int) (above : originHz ≤ frequency) :
    frequency ∈ boundsSpan (boundsAt originHz channelHz (gridPlace originHz channelHz frequency)) := by
  have quotient : 0 ≤ (frequency - originHz) / channelHz := Int.ediv_nonneg (by omega) positive.le
  have below := Int.ediv_mul_le (frequency - originHz) (ne_of_gt positive)
  have next := Int.lt_ediv_add_one_mul_self (frequency - originHz) positive
  have place : ((gridPlace originHz channelHz frequency : Nat) : Int) = (frequency - originHz) / channelHz :=
    Int.toNat_of_nonneg quotient
  rw [boundsSpan, boundsAt, place]
  constructor
  · dsimp only
    omega
  · dsimp only
    omega

theorem place_of_unique (positive : 0 < channelHz) (frequency : Int) (place : Nat)
    (inside : frequency ∈ boundsSpan (boundsAt originHz channelHz place)) : place = gridPlace originHz channelHz frequency := by
  obtain ⟨above, below⟩ := inside
  have quotient : (frequency - originHz) / channelHz = place := by
    dsimp only [boundsAt] at above below
    apply le_antisymm
    · exact Int.lt_add_one_iff.mp ((Int.ediv_lt_iff_lt_mul positive).mpr (by omega))
    · exact (Int.le_ediv_iff_mul_le positive).mpr (by omega)
  rw [gridPlace, quotient, Int.toNat_natCast]

-- The grid in front of the start of the loop does not reach the range.
theorem start_before (positive : 0 < channelHz) (place : Nat) (reaches : lowHz < (boundsAt originHz channelHz place).2) :
    gridPlace originHz channelHz (max lowHz originHz) ≤ place := by
  by_contra early
  have quotient : 0 ≤ (max lowHz originHz - originHz) / channelHz := Int.ediv_nonneg (by omega) positive.le
  have further : ((place : Int) + 1) ≤ (max lowHz originHz - originHz) / channelHz := by
    rw [gridPlace] at early
    omega
  have steps := Int.mul_le_mul_of_nonneg_right further positive.le
  have below := Int.ediv_mul_le (max lowHz originHz - originHz) (ne_of_gt positive)
  dsimp only [boundsAt] at reaches
  rcases le_total originHz lowHz with above | under
  · rw [max_eq_left above] at steps below
    omega
  · rw [max_eq_right under, sub_self, Int.zero_ediv] at further
    omega

theorem overlapping_iff (positive : 0 < channelHz) (ordered : lowHz < highHz) (bounds : Int × Int) :
    bounds ∈ overlappingBounds originHz lowHz highHz channelHz ↔
      ∃ place, bounds = boundsAt originHz channelHz place ∧ bounds.1 < highHz ∧ lowHz < bounds.2 := by
  have quotient : 0 ≤ (max lowHz originHz - originHz) / channelHz := Int.ediv_nonneg (by omega) positive.le
  have start : (max lowHz originHz - originHz) / channelHz = (gridPlace originHz channelHz (max lowHz originHz) : Nat) :=
    (Int.toNat_of_nonneg quotient).symm
  rw [overlappingBounds, if_neg (by omega), start, bounds_from_iff lowHz highHz channelHz positive]
  constructor
  · rintro ⟨place, isPlace, meets⟩
    exact ⟨_, isPlace.trans (bounds_at_add channelHz originHz _ place), meets⟩
  · rintro ⟨place, isPlace, meets⟩
    have behind := start_before originHz lowHz channelHz positive place (by rw [← isPlace]; exact meets.2)
    refine ⟨place - gridPlace originHz channelHz (max lowHz originHz), ?_, meets⟩
    rw [bounds_at_add, Nat.add_sub_cancel' behind]
    exact isPlace

theorem span_meets (positive : 0 < channelHz) (ordered : lowHz < highHz) (place : Nat) :
    (boundsSpan (boundsAt originHz channelHz place) ∩ Set.Ico lowHz highHz).Nonempty ↔
      (boundsAt originHz channelHz place).1 < highHz ∧ lowHz < (boundsAt originHz channelHz place).2 := by
  have width : (boundsAt originHz channelHz place).1 < (boundsAt originHz channelHz place).2 := by
    simp only [boundsAt]
    linarith
  rw [boundsSpan, Set.Ico_inter_Ico, Set.nonempty_Ico]
  omega

theorem overlapping_increasing (positive : 0 < channelHz) :
    (overlappingBounds originHz lowHz highHz channelHz).Pairwise fun first second => first.1 < second.1 := by
  rw [overlappingBounds]
  split
  · exact List.Pairwise.nil
  · exact bounds_from_increasing lowHz highHz channelHz positive _

theorem overlapping_meets (positive : 0 < channelHz) (bounds : Int × Int) :
    bounds ∈ overlappingBounds originHz lowHz highHz channelHz ↔
      ∃ place, bounds = boundsAt originHz channelHz place ∧ (boundsSpan bounds ∩ Set.Ico lowHz highHz).Nonempty := by
  by_cases ordered : lowHz < highHz
  · rw [overlapping_iff originHz lowHz highHz channelHz positive ordered]
    apply exists_congr
    intro place
    apply and_congr_right
    intro isPlace
    rw [isPlace]
    exact (span_meets originHz lowHz highHz channelHz positive ordered place).symm
  · rw [overlappingBounds, if_pos (.inl (not_lt.mp ordered)), Set.Ico_eq_empty ordered]
    simp

theorem overlapping_checked :
    overlappingIapChannels originHz lowHz highHz channelHz =
      (overlappingBounds originHz lowHz highHz channelHz).mapM checkedBounds := by
  rw [overlappingIapChannels, overlappingBounds]
  split
  · rw [List.mapM_nil]
  · exact channels_from_checked lowHz highHz channelHz _

theorem overlapping_ok_iff (channels : List FrequencyChannel) :
    overlappingIapChannels originHz lowHz highHz channelHz = .ok channels ↔
      channels.map FrequencyChannel.bounds = overlappingBounds originHz lowHz highHz channelHz := by
  rw [overlapping_checked, checked_all_ok_iff]

-- The enumeration returns exactly when no channel that meets the range starts below 0.
theorem overlapping_returns_iff (positive : 0 < channelHz) :
    (∃ channels, overlappingIapChannels originHz lowHz highHz channelHz = .ok channels) ↔
      ∀ bounds ∈ overlappingBounds originHz lowHz highHz channelHz, 0 ≤ bounds.1 := by
  have widths : ∀ bounds ∈ overlappingBounds originHz lowHz highHz channelHz, bounds.1 < bounds.2 := by
    intro bounds member
    obtain ⟨place, isPlace, _⟩ := (overlapping_meets originHz lowHz highHz channelHz positive bounds).mp member
    rw [isPlace]
    simp only [boundsAt]
    linarith
  constructor
  · rintro ⟨channels, built⟩ bounds member
    rw [← (overlapping_ok_iff originHz lowHz highHz channelHz channels).mp built] at member
    obtain ⟨channel, _, rfl⟩ := List.mem_map.mp member
    exact channel.lowHz_nonneg
  · intro above
    have channelOf : ∀ bounds ∈ overlappingBounds originHz lowHz highHz channelHz,
        ∃ channel : FrequencyChannel, channel.bounds = bounds := by
      intro bounds member
      exact ⟨⟨bounds.1, bounds.2, above bounds member, (above bounds member).trans (widths bounds member).le⟩, rfl⟩
    have built : overlappingBounds originHz lowHz highHz channelHz ∈ Set.range (List.map FrequencyChannel.bounds) := by
      rw [Set.range_list_map]
      exact channelOf
    obtain ⟨channels, isMap⟩ := built
    exact ⟨channels, (overlapping_ok_iff originHz lowHz highHz channelHz channels).mpr isMap⟩

theorem overlapping_nonneg (positive : 0 < channelHz) (originNonneg : 0 ≤ originHz) :
    ∃ channels, overlappingIapChannels originHz lowHz highHz channelHz = .ok channels := by
  apply (overlapping_returns_iff originHz lowHz highHz channelHz positive).mpr
  intro bounds member
  obtain ⟨place, isPlace, _⟩ := (overlapping_meets originHz lowHz highHz channelHz positive bounds).mp member
  rw [isPlace]
  exact add_nonneg originNonneg (Int.mul_nonneg (Int.natCast_nonneg place) positive.le)

-- A range below 0 has a channel that the model refuses.
theorem negative_range_raises :
    ¬ ∃ channels, overlappingIapChannels (-10) (-10) (-5) 5 = .ok channels := by
  rw [overlapping_returns_iff (-10) (-10) (-5) 5 (by decide)]
  intro above
  have member := (overlapping_meets (-10) (-10) (-5) 5 (by decide) (-10, -5)).mpr ⟨0, rfl, -10, by simp [boundsSpan]⟩
  exact absurd (above _ member) (by decide)

theorem iap_channels_enumerate (positive : 0 < channelHz) :
    ((∃ channels, overlappingIapChannels originHz lowHz highHz channelHz = .ok channels) ↔
        ∀ place, (boundsSpan (boundsAt originHz channelHz place) ∩ Set.Ico lowHz highHz).Nonempty →
          0 ≤ (boundsAt originHz channelHz place).1) ∧
      ∀ channels, overlappingIapChannels originHz lowHz highHz channelHz = .ok channels →
        channels.Pairwise (fun first second => first.lowHz < second.lowHz) ∧ channels.Nodup ∧
        (∀ place, (∃ channel ∈ channels, channel.bounds = boundsAt originHz channelHz place) ↔
          (boundsSpan (boundsAt originHz channelHz place) ∩ Set.Ico lowHz highHz).Nonempty) ∧
        (∀ channel ∈ channels, ∃ place, channel.bounds = boundsAt originHz channelHz place) ∧
        ∀ frequency, lowHz ≤ frequency → frequency < highHz → originHz ≤ frequency →
          ∃! channel, channel ∈ channels ∧ frequency ∈ boundsSpan channel.bounds := by
  have increasing := overlapping_increasing originHz lowHz highHz channelHz positive
  have meets := overlapping_meets originHz lowHz highHz channelHz positive
  refine ⟨?_, ?_⟩
  · rw [overlapping_returns_iff originHz lowHz highHz channelHz positive]
    constructor
    · intro above place meeting
      exact above _ ((meets _).mpr ⟨place, rfl, meeting⟩)
    · intro above bounds member
      obtain ⟨place, isPlace, meeting⟩ := (meets bounds).mp member
      rw [isPlace] at meeting ⊢
      exact above place meeting
  · intro channels returned
    have built := (overlapping_ok_iff originHz lowHz highHz channelHz channels).mp returned
    rw [← built] at increasing meets
    have ordered := List.pairwise_map.mp increasing
    refine ⟨ordered, ordered.imp ?_, ?_, ?_, ?_⟩
    · intro first second less same
      rw [same] at less
      exact lt_irrefl _ less
    · intro place
      rw [← List.mem_map, meets]
      exact ⟨fun ⟨_, _, meeting⟩ => meeting, fun meeting => ⟨place, rfl, meeting⟩⟩
    · intro channel member
      obtain ⟨place, isPlace, _⟩ := (meets channel.bounds).mp (List.mem_map_of_mem member)
      exact ⟨place, isPlace⟩
    · intro frequency above below reached
      have inside := place_of_span originHz channelHz positive frequency reached
      obtain ⟨channel, member, isPlace⟩ := List.mem_map.mp ((meets _).mpr ⟨_, rfl, frequency, inside, above, below⟩)
      refine ⟨channel, ⟨member, isPlace ▸ inside⟩, ?_⟩
      rintro other ⟨otherMember, held⟩
      obtain ⟨place, otherPlace, _⟩ := (meets other.bounds).mp (List.mem_map_of_mem otherMember)
      rw [otherPlace] at held
      rw [place_of_unique originHz channelHz positive frequency place held] at otherPlace
      exact bounds_injective (otherPlace.trans isPlace.symm)

-- A range in front of the origin and past a grid line has the channels from the origin on.
theorem iap_channels_enumerate_sample :
    ∃ channels, overlappingIapChannels 10 3 22 5 = .ok channels ∧
      ∃! channel, channel ∈ channels ∧ (20 : Int) ∈ boundsSpan channel.bounds := by
  obtain ⟨returns, enumerated⟩ := iap_channels_enumerate 10 3 22 5 (by decide)
  obtain ⟨channels, built⟩ := returns.mpr fun place _ =>
    add_nonneg (by decide) (Int.mul_nonneg (Int.natCast_nonneg place) (by decide))
  exact ⟨channels, built, (enumerated channels built).2.2.2.2 20 (by decide) (by decide) (by decide)⟩

end Enumeration

end SasCore.Iap
