import SasCore.Lib.Grid
import SasCore.Spectrum.Tiling

set_option autoImplicit false
set_option linter.unusedSectionVars false

-- The channels of a DPA and those of an inquiry: two alignments of the same cut.
namespace SasCore.Spectrum

open Federal Registry Grid

section Channelize

variable (high step : Int)

-- while cur + step_hz <= high_hz, and the rest of the range behind the loop; the step is positive here.
def wholeChannels (cur : Int) : List (Int × Int) :=
  if _more : cur + step ≤ high ∧ 0 < step then (cur, cur + step) :: wholeChannels (cur + step)
  else if cur < high then [(cur, high)]
  else []
termination_by (high - cur).toNat
decreasing_by omega

def alignedLow (low : Int) : Int :=
  let start := if low % step ≠ 0 then low - low % step else low
  if start < low then start + step else start

end Channelize

-- channelize with its parameter step_hz.
def channelizeBy (low high step : Int) : List (Int × Int) :=
  if high ≤ low ∨ step ≤ 0 then []
  else
    let start := alignedLow step low
    if high ≤ start then [(low, high)]
    else (if low < start then [(low, start)] else []) ++ wholeChannels high step start

section Tilings

variable (high step : Int)

theorem whole_channels_tile (positive : 0 < step) (cur : Int) (grid : step ∣ cur) (more : cur < high) :
    Tiling cur high step (wholeChannels high step cur) := by
  induction cur using wholeChannels.induct high step with
  | case1 cur further ih =>
      have ahead : Uncrossed cur (cur + step) step := next_multiple cur step grid
      rw [wholeChannels, dif_pos further]
      by_cases whole : cur + step < high
      · exact tiling_cons cur (cur + step) high step _ (by omega) (by omega) (dvd_add_self_right.mpr grid) ahead whole
          (ih (dvd_add_self_right.mpr grid) whole)
      · have filled : cur + step = high := by omega
        rw [wholeChannels, dif_neg (by omega), if_neg (by omega), filled]
        exact tiling_last cur high step more (by omega) (by rwa [← filled])
  | case2 cur done _ =>
      rw [wholeChannels, dif_neg done, if_pos more]
      exact tiling_last cur high step more (by omega)
        (uncrossed_within cur step high (cur + step) (next_multiple cur step grid) (by omega))
  | case3 cur _ ended => exact absurd more ended

theorem aligned_low_cases (positive : 0 < step) (low : Int) :
    step ∣ alignedLow step low ∧ low ≤ alignedLow step low ∧ alignedLow step low < low + step := by
  have remainder := Int.emod_nonneg low (ne_of_gt positive)
  have small := Int.emod_lt_of_pos low positive
  unfold alignedLow
  dsimp only
  by_cases onGrid : low % step = 0
  · have kept : ¬ low % step ≠ 0 := not_not.mpr onGrid
    rw [if_neg kept, if_neg (lt_irrefl low)]
    exact ⟨Int.dvd_of_emod_eq_zero onGrid, le_refl low, by omega⟩
  · rw [if_pos onGrid, if_pos (by omega)]
    have below : step ∣ low - low % step := Int.dvd_self_sub_emod
    exact ⟨dvd_add_self_right.mpr below, by omega, by omega⟩

theorem before_aligned_low (positive : 0 < step) (low : Int) : Uncrossed low (alignedLow step low) step := by
  obtain ⟨grid, _, near⟩ := aligned_low_cases step positive low
  have before : step ∣ alignedLow step low - step := (dvd_sub_self_right).mpr grid
  intro bound isGrid between
  exact next_multiple (alignedLow step low - step) step before bound isGrid ⟨by omega, by omega⟩

theorem channelize_by_tiles (positive : 0 < step) (low : Int) (ordered : low < high) : Tiling low high step (channelizeBy low high step) := by
  obtain ⟨grid, after, near⟩ := aligned_low_cases step positive low
  have uncrossed := before_aligned_low step positive low
  rw [channelizeBy, if_neg (by omega)]
  dsimp only
  by_cases early : high ≤ alignedLow step low
  · rw [if_pos early]
    exact tiling_last low high step ordered (by omega) (uncrossed_within low step high _ uncrossed early)
  · rw [if_neg early]
    have rest := whole_channels_tile high step positive (alignedLow step low) grid (by omega)
    by_cases head : low < alignedLow step low
    · rw [if_pos head]
      exact tiling_cons low _ high step _ head (by omega) grid uncrossed (by omega) rest
    · rw [if_neg head]
      have same : alignedLow step low = low := by omega
      rw [same] at rest ⊢
      exact rest

end Tilings

section Agreement

theorem whole_channels_from (high : Int) (fuel : Nat) (cur : Int) (enough : (high - cur).toNat ≤ fuel) :
    Dpa.channelsFrom high fuel cur = wholeChannels high channelHz cur := by
  have width : channelHz = 10000000 := rfl
  have same : Dpa.channelHz = channelHz := rfl
  induction fuel generalizing cur with
  | zero => rw [Dpa.channelsFrom, wholeChannels, dif_neg (by omega)]
  | succ fuel ih =>
      rw [Dpa.channelsFrom, wholeChannels, same]
      by_cases further : cur + channelHz ≤ high
      · rw [if_pos further, dif_pos ⟨further, by omega⟩, ih (cur + channelHz) (by omega)]
      · rw [if_neg further, dif_neg (fun more => further more.1)]

-- The channels of a DPA take the default step.
theorem channelize_default (low high : Int) : Dpa.channelize low high = channelizeBy low high channelHz := by
  have width : channelHz = 10000000 := rfl
  have start : Dpa.channelStart low = alignedLow channelHz low := rfl
  rw [Dpa.channelize, channelizeBy]
  dsimp only
  rw [start]
  by_cases empty : high ≤ low
  · rw [if_pos empty, if_pos (.inl empty)]
  · have proper : ¬ (high ≤ low ∨ channelHz ≤ 0) := by omega
    rw [if_neg empty, if_neg proper, whole_channels_from _ _ _ (le_refl _)]

theorem aligned_start_low (low : Int) : alignedStart low = alignedLow channelHz low := by
  have width : channelHz = 10000000 := rfl
  obtain ⟨isLine, after, near⟩ := aligned_start_grid low
  obtain ⟨isMultiple, later, close⟩ := aligned_low_cases channelHz (by omega) low
  generalize alignedLow channelHz low = other at isMultiple later close ⊢
  rw [OnGrid] at isLine
  rw [width] at isLine isMultiple near close
  omega

theorem split_channelize (low high : Int) (above : cbrsLowHz ≤ low) (below : high ≤ cbrsHighHz) :
    split10mhz low high = channelizeBy low high channelHz := by
  have width : channelHz = 10000000 := rfl
  rw [split_shape, channelizeBy, max_eq_left above, min_eq_left below]
  dsimp only
  by_cases empty : high ≤ low
  · rw [if_pos empty, if_pos (.inl empty)]
  · have proper : ¬ (high ≤ low ∨ channelHz ≤ 0) := by omega
    rw [if_neg empty, if_neg proper, whole_channels_from _ _ _ (le_refl _), aligned_start_low, headOf]
    by_cases early : high ≤ alignedLow channelHz low
    · rw [if_pos early, if_pos (by omega), min_eq_right early, if_pos (by omega), wholeChannels, dif_neg (by omega), if_neg (by omega)]
      rfl
    · rw [if_neg early, min_eq_left (by omega)]
      by_cases head : low < alignedLow channelHz low
      · simp only [if_pos head]
      · simp only [if_neg head]

end Agreement

theorem channelizers_tile (low high step : Int) (ordered : low < high) (positive : 0 < step) :
    Tiling low high step (channelizeBy low high step) ∧
      ∀ start stop, cbrsLowHz ≤ start → stop ≤ cbrsHighHz →
        Dpa.channelize start stop = channelizeBy start stop channelHz ∧ split10mhz start stop = Dpa.channelize start stop := by
  constructor
  · exact channelize_by_tiles high step positive low ordered
  · intro start stop above below
    have same := channelize_default start stop
    exact ⟨same, (split_channelize start stop above below).trans same.symm⟩

theorem channelizers_tile_sample :
    Tiling 3 25 10 [(3, 10), (10, 20), (20, 25)] := by
  have cut : channelizeBy 3 25 10 = [(3, 10), (10, 20), (20, 25)] := by
    simp [channelizeBy, alignedLow, wholeChannels]
  rw [← cut]
  exact (channelizers_tile 3 25 10 (by decide) (by decide)).1

end SasCore.Spectrum
