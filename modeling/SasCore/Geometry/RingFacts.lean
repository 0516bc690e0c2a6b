import Mathlib.Tactic.Linarith
import Mathlib.Tactic.Ring
import Mathlib.Tactic.Positivity
import SasCore.Lib.Parity
import SasCore.Geometry.Distance

set_option autoImplicit false
set_option linter.unusedSectionVars false

namespace SasCore.Geometry

open Parity

variable {K : Type} [Field K] [LinearOrder K]

section Turns

theorem turns_steps (front : Ring K) (last : K × K) : turns (front ++ [last]) = steps (last :: (front ++ [last])) := by
  have lengths : (last :: front).length = (front ++ [last]).length := by
    rw [List.length_cons, List.length_append, List.length_singleton]
  have whole : (last :: (front ++ [last])).zip (front ++ [last] ++ []) = (last :: front).zip (front ++ [last]) ++ [last].zip [] :=
    List.zip_append lengths
  rw [List.append_nil, List.zip_nil_right, List.append_nil] at whole
  rw [turns, List.getLast?_append, List.dropLast_concat, steps, List.tail_cons, whole]
  rfl

theorem turns_mem (ring : Ring K) (turn : (K × K) × (K × K)) (member : turn ∈ turns ring) : turn.1 ∈ ring ∧ turn.2 ∈ ring := by
  rcases List.eq_nil_or_concat ring with empty | ⟨front, last, whole⟩
  · rw [empty] at member
    cases member
  · rw [List.concat_eq_append] at whole
    rw [whole, turns_steps, steps, List.tail_cons] at member
    have both := List.of_mem_zip (a := turn.1) (b := turn.2) member
    rw [whole]
    refine ⟨?_, both.2⟩
    rcases List.mem_cons.mp both.1 with first | inner
    · rw [first]
      exact List.mem_append_right _ (List.mem_singleton.mpr rfl)
    · exact inner

-- A flag changes an even number of times around a ring.
theorem turns_even (f : K × K → Bool) (ring : Ring K) : parity (fun turn => f turn.1 != f turn.2) (turns ring) = false := by
  rcases List.eq_nil_or_concat ring with empty | ⟨front, last, whole⟩
  · rw [empty]
    rfl
  · rw [List.concat_eq_append] at whole
    rw [whole, turns_steps]
    refine parity_closed f _ ?_
    rw [List.head?_cons, List.getLast?_cons, List.getLast?_append]
    rfl

-- A closed ring turns once in place before it runs along its edges.
theorem turns_closed (ring : Ring K) (closed : ring.head? = ring.getLast?) (some : ring ≠ []) :
    ∃ v, turns ring = (v, v) :: steps ring := by
  rcases List.eq_nil_or_concat ring with empty | ⟨front, last, whole⟩
  · exact absurd empty some
  · rw [List.concat_eq_append] at whole
    cases ring with
    | nil => exact absurd rfl some
    | cons first rest =>
        rw [whole, List.getLast?_append, ← whole, List.head?_cons] at closed
        have same : first = last := by simpa using closed
        refine ⟨first, ?_⟩
        rw [whole, turns_steps, ← whole, ← same]
        rfl

def straddles (lat : K) (turn : (K × K) × (K × K)) : Bool := decide (turn.1.2 > lat) != decide (turn.2.2 > lat)

theorem crosses_straddles (lon lat : K) (turn : (K × K) × (K × K)) (crosses : crossesRight lon lat turn.1 turn.2 = true) :
    straddles lat turn = true := by
  rw [crossesRight, Bool.and_eq_true] at crosses
  rw [straddles, bne_comm]
  exact crosses.1

theorem point_in_ring_parity (lon lat : K) (ring : Ring K) (long : 3 ≤ ring.length) :
    pointInRing lon lat ring = parity (fun turn => crossesRight lon lat turn.1 turn.2) (turns ring) := by
  rw [pointInRing, if_neg (by omega), toggled_parity (fun turn : (K × K) × (K × K) => crossesRight lon lat turn.1 turn.2),
    Bool.false_bne]

-- A point inside has an edge on its right and an edge that is not.
theorem inside_between (lon lat : K) (ring : Ring K) (inside : pointInRing lon lat ring = true) :
    (∃ turn ∈ turns ring, crossesRight lon lat turn.1 turn.2 = true) ∧
      ∃ turn ∈ turns ring, straddles lat turn = true ∧ crossesRight lon lat turn.1 turn.2 = false := by
  have long : 3 ≤ ring.length := by
    by_contra short
    rw [pointInRing, if_pos (by omega)] at inside
    cases inside
  rw [point_in_ring_parity lon lat ring long] at inside
  refine ⟨parity_exists _ _ inside, ?_⟩
  have even := turns_even (fun p : K × K => decide (p.2 > lat)) ring
  have differ : parity (straddles lat) (turns ring) ≠
      parity (fun turn => crossesRight lon lat turn.1 turn.2) (turns ring) := by
    rw [inside, show parity (straddles lat) (turns ring) = false from even]
    exact Bool.false_ne_true
  obtain ⟨turn, member, unlike⟩ := parity_differ _ _ _ differ
  refine ⟨turn, member, ?_⟩
  cases crosses : crossesRight lon lat turn.1 turn.2 with
  | true =>
      rw [crosses, crosses_straddles lon lat turn crosses] at unlike
      exact absurd rfl unlike
  | false =>
      rw [crosses] at unlike
      exact ⟨Bool.eq_true_of_not_eq_false unlike, rfl⟩

end Turns

section Boxes

-- Some vertex is at most so many degrees to the west of the point, some to the east, and so on.
structure Reaches (lat lon dlat dlon : K) (ring : Ring K) : Prop where
  west : ∃ v ∈ ring, v.1 - dlon ≤ lon
  east : ∃ v ∈ ring, lon ≤ v.1 + dlon
  south : ∃ v ∈ ring, v.2 - dlat ≤ lat
  north : ∃ v ∈ ring, lat ≤ v.2 + dlat

variable [IsStrictOrderedRing K]

theorem minimum_le (values : List K) (least shift bound : K) (found : values.min? = some least) :
    least - shift ≤ bound ↔ ∃ v ∈ values, v - shift ≤ bound := by
  obtain ⟨member, below⟩ := List.min?_eq_some_iff.mp found
  constructor
  · intro le
    exact ⟨least, member, le⟩
  · rintro ⟨v, inside, le⟩
    have := below v inside
    linarith

theorem maximum_ge (values : List K) (largest shift bound : K) (found : values.max? = some largest) :
    bound ≤ largest + shift ↔ ∃ v ∈ values, bound ≤ v + shift := by
  obtain ⟨member, above⟩ := List.max?_eq_some_iff.mp found
  constructor
  · intro le
    exact ⟨largest, member, le⟩
  · rintro ⟨v, inside, le⟩
    have := above v inside
    linarith

theorem expanded_reaches (math : MathModule K) (ring : Ring K) (bbox : Bbox K) (found : ringBbox ring = some bbox)
    (lat lon meters : K) :
    inBbox lon lat (expandBboxM math bbox meters lat) = true ↔
      Reaches lat lon (meters / metresPerDegree)
        (meters / (metresPerDegree * max cosFloor |math.cos (radians math lat)|)) ring := by
  simp only [ringBbox, Option.bind_eq_bind, Option.bind_eq_some_iff, Option.some.injEq] at found
  obtain ⟨minLon, minLonFound, minLat, minLatFound, maxLon, maxLonFound, maxLat, maxLatFound, rfl⟩ := found
  simp only [inBbox, expandBboxM, Bool.and_eq_true, decide_eq_true_eq, minimum_le _ _ _ _ minLonFound,
    minimum_le _ _ _ _ minLatFound, maximum_ge _ _ _ _ maxLonFound, maximum_ge _ _ _ _ maxLatFound, List.mem_map,
    exists_exists_and_eq_and]
  constructor
  · rintro ⟨⟨west, east⟩, south, north⟩
    exact ⟨west, east, south, north⟩
  · rintro ⟨west, east, south, north⟩
    exact ⟨⟨west, east⟩, south, north⟩

theorem bbox_found (ring : Ring K) (some : ring ≠ []) : ∃ bbox, ringBbox ring = Option.some bbox := by
  have lons : ring.map (·.1) ≠ [] := fun empty => some (List.map_eq_nil_iff.mp empty)
  have lats : ring.map (·.2) ≠ [] := fun empty => some (List.map_eq_nil_iff.mp empty)
  rw [ringBbox, List.min?_eq_some_min lons, List.min?_eq_some_min lats, List.max?_eq_some_max lons,
    List.max?_eq_some_max lats]
  exact ⟨_, rfl⟩

end Boxes

section Crossings

variable [IsStrictOrderedRing K]

def crossingToleranceDeg : K := 1 / (10 ^ 5 : Nat)

-- No edge falls by so little that the nudge of the ray test moves its crossing by more than the tolerance.
def Resolved (ring : Ring K) : Prop :=
  ∀ turn ∈ turns ring, turn.1.2 < turn.2.2 →
    rayNudge < turn.2.2 - turn.1.2 ∧
      |turn.1.1 - turn.2.1| * rayNudge ≤ crossingToleranceDeg * (turn.2.2 - turn.1.2 - rayNudge)

def crossingLon (lat : K) (j i : K × K) : K := (j.1 - i.1) * (lat - i.2) / (j.2 - i.2 + rayNudge) + i.1

theorem nudge_pos : (0 : K) < rayNudge := by
  rw [rayNudge]
  positivity

theorem tolerance_pos : (0 : K) < crossingToleranceDeg := by
  rw [crossingToleranceDeg]
  positivity

theorem crosses_iff (lon lat : K) (turn : (K × K) × (K × K)) :
    crossesRight lon lat turn.1 turn.2 = true ↔ straddles lat turn = true ∧ lon < crossingLon lat turn.1 turn.2 := by
  rw [crossesRight, Bool.and_eq_true, decide_eq_true_eq, straddles, bne_comm]
  rfl

-- A point a fraction of the way from i to j, or a little beyond j.
theorem between_ends (i j fraction excess tolerance : K) (nonneg : 0 ≤ fraction) (bound : fraction ≤ 1 + excess)
    (small : |j - i| * excess ≤ tolerance) (excessNonneg : 0 ≤ excess) :
    min i j - tolerance ≤ i + fraction * (j - i) ∧ i + fraction * (j - i) ≤ max i j + tolerance := by
  have toleranceNonneg : 0 ≤ tolerance := (mul_nonneg (abs_nonneg _) excessNonneg).trans small
  rcases le_total i j with le | le
  · rw [abs_of_nonneg (sub_nonneg.mpr le)] at small
    rw [min_eq_left le, max_eq_right le]
    have gap : 0 ≤ j - i := sub_nonneg.mpr le
    have up := mul_le_mul_of_nonneg_right bound gap
    have down := mul_nonneg nonneg gap
    constructor
    · linarith
    · linarith
  · rw [abs_of_nonpos (sub_nonpos.mpr le)] at small
    rw [min_eq_right le, max_eq_left le]
    have gap : 0 ≤ i - j := sub_nonneg.mpr le
    have up := mul_le_mul_of_nonneg_right bound gap
    have down := mul_nonneg nonneg gap
    constructor
    · linarith
    · linarith

theorem straddles_split (lat : K) (turn : (K × K) × (K × K)) (straddle : straddles lat turn = true) :
    (turn.2.2 ≤ lat ∧ lat < turn.1.2) ∨ (turn.1.2 ≤ lat ∧ lat < turn.2.2) := by
  rw [straddles] at straddle
  by_cases first : lat < turn.1.2
  · by_cases second : lat < turn.2.2
    · simp [first, second] at straddle
    · exact Or.inl ⟨not_lt.mp second, first⟩
  · by_cases second : lat < turn.2.2
    · exact Or.inr ⟨not_lt.mp first, second⟩
    · simp [first, second] at straddle

theorem crossing_between (ring : Ring K) (resolved : Resolved ring) (lat : K) (turn : (K × K) × (K × K))
    (member : turn ∈ turns ring) (straddle : straddles lat turn = true) :
    min turn.2.1 turn.1.1 - crossingToleranceDeg ≤ crossingLon lat turn.1 turn.2 ∧
      crossingLon lat turn.1 turn.2 ≤ max turn.2.1 turn.1.1 + crossingToleranceDeg := by
  have nudge : (0 : K) < rayNudge := nudge_pos
  have shape : crossingLon lat turn.1 turn.2 =
      turn.2.1 + (lat - turn.2.2) / (turn.1.2 - turn.2.2 + rayNudge) * (turn.1.1 - turn.2.1) := by
    rw [crossingLon, mul_comm (turn.1.1 - turn.2.1), mul_div_right_comm, add_comm]
  rw [shape]
  rcases straddles_split lat turn straddle with ⟨low, high⟩ | ⟨low, high⟩
  · have positive : 0 < turn.1.2 - turn.2.2 + rayNudge := by linarith
    refine between_ends _ _ _ 0 _ (div_nonneg (by linarith) positive.le) ?_ ?_ le_rfl
    · rw [add_zero, div_le_one positive]
      linarith
    · rw [mul_zero]
      exact tolerance_pos.le
  · obtain ⟨falls, small⟩ := resolved turn member (low.trans_lt high)
    have positive : 0 < turn.2.2 - turn.1.2 - rayNudge := by linarith
    have swap : (lat - turn.2.2) / (turn.1.2 - turn.2.2 + rayNudge) =
        (turn.2.2 - lat) / (turn.2.2 - turn.1.2 - rayNudge) := by
      rw [← neg_div_neg_eq]
      congr 1
      · ring
      · ring
    rw [swap]
    refine between_ends _ _ _ (rayNudge / (turn.2.2 - turn.1.2 - rayNudge)) _ (div_nonneg (by linarith) positive.le) ?_ ?_
      (div_nonneg nudge.le positive.le)
    · rw [div_le_iff₀ positive, add_mul, div_mul_cancel₀ _ positive.ne']
      linarith
    · rw [← mul_div_assoc, div_le_iff₀ positive]
      exact small

theorem inside_reaches (ring : Ring K) (resolved : Resolved ring) (lon lat dlat dlon : K) (latWide : 0 ≤ dlat)
    (lonWide : crossingToleranceDeg ≤ dlon) (inside : pointInRing lon lat ring = true) : Reaches lat lon dlat dlon ring := by
  obtain ⟨⟨right, rightIn, rightCrosses⟩, left, leftIn, leftStraddles, leftMisses⟩ := inside_between lon lat ring inside
  obtain ⟨rightStraddles, before⟩ := (crosses_iff lon lat right).mp rightCrosses
  have after : crossingLon lat left.1 left.2 ≤ lon := by
    by_contra less
    rw [(crosses_iff lon lat left).mpr ⟨leftStraddles, not_le.mp less⟩] at leftMisses
    cases leftMisses
  have rightBound := (crossing_between ring resolved lat right rightIn rightStraddles).2
  have leftBound := (crossing_between ring resolved lat left leftIn leftStraddles).1
  obtain ⟨rightFirst, rightSecond⟩ := turns_mem ring right rightIn
  obtain ⟨leftFirst, leftSecond⟩ := turns_mem ring left leftIn
  constructor
  case west =>
    rcases min_choice left.2.1 left.1.1 with same | same
    · rw [same] at leftBound
      exact ⟨left.2, leftSecond, by linarith⟩
    · rw [same] at leftBound
      exact ⟨left.1, leftFirst, by linarith⟩
  case east =>
    rcases max_choice right.2.1 right.1.1 with same | same
    · rw [same] at rightBound
      exact ⟨right.2, rightSecond, by linarith⟩
    · rw [same] at rightBound
      exact ⟨right.1, rightFirst, by linarith⟩
  case south =>
    rcases straddles_split lat right rightStraddles with ⟨low, _⟩ | ⟨low, _⟩
    · exact ⟨right.2, rightSecond, by linarith⟩
    · exact ⟨right.1, rightFirst, by linarith⟩
  case north =>
    rcases straddles_split lat right rightStraddles with ⟨_, high⟩ | ⟨_, high⟩
    · exact ⟨right.1, rightFirst, by linarith⟩
    · exact ⟨right.2, rightSecond, by linarith⟩

end Crossings

section Nearest

variable (math : MathModule K)

theorem smallest_le_iff (values : List K) (start bound : WithTop K) :
    values.foldl nearer start ≤ bound ↔
      start ≤ bound ∨ ∃ d ∈ values, (d : WithTop K) ≤ bound := by
  induction values generalizing start with
  | nil => simp
  | cons d rest ih =>
      rw [List.foldl_cons, ih, nearer]
      simp only [List.mem_cons, exists_eq_or_imp]
      split
      · rename_i less
        constructor
        · rintro (le | later)
          · exact Or.inr (Or.inl le)
          · exact Or.inr (Or.inr later)
        · rintro (le | le | later)
          · exact Or.inl (less.le.trans le)
          · exact Or.inl le
          · exact Or.inr later
      · rename_i notLess
        constructor
        · rintro (le | later)
          · exact Or.inl le
          · exact Or.inr (Or.inr later)
        · rintro (le | le | later)
          · exact Or.inl le
          · exact Or.inl ((not_lt.mp notLess).trans le)
          · exact Or.inr later

theorem distance_le_iff (lat lon : K) (ring : Ring K) (bound : K) (nonneg : 0 ≤ bound) :
    distanceToRingM math lat lon ring ≤ (bound : WithTop K) ↔
      pointInRing lon lat ring = true ∨ ∃ edge ∈ edges ring, edgeDistanceM math lat lon edge ≤ bound := by
  rw [distanceToRingM]
  by_cases inside : pointInRing lon lat ring = true
  · rw [if_pos inside]
    exact iff_of_true (WithTop.coe_nonneg.mpr nonneg) (Or.inl inside)
  · rw [if_neg inside]
    by_cases short : ring.length < 2
    · have noEdges : edges ring = [] := by
        cases ring with
        | nil => rfl
        | cons first rest =>
            have alone : rest = [] := List.eq_nil_of_length_eq_zero (by rw [List.length_cons] at short; omega)
            rw [alone]
            rfl
      rw [if_pos short, noEdges]
      simp [inside]
    · rw [if_neg short, smallest_le_iff]
      simp [inside]

end Nearest

end SasCore.Geometry
