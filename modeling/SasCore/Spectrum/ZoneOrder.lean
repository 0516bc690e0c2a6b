import SasCore.Spectrum.PalOffers
import Mathlib.Algebra.BigOperators.Group.Finset.Basic
import Mathlib.Algebra.Order.BigOperators.Group.Finset
import Mathlib.Data.Finset.Max
import Mathlib.Data.Set.Finite.Lattice

set_option autoImplicit false
set_option linter.unusedSectionVars false

namespace SasCore.Spectrum

open Injection Federal Registry Ranges

section Counting

def timesMet (range : Int × Int) (segments : List (Int × Int)) : Nat :=
  segments.countP fun segment => overlapsHz segment.1 segment.2 range.1 range.2

theorem times_met_cons (range segment : Int × Int) (rest : List (Int × Int)) :
    timesMet range (segment :: rest) = timesMet range [segment] + timesMet range rest := by
  rw [timesMet, List.countP_cons, timesMet, List.countP_singleton, Nat.add_comm]
  rfl

theorem times_met_append (range : Int × Int) (first second : List (Int × Int)) :
    timesMet range (first ++ second) = timesMet range first + timesMet range second := List.countP_append

theorem times_met_single (range segment : Int × Int) :
    timesMet range [segment] = if segment.1 < range.2 ∧ range.1 < segment.2 then 1 else 0 := by
  rw [timesMet, List.countP_singleton]
  exact if_congr (overlaps_hz_iff _ _ _ _) rfl rfl

variable (f : Int) (range taken : Int × Int)

-- A range upside down adds a segment for each that it meets; any other leaves their number.
theorem length_cut (segments : List (Int × Int)) :
    (segments.flatMap (cutAt f taken)).length = segments.length + if Doubles taken f then timesMet taken segments else 0 := by
  induction segments with
  | nil => simp [timesMet]
  | cons segment rest ih =>
      rw [List.flatMap_cons, List.length_append, ih, times_met_cons, times_met_single, List.length_cons, cutAt]
      by_cases doubles : Doubles taken f
      · simp only [if_pos doubles, overlaps_hz_iff]
        split <;> simp only [List.length_cons, List.length_nil] <;> omega
      · simp only [if_neg doubles]
        split <;> simp only [List.length_cons, List.length_nil] <;> omega

theorem met_kept_one (doubles : Doubles range f) (free : f ∉ span taken) (open' : ¬ Encloses taken range) (segment : Int × Int) :
    timesMet range [segment] ≤ timesMet range (cutAt f taken segment) := by
  simp only [Encloses] at open'
  obtain ⟨low, high⟩ := doubles
  rcases cut_kinds f taken free with others | ⟨takenLow, takenHigh⟩ | ⟨takenLow, takenHigh⟩
  · rw [cut_doubling f taken segment others]
    split
    · rw [times_met_cons range (segment.1, taken.1), times_met_single, times_met_single, times_met_single]
      simp only
      split <;> split <;> split <;> omega
    · exact le_refl _
  · rw [cut_above f taken segment takenLow takenHigh, times_met_single, times_met_single]
    simp only
    split <;> split <;> omega
  · rw [cut_below f taken segment takenLow, times_met_single, times_met_single]
    simp only
    split <;> split <;> omega

theorem met_shrunk_one (doubles : Doubles range f) (free : f ∉ span taken) (open' : Doubles taken f → ¬ Encloses range taken)
    (segment : Int × Int) : timesMet range (cutAt f taken segment) ≤ timesMet range [segment] := by
  obtain ⟨low, high⟩ := doubles
  rcases cut_kinds f taken free with others | ⟨takenLow, takenHigh⟩ | ⟨takenLow, takenHigh⟩
  · have apart := open' others
    simp only [Encloses] at apart
    rw [cut_doubling f taken segment others]
    split
    · rw [times_met_cons range (segment.1, taken.1), times_met_single, times_met_single, times_met_single]
      simp only
      split <;> split <;> split <;> omega
    · exact le_refl _
  · rw [cut_above f taken segment takenLow takenHigh, times_met_single, times_met_single]
    simp only
    split <;> split <;> omega
  · rw [cut_below f taken segment takenLow, times_met_single, times_met_single]
    simp only
    split <;> split <;> omega

theorem met_ended_one (doubles : Doubles range f) (free : f ∉ span taken) (encloses : Encloses taken range) (segment : Int × Int) :
    timesMet range (cutAt f taken segment) = 0 := by
  simp only [Encloses] at encloses
  obtain ⟨low, high⟩ := doubles
  rcases cut_kinds f taken free with others | ⟨takenLow, takenHigh⟩ | ⟨takenLow, takenHigh⟩
  · rw [cut_doubling f taken segment others]
    split
    · rw [times_met_cons range (segment.1, taken.1), times_met_single, times_met_single]
      simp only
      rw [if_neg (by omega), if_neg (by omega)]
    · rw [times_met_single, if_neg (by omega)]
  · rw [cut_above f taken segment takenLow takenHigh, times_met_single, if_neg (by simp only; omega)]
  · rw [cut_below f taken segment takenLow, times_met_single, if_neg (by simp only; omega)]

theorem times_met_flat (cut : Int × Int → List (Int × Int)) (segments : List (Int × Int)) :
    timesMet range (segments.flatMap cut) = (segments.map fun segment => timesMet range (cut segment)).sum := by
  induction segments with
  | nil => rfl
  | cons segment rest ih => rw [List.flatMap_cons, times_met_append, ih, List.map_cons, List.sum_cons]

theorem times_met_sum (segments : List (Int × Int)) :
    timesMet range segments = (segments.map fun segment => timesMet range [segment]).sum := by
  rw [← times_met_flat range (fun segment => [segment]), List.flatMap_singleton']

theorem met_kept (doubles : Doubles range f) (free : f ∉ span taken) (open' : ¬ Encloses taken range) (segments : List (Int × Int)) :
    timesMet range segments ≤ timesMet range (segments.flatMap (cutAt f taken)) := by
  rw [times_met_flat, times_met_sum]
  exact List.sum_le_sum fun segment _ => met_kept_one f range taken doubles free open' segment

theorem met_shrunk (doubles : Doubles range f) (free : f ∉ span taken) (open' : Doubles taken f → ¬ Encloses range taken)
    (segments : List (Int × Int)) : timesMet range (segments.flatMap (cutAt f taken)) ≤ timesMet range segments := by
  rw [times_met_flat, times_met_sum]
  exact List.sum_le_sum fun segment _ => met_shrunk_one f range taken doubles free open' segment

theorem met_ended (doubles : Doubles range f) (free : f ∉ span taken) (encloses : Encloses taken range) (segments : List (Int × Int)) :
    timesMet range (segments.flatMap (cutAt f taken)) = 0 := by
  rw [times_met_flat, List.sum_eq_zero]
  intro count isCount
  obtain ⟨segment, _, same⟩ := List.mem_map.mp isCount
  rw [← same, met_ended_one f range taken doubles free encloses segment]

theorem cut_unmet_all (doubles : Doubles taken f) (segments : List (Int × Int)) (unmet : timesMet taken segments = 0) :
    segments.flatMap (cutAt f taken) = segments := by
  have each : ∀ segment ∈ segments, cutAt f taken segment = [segment] := by
    intro segment member
    exact cut_unmet f taken segment doubles (List.countP_eq_zero.mp unmet segment member)
  rw [List.flatMap_congr each, List.flatMap_singleton']

theorem cut_within (segment piece : Int × Int) (member : piece ∈ cutAt f taken segment) :
    segment.1 ≤ piece.1 ∧ piece.2 ≤ segment.2 := by
  rw [cutAt] at member
  split at member
  · split at member
    · rename_i isMet
      rw [overlaps_hz_iff] at isMet
      rcases List.mem_pair.mp member with same | same
      · rw [same]
        exact ⟨le_refl _, isMet.2.le⟩
      · rw [same]
        exact ⟨isMet.1.le, le_refl _⟩
    · rw [List.mem_singleton.mp member]
      exact ⟨le_refl _, le_refl _⟩
  · split at member
    · rw [List.mem_singleton.mp member]
      exact ⟨le_refl _, min_le_left _ _⟩
    · rw [List.mem_singleton.mp member]
      exact ⟨le_max_left _ _, le_refl _⟩

theorem unmet_kept (segments : List (Int × Int)) (unmet : timesMet range segments = 0) :
    timesMet range (segments.flatMap (cutAt f taken)) = 0 := by
  refine List.countP_eq_zero.mpr fun piece member isMet => ?_
  obtain ⟨segment, inSegments, isPiece⟩ := List.mem_flatMap.mp member
  obtain ⟨low, high⟩ := cut_within f taken segment piece isPiece
  refine List.countP_eq_zero.mp unmet segment inSegments ?_
  rw [overlaps_hz_iff] at isMet ⊢
  omega

end Counting

section Orders

variable (f : Int) (alone : Finset (Int × Int)) (doubling : ∀ range ∈ alone, Doubles range f)

include doubling

-- Ranges that no other encloses keep the number of segments, together with what they still add, from growing.
theorem counted_step (taken : Int × Int) (free : f ∉ span taken) (open' : taken ∈ alone → ∀ range ∈ alone, Encloses range taken → range = taken)
    (segments : List (Int × Int)) (adds : Doubles taken f → taken ∈ alone ∨ timesMet taken segments = 0) :
    (segments.flatMap (cutAt f taken)).length + ∑ range ∈ alone, timesMet range (segments.flatMap (cutAt f taken)) ≤
      segments.length + ∑ range ∈ alone, timesMet range segments := by
  by_cases doubles : Doubles taken f
  · rcases adds doubles with isAlone | unmet
    · have ended := met_ended f taken taken doubles free ⟨le_refl _, le_refl _⟩ segments
      have others : ∑ range ∈ alone.erase taken, timesMet range (segments.flatMap (cutAt f taken)) ≤
          ∑ range ∈ alone.erase taken, timesMet range segments := by
        refine Finset.sum_le_sum fun range member => ?_
        obtain ⟨other, inAlone⟩ := Finset.mem_erase.mp member
        exact met_shrunk f range taken (doubling range inAlone) free
          (fun _ encloses => other (open' isAlone range inAlone encloses)) segments
      rw [length_cut, if_pos doubles, ← Finset.add_sum_erase alone _ isAlone, ← Finset.add_sum_erase alone _ isAlone, ended]
      omega
    · rw [cut_unmet_all f taken doubles segments unmet]
  · rw [length_cut, if_neg doubles, Nat.add_zero]
    refine Nat.add_le_add_left (Finset.sum_le_sum fun range member => ?_) _
    exact met_shrunk f range taken (doubling range member) free (fun held => absurd held doubles) segments

theorem counted_all (ranges : List (Int × Int)) (free : ∀ taken ∈ ranges, f ∉ span taken)
    (open' : ∀ taken ∈ alone, ∀ range ∈ alone, Encloses range taken → range = taken) (segments : List (Int × Int))
    (adds : ∀ taken ∈ ranges, Doubles taken f → taken ∈ alone ∨ timesMet taken segments = 0) :
    (cutAllAt f segments ranges).length ≤ segments.length + ∑ range ∈ alone, timesMet range segments := by
  induction ranges generalizing segments with
  | nil => exact Nat.le_add_right _ _
  | cons taken rest ih =>
      rw [List.forall_mem_cons] at free adds
      have next := ih free.2 (segments.flatMap (cutAt f taken)) fun other member others =>
        (adds.2 other member others).imp_right (unmet_kept f other taken segments)
      exact next.trans (counted_step f alone doubling taken free.1 (open' taken) segments adds.1)

-- Each of them is met until its turn.
theorem counted_least (ranges : List (Int × Int)) (free : ∀ taken ∈ ranges, f ∉ span taken) (listed : ∀ range ∈ alone, range ∈ ranges)
    (open' : ∀ range ∈ alone, ∀ taken ∈ ranges, Encloses taken range → taken = range) (segments : List (Int × Int)) :
    segments.length + ∑ range ∈ alone, timesMet range segments ≤ (cutAllAt f segments ranges).length := by
  induction ranges generalizing alone segments with
  | nil =>
      have none_listed : alone = ∅ := Finset.eq_empty_of_forall_notMem fun range member => by cases listed range member
      rw [none_listed, Finset.sum_empty]
      exact le_refl _
  | cons taken rest ih =>
      rw [List.forall_mem_cons] at free
      have left : ∀ range ∈ alone.erase taken, range ∈ rest := by
        intro range member
        obtain ⟨other, inAlone⟩ := Finset.mem_erase.mp member
        exact (List.mem_cons.mp (listed range inAlone)).resolve_left other
      have next := ih (alone.erase taken) (fun range member => doubling range (Finset.mem_of_mem_erase member)) free.2 left
        (fun range member other isOther => open' range (Finset.mem_of_mem_erase member) other (List.mem_cons_of_mem taken isOther))
        (segments.flatMap (cutAt f taken))
      have kept : ∑ range ∈ alone.erase taken, timesMet range segments ≤
          ∑ range ∈ alone.erase taken, timesMet range (segments.flatMap (cutAt f taken)) := by
        refine Finset.sum_le_sum fun range member => ?_
        obtain ⟨other, inAlone⟩ := Finset.mem_erase.mp member
        exact met_kept f range taken (doubling range inAlone) free.1
          (fun encloses => other (open' range inAlone taken List.mem_cons_self encloses).symm) segments
      refine le_trans ?_ next
      rw [length_cut]
      by_cases isAlone : taken ∈ alone
      · rw [if_pos (doubling taken isAlone), ← Finset.add_sum_erase alone _ isAlone]
        omega
      · rw [Finset.erase_eq_of_notMem isAlone] at kept ⊢
        omega

end Orders

section Tangles

variable (segments ranges : List (Int × Int))

-- A range that doubles a frequency which is left, and that another range encloses.
structure TangledAt (f : Int) (range : Int × Int) : Prop where
  listed : range ∈ ranges
  isMet : met segments range = true
  doubles : Doubles range f
  left : f ∉ points ranges
  enclosed : ∃ other ∈ ranges, Encloses other range ∧ other ≠ range

theorem tangled_of_not (tangled : ¬ Untangled segments ranges) : ∃ f range, TangledAt segments ranges f range := by
  simp only [Untangled, not_forall] at tangled
  obtain ⟨range, listed, isMet, f, doubles, left, other, isOther, encloses, apart⟩ := tangled
  exact ⟨f, range, listed, isMet, doubles, left, other, isOther, encloses, apart⟩

theorem least_tangled (some_tangled : ∃ f range, TangledAt segments ranges f range) :
    ∃ f, (∃ range, TangledAt segments ranges f range) ∧ ∀ g, (∃ range, TangledAt segments ranges g range) → f ≤ g := by
  obtain ⟨bound, below⟩ := (ranges.map Prod.snd).toFinset.bddBelow
  refine Int.exists_least_of_bdd ⟨bound, ?_⟩ some_tangled
  rintro g ⟨range, tangled⟩
  have start : bound ≤ range.2 := below (by simpa using ⟨range.1, tangled.listed⟩)
  exact start.trans tangled.doubles.1

-- At the least tangled frequency one range encloses all that are tangled, and is not tangled itself.
theorem tangle_blocked (f : Int) (some_tangled : ∃ range, TangledAt segments ranges f range)
    (least : ∀ g, (∃ range, TangledAt segments ranges g range) → f ≤ g) :
    ∃ range blocker, TangledAt segments ranges f range ∧ blocker ∈ ranges ∧ ¬ TangledAt segments ranges f blocker ∧
      ∀ other, TangledAt segments ranges f other → Encloses blocker other := by
  by_cases early : ∃ range, TangledAt segments ranges f range ∧ range.2 < f
  · obtain ⟨range, tangled, before⟩ := early
    have high := tangled.doubles.2
    have covered : f - 1 ∈ points ranges := by
      by_contra left
      have sooner := least (f - 1) ⟨range, tangled.listed, tangled.isMet, ⟨by omega, by omega⟩, left, tangled.enclosed⟩
      omega
    obtain ⟨blocker, listed, shares⟩ := covered
    have apart : f ∉ span blocker := fun inside => tangled.left ⟨blocker, listed, inside⟩
    rw [mem_span] at shares apart
    refine ⟨range, blocker, tangled, listed, fun blocked => ?_, fun other isTangled => ?_⟩
    · have := blocked.doubles.2
      omega
    · have doubles := isTangled.doubles
      simp only [Encloses, Doubles] at doubles ⊢
      omega
  · have starts : ∀ range, TangledAt segments ranges f range → range.2 = f := by
      intro range tangled
      have before : ¬ range.2 < f := fun before => early ⟨range, tangled, before⟩
      have := tangled.doubles.1
      omega
    classical
    have nonempty : (ranges.toFinset.filter (TangledAt segments ranges f)).Nonempty := by
      obtain ⟨range, tangled⟩ := some_tangled
      exact ⟨range, Finset.mem_filter.mpr ⟨List.mem_toFinset.mpr tangled.listed, tangled⟩⟩
    obtain ⟨range, member, shortest⟩ := Finset.exists_min_image _ Prod.fst nonempty
    have tangled := (Finset.mem_filter.mp member).2
    have below : ∀ other, TangledAt segments ranges f other → range.1 ≤ other.1 := fun other isTangled =>
      shortest other (Finset.mem_filter.mpr ⟨List.mem_toFinset.mpr isTangled.listed, isTangled⟩)
    obtain ⟨blocker, listed, encloses, apart⟩ := tangled.enclosed
    have start := starts range tangled
    simp only [Encloses] at encloses
    refine ⟨range, blocker, tangled, listed, fun blocked => ?_, fun other isTangled => ?_⟩
    · have ends := starts blocker blocked
      have more := below blocker blocked
      exact apart (Prod.ext (by omega) (by omega))
    · have ends := starts other isTangled
      have more := below other isTangled
      simp only [Encloses]
      omega

-- The listed ranges that double a frequency and that no other listed range encloses.
def aloneAt (f : Int) : Finset (Int × Int) :=
  ranges.toFinset.filter fun taken => Doubles taken f ∧ ∀ other ∈ ranges, Encloses other taken → other = taken

theorem mem_alone_at (f : Int) (taken : Int × Int) :
    taken ∈ aloneAt ranges f ↔ taken ∈ ranges ∧ Doubles taken f ∧ ∀ other ∈ ranges, Encloses other taken → other = taken := by
  rw [aloneAt, Finset.mem_filter, List.mem_toFinset]

-- A range that doubles a frequency which is left is not enclosed, or tangled, or never met there.
theorem doubling_kinds (f : Int) (left : f ∉ points ranges) (taken : Int × Int) (member : taken ∈ ranges) (doubles : Doubles taken f) :
    taken ∈ aloneAt ranges f ∨ TangledAt segments ranges f taken ∨ timesMet taken (segments.filter (holds f)) = 0 := by
  by_cases isAlone : taken ∈ aloneAt ranges f
  · exact .inl isAlone
  · by_cases isMet : met segments taken = true
    · refine .inr (.inl ⟨member, isMet, doubles, left, ?_⟩)
      rw [mem_alone_at] at isAlone
      simpa [member, doubles] using isAlone
    · refine .inr (.inr (List.countP_eq_zero.mpr fun segment inHeld meets => isMet ?_))
      exact List.any_eq_true.mpr ⟨segment, List.mem_of_mem_filter inHeld, meets⟩

theorem tangled_held (f : Int) (range : Int × Int) (tangled : TangledAt segments ranges f range) :
    0 < timesMet range (segments.filter (holds f)) := by
  obtain ⟨segment, member, meets⟩ := List.any_eq_true.mp tangled.isMet
  have both := (overlaps_hz_iff _ _ _ _).mp meets
  have doubles := tangled.doubles
  refine List.countP_pos_iff.mpr ⟨segment, ?_, meets⟩
  rw [List.mem_filter, holds_iff]
  simp only [Doubles] at doubles
  exact ⟨member, by omega, by omega⟩

-- A tangled range that comes first adds its segments to those that the ranges which no other encloses add.
theorem tangled_first (f : Int) (range : Int × Int) (tangled : TangledAt segments ranges f range) (after : List (Int × Int))
    (order : (range :: after).Perm ranges) (held : List (Int × Int)) :
    held.length + timesMet range held + ∑ taken ∈ aloneAt ranges f, timesMet taken held ≤ (cutAllAt f held (range :: after)).length := by
  have doubling : ∀ taken ∈ aloneAt ranges f, Doubles taken f := fun taken member => ((mem_alone_at ranges f taken).mp member).2.1
  have open' : ∀ taken ∈ aloneAt ranges f, ∀ other ∈ ranges, Encloses other taken → other = taken :=
    fun taken member => ((mem_alone_at ranges f taken).mp member).2.2
  have free : ∀ taken ∈ range :: after, f ∉ span taken :=
    fun taken member shares => tangled.left ⟨taken, order.mem_iff.mp member, shares⟩
  rw [List.forall_mem_cons] at free
  have notAlone : range ∉ aloneAt ranges f := by
    intro isAlone
    obtain ⟨other, isOther, encloses, apart⟩ := tangled.enclosed
    exact apart (open' range isAlone other isOther encloses)
  have rest := counted_least f (aloneAt ranges f) doubling after free.2
    (fun taken member => (List.mem_cons.mp (order.mem_iff.mpr ((mem_alone_at ranges f taken).mp member).1)).resolve_left
      fun same => notAlone (same ▸ member))
    (fun taken member other isOther => open' taken member other (order.mem_iff.mp (List.mem_cons_of_mem range isOther)))
    (held.flatMap (cutAt f range))
  have kept : ∑ taken ∈ aloneAt ranges f, timesMet taken held ≤
      ∑ taken ∈ aloneAt ranges f, timesMet taken (held.flatMap (cutAt f range)) :=
    Finset.sum_le_sum fun taken member => met_kept f taken range (doubling taken member) free.1
      (fun encloses => notAlone (open' taken member range tangled.listed encloses ▸ member)) held
  rw [length_cut, if_pos tangled.doubles] at rest
  exact (Nat.add_le_add_left kept _).trans rest

-- A range that encloses every tangled one and comes first leaves them nothing to add.
theorem blocker_first (f : Int) (left : f ∉ points ranges) (blocker : Int × Int) (listed : blocker ∈ ranges)
    (untangled : ¬ TangledAt segments ranges f blocker)
    (blocks : ∀ other, TangledAt segments ranges f other → Encloses blocker other) (behind : List (Int × Int))
    (order : (blocker :: behind).Perm ranges) :
    (cutAllAt f (segments.filter (holds f)) (blocker :: behind)).length ≤
      (segments.filter (holds f)).length + ∑ taken ∈ aloneAt ranges f, timesMet taken (segments.filter (holds f)) := by
  have doubling : ∀ taken ∈ aloneAt ranges f, Doubles taken f := fun taken member => ((mem_alone_at ranges f taken).mp member).2.1
  have antichain : ∀ taken ∈ aloneAt ranges f, ∀ other ∈ aloneAt ranges f, Encloses other taken → other = taken :=
    fun taken member other isOther =>
      ((mem_alone_at ranges f taken).mp member).2.2 other ((mem_alone_at ranges f other).mp isOther).1
  have free : ∀ taken ∈ blocker :: behind, f ∉ span taken :=
    fun taken member shares => left ⟨taken, order.mem_iff.mp member, shares⟩
  rw [List.forall_mem_cons] at free
  have rest := counted_all f (aloneAt ranges f) doubling behind free.2 antichain ((segments.filter (holds f)).flatMap (cutAt f blocker))
    fun taken member doubles => by
      rcases doubling_kinds segments ranges f left taken (order.mem_iff.mp (List.mem_cons_of_mem blocker member)) doubles with
        isAlone | isTangled | unmet
      · exact .inl isAlone
      · exact .inr (met_ended f taken blocker doubles free.1 (blocks taken isTangled) _)
      · exact .inr (unmet_kept f taken blocker _ unmet)
  refine rest.trans (counted_step f (aloneAt ranges f) doubling blocker free.1 (antichain blocker) _ fun doubles => ?_)
  rcases doubling_kinds segments ranges f left blocker listed doubles with isAlone | isTangled | unmet
  · exact .inl isAlone
  · exact absurd isTangled untangled
  · exact .inr unmet

-- With the tangled range first the frequency is left in more segments than with the one that blocks it first.
theorem tangled_disagree (f : Int) (range blocker : Int × Int) (tangled : TangledAt segments ranges f range) (listed : blocker ∈ ranges)
    (untangled : ¬ TangledAt segments ranges f blocker)
    (blocks : ∀ other, TangledAt segments ranges f other → Encloses blocker other) (after behind : List (Int × Int))
    (one : (range :: after).Perm ranges) (two : (blocker :: behind).Perm ranges) :
    ((subtractAll segments (blocker :: behind)).filter (holds f)).length <
      ((subtractAll segments (range :: after)).filter (holds f)).length := by
  have free : ∀ taken ∈ ranges, f ∉ span taken := fun taken member shares => tangled.left ⟨taken, member, shares⟩
  rw [subtract_all_held f segments _ fun taken member => free taken (one.mem_iff.mp member),
    subtract_all_held f segments _ fun taken member => free taken (two.mem_iff.mp member)]
  have least := tangled_first segments ranges f range tangled after one (segments.filter (holds f))
  have most := blocker_first segments ranges f tangled.left blocker listed untangled blocks behind two
  have added := tangled_held segments ranges f range tangled
  omega

end Tangles

variable {K : Type} [Field K] [LinearOrder K] (owned : List (Json K))

section Covering

def uses (range : Int × Int) (entry : LinkedPal K) : Bool := usable owned entry && decide (entryRange entry = range)

theorem uses_iff (range : Int × Int) (entry : LinkedPal K) :
    uses owned range entry = true ↔ usable owned entry = true ∧ entryRange entry = range := by
  rw [uses, Bool.and_eq_true, decide_eq_true_iff]

-- Some frequency of the range that is left lies in none of the ranges that can be taken out before: those of the
-- PPA itself, and those of the PPAs that offer no such range.
def Uncovered (segments : List (Int × Int)) (blocks : List (List (LinkedPal K))) (block : List (LinkedPal K)) (range : Int × Int) :
    Prop :=
  ∃ f, f ∈ points segments ∧ f ∈ span range ∧
    (∀ other ∈ block, protecting other = true → uses owned range other = false → f ∉ span (entryRange other)) ∧
    ∀ rival ∈ blocks, (∀ other ∈ rival, uses owned range other = false) →
      ∀ other ∈ rival, protecting other = true → f ∉ span (entryRange other)

-- Whatever the order, every PAL that may be used and is met is still met when its turn comes, and the protected
-- ranges that are upside down leave the same segments.
structure OrderSafe (segments : List (Int × Int)) (blocks : List (List (LinkedPal K))) : Prop where
  proper : ∀ block ∈ blocks, ∀ entry ∈ block, usable owned entry = true → met segments (entryRange entry) = true →
    entry.low < entry.high → Uncovered owned segments blocks block (entryRange entry)
  flat : ∀ entry ∈ blocks.flatten, usable owned entry = true → met segments (entryRange entry) = true → entry.high ≤ entry.low →
    ∀ other ∈ blocks.flatten, protecting other = true → Encloses (entryRange other) (entryRange entry) →
      uses owned (entryRange entry) other = true
  untangled : Untangled segments (protectedRanges blocks.flatten)

theorem first_split {α : Type} (holds : α → Bool) (items : List α) (item : α) (member : item ∈ items) (isHeld : holds item = true) :
    ∃ before first after, items = before ++ first :: after ∧ holds first = true ∧ ∀ other ∈ before, holds other = false := by
  have found : (items.find? holds).isSome = true := List.find?_isSome.mpr ⟨item, member, isHeld⟩
  obtain ⟨first, isFirst⟩ := Option.isSome_iff_exists.mp found
  obtain ⟨own, before, after, split, others⟩ := List.find?_eq_some_iff_append.mp isFirst
  exact ⟨before, first, after, split, own, fun other isOther => by simpa using others other isOther⟩

theorem mem_protected (linked : List (LinkedPal K)) (range : Int × Int) :
    range ∈ protectedRanges linked ↔ ∃ entry ∈ linked, protecting entry = true ∧ entryRange entry = range := by
  simp only [protectedRanges, List.mem_map, List.mem_filter, and_assoc]
  rfl

-- The first PAL of a range in the run finds the range uncovered.
theorem uncovered_offered (segments : List (Int × Int)) (proper : Proper segments) (blocks : List (List (LinkedPal K)))
    (range : Int × Int) (isProper : range.1 < range.2)
    (uncovered : ∀ block ∈ blocks, (∃ entry ∈ block, uses owned range entry = true) → Uncovered owned segments blocks block range)
    (block : List (LinkedPal K)) (inBlocks : block ∈ blocks) (entry : LinkedPal K) (inBlock : entry ∈ block)
    (isUse : uses owned range entry = true) : range ∈ offeredRanges owned segments blocks.flatten := by
  obtain ⟨before, first, after, split, isFirst, earlier⟩ := first_split (fun held => held.any (uses owned range)) blocks block
    inBlocks (List.any_eq_true.mpr ⟨entry, inBlock, isUse⟩)
  obtain ⟨held, inFirst, isHeld⟩ := List.any_eq_true.mp isFirst
  obtain ⟨front, user, back, inside, isUser, unused⟩ := first_split (uses owned range) first held inFirst isHeld
  have member : first ∈ blocks := split ▸ List.mem_append_right before List.mem_cons_self
  obtain ⟨f, inSegments, inRange, own, rivals⟩ := uncovered first member ⟨user, by rw [inside]; simp, isUser⟩
  have flat : blocks.flatten = (before.flatten ++ front) ++ user :: (back ++ after.flatten) := by
    rw [split, List.flatten_append, List.flatten_cons, inside]
    simp only [List.append_assoc, List.cons_append]
  have left : f ∈ points (subtractAll segments (protectedRanges (before.flatten ++ front))) := by
    rw [subtract_all_points]
    refine ⟨inSegments, ?_⟩
    rintro ⟨taken, isTaken, within⟩
    obtain ⟨other, inEarlier, protects, same⟩ := (mem_protected _ taken).mp isTaken
    rw [← same] at within
    rcases List.mem_append.mp inEarlier with inBefore | inFront
    · obtain ⟨rival, isRival, inRival⟩ := List.mem_flatten.mp inBefore
      have inBlocks : rival ∈ blocks := split ▸ List.mem_append_left _ isRival
      have silent : ∀ other ∈ rival, uses owned range other = false := by
        intro other inRival
        simpa using List.any_eq_false.mp (earlier rival isRival) other inRival
      exact rivals rival inBlocks silent other inRival protects within
    · exact own other (inside ▸ List.mem_append_left _ inFront) protects (unused other inFront) within
  obtain ⟨isUsable, sameRange⟩ := (uses_iff owned range user).mp isUser
  have isMet : met (subtractAll segments (protectedRanges (before.flatten ++ front))) range = true :=
    (met_iff_common _ range (subtract_all_proper segments _ proper) isProper).mpr ⟨f, left, inRange⟩
  rw [flat, offered_append, offeredRanges, sameRange]
  refine List.mem_append_right _ (List.mem_append_left _ ?_)
  rw [if_pos (by rw [isUsable, isMet]; rfl)]
  exact List.mem_singleton_self range

-- With all that may cover it first, a covered range is not offered.
theorem covered_not_offered (segments : List (Int × Int)) (proper : Proper segments) (blocks : List (List (LinkedPal K)))
    (block : List (LinkedPal K)) (range : Int × Int) (isProper : range.1 < range.2)
    (covered : ¬ Uncovered owned segments blocks block range) (rivals : List (List (LinkedPal K))) (quiet later : List (LinkedPal K))
    (allRivals : ∀ rival ∈ blocks, (∀ other ∈ rival, uses owned range other = false) → rival ∈ rivals)
    (silentRivals : ∀ rival ∈ rivals, ∀ other ∈ rival, uses owned range other = false)
    (allQuiet : ∀ other ∈ block, uses owned range other = false → other ∈ quiet)
    (silentQuiet : ∀ other ∈ quiet, uses owned range other = false) :
    range ∉ offeredRanges owned segments (rivals.flatten ++ quiet ++ later) := by
  rw [offered_append]
  intro offered
  rcases List.mem_append.mp offered with early | late
  · obtain ⟨_, entry, member, isUsable, same⟩ := offered_met owned segments segments (within_refl segments proper) _ range early
    have isUse := (uses_iff owned range entry).mpr ⟨isUsable, same⟩
    rcases List.mem_append.mp member with inRivals | inQuiet
    · obtain ⟨rival, isRival, inRival⟩ := List.mem_flatten.mp inRivals
      exact absurd ((silentRivals rival isRival entry inRival).symm.trans isUse) Bool.false_ne_true
    · exact absurd ((silentQuiet entry inQuiet).symm.trans isUse) Bool.false_ne_true
  · have left := subtract_all_proper segments (protectedRanges (rivals.flatten ++ quiet)) proper
    have isMet := (offered_met owned _ _ (within_refl _ left) later range late).1
    obtain ⟨f, inLeft, inRange⟩ := (met_iff_common _ range left isProper).mp isMet
    rw [subtract_all_points] at inLeft
    have free : ∀ other ∈ rivals.flatten ++ quiet, protecting other = true → f ∉ span (entryRange other) := by
      intro other member protects within
      exact inLeft.2 ⟨entryRange other, (mem_protected _ _).mpr ⟨other, member, protects, rfl⟩, within⟩
    refine covered ⟨f, inLeft.1, inRange, fun other inBlock protects unused => ?_, fun rival isRival silent other inRival protects => ?_⟩
    · exact free other (List.mem_append_right _ (allQuiet other inBlock unused)) protects
    · exact free other (List.mem_append_left _ (List.mem_flatten.mpr ⟨rival, allRivals rival isRival silent, inRival⟩)) protects

-- A flat range is met until a range that encloses it is taken out, and not after that.
theorem flat_met_kept (segments : List (Int × Int)) (range taken : Int × Int) (flat : range.2 ≤ range.1)
    (open' : ¬ Encloses taken range) (isMet : met segments range = true) :
    met (subtractRange segments taken.1 taken.2) range = true := by
  obtain ⟨segment, member, meets⟩ := List.any_eq_true.mp isMet
  rw [overlaps_hz_iff] at meets
  simp only [Encloses] at open'
  have piece : ∃ piece ∈ outside segment.1 segment.2 taken.1 taken.2, piece.1 < range.2 ∧ range.1 < piece.2 := by
    rw [outside]
    split
    · exact ⟨segment, List.mem_singleton_self _, meets⟩
    · by_cases above : range.1 < taken.1
      · refine ⟨(segment.1, min segment.2 taken.1), List.mem_append_left _ ?_, meets.1, lt_min meets.2 above⟩
        rw [if_pos (by omega)]
        exact List.mem_singleton_self _
      · refine ⟨(max segment.1 taken.2, segment.2), List.mem_append_right _ ?_, max_lt meets.1 (by omega), meets.2⟩
        rw [if_pos (by omega)]
        exact List.mem_singleton_self _
  obtain ⟨piece, isPiece, around⟩ := piece
  refine List.any_eq_true.mpr ⟨piece, List.mem_filter.mpr ⟨List.mem_flatMap.mpr ⟨segment, member, isPiece⟩, ?_⟩, ?_⟩
  · exact decide_eq_true (by omega)
  · exact (overlaps_hz_iff _ _ _ _).mpr around

theorem flat_met_ended (segments : List (Int × Int)) (range taken : Int × Int) (encloses : Encloses taken range) :
    met (subtractRange segments taken.1 taken.2) range = false := by
  refine List.any_eq_false.mpr fun piece member meets => ?_
  refine (subtract_inside segments taken.1 taken.2 piece member).1 ?_
  rw [overlaps_hz_iff] at meets ⊢
  simp only [Encloses] at encloses
  omega

theorem flat_offered (segments : List (Int × Int)) (linked : List (LinkedPal K)) (range : Int × Int) (flat : range.2 ≤ range.1)
    (isMet : met segments range = true)
    (open' : ∀ other ∈ linked, protecting other = true → Encloses (entryRange other) range → uses owned range other = true)
    (entry : LinkedPal K) (member : entry ∈ linked) (isUse : uses owned range entry = true) :
    range ∈ offeredRanges owned segments linked := by
  induction linked generalizing segments with
  | nil => cases member
  | cons first rest ih =>
      rw [List.forall_mem_cons] at open'
      rw [offeredRanges]
      by_cases firstUse : uses owned range first = true
      · obtain ⟨isUsable, same⟩ := (uses_iff owned range first).mp firstUse
        refine List.mem_append_left _ ?_
        rw [same, if_pos (by rw [isUsable, isMet]; rfl)]
        exact List.mem_singleton_self range
      · have inRest : entry ∈ rest := (List.mem_cons.mp member).resolve_left fun same => firstUse (same ▸ isUse)
        refine List.mem_append_right _ (ih _ ?_ open'.2 inRest)
        split
        · rename_i protects
          exact flat_met_kept segments range (entryRange first) flat (fun encloses => firstUse (open'.1 protects encloses)) isMet
        · exact isMet

-- With a PAL first that encloses it and does not offer it, a flat range is not offered.
theorem flat_not_offered (segments : List (Int × Int)) (proper : Proper segments) (range : Int × Int) (other : LinkedPal K)
    (rest : List (LinkedPal K)) (protects : protecting other = true) (encloses : Encloses (entryRange other) range)
    (unused : ¬ uses owned range other = true) : range ∉ offeredRanges owned segments (other :: rest) := by
  intro offered
  rw [offeredRanges, if_pos protects] at offered
  rcases List.mem_append.mp offered with here | later
  · split at here
    · rename_i both
      rw [Bool.and_eq_true] at both
      exact unused ((uses_iff owned range other).mpr ⟨both.1, (List.mem_singleton.mp here).symm⟩)
    · cases here
  · have left := within_refl _ fun piece member =>
      (within_subtract segments segments (within_refl segments proper) (entryRange other) piece member).1
    have isMet := (offered_met owned _ _ left rest range later).1
    exact absurd ((flat_met_ended segments range (entryRange other) encloses).symm.trans isMet) Bool.false_ne_true

end Covering

section Shuffles

-- The PPAs in another order, and the PALs of each in another order.
def Shuffled {α : Type} (blocks others : List (List α)) : Prop := ∃ middle, middle.Perm blocks ∧ List.Forall₂ List.Perm middle others

theorem shuffled_flatten {α : Type} (blocks others : List (List α)) (shuffled : Shuffled blocks others) :
    others.flatten.Perm blocks.flatten := by
  obtain ⟨middle, perm, inner⟩ := shuffled
  have blockwise : middle.flatten.Perm others.flatten := by
    clear perm
    induction inner with
    | nil => exact List.Perm.refl _
    | cons first rest ih => exact List.Perm.append first ih
  exact blockwise.symm.trans perm.flatten

theorem forall_two_source {α β : Type} (related : α → β → Prop) (first : List α) (second : List β)
    (pairwise : List.Forall₂ related first second) (result : β) (member : result ∈ second) : ∃ item ∈ first, related item result := by
  induction pairwise with
  | nil => cases member
  | cons own rest ih =>
      rcases List.mem_cons.mp member with here | later
      · exact ⟨_, List.mem_cons_self, here ▸ own⟩
      · obtain ⟨item, isItem, known⟩ := ih later
        exact ⟨item, List.mem_cons_of_mem _ isItem, known⟩

theorem shuffled_source {α : Type} (blocks others : List (List α)) (shuffled : Shuffled blocks others) (other : List α)
    (member : other ∈ others) : ∃ block ∈ blocks, block.Perm other := by
  obtain ⟨middle, perm, inner⟩ := shuffled
  obtain ⟨block, inMiddle, known⟩ := forall_two_source List.Perm middle others inner other member
  exact ⟨block, perm.mem_iff.mp inMiddle, known⟩

theorem untangled_perm (segments first second : List (Int × Int)) (perm : first.Perm second) (untangled : Untangled segments first) :
    Untangled segments second := by
  intro range member isMet f doubles left other isOther
  exact untangled range (perm.mem_iff.mpr member) isMet f doubles (points_perm first second perm ▸ left) other (perm.mem_iff.mpr isOther)

theorem protected_perm (first second : List (LinkedPal K)) (perm : first.Perm second) :
    (protectedRanges first).Perm (protectedRanges second) := (perm.filter _).map _

variable (segments : List (Int × Int)) (blocks others : List (List (LinkedPal K))) (shuffled : Shuffled blocks others)

include shuffled

theorem uncovered_shuffled (block other : List (LinkedPal K)) (perm : block.Perm other) (range : Int × Int)
    (uncovered : Uncovered owned segments blocks block range) : Uncovered owned segments others other range := by
  obtain ⟨f, inSegments, inRange, own, rivals⟩ := uncovered
  refine ⟨f, inSegments, inRange, fun entry member => own entry (perm.mem_iff.mpr member), fun rival isRival silent => ?_⟩
  obtain ⟨source, inBlocks, same⟩ := shuffled_source blocks others shuffled rival isRival
  have silentSource : ∀ entry ∈ source, uses owned range entry = false := fun entry member => silent entry (same.mem_iff.mp member)
  exact fun entry member => rivals source inBlocks silentSource entry (same.mem_iff.mpr member)

theorem order_safe_shuffled (safe : OrderSafe owned segments blocks) : OrderSafe owned segments others := by
  have flat := shuffled_flatten blocks others shuffled
  refine ⟨fun other inOthers entry member isUsable isMet isProper => ?_, fun entry member isUsable isMet isFlat other isOther => ?_, ?_⟩
  · obtain ⟨block, inBlocks, perm⟩ := shuffled_source blocks others shuffled other inOthers
    exact uncovered_shuffled owned segments blocks others shuffled block other perm _
      (safe.proper block inBlocks entry (perm.mem_iff.mpr member) isUsable isMet isProper)
  · exact safe.flat entry (flat.mem_iff.mp member) isUsable isMet isFlat other (flat.mem_iff.mp isOther)
  · exact untangled_perm segments _ _ (protected_perm _ _ flat).symm safe.untangled

omit shuffled in
-- In a safe order exactly the PALs that may be used and are met are offered.
theorem offered_safe_iff (proper : Proper segments) (safe : OrderSafe owned segments blocks) (range : Int × Int) :
    range ∈ offeredRanges owned segments blocks.flatten ↔
      met segments range = true ∧ ∃ entry ∈ blocks.flatten, usable owned entry = true ∧ entryRange entry = range := by
  constructor
  · exact offered_met owned segments segments (within_refl segments proper) blocks.flatten range
  · rintro ⟨isMet, entry, member, isUsable, rfl⟩
    have isUse := (uses_iff owned _ entry).mpr ⟨isUsable, rfl⟩
    by_cases isProper : entry.low < entry.high
    · obtain ⟨block, inBlocks, inBlock⟩ := List.mem_flatten.mp member
      refine uncovered_offered owned segments proper blocks (entryRange entry) isProper (fun held inHeld some_use => ?_) block inBlocks
        entry inBlock isUse
      obtain ⟨user, isUser, userUse⟩ := some_use
      obtain ⟨userUsable, same⟩ := (uses_iff owned _ user).mp userUse
      have low : user.low = entry.low := congrArg Prod.fst same
      have high : user.high = entry.high := congrArg Prod.snd same
      have own := safe.proper held inHeld user isUser userUsable (same ▸ isMet) (by rw [low, high]; exact isProper)
      rwa [same] at own
    · have isFlat := not_lt.mp isProper
      exact flat_offered owned segments blocks.flatten (entryRange entry) isFlat isMet
        (safe.flat entry member isUsable isMet isFlat) entry member isUse

theorem offered_shuffled (proper : Proper segments) (safe : OrderSafe owned segments blocks) :
    (offeredRanges owned segments others.flatten).Perm (offeredRanges owned segments blocks.flatten) := by
  have flat := shuffled_flatten blocks others shuffled
  rw [List.perm_ext_iff_of_nodup (offered_nodup owned segments proper _) (offered_nodup owned segments proper _)]
  intro range
  rw [offered_safe_iff owned segments blocks proper safe,
    offered_safe_iff owned segments others proper (order_safe_shuffled owned segments blocks others shuffled safe)]
  exact and_congr_right fun _ => exists_congr fun entry => and_congr_left fun _ => flat.mem_iff

theorem protected_shuffled (proper : Proper segments) (safe : OrderSafe owned segments blocks) :
    (subtractAll segments (protectedRanges others.flatten)).Perm (subtractAll segments (protectedRanges blocks.flatten)) := by
  have perm := protected_perm _ _ (shuffled_flatten blocks others shuffled)
  exact (subtract_all_perm segments _ _ proper perm.symm safe.untangled).symm

end Shuffles

section Assembly

def assembled (offered pieces : List (Int × Int)) : List AvailableChannel :=
  (offered.map (channelOf .pal) ++ pieces.map (channelOf .gaa)).insertionSort channelOrder

-- The channels of an inquiry from what the incumbents leave and the linked PALs.
def channelsFromLinked (segments : List (Int × Int)) (linked : List (LinkedPal K)) : List AvailableChannel :=
  assembled (offeredRanges owned segments linked)
    ((subtractAll segments (protectedRanges linked)).flatMap fun segment => split10mhz segment.1 segment.2)

theorem channels_from_handled (segments : List (Int × Int)) (linked : List (LinkedPal K)) :
    (((linked.foldl (handlePal owned) ⟨segments, []⟩).palChannels.map (channelOf .pal) ++
      ((linked.foldl (handlePal owned) ⟨segments, []⟩).segments.flatMap fun segment =>
        split10mhz segment.1 segment.2).map (channelOf .gaa)).insertionSort channelOrder) =
      channelsFromLinked owned segments linked := by
  rw [handled_offers, handled_subtracts, List.nil_append]
  rfl

theorem mem_assembled (offered pieces : List (Int × Int)) (channel : AvailableChannel) :
    channel ∈ assembled offered pieces ↔
      (∃ range ∈ offered, channelOf .pal range = channel) ∨ ∃ range ∈ pieces, channelOf .gaa range = channel := by
  rw [assembled, List.mem_insertionSort, List.mem_append, List.mem_map, List.mem_map]

theorem offered_assembled_iff (offered pieces : List (Int × Int)) (range : Int × Int) :
    channelOf .pal range ∈ assembled offered pieces ↔ range ∈ offered := by
  rw [mem_assembled]
  constructor
  · rintro (⟨other, member, same⟩ | ⟨other, _, same⟩)
    · have isRange : other = range := congrArg channelRange same
      rwa [← isRange]
    · cases congrArg AvailableChannel.channelType same
  · exact fun member => .inl ⟨range, member, rfl⟩

instance : Std.Total channelOrder where
  total first second := by
    simp only [channelOrder]
    omega

instance : IsTrans AvailableChannel channelOrder where
  trans first second third := by
    simp only [channelOrder]
    omega

-- Sorting gives one list for every order of the PAL and GAA channels, as long as none is both.
theorem assembled_perm (offered others pieces rest : List (Int × Int)) (perm : offered.Perm others) (same : pieces.Perm rest)
    (apart : ∀ range ∈ offered, range ∉ pieces) : assembled offered pieces = assembled others rest := by
  refine List.Perm.eq_of_pairwise ?_ (List.pairwise_insertionSort channelOrder _) (List.pairwise_insertionSort channelOrder _) ?_
  · intro first second inFirst inSecond before after
    have sameRange : channelRange first = channelRange second := by
      simp only [channelOrder, channelRange, Prod.mk.injEq] at before after ⊢
      omega
    rcases (mem_assembled _ _ first).mp inFirst with ⟨range, member, isFirst⟩ | ⟨range, member, isFirst⟩
    · rcases (mem_assembled _ _ second).mp inSecond with ⟨other, isOther, isSecond⟩ | ⟨other, isOther, isSecond⟩
      · rw [← isFirst, ← isSecond] at sameRange ⊢
        exact congrArg (channelOf .pal) sameRange
      · rw [← isFirst, ← isSecond] at sameRange
        have both : range = other := sameRange
        exact absurd (same.mem_iff.mpr (both ▸ isOther)) (apart range member)
    · rcases (mem_assembled _ _ second).mp inSecond with ⟨other, isOther, isSecond⟩ | ⟨other, isOther, isSecond⟩
      · rw [← isFirst, ← isSecond] at sameRange
        have both : range = other := sameRange
        exact absurd member (both ▸ apart other (perm.mem_iff.mpr isOther))
      · rw [← isFirst, ← isSecond] at sameRange ⊢
        exact congrArg (channelOf .gaa) sameRange
  · refine (List.perm_insertionSort channelOrder _).trans (List.Perm.trans ?_ (List.perm_insertionSort channelOrder _).symm)
    exact (perm.map _).append (same.map _)

-- A GAA channel has none of the points of a PAL that is protected.
theorem pieces_unprotected (segments ranges : List (Int × Int)) (range : Int × Int) (member : range ∈ ranges) :
    range ∉ (subtractAll segments ranges).flatMap fun segment => split10mhz segment.1 segment.2 := by
  intro isPiece
  obtain ⟨segment, inSegments, inSplit⟩ := List.mem_flatMap.mp isPiece
  obtain ⟨low, high, proper⟩ := split_inside segment.1 segment.2 range inSplit
  have inside : range.1 ∈ points (subtractAll segments ranges) := ⟨segment, inSegments, low, proper.trans_le high⟩
  rw [subtract_all_points] at inside
  exact inside.2 ⟨range, member, le_refl _, proper⟩

theorem channels_shuffled (segments : List (Int × Int)) (blocks others : List (List (LinkedPal K))) (shuffled : Shuffled blocks others)
    (proper : Proper segments) (safe : OrderSafe owned segments blocks) :
    channelsFromLinked owned segments others.flatten = channelsFromLinked owned segments blocks.flatten := by
  rw [channelsFromLinked, channelsFromLinked]
  refine assembled_perm _ _ _ _ (offered_shuffled owned segments blocks others shuffled proper safe)
    ((protected_shuffled owned segments blocks others shuffled proper safe).flatMap_right _) fun range offered => ?_
  apply pieces_unprotected
  obtain ⟨_, entry, member, isUsable, same⟩ := offered_met owned segments segments (within_refl segments proper) _ range offered
  exact (mem_protected _ range).mpr ⟨entry, member, usable_protecting owned entry isUsable, same⟩

-- The GAA channels that hold a frequency are as many as the segments that do.
def gaaAt (f : Int) (channel : AvailableChannel) : Bool := channel.channelType = .gaa && holds f (channelRange channel)

theorem split_count (f : Int) (segment : Int × Int) (inBand : segment.1 ≤ f ∧ f < segment.2 → cbrsLowHz ≤ f ∧ f < cbrsHighHz) :
    (split10mhz segment.1 segment.2).countP (holds f) = if holds f segment then 1 else 0 := by
  by_cases held : holds f segment = true
  · rw [if_pos held]
    rw [holds_iff] at held
    have inside : f ∈ points (split10mhz segment.1 segment.2) := by
      rw [split_points]
      exact ⟨held, inBand held⟩
    exact apart_count f (holds f) (holds_iff f) _ (split_apart segment) inside
  · rw [if_neg held, List.countP_eq_zero]
    intro piece member isHeld
    have inside : f ∈ points (split10mhz segment.1 segment.2) := ⟨piece, member, (holds_iff f piece).mp isHeld⟩
    rw [split_points] at inside
    exact held ((holds_iff f segment).mpr inside.1)

theorem gaa_counted (f : Int) (segments : List (Int × Int)) (proper : Proper segments)
    (inBand : ∀ segment ∈ segments, cbrsLowHz ≤ segment.1 ∧ segment.2 ≤ cbrsHighHz) (linked : List (LinkedPal K)) :
    (channelsFromLinked owned segments linked).countP (gaaAt f) =
      ((subtractAll segments (protectedRanges linked)).filter (holds f)).length := by
  have within := within_subtract_all segments segments (protectedRanges linked) (within_refl segments proper)
  rw [channelsFromLinked, assembled, (List.perm_insertionSort channelOrder _).countP_eq, List.countP_append, List.countP_map,
    List.countP_map]
  have pals : (offeredRanges owned segments linked).countP (gaaAt f ∘ channelOf .pal) = 0 :=
    List.countP_eq_zero.mpr fun range _ => by simp [gaaAt, channelOf]
  have gaas : gaaAt f ∘ channelOf .gaa = holds f := by
    funext range
    simp [gaaAt, channelOf, channelRange]
  rw [pals, gaas, Nat.zero_add, ← List.countP_eq_length_filter]
  generalize subtractAll segments (protectedRanges linked) = pieces at within
  induction pieces with
  | nil => rfl
  | cons piece rest ih =>
      obtain ⟨_, segment, member, low, high⟩ := within piece List.mem_cons_self
      obtain ⟨bandLow, bandHigh⟩ := inBand segment member
      rw [List.flatMap_cons, List.countP_append, List.countP_cons, Nat.add_comm,
        ih fun other isOther => within other (List.mem_cons_of_mem piece isOther), split_count f piece fun inside => by omega]

end Assembly

end SasCore.Spectrum
