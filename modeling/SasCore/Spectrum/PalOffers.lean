import SasCore.Spectrum.Tiling

set_option autoImplicit false
set_option linter.unusedSectionVars false

namespace SasCore.Spectrum

open Injection Federal Registry Ranges

variable {K : Type} [Field K] [LinearOrder K]

section Meeting

-- What a PAL range is asked of the segments that are left.
def met (segments : List (Int × Int)) (range : Int × Int) : Bool :=
  segments.any fun segment => overlapsHz segment.1 segment.2 range.1 range.2

def Proper (segments : List (Int × Int)) : Prop := ∀ segment ∈ segments, segment.1 < segment.2

-- The pieces of some segments.
def Within (pieces segments : List (Int × Int)) : Prop :=
  ∀ piece ∈ pieces, piece.1 < piece.2 ∧ ∃ segment ∈ segments, segment.1 ≤ piece.1 ∧ piece.2 ≤ segment.2

theorem met_iff_common (segments : List (Int × Int)) (range : Int × Int) (proper : Proper segments) (isProper : range.1 < range.2) :
    met segments range = true ↔ ∃ f, f ∈ points segments ∧ f ∈ span range := by
  rw [met, List.any_eq_true]
  constructor
  · rintro ⟨segment, member, meets⟩
    rw [overlaps_hz_iff] at meets
    have own := proper segment member
    refine ⟨max segment.1 range.1, ⟨segment, member, ?_⟩, ?_⟩
    · rw [mem_span]
      omega
    · rw [mem_span]
      omega
  · rintro ⟨f, ⟨segment, member, inside⟩, within⟩
    rw [mem_span] at inside within
    refine ⟨segment, member, ?_⟩
    rw [overlaps_hz_iff]
    omega

theorem within_refl (segments : List (Int × Int)) (proper : Proper segments) : Within segments segments :=
  fun segment member => ⟨proper segment member, segment, member, le_refl _, le_refl _⟩

theorem within_met (pieces segments : List (Int × Int)) (within : Within pieces segments) (range : Int × Int)
    (isMet : met pieces range = true) : met segments range = true := by
  obtain ⟨piece, member, meets⟩ := List.any_eq_true.mp isMet
  obtain ⟨_, segment, inSegments, low, high⟩ := within piece member
  rw [overlaps_hz_iff] at meets
  refine List.any_eq_true.mpr ⟨segment, inSegments, ?_⟩
  rw [overlaps_hz_iff]
  omega

theorem within_subtract (pieces segments : List (Int × Int)) (within : Within pieces segments) (range : Int × Int) :
    Within (subtractRange pieces range.1 range.2) segments := by
  intro piece member
  obtain ⟨_, parent, inPieces, low, high⟩ := subtract_inside pieces range.1 range.2 piece member
  obtain ⟨_, segment, inSegments, outerLow, outerHigh⟩ := within parent inPieces
  refine ⟨of_decide_eq_true (List.mem_filter.mp member).2, segment, inSegments, ?_, ?_⟩
  · exact outerLow.trans low
  · exact high.trans outerHigh

theorem within_subtract_all (pieces segments ranges : List (Int × Int)) (within : Within pieces segments) :
    Within (subtractAll pieces ranges) segments := by
  induction ranges generalizing pieces with
  | nil => exact within
  | cons range rest ih => exact ih _ (within_subtract pieces segments within range)

theorem subtract_all_proper (segments ranges : List (Int × Int)) (proper : Proper segments) :
    Proper (subtractAll segments ranges) :=
  fun piece member => (within_subtract_all segments segments ranges (within_refl segments proper) piece member).1

-- A range that meets no segment takes nothing out.
theorem subtract_unmet (segments : List (Int × Int)) (proper : Proper segments) (range : Int × Int)
    (unmet : met segments range = false) : subtractRange segments range.1 range.2 = segments := by
  have apart : ∀ segment ∈ segments, outside segment.1 segment.2 range.1 range.2 = [segment] := by
    intro segment member
    have isApart := List.any_eq_false.mp unmet segment member
    rw [outside, if_pos (by simpa using isApart)]
  have whole : segments.flatMap (fun segment => outside segment.1 segment.2 range.1 range.2) = segments := by
    rw [List.flatMap_congr apart, List.flatMap_singleton']
  rw [subtractRange, whole, List.filter_eq_self]
  exact fun segment member => decide_eq_true (proper segment member)

theorem unmet_part (segments : List (Int × Int)) (range : Int × Int) (met_all : ¬ met segments range = true) :
    met segments range = false := by simpa using met_all

-- Only the ranges that the segments meet count.
theorem subtract_all_met (pieces segments ranges : List (Int × Int)) (within : Within pieces segments) :
    subtractAll pieces ranges = subtractAll pieces (ranges.filter (met segments)) := by
  induction ranges generalizing pieces with
  | nil => rfl
  | cons range rest ih =>
      have step : subtractAll pieces (range :: rest) = subtractAll (subtractRange pieces range.1 range.2) rest := rfl
      rw [step, List.filter_cons]
      by_cases isMet : met segments range = true
      · rw [if_pos isMet, ih _ (within_subtract pieces segments within range)]
        rfl
      · have unmet : met pieces range = false := unmet_part pieces range fun isPiece => isMet (within_met pieces segments within range isPiece)
        rw [if_neg isMet, subtract_unmet pieces (fun piece member => (within piece member).1) range unmet]
        exact ih pieces within

end Meeting

section Doubling

-- A range upside down takes nothing out, and a segment strictly around it falls into two that share what is between its ends.
def Doubles (range : Int × Int) (f : Int) : Prop := range.2 ≤ f ∧ f < range.1

instance (range : Int × Int) (f : Int) : Decidable (Doubles range f) := inferInstanceAs (Decidable (_ ∧ _))

-- After a range that encloses it, an empty range or one upside down is met no more.
def Encloses (outer inner : Int × Int) : Prop := outer.1 ≤ inner.1 ∧ inner.2 ≤ outer.2

instance (outer inner : Int × Int) : Decidable (Encloses outer inner) := inferInstanceAs (Decidable (_ ∧ _))

def holds (f : Int) (segment : Int × Int) : Bool := decide (segment.1 ≤ f ∧ f < segment.2)

theorem holds_iff (f : Int) (segment : Int × Int) : holds f segment = true ↔ segment.1 ≤ f ∧ f < segment.2 := decide_eq_true_iff

-- What a range makes of a segment, as far as it holds the frequency.
def cutAt (f : Int) (range segment : Int × Int) : List (Int × Int) :=
  if Doubles range f then
    if overlapsHz segment.1 segment.2 range.1 range.2 then [(segment.1, range.1), (range.2, segment.2)] else [segment]
  else if f < range.1 then [(segment.1, min segment.2 range.1)]
  else [(max segment.1 range.2, segment.2)]

def cutAllAt (f : Int) (segments ranges : List (Int × Int)) : List (Int × Int) :=
  ranges.foldl (fun held range => held.flatMap (cutAt f range)) segments

section Cuts

variable (f : Int) (range segment : Int × Int)

theorem cut_doubled (doubles : Doubles range f) (isMet : overlapsHz segment.1 segment.2 range.1 range.2 = true) :
    cutAt f range segment = [(segment.1, range.1), (range.2, segment.2)] := by
  rw [cutAt, if_pos doubles, if_pos isMet]

theorem cut_unmet (doubles : Doubles range f) (unmet : ¬ overlapsHz segment.1 segment.2 range.1 range.2 = true) :
    cutAt f range segment = [segment] := by
  rw [cutAt, if_pos doubles, if_neg unmet]

theorem cut_doubling (doubles : Doubles range f) : cutAt f range segment =
    if segment.1 < range.2 ∧ range.1 < segment.2 then [(segment.1, range.1), (range.2, segment.2)] else [segment] := by
  rw [cutAt, if_pos doubles]
  exact if_congr (overlaps_hz_iff _ _ _ _) rfl rfl

theorem cut_above (low : f < range.1) (high : f < range.2) : cutAt f range segment = [(segment.1, min segment.2 range.1)] := by
  rw [cutAt, if_neg fun doubles : Doubles range f => absurd doubles.1 (not_le.mpr high), if_pos low]

theorem cut_below (low : range.1 ≤ f) : cutAt f range segment = [(max segment.1 range.2, segment.2)] := by
  rw [cutAt, if_neg fun doubles : Doubles range f => absurd doubles.2 (not_lt.mpr low), if_neg (not_lt.mpr low)]

-- A range without the frequency doubles it, lies above it or lies below it.
theorem cut_kinds (free : f ∉ span range) : Doubles range f ∨ (f < range.1 ∧ f < range.2) ∨ (range.1 ≤ f ∧ range.2 ≤ f) := by
  rw [mem_span] at free
  simp only [Doubles]
  omega

theorem outside_held (free : f ∉ span range) (held : holds f segment = true) :
    ((outside segment.1 segment.2 range.1 range.2).filter fun piece => piece.1 < piece.2).filter (holds f) = cutAt f range segment := by
  rw [holds_iff] at held
  rw [List.filter_filter]
  by_cases isMet : overlapsHz segment.1 segment.2 range.1 range.2 = true
  · have both := (overlaps_hz_iff _ _ _ _).mp isMet
    rw [outside, isMet]
    simp only [Bool.not_true, Bool.false_eq_true, if_false]
    rcases cut_kinds f range free with doubles | ⟨low, high⟩ | ⟨low, high⟩
    · rw [cut_doubled f range segment doubles isMet]
      obtain ⟨below, above⟩ := doubles
      rw [if_pos (by omega), if_pos (by omega), min_eq_right both.2.le, max_eq_right both.1.le]
      simp [holds]
      omega
    · rw [cut_above f range segment low high, if_pos (by omega)]
      split
      · simp only [holds, List.cons_append, List.nil_append, List.filter_cons]
        simp
        rw [if_pos (by omega), if_neg (by omega)]
      · simp [holds]
        omega
    · rw [cut_below f range segment low, if_pos (by omega : range.2 < segment.2)]
      split
      · simp only [holds, List.cons_append, List.nil_append, List.filter_cons]
        simp
        rw [if_neg (by omega), if_pos (by omega)]
      · simp [holds]
        omega
  · have isApart : (!overlapsHz segment.1 segment.2 range.1 range.2) = true := by simpa using isMet
    have apart := isMet
    rw [overlaps_hz_iff] at apart
    rw [outside, if_pos isApart]
    rcases cut_kinds f range free with doubles | ⟨low, high⟩ | ⟨low, high⟩
    · rw [cut_unmet f range segment doubles isMet]
      simp [holds]
      omega
    · rw [cut_above f range segment low high, min_eq_left (by omega)]
      simp [holds]
      omega
    · rw [cut_below f range segment low, max_eq_left (by omega)]
      simp [holds]
      omega

theorem outside_unheld (unheld : holds f segment = false) :
    ((outside segment.1 segment.2 range.1 range.2).filter fun piece => piece.1 < piece.2).filter (holds f) = [] := by
  refine List.filter_eq_nil_iff.mpr fun piece member isHeld => ?_
  obtain ⟨low, high, _⟩ := outside_apart _ _ _ _ piece (List.mem_of_mem_filter member)
  rw [holds_iff] at isHeld
  have held : holds f segment = true := (holds_iff f segment).mpr (by omega)
  exact absurd (unheld.symm.trans held) Bool.false_ne_true

end Cuts

theorem subtract_held (f : Int) (range : Int × Int) (free : f ∉ span range) (segments : List (Int × Int)) :
    (subtractRange segments range.1 range.2).filter (holds f) = (segments.filter (holds f)).flatMap (cutAt f range) := by
  rw [subtractRange]
  induction segments with
  | nil => rfl
  | cons segment rest ih =>
      rw [List.flatMap_cons, List.filter_append, List.filter_append, ih, List.filter_cons]
      cases held : holds f segment with
      | true => rw [outside_held f range segment free held, if_pos rfl, List.flatMap_cons]
      | false => rw [outside_unheld f range segment held, if_neg Bool.false_ne_true, List.nil_append]

-- The segments with a frequency come from the segments with it.
theorem subtract_all_held (f : Int) (segments ranges : List (Int × Int)) (free : ∀ range ∈ ranges, f ∉ span range) :
    (subtractAll segments ranges).filter (holds f) = cutAllAt f (segments.filter (holds f)) ranges := by
  induction ranges generalizing segments with
  | nil => rfl
  | cons range rest ih =>
      rw [List.forall_mem_cons] at free
      have step : subtractAll segments (range :: rest) = subtractAll (subtractRange segments range.1 range.2) rest := rfl
      rw [step, ih _ free.2, subtract_held f range free.1]
      rfl

section Commuting

variable (f : Int) (first second segment : Int × Int)

theorem doubled_above (doubles : Doubles first f) (low : f < second.1) (high : f < second.2) (open' : first.1 < second.1) :
    (cutAt f first segment).flatMap (cutAt f second) = (cutAt f second segment).flatMap (cutAt f first) := by
  have cut := fun piece : Int × Int => cut_above f second piece low high
  by_cases isMet : overlapsHz segment.1 segment.2 first.1 first.2 = true
  · have still : overlapsHz segment.1 (min segment.2 second.1) first.1 first.2 = true := by
      rw [overlaps_hz_iff] at isMet ⊢
      omega
    simp only [cut_doubled f first segment doubles isMet, cut, List.flatMap_cons, List.flatMap_nil, List.append_nil,
      cut_doubled f first (segment.1, min segment.2 second.1) doubles still, min_eq_left open'.le, List.cons_append, List.nil_append]
  · have still : ¬ overlapsHz segment.1 (min segment.2 second.1) first.1 first.2 = true := by
      rw [overlaps_hz_iff] at isMet ⊢
      omega
    simp only [cut_unmet f first segment doubles isMet, cut, List.flatMap_cons, List.flatMap_nil, List.append_nil,
      cut_unmet f first (segment.1, min segment.2 second.1) doubles still]

theorem doubled_below (doubles : Doubles first f) (low : second.1 ≤ f) (open' : second.2 < first.2) :
    (cutAt f first segment).flatMap (cutAt f second) = (cutAt f second segment).flatMap (cutAt f first) := by
  have cut := fun piece : Int × Int => cut_below f second piece low
  by_cases isMet : overlapsHz segment.1 segment.2 first.1 first.2 = true
  · have still : overlapsHz (max segment.1 second.2) segment.2 first.1 first.2 = true := by
      rw [overlaps_hz_iff] at isMet ⊢
      omega
    simp only [cut_doubled f first segment doubles isMet, cut, List.flatMap_cons, List.flatMap_nil, List.append_nil,
      cut_doubled f first (max segment.1 second.2, segment.2) doubles still, max_eq_left open'.le, List.cons_append, List.nil_append]
  · have still : ¬ overlapsHz (max segment.1 second.2) segment.2 first.1 first.2 = true := by
      rw [overlaps_hz_iff] at isMet ⊢
      omega
    simp only [cut_unmet f first segment doubles isMet, cut, List.flatMap_cons, List.flatMap_nil, List.append_nil,
      cut_unmet f first (max segment.1 second.2, segment.2) doubles still]

-- Both upside down, the first lower at both ends.
theorem doubled_doubled (doubles : Doubles first f) (others : Doubles second f) (low : first.1 < second.1) (high : first.2 < second.2) :
    (cutAt f first segment).flatMap (cutAt f second) = (cutAt f second segment).flatMap (cutAt f first) := by
  have lowClosed : ¬ second.1 < first.1 := not_lt.mpr low.le
  have highClosed : ¬ second.2 < first.2 := not_lt.mpr high.le
  have cutFirst := fun piece : Int × Int => cut_doubling f first piece doubles
  have cutSecond := fun piece : Int × Int => cut_doubling f second piece others
  by_cases isFirst : segment.1 < first.2 ∧ first.1 < segment.2
  · by_cases isSecond : second.1 < segment.2
    · have lower : segment.1 < second.2 := isFirst.1.trans high
      simp only [cutFirst, cutSecond, isFirst, isSecond, lower, low, high, lowClosed, highClosed, and_self, and_true, and_false, if_true,
        if_false, List.flatMap_cons, List.flatMap_nil, List.append_nil, List.cons_append, List.nil_append]
    · simp only [cutFirst, cutSecond, isFirst, isSecond, lowClosed, and_self, and_false, if_true, if_false, List.flatMap_cons,
        List.flatMap_nil, List.append_nil, List.cons_append, List.nil_append]
  · by_cases isSecond : segment.1 < second.2 ∧ second.1 < segment.2
    · have early : ¬ segment.1 < first.2 := fun before => isFirst ⟨before, low.trans isSecond.2⟩
      simp only [cutFirst, cutSecond, isSecond, early, highClosed, and_self, false_and, if_true, if_false, List.flatMap_cons,
        List.flatMap_nil, List.append_nil, List.cons_append, List.nil_append]
    · simp only [cutFirst, cutSecond, isFirst, isSecond, if_false, List.flatMap_cons, List.flatMap_nil, List.append_nil]

theorem cut_comm (freeFirst : f ∉ span first) (freeSecond : f ∉ span second)
    (one : Doubles first f → Encloses second first → second = first) (two : Doubles second f → Encloses first second → first = second) :
    (cutAt f first segment).flatMap (cutAt f second) = (cutAt f second segment).flatMap (cutAt f first) := by
  rcases cut_kinds f first freeFirst with doubles | ⟨low, high⟩ | ⟨low, high⟩
  · have apart := one doubles
    rcases cut_kinds f second freeSecond with others | ⟨otherLow, otherHigh⟩ | ⟨otherLow, otherHigh⟩
    · by_cases same : first = second
      · rw [same]
      · have outer : ¬ Encloses second first := fun encloses => same (apart encloses).symm
        have inner : ¬ Encloses first second := fun encloses => same (two others encloses)
        simp only [Encloses] at outer inner
        by_cases lower : first.1 < second.1
        · exact doubled_doubled f first second segment doubles others lower (by omega)
        · exact (doubled_doubled f second first segment others doubles (by omega) (by omega)).symm
    · refine doubled_above f first second segment doubles otherLow otherHigh ?_
      by_contra closed
      have same := apart ⟨not_lt.mp closed, doubles.1.trans otherHigh.le⟩
      exact absurd doubles.1 (same ▸ not_le.mpr otherHigh)
    · refine doubled_below f first second segment doubles otherLow ?_
      by_contra closed
      have same := apart ⟨otherLow.trans doubles.2.le, not_lt.mp closed⟩
      exact absurd doubles.2 (same ▸ not_lt.mpr otherLow)
  · rcases cut_kinds f second freeSecond with others | ⟨otherLow, otherHigh⟩ | ⟨otherLow, otherHigh⟩
    · refine (doubled_above f second first segment others low high ?_).symm
      by_contra closed
      have same := two others ⟨not_lt.mp closed, others.1.trans high.le⟩
      exact absurd others.1 (same ▸ not_le.mpr high)
    · simp only [cut_above f first _ low high, cut_above f second _ otherLow otherHigh, List.flatMap_cons, List.flatMap_nil,
        List.append_nil, min_right_comm]
    · simp only [cut_above f first _ low high, cut_below f second _ otherLow, List.flatMap_cons, List.flatMap_nil, List.append_nil]
  · rcases cut_kinds f second freeSecond with others | ⟨otherLow, otherHigh⟩ | ⟨otherLow, otherHigh⟩
    · refine (doubled_below f second first segment others low ?_).symm
      by_contra closed
      have same := two others ⟨low.trans others.2.le, not_lt.mp closed⟩
      exact absurd others.2 (same ▸ not_lt.mpr low)
    · simp only [cut_below f first _ low, cut_above f second _ otherLow otherHigh, List.flatMap_cons, List.flatMap_nil, List.append_nil]
    · simp only [cut_below f first _ low, cut_below f second _ otherLow, List.flatMap_cons, List.flatMap_nil, List.append_nil,
        max_right_comm]

end Commuting

-- As far as a frequency is left, no range that is upside down over it is enclosed by another.
def Untangled (segments ranges : List (Int × Int)) : Prop :=
  ∀ range ∈ ranges, met segments range = true → ∀ f, Doubles range f → f ∉ points ranges →
    ∀ other ∈ ranges, Encloses other range → other = range

theorem cut_all_perm (f : Int) (held first second : List (Int × Int)) (perm : first.Perm second) (free : ∀ range ∈ first, f ∉ span range)
    (untangled : ∀ range ∈ first, Doubles range f → ∀ other ∈ first, Encloses other range → other = range) :
    cutAllAt f held first = cutAllAt f held second := by
  refine perm.foldl_eq' (fun one inFirst two inSecond pieces => ?_) held
  rw [List.flatMap_assoc, List.flatMap_assoc]
  refine List.flatMap_congr fun segment _ => ?_
  exact cut_comm f one two segment (free one inFirst) (free two inSecond)
    (fun doubles => untangled one inFirst doubles two inSecond) (fun doubles => untangled two inSecond doubles one inFirst)

-- What shares a frequency that a met range doubles is met as well.
theorem sharer_met (segments : List (Int × Int)) (range other : Int × Int) (f : Int) (doubles : Doubles range f)
    (isMet : met segments range = true) (shares : f ∈ span other) : met segments other = true := by
  obtain ⟨segment, member, meets⟩ := List.any_eq_true.mp isMet
  rw [overlaps_hz_iff] at meets
  rw [mem_span] at shares
  refine List.any_eq_true.mpr ⟨segment, member, ?_⟩
  rw [overlaps_hz_iff]
  simp only [Doubles] at doubles
  omega

theorem untangled_met (segments ranges : List (Int × Int)) (untangled : Untangled segments ranges) :
    ∀ f ∉ points (ranges.filter (met segments)), ∀ range ∈ ranges.filter (met segments), Doubles range f →
      ∀ other ∈ ranges.filter (met segments), Encloses other range → other = range := by
  intro f free range inRanges doubles other isOther
  obtain ⟨member, isMet⟩ := List.mem_filter.mp inRanges
  refine untangled range member isMet f doubles (fun covered => free ?_) other (List.mem_filter.mp isOther).1
  obtain ⟨sharer, isSharer, shares⟩ := covered
  exact ⟨sharer, List.mem_filter.mpr ⟨isSharer, sharer_met segments range sharer f doubles isMet shares⟩, shares⟩

theorem held_nil (f : Int) (segments ranges : List (Int × Int)) (covered : f ∈ points ranges) :
    (subtractAll segments ranges).filter (holds f) = [] := by
  refine List.filter_eq_nil_iff.mpr fun piece member isHeld => ?_
  have inside : f ∈ points (subtractAll segments ranges) := ⟨piece, member, (holds_iff f piece).mp isHeld⟩
  rw [subtract_all_points] at inside
  exact inside.2 covered

-- Segments that hold the same at every frequency are the same up to their order.
theorem perm_of_held (first second : List (Int × Int)) (one : Proper first) (two : Proper second)
    (same : ∀ f, first.filter (holds f) = second.filter (holds f)) : first.Perm second := by
  refine List.perm_iff_count.mpr fun piece => ?_
  by_cases proper : piece.1 < piece.2
  · have held : holds piece.1 piece = true := (holds_iff _ _).mpr ⟨le_refl _, proper⟩
    rw [← List.count_filter held, same, List.count_filter held]
  · rw [List.count_eq_zero.mpr fun member => proper (one piece member), List.count_eq_zero.mpr fun member => proper (two piece member)]

-- What is left of the segments does not depend on the order of ranges that are not tangled.
theorem subtract_all_perm (segments first second : List (Int × Int)) (proper : Proper segments) (perm : first.Perm second)
    (untangled : Untangled segments first) : (subtractAll segments first).Perm (subtractAll segments second) := by
  have within := within_refl segments proper
  have filtered := perm.filter (met segments)
  rw [subtract_all_met segments segments first within, subtract_all_met segments segments second within]
  refine perm_of_held _ _ (subtract_all_proper segments _ proper) (subtract_all_proper segments _ proper) fun f => ?_
  by_cases covered : f ∈ points (first.filter (met segments))
  · rw [held_nil f segments _ covered, held_nil f segments _ (points_perm _ _ filtered ▸ covered)]
  · have free : ∀ range ∈ first.filter (met segments), f ∉ span range := fun range member shares => covered ⟨range, member, shares⟩
    rw [subtract_all_held f segments _ free, subtract_all_held f segments _ fun range member => free range (filtered.mem_iff.mpr member)]
    exact cut_all_perm f _ _ _ filtered free (untangled_met segments first untangled f covered)

end Doubling

section Offers

variable (owned : List (Json K))

-- A PAL that the CBSD may use: it is in the cluster of the PPA, and the licensee is its user.
def usable (entry : LinkedPal K) : Bool := entry.inCluster && owned.any (·.equal entry.palId)

def protecting (entry : LinkedPal K) : Bool := entry.inCluster || entry.inPpa

-- The PAL channels that a run over the linked PALs adds.
def offeredRanges (segments : List (Int × Int)) : List (LinkedPal K) → List (Int × Int)
  | [] => []
  | entry :: rest =>
      (if usable owned entry && met segments (entryRange entry) then [entryRange entry] else []) ++
        offeredRanges (if protecting entry then subtractRange segments entry.low entry.high else segments) rest

theorem usable_protecting (entry : LinkedPal K) (isUsable : usable owned entry = true) : protecting entry = true := by
  rw [usable, Bool.and_eq_true] at isUsable
  rw [protecting, isUsable.1, Bool.true_or]

theorem handle_pal_offers (held : PalSegments) (entry : LinkedPal K) :
    (handlePal owned held entry).palChannels =
      held.palChannels ++ if usable owned entry && met held.segments (entryRange entry) then [entryRange entry] else [] := by
  rw [handlePal, usable, met, entryRange]
  cases cluster : entry.inCluster with
  | true =>
      cases owner : owned.any (·.equal entry.palId) with
      | true =>
          simp only [Bool.and_self, if_true, Bool.true_and]
          split
          · rfl
          · rw [List.append_nil]
      | false => simp
  | false => cases ppa : entry.inPpa <;> simp

theorem handled_offers (linked : List (LinkedPal K)) (held : PalSegments) :
    (linked.foldl (handlePal owned) held).palChannels = held.palChannels ++ offeredRanges owned held.segments linked := by
  induction linked generalizing held with
  | nil => rw [offeredRanges, List.append_nil, List.foldl_nil]
  | cons entry rest ih =>
      rw [List.foldl_cons, ih, handle_pal_offers, handle_pal_subtracts, offeredRanges, List.append_assoc]
      rfl

variable (segments : List (Int × Int))

theorem offered_append (first second : List (LinkedPal K)) :
    offeredRanges owned segments (first ++ second) =
      offeredRanges owned segments first ++ offeredRanges owned (subtractAll segments (protectedRanges first)) second := by
  induction first generalizing segments with
  | nil => rfl
  | cons entry rest ih =>
      rw [List.cons_append, offeredRanges, offeredRanges, ih, List.append_assoc]
      congr 2
      rw [protectedRanges, protectedRanges, List.filter_cons]
      by_cases protects : (entry.inCluster || entry.inPpa) = true
      · rw [protecting, if_pos protects, if_pos protects]
        rfl
      · rw [protecting, if_neg protects, if_neg protects]

theorem within_step (pieces : List (Int × Int)) (within : Within pieces segments) (entry : LinkedPal K) :
    Within (if protecting entry then subtractRange pieces entry.low entry.high else pieces) segments := by
  split
  · exact within_subtract pieces segments within (entryRange entry)
  · exact within

-- A range is offered only while the segments meet it.
theorem offered_met (pieces : List (Int × Int)) (within : Within pieces segments) (linked : List (LinkedPal K)) (range : Int × Int)
    (offered : range ∈ offeredRanges owned pieces linked) :
    met segments range = true ∧ ∃ entry ∈ linked, usable owned entry = true ∧ entryRange entry = range := by
  induction linked generalizing pieces with
  | nil => cases offered
  | cons entry rest ih =>
      rw [offeredRanges] at offered
      rcases List.mem_append.mp offered with here | later
      · split at here
        · rename_i both
          rw [Bool.and_eq_true] at both
          rw [List.mem_singleton.mp here]
          exact ⟨within_met pieces segments within _ both.2, entry, List.mem_cons_self, both.1, rfl⟩
        · cases here
      · obtain ⟨isMet, other, member, known⟩ := ih _ (within_step segments pieces within entry) later
        exact ⟨isMet, other, List.mem_cons_of_mem entry member, known⟩

-- A range that is taken out is not met any more.
theorem taken_unmet (pieces : List (Int × Int)) (range : Int × Int) :
    met (subtractRange pieces range.1 range.2) range = false := by
  refine List.any_eq_false.mpr fun piece member => ?_
  exact (subtract_inside pieces range.1 range.2 piece member).1

theorem offered_nodup (proper : Proper segments) (linked : List (LinkedPal K)) : (offeredRanges owned segments linked).Nodup := by
  induction linked generalizing segments with
  | nil => exact List.nodup_nil
  | cons entry rest ih =>
      have next : Proper (if protecting entry then subtractRange segments entry.low entry.high else segments) :=
        fun piece member => (within_step segments segments (within_refl segments proper) entry piece member).1
      rw [offeredRanges]
      by_cases both : (usable owned entry && met segments (entryRange entry)) = true
      · rw [if_pos both, List.singleton_append, List.nodup_cons]
        refine ⟨fun again => ?_, ih _ next⟩
        rw [Bool.and_eq_true] at both
        rw [if_pos (usable_protecting owned entry both.1)] at again
        have left : Proper (subtractRange segments entry.low entry.high) :=
          fun piece member => (within_subtract segments segments (within_refl segments proper) (entryRange entry) piece member).1
        have isMet := (offered_met owned _ _ (within_refl _ left) rest (entryRange entry) again).1
        have unmet : met (subtractRange segments entry.low entry.high) (entryRange entry) = false := taken_unmet segments (entryRange entry)
        exact absurd (unmet.symm.trans isMet) Bool.false_ne_true
      · rw [if_neg both, List.nil_append]
        exact ih _ next

end Offers

end SasCore.Spectrum
