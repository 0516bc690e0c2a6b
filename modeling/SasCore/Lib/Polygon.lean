import Mathlib.Topology.Order.Compact
import Mathlib.Topology.Connected.TotallyDisconnected
import Mathlib.Topology.Algebra.Order.Archimedean
import SasCore.Lib.Plane

set_option autoImplicit false
set_option linter.unusedSectionVars false

namespace SasCore.Polygon

open Parity Plane Filter Topology

-- Closed lists of vertices; the interior is where a ray leaves the ring an odd number of times.
section Rings

variable (ring : List (ℝ × ℝ))

def OnBoundary (p : ℝ × ℝ) : Prop := ∃ edge ∈ steps ring, p ∈ segment ℝ edge.1 edge.2

noncomputable def odd (p : ℝ × ℝ) : Bool := parity (rayHits p) (steps ring)

def interiorOf : Set (ℝ × ℝ) := {p | ¬ OnBoundary ring p ∧ odd ring p = true}

-- Distinct vertices, and edges that share nothing but common ends.
structure Simple : Prop where
  closed : ring.head? = ring.getLast?
  long : 4 ≤ ring.length
  distinct : ring.dropLast.Nodup
  apart : (steps ring).Pairwise fun e f => ∀ z, z ∈ segment ℝ e.1 e.2 → z ∈ segment ℝ f.1 f.2 →
    (z = e.1 ∨ z = e.2) ∧ (z = f.1 ∨ z = f.2)

theorem eventually_items {α β : Type} (items : List α) (near : Filter β) (holds : α → β → Prop)
    (each : ∀ item ∈ items, ∀ᶠ p in near, holds item p) : ∀ᶠ p in near, ∀ item ∈ items, holds item p :=
  (eventually_all_finite items.finite_toSet).mpr each

variable (closed : ring.head? = ring.getLast?)

include closed in
theorem parity_adjusted (q p : ℝ × ℝ) :
    parity (fun edge => rayHits p edge != (passes q p edge.1 != passes q p edge.2)) (steps ring) = odd ring p := by
  rw [parity_xor, parity_closed (passes q p) ring closed, Bool.bne_false, odd]

theorem boundary_closed : IsClosed {p | OnBoundary ring p} := by
  have union : {p | OnBoundary ring p} = ⋃ edge ∈ {edge | edge ∈ steps ring}, segment ℝ edge.1 edge.2 := by
    ext p
    simp only [OnBoundary, Set.mem_ofPred_eq, Set.mem_iUnion, exists_prop]
  rw [union]
  exact (steps ring).finite_toSet.isClosed_biUnion fun edge _ => segment_closed edge.1 edge.2

include closed in
theorem near_same (q : ℝ × ℝ) (off : ¬ OnBoundary ring q) : ∀ᶠ p in 𝓝 q, ¬ OnBoundary ring p ∧ odd ring p = odd ring q := by
  have each := eventually_items (steps ring) (𝓝 q) _ fun edge member =>
    near_off q edge fun on => off ⟨edge, member, on⟩
  filter_upwards [each] with p all
  constructor
  · rintro ⟨edge, member, on⟩
    exact (all edge member).1 on
  · rw [← parity_adjusted ring closed q p]
    apply parity_congr
    intro edge member
    rw [(all edge member).2]
    cases rayHits q edge <;> cases passes q p edge.1 <;> cases passes q p edge.2 <;> rfl

include closed in
theorem interior_open : IsOpen (interiorOf ring) := by
  rw [isOpen_iff_eventually]
  rintro q ⟨off, inside⟩
  filter_upwards [near_same ring closed q off] with p near
  exact ⟨near.1, near.2.trans inside⟩

include closed in
-- Next to a point on just one edge, the two sides of the edge are inside and outside.
theorem near_edge (front back : List ((ℝ × ℝ) × (ℝ × ℝ))) (edge : (ℝ × ℝ) × (ℝ × ℝ))
    (split : steps ring = front ++ edge :: back)
    (apart : edge.1 ≠ edge.2) (q : ℝ × ℝ) (within : Within q edge.1 edge.2)
    (alone : ∀ other ∈ front ++ back, q ∉ segment ℝ other.1 other.2) :
    ∃ flip, ∀ᶠ p in 𝓝 q, orient edge.1 edge.2 p ≠ 0 →
      ¬ OnBoundary ring p ∧ odd ring p = (decide (0 < orient edge.1 edge.2 p) != flip) := by
  obtain ⟨flip, through⟩ := near_through q edge apart within
  have each := eventually_items (front ++ back) (𝓝 q) _ fun other member => near_off q other (alone other member)
  refine ⟨flip != parity (rayHits q) (front ++ back), ?_⟩
  filter_upwards [through, each] with p known all off
  constructor
  · rintro ⟨other, member, on⟩
    rw [split] at member
    rcases List.mem_append.mp member with before | after
    · exact (all other (List.mem_append_left _ before)).1 on
    · rcases List.mem_cons.mp after with here | later
      · rw [here] at on
        exact off (orient_on_segment _ _ p on)
      · exact (all other (List.mem_append_right _ later)).1 on
  · have same : ∀ other ∈ front ++ back,
        (rayHits p other != (passes q p other.1 != passes q p other.2)) = rayHits q other := by
      intro other member
      rw [(all other member).2]
      cases rayHits q other <;> cases passes q p other.1 <;> cases passes q p other.2 <;> rfl
    have before := parity_congr _ (rayHits q) front fun other member => same other (List.mem_append_left _ member)
    have after := parity_congr _ (rayHits q) back fun other member => same other (List.mem_append_right _ member)
    rw [← parity_adjusted ring closed q p, split, parity_append, parity, known off, before, after, parity_append]
    cases parity (rayHits q) front <;> cases parity (rayHits q) back <;> cases flip <;>
      cases decide (0 < orient edge.1 edge.2 p) <;> rfl

include closed in
theorem path_same (p z : ℝ × ℝ) (avoids : ∀ w ∈ segment ℝ p z, ¬ OnBoundary ring w) : odd ring p = odd ring z := by
  have connected : IsPreconnected (segment ℝ p z) := (convex_segment p z).isPreconnected
  refine connected.constant ?_ (left_mem_segment ℝ p z) (right_mem_segment ℝ p z)
  intro w member
  have constant : (fun _ : ℝ × ℝ => odd ring w) =ᶠ[𝓝 w] odd ring := by
    filter_upwards [near_same ring closed w (avoids w member)] with v near
    exact near.2.symm
  exact (continuousAt_const.congr constant).continuousWithinAt

end Rings

section Edges

variable (ring : List (ℝ × ℝ)) (simple : Simple ring)

include simple

theorem first_listed : ∃ first more, ring = first :: (more ++ [first]) ∧ (first :: more).Nodup ∧ more ≠ [] := by
  have long := simple.long
  have closed := simple.closed
  have distinct := simple.distinct
  cases ring with
  | nil => simp at long
  | cons first rest =>
      rcases List.eq_nil_or_concat rest with empty | ⟨more, last, whole⟩
      · rw [empty] at long
        simp at long
      · rw [List.concat_eq_append] at whole
        rw [whole] at long closed distinct ⊢
        rw [List.head?_cons, ← List.cons_append, List.getLast?_append] at closed
        rw [← List.cons_append, List.dropLast_concat] at distinct
        have same : first = last := by simpa using closed
        refine ⟨first, more, by rw [same], distinct, ?_⟩
        rintro rfl
        simp at long

theorem edge_apart (edge : (ℝ × ℝ) × (ℝ × ℝ)) (member : edge ∈ steps ring) : edge.1 ≠ edge.2 := by
  obtain ⟨first, more, whole, distinct, some⟩ := first_listed ring simple
  rw [whole, steps, List.tail_cons] at member
  obtain ⟨i, inside, here⟩ := List.getElem_of_mem member
  rw [List.getElem_zip] at here
  rw [List.length_zip, List.length_cons, List.length_append, List.length_singleton] at inside
  rw [← here]
  simp only [← List.cons_append]
  have room : i < (first :: more).length := by
    rw [List.length_cons]
    omega
  rw [List.getElem_append_left room]
  by_cases last : i < more.length
  · rw [List.getElem_append_left last]
    have next := List.getElem_cons_succ first more i (by rw [List.length_cons]; omega)
    rw [← next]
    intro same
    have equal := (List.Nodup.getElem_inj_iff distinct).mp same
    omega
  · have final : more.length ≤ i := not_lt.mp last
    rw [List.getElem_append_right final]
    simp only [List.getElem_singleton]
    intro same
    have start : (first :: more)[0] = first := List.getElem_cons_zero first more _
    rw [← start] at same
    have equal := (List.Nodup.getElem_inj_iff distinct).mp same
    have positive := List.length_pos_iff.mpr some
    omega

theorem vertex_edge (v : ℝ × ℝ) (member : v ∈ ring.dropLast) : ∃ edge ∈ steps ring, edge.1 = v := by
  obtain ⟨i, inside, here⟩ := List.getElem_of_mem member
  rw [List.length_dropLast] at inside
  have first : i < ring.length := by omega
  have second : i < ring.tail.length := by
    rw [List.length_tail]
    omega
  refine ⟨(ring[i], ring.tail[i]), ?_, ?_⟩
  · have room : i < (ring.zip ring.tail).length := by
      rw [List.length_zip]
      omega
    have listed : (ring.zip ring.tail)[i] = (ring[i], ring.tail[i]) := List.getElem_zip
    rw [steps, ← listed]
    exact List.getElem_mem room
  · rw [← here, List.getElem_dropLast]

theorem edge_vertex (edge : (ℝ × ℝ) × (ℝ × ℝ)) (member : edge ∈ steps ring) : edge.1 ∈ ring.dropLast := by
  rw [steps] at member
  obtain ⟨i, inside, here⟩ := List.getElem_of_mem member
  rw [List.length_zip, List.length_tail] at inside
  have room : i < ring.dropLast.length := by
    rw [List.length_dropLast]
    omega
  rw [← here, List.getElem_zip, ← List.getElem_dropLast room]
  exact List.getElem_mem room

-- A point strictly inside one edge is on no other.
theorem within_alone (front back : List ((ℝ × ℝ) × (ℝ × ℝ))) (edge : (ℝ × ℝ) × (ℝ × ℝ))
    (split : steps ring = front ++ edge :: back)
    (q : ℝ × ℝ) (within : Within q edge.1 edge.2) (other : (ℝ × ℝ) × (ℝ × ℝ)) (member : other ∈ front ++ back) :
    q ∉ segment ℝ other.1 other.2 := by
  intro on
  have inRing : edge ∈ steps ring := by
    rw [split]
    exact List.mem_append_right _ List.mem_cons_self
  have ends : ¬ (q = edge.1 ∨ q = edge.2) := within_ends q edge.1 edge.2 (edge_apart ring simple edge inRing) within
  have own := within_segment q edge.1 edge.2 within
  have apart := simple.apart
  rw [split, List.pairwise_append, List.pairwise_cons] at apart
  rcases List.mem_append.mp member with before | after
  · exact ends (apart.2.2 other before edge List.mem_cons_self q on own).2
  · exact ends (apart.2.1.1 other after q own on).1

theorem near_simple_edge (edge : (ℝ × ℝ) × (ℝ × ℝ)) (member : edge ∈ steps ring) (q : ℝ × ℝ) (within : Within q edge.1 edge.2) :
    ∃ flip, ∀ᶠ p in 𝓝 q, orient edge.1 edge.2 p ≠ 0 →
      ¬ OnBoundary ring p ∧ odd ring p = (decide (0 < orient edge.1 edge.2 p) != flip) := by
  obtain ⟨front, back, split⟩ := List.append_of_mem member
  exact near_edge ring simple.closed front back edge split (edge_apart ring simple edge member) q within
    (within_alone ring simple front back edge split q within)

end Edges

section Overlap

variable (a b : List (ℝ × ℝ))

def Meet : Prop := (interiorOf a ∩ interiorOf b).Nonempty

def EdgesCross : Prop := ∃ e ∈ steps a, ∃ f ∈ steps b, Crosses e f

def VertexInside : Prop := ∃ v ∈ a.dropLast, v ∈ interiorOf b

-- No vertex of one ring lies on the other.
def GeneralPosition : Prop := (∀ v ∈ a.dropLast, ¬ OnBoundary b v) ∧ ∀ v ∈ b.dropLast, ¬ OnBoundary a v

def sideOf (flip : Bool) : ℝ := if flip then -1 else 1

theorem side_inside (flip : Bool) (x s : ℝ) (positive : 0 < s) (same : x = s * sideOf flip) :
    x ≠ 0 ∧ (decide (0 < x) != flip) = true := by
  cases flip with
  | true =>
      have negative : x < 0 := by
        rw [same, sideOf]
        simpa using positive
      simp [negative.ne, negative.le]
  | false =>
      have above : 0 < x := by
        rw [same, sideOf]
        simpa using positive
      simp [above.ne', above]

variable (simpleA : Simple a) (simpleB : Simple b)

include simpleA simpleB in
theorem crossing_meets (cross : EdgesCross a b) : Meet a b := by
  obtain ⟨e, inA, f, inB, crosses⟩ := cross
  obtain ⟨q, withinE, withinF⟩ := crossing_point e f crosses
  obtain ⟨flipA, nearA⟩ := near_simple_edge a simpleA e inA q withinE
  obtain ⟨flipB, nearB⟩ := near_simple_edge b simpleB f inB q withinF
  have apart := (opposite_part _ _ crosses.1).1
  -- The direction that leaves q on the inner side of both edges.
  generalize turn : orient e.1 e.2 f.1 - orient e.1 e.2 f.2 = d at apart
  obtain ⟨s, positive, _, insideA, insideB⟩ := toward q
    (-(sideOf flipB / d) * (e.1.1 - e.2.1) + sideOf flipA / d * (f.1.1 - f.2.1),
      -(sideOf flipB / d) * (e.1.2 - e.2.2) + sideOf flipA / d * (f.1.2 - f.2.2)) _ (nearA.and nearB)
  obtain ⟨t, _, _, firstE, secondE⟩ := withinE
  obtain ⟨r, _, _, firstF, secondF⟩ := withinF
  have sideE : orient e.1 e.2 (q.1 + s * (-(sideOf flipB / d) * (e.1.1 - e.2.1) + sideOf flipA / d * (f.1.1 - f.2.1)),
      q.2 + s * (-(sideOf flipB / d) * (e.1.2 - e.2.2) + sideOf flipA / d * (f.1.2 - f.2.2))) = s * sideOf flipA := by
    have shape : orient e.1 e.2 (q.1 + s * (-(sideOf flipB / d) * (e.1.1 - e.2.1) + sideOf flipA / d * (f.1.1 - f.2.1)),
        q.2 + s * (-(sideOf flipB / d) * (e.1.2 - e.2.2) + sideOf flipA / d * (f.1.2 - f.2.2))) =
        s * (sideOf flipA / d) * (orient e.1 e.2 f.1 - orient e.1 e.2 f.2) := by
      simp only [orient, firstE, secondE]
      ring
    rw [shape, turn, mul_assoc, div_mul_cancel₀ _ apart]
  have sideF : orient f.1 f.2 (q.1 + s * (-(sideOf flipB / d) * (e.1.1 - e.2.1) + sideOf flipA / d * (f.1.1 - f.2.1)),
      q.2 + s * (-(sideOf flipB / d) * (e.1.2 - e.2.2) + sideOf flipA / d * (f.1.2 - f.2.2))) = s * sideOf flipB := by
    have shape : orient f.1 f.2 (q.1 + s * (-(sideOf flipB / d) * (e.1.1 - e.2.1) + sideOf flipA / d * (f.1.1 - f.2.1)),
        q.2 + s * (-(sideOf flipB / d) * (e.1.2 - e.2.2) + sideOf flipA / d * (f.1.2 - f.2.2))) =
        s * (sideOf flipB / d) * (orient e.1 e.2 f.1 - orient e.1 e.2 f.2) := by
      simp only [orient, firstF, secondF]
      ring
    rw [shape, turn, mul_assoc, div_mul_cancel₀ _ apart]
  obtain ⟨offE, innerE⟩ := side_inside flipA _ s positive sideE
  obtain ⟨offF, innerF⟩ := side_inside flipB _ s positive sideF
  exact ⟨_, ⟨(insideA offE).1, (insideA offE).2.trans innerE⟩, (insideB offF).1, (insideB offF).2.trans innerF⟩

include simpleA simpleB in
theorem vertex_meets (vertex : VertexInside a b) : Meet a b := by
  obtain ⟨v, member, inside⟩ := vertex
  obtain ⟨edge, inA, start⟩ := vertex_edge a simpleA v member
  have isOpen := interior_open b simpleB.closed
  obtain ⟨t, low, high, innerQ⟩ := toward v (edge.2.1 - v.1, edge.2.2 - v.2) _ (isOpen.eventually_mem inside)
  generalize place : ((v.1 + t * (edge.2.1 - v.1), v.2 + t * (edge.2.2 - v.2)) : ℝ × ℝ) = q at innerQ
  have within : Within q edge.1 edge.2 := by
    rw [start, ← place]
    exact ⟨t, low, high, rfl, rfl⟩
  obtain ⟨flip, near⟩ := near_simple_edge a simpleA edge inA q within
  obtain ⟨s, positive, _, insideA, insideB⟩ := toward q
    (-(edge.2.2 - edge.1.2) * sideOf flip, (edge.2.1 - edge.1.1) * sideOf flip) _ (near.and (isOpen.eventually_mem innerQ))
  have square : 0 < (edge.2.1 - edge.1.1) ^ 2 + (edge.2.2 - edge.1.2) ^ 2 := by
    have apart := edge_apart a simpleA edge inA
    refine lt_of_le_of_ne (add_nonneg (sq_nonneg _) (sq_nonneg _)) fun zero => apart ?_
    have first : (edge.2.1 - edge.1.1) ^ 2 = 0 := by linarith [sq_nonneg (edge.2.1 - edge.1.1), sq_nonneg (edge.2.2 - edge.1.2)]
    have second : (edge.2.2 - edge.1.2) ^ 2 = 0 := by linarith [sq_nonneg (edge.2.1 - edge.1.1), sq_nonneg (edge.2.2 - edge.1.2)]
    apply Prod.ext
    · linarith [pow_eq_zero_iff (two_ne_zero) |>.mp first]
    · linarith [pow_eq_zero_iff (two_ne_zero) |>.mp second]
  have side : orient edge.1 edge.2 (q.1 + s * (-(edge.2.2 - edge.1.2) * sideOf flip), q.2 + s * ((edge.2.1 - edge.1.1) * sideOf flip)) =
      (s * ((edge.2.1 - edge.1.1) ^ 2 + (edge.2.2 - edge.1.2) ^ 2)) * sideOf flip := by
    obtain ⟨r, _, _, first, second⟩ := within
    simp only [orient, first, second]
    ring
  obtain ⟨off, inner⟩ := side_inside flip _ _ (mul_pos positive square) side
  exact ⟨_, ⟨(insideA off).1, (insideA off).2.trans inner⟩, insideB⟩

theorem outside_east : ∃ east : ℝ, ∀ p : ℝ × ℝ, east ≤ p.1 → odd a p = false := by
  obtain ⟨east, above⟩ := ((a.map fun v => v.1).finite_toSet).bddAbove
  refine ⟨east, fun p far => ?_⟩
  apply parity_none
  intro edge member
  obtain ⟨first, second⟩ := steps_mem a edge member
  apply far_misses
  · exact (above (List.mem_map_of_mem first)).trans far
  · exact (above (List.mem_map_of_mem second)).trans far

include simpleA in
theorem vertex_free (free : ∀ v ∈ a.dropLast, ¬ OnBoundary b v) (edge : (ℝ × ℝ) × (ℝ × ℝ)) (member : edge ∈ steps a) :
    ¬ OnBoundary b edge.1 ∧ ¬ OnBoundary b edge.2 := by
  refine ⟨free edge.1 (edge_vertex a simpleA edge member), ?_⟩
  obtain ⟨first, more, whole, _, _⟩ := first_listed a simpleA
  have second := (steps_mem a edge member).2
  have inFront : edge.2 ∈ first :: more := by
    rw [whole] at second
    rcases List.mem_cons.mp second with here | later
    · exact here ▸ List.mem_cons_self
    · rcases List.mem_append.mp later with inner | last
      · exact List.mem_cons_of_mem _ inner
      · rw [List.mem_singleton.mp last]
        exact List.mem_cons_self
  apply free
  rw [whole, ← List.cons_append, List.dropLast_concat]
  exact inFront

include simpleA simpleB in
theorem boundaries_apart (general : GeneralPosition a b) (uncrossed : ¬ EdgesCross a b) (p : ℝ × ℝ) (onA : OnBoundary a p) :
    ¬ OnBoundary b p := by
  rintro ⟨f, inB, onF⟩
  obtain ⟨e, inA, onE⟩ := onA
  have freeE := vertex_free a b simpleA general.1 e inA
  have freeF := vertex_free b a simpleB general.2 f inB
  refine uncrossed ⟨e, inA, f, inB, ?_⟩
  apply shared_crosses e f (edge_apart a simpleA e inA) p onE onF
  · exact ⟨fun on => freeE.1 ⟨f, inB, on⟩, fun on => freeE.2 ⟨f, inB, on⟩⟩
  · exact ⟨fun on => freeF.1 ⟨e, inA, on⟩, fun on => freeF.2 ⟨e, inA, on⟩⟩

include simpleA simpleB in
-- From a boundary point of one ring inside the other, an edge leads to a vertex inside the other.
theorem vertex_reached (apart : ∀ p, OnBoundary a p → ¬ OnBoundary b p) (p : ℝ × ℝ) (onA : OnBoundary a p) (inside : odd b p = true) :
    VertexInside a b := by
  obtain ⟨edge, inA, on⟩ := onA
  have onEdge : ∀ w ∈ segment ℝ p edge.1, ¬ OnBoundary b w := by
    intro w between
    apply apart
    exact ⟨edge, inA, (convex_segment edge.1 edge.2).segment_subset on (left_mem_segment ℝ edge.1 edge.2) between⟩
  have same := path_same b simpleB.closed p edge.1 onEdge
  refine ⟨edge.1, edge_vertex a simpleA edge inA, ?_, same.symm.trans inside⟩
  exact onEdge edge.1 (right_mem_segment ℝ p edge.1)

include simpleA simpleB in
theorem general_meets (general : GeneralPosition a b) (meet : Meet a b) :
    EdgesCross a b ∨ VertexInside a b ∨ VertexInside b a := by
  by_cases cross : EdgesCross a b
  · exact Or.inl cross
  right
  have apart := boundaries_apart a b simpleA simpleB general cross
  obtain ⟨p, ⟨offA, inA⟩, offB, inB⟩ := meet
  obtain ⟨east, outside⟩ := outside_east a
  have target : IsClosed ({w | OnBoundary a w} ∪ {w | OnBoundary b w}) := (boundary_closed a).union (boundary_closed b)
  have met : ∃ w ∈ segment ℝ p (max p.1 east, p.2), w ∈ {w | OnBoundary a w} ∪ {w | OnBoundary b w} := by
    by_contra none
    have avoids : ∀ w ∈ segment ℝ p (max p.1 east, p.2), ¬ OnBoundary a w := fun w on hits => none ⟨w, on, Or.inl hits⟩
    have same := path_same a simpleA.closed p _ avoids
    rw [inA, outside _ (le_max_right _ _)] at same
    cases same
  obtain ⟨w, _, hits, first⟩ := first_met p (max p.1 east, p.2) _ target met
  rcases hits with onA | onB
  · left
    apply vertex_reached a b simpleA simpleB apart w onA
    rw [← inB]
    refine (path_same b simpleB.closed p w fun v between onB => ?_).symm
    have same := first v between (Or.inr onB)
    rw [same] at onB
    exact apart w onA onB
  · right
    have apartBack : ∀ p, OnBoundary b p → ¬ OnBoundary a p := fun p onB onA => apart p onA onB
    apply vertex_reached b a simpleB simpleA apartBack w onB
    rw [← inA]
    refine (path_same a simpleA.closed p w fun v between onA => ?_).symm
    have same := first v between (Or.inl onA)
    rw [same] at onA
    exact apart w onA onB

end Overlap

end SasCore.Polygon
