import SasCore.Lib.Collect
import SasCore.Lib.Greedy
import SasCore.Dpa.Aggregate
import SasCore.Dpa.MinimalMovelist
import SasCore.Cpas.Stages

set_option autoImplicit false
set_option linter.unusedSectionVars false

namespace SasCore.Cpas

open Registry

variable {K : Type} [Field K] [LinearOrder K]

-- A transmitter with what arrives from it at the protection point.
structure Interferer (K : Type) where
  grant : Dpa.DpaGrantRf K
  hit : Dpa.PointInterference K
deriving DecidableEq

def Interferer.arrives (interferer : Interferer K) : K := interferer.hit.interferenceMw

section Channel

variable (backends : Dpa.DpaBackends K) (channel : Dpa.ProtectedDpaChannel K) (point : K × K)

-- The protection point exists and no path loss toward it raises.
structure RfAvailable (grants : List (Dpa.DpaGrantRf K)) : Prop where
  centre : channel.geometry.bind Dpa.polygonRepresentativePoint = some point
  losses : ∀ g ∈ grants, Dpa.overlapsChannel g.lowHz g.highHz channel = true →
    backends.pathLoss g point.1 point.2 channel.refHeightM ≠ none

def hitAt (grant : Dpa.DpaGrantRf K) : Option (Dpa.PointInterference K) :=
  (Dpa.interferenceDbmAtPoint backends grant point.1 point.2 channel.refHeightM channel.lowHz channel.highHz).join

def interferers (grants : List (Dpa.DpaGrantRf K)) : List (Interferer K) :=
  grants.filterMap fun g => (hitAt backends channel point g).map (Interferer.mk g)

-- Whether the aggregate of some transmitters keeps to the threshold plus the margin.
def within (items : List (Interferer K)) : Bool :=
  (Dpa.aggregateWithinThreshold backends (items.map (·.hit)) channel.thresholdDbmPer10mhz Dpa.defaultDpaMarginDb).2

def neighborhood (grants : List (Dpa.DpaGrantRf K)) : List (Dpa.DpaGrantRf K) :=
  Dpa.filterGrantsInNeighborhood backends channel grants

def leftLocals (movelist : List String) (locals : List (Dpa.DpaGrantRf K)) : List (Dpa.DpaGrantRf K) :=
  (neighborhood backends channel locals).filter fun g => !movelist.contains g.grantId

-- The locals left off a movelist keep to the threshold together with the peers, or none of them contributes.
def MovelistProtects (movelist : List String) (locals peers : List (Dpa.DpaGrantRf K)) : Prop :=
  (Dpa.evaluateProtectedChannel backends channel (leftLocals backends channel movelist locals ++
    neighborhood backends channel peers) Dpa.defaultDpaMarginDb).ok = true ∨
  ∀ g ∈ leftLocals backends channel movelist locals, hitAt backends channel point g = none

-- The peers fit together with the locals that are weaker than some peer, or no local fits together
-- with just the peers that are not stronger than it.
def MovableEnough (locals peers : List (Dpa.DpaGrantRf K)) : Prop :=
  let own := interferers backends channel point (neighborhood backends channel locals)
  let foreign := interferers backends channel point (neighborhood backends channel peers)
  within backends channel (Greedy.shadowed Interferer.arrives own foreign) = true ∨
    ∀ i ∈ own, within backends channel (i :: Greedy.notAbove Interferer.arrives foreign i) = false

end Channel

def storedMovelist (db : Database K) (row : Activation) : List String :=
  ((db.activations.find? (sameActivation row.dpaId row.lowHz row.highHz)).map (·.movelist)).getD []

-- Local grant ids are a unique column, and a peer's grant ids are put in a namespace of their own.
structure DistinctIds (locals peers : List (Dpa.DpaGrantRf K)) : Prop where
  unique : (locals.map (·.grantId)).Nodup
  apart : ∀ l ∈ locals, ∀ p ∈ peers, l.grantId ≠ p.grantId

-- The logarithm of the backends grows.
def Log10Grows (backends : Dpa.DpaBackends K) : Prop := ∀ x y, 0 < x → x ≤ y → backends.log10 x ≤ backends.log10 y

section Aggregates

variable (backends : Dpa.DpaBackends K) (channel : Dpa.ProtectedDpaChannel K) (point : K × K)

def cost (item : Interferer K) : K := max 0 item.arrives

def fits (totalMw : K) : Bool :=
  (if 0 < totalMw then Dpa.mwToDbm backends totalMw else .negInf).within
    (channel.thresholdDbmPer10mhz + Dpa.defaultDpaMarginDb + Dpa.comparisonSlackDb)

theorem within_accepted (items : List (Interferer K)) :
    within backends channel items = Greedy.accepted cost (fits backends channel) items := by
  have total : Headroom.load Dpa.PointInterference.countedMw (items.map (·.hit)) = Headroom.load cost items := by
    rw [Headroom.load, Headroom.load, List.map_map]
    rfl
  rw [within, Dpa.within_threshold_accepted, Greedy.accepted, total]
  rfl

theorem moved_dropped (items : List (Interferer K)) :
    Dpa.moveUntilWithin backends channel.thresholdDbmPer10mhz Dpa.defaultDpaMarginDb (items.map (·.hit)) =
      (Greedy.drops (Greedy.accepted cost (fits backends channel)) items).1.map (·.hit.grantId) := by
  have same : (within backends channel : List (Interferer K) → Bool) = Greedy.accepted cost (fits backends channel) :=
    funext (within_accepted backends channel)
  have counted : (fun rest : List (Interferer K) => Greedy.accepted Dpa.PointInterference.countedMw
      (Dpa.acceptable backends (channel.thresholdDbmPer10mhz + Dpa.defaultDpaMarginDb + Dpa.comparisonSlackDb))
        (rest.map (·.hit))) = within backends channel := by
    funext rest
    rw [within, Dpa.within_threshold_accepted]
  rw [Dpa.moved_until_dropped, Greedy.drops_map, counted, same, List.map_map]
  rfl

theorem movelist_dropped (items : List (Interferer K)) :
    Dpa.buildMovelist backends (items.map (·.hit)) channel.thresholdDbmPer10mhz Dpa.defaultDpaMarginDb =
      (Greedy.drops (Greedy.accepted cost (fits backends channel)) (Greedy.byKey Interferer.arrives items)).1.map
        (·.hit.grantId) := by
  have sorted : (Greedy.byKey Interferer.arrives items).map (·.hit) =
      (items.map (·.hit)).mergeSort fun a b => decide (b.interferenceMw ≤ a.interferenceMw) :=
    List.map_mergeSort fun _ _ _ _ => rfl
  rw [Dpa.buildMovelist, ← moved_dropped, sorted]

theorem apart_no_hit (g : Dpa.DpaGrantRf K) (apart : ¬ Dpa.overlapsChannel g.lowHz g.highHz channel = true) :
    Dpa.interferenceDbmAtPoint backends g point.1 point.2 channel.refHeightM channel.lowHz channel.highHz = some none := by
  have outside : g.lowHz ≥ channel.highHz ∨ g.highHz ≤ channel.lowHz := by
    simp only [Dpa.overlapsChannel, Bool.and_eq_true, decide_eq_true_eq, not_and] at apart
    by_cases below : g.lowHz < channel.highHz
    · exact Or.inr (not_lt.mp (apart below))
    · exact Or.inl (not_lt.mp below)
  rw [Dpa.interferenceDbmAtPoint, if_pos outside]

theorem available_hit (g : Dpa.DpaGrantRf K) (loss : Dpa.overlapsChannel g.lowHz g.highHz channel = true →
      backends.pathLoss g point.1 point.2 channel.refHeightM ≠ none) :
    Dpa.interferenceDbmAtPoint backends g point.1 point.2 channel.refHeightM channel.lowHz channel.highHz =
      some (hitAt backends channel point g) := by
  cases found : Dpa.interferenceDbmAtPoint backends g point.1 point.2 channel.refHeightM channel.lowHz channel.highHz with
  | some hit => rw [hitAt, found, Option.join_some]
  | none =>
      by_cases overlaps : Dpa.overlapsChannel g.lowHz g.highHz channel = true
      · rw [Dpa.interferenceDbmAtPoint] at found
        split at found
        · cases found
        · split at found
          · rename_i missing
            exact absurd missing (loss overlaps)
          · split at found
            · cases found
            · cases found
      · rw [apart_no_hit backends channel point g overlaps] at found
        cases found

theorem overlapping_hits (grants : List (Dpa.DpaGrantRf K)) :
    (((grants.filter fun g => Dpa.overlapsChannel g.lowHz g.highHz channel).map (hitAt backends channel point)).filterMap id) =
      (interferers backends channel point grants).map (·.hit) := by
  have hits : (interferers backends channel point grants).map (·.hit) = grants.filterMap (hitAt backends channel point) := by
    rw [interferers, List.map_filterMap]
    refine List.filterMap_congr fun g _ => ?_
    cases hitAt backends channel point g with
    | none => rfl
    | some hit => rfl
  rw [hits, List.filterMap_map, Function.id_comp, List.filterMap_filter]
  refine List.filterMap_congr fun g _ => ?_
  by_cases overlaps : Dpa.overlapsChannel g.lowHz g.highHz channel = true
  · rw [if_pos overlaps]
  · rw [if_neg overlaps, hitAt, apart_no_hit backends channel point g overlaps]
    rfl

-- With RF available the evaluation adds up what arrives from each transmitter.
theorem evaluate_available (known grants : List (Dpa.DpaGrantRf K)) (rf : RfAvailable backends channel point known)
    (inside : ∀ g ∈ grants, g ∈ known) :
    (Dpa.evaluateProtectedChannel backends channel grants Dpa.defaultDpaMarginDb).movelist =
        (Greedy.drops (Greedy.accepted cost (fits backends channel))
          (Greedy.byKey Interferer.arrives (interferers backends channel point grants))).1.map (·.hit.grantId) ∧
      (Dpa.evaluateProtectedChannel backends channel grants Dpa.defaultDpaMarginDb).ok =
        within backends channel (interferers backends channel point grants) := by
  have hits : ((grants.filter fun g => Dpa.overlapsChannel g.lowHz g.highHz channel).mapM fun g =>
        Dpa.interferenceDbmAtPoint backends g point.1 point.2 channel.refHeightM channel.lowHz channel.highHz) =
      some ((grants.filter fun g => Dpa.overlapsChannel g.lowHz g.highHz channel).map (hitAt backends channel point)) := by
    refine Collect.all_found _ _ _ fun g member => available_hit backends channel point g ?_
    exact rf.losses g (inside g (List.mem_of_mem_filter member))
  simp only [Dpa.evaluateProtectedChannel, rf.centre, hits, overlapping_hits]
  exact ⟨movelist_dropped backends channel _, rfl⟩

end Aggregates

-- The movelist a channel ends with is the one computed for it.
section Stored

theorem upsert_find (dpaId : String) (lowHz highHz : Int) (movelist : List String) (now : Int) (rows : List Activation)
    (key : Activation) :
    ((upsertActivation dpaId lowHz highHz movelist now rows).find? (sameActivation key.dpaId key.lowHz key.highHz)).map
        (·.movelist) =
      if sameActivation dpaId lowHz highHz key then some movelist
      else (rows.find? (sameActivation key.dpaId key.lowHz key.highHz)).map (·.movelist) := by
  have mirrored : ∀ (now : Int) (source : Option String), sameActivation key.dpaId key.lowHz key.highHz
      ⟨dpaId, lowHz, highHz, movelist, now, source⟩ = sameActivation dpaId lowHz highHz key := by
    intro now source
    simp only [sameActivation, eq_comm]
  induction rows with
  | nil =>
      rw [upsertActivation, List.find?_cons, mirrored]
      by_cases here : sameActivation dpaId lowHz highHz key = true
      · rw [here, if_pos rfl]
        rfl
      · rw [Bool.eq_false_of_not_eq_true here, if_neg Bool.false_ne_true]
  | cons row rest ih =>
      rw [upsertActivation]
      by_cases matched : sameActivation dpaId lowHz highHz row = true
      · rw [if_pos matched, List.find?_cons, mirrored, List.find?_cons]
        have rowSame : sameActivation key.dpaId key.lowHz key.highHz row = sameActivation dpaId lowHz highHz key := by
          simp only [sameActivation, Bool.and_eq_true, decide_eq_true_eq] at matched
          obtain ⟨⟨dpa, low⟩, high⟩ := matched
          simp only [sameActivation, dpa, low, high, eq_comm]
        rw [rowSame]
        by_cases here : sameActivation dpaId lowHz highHz key = true
        · rw [here, if_pos rfl]
          rfl
        · rw [Bool.eq_false_of_not_eq_true here, if_neg Bool.false_ne_true]
      · rw [if_neg matched, List.find?_cons, List.find?_cons]
        by_cases found : sameActivation key.dpaId key.lowHz key.highHz row = true
        · have different : ¬ sameActivation dpaId lowHz highHz key = true := by
            intro here
            apply matched
            simp only [sameActivation, Bool.and_eq_true, decide_eq_true_eq] at here found ⊢
            exact ⟨⟨found.1.1.trans here.1.1, found.1.2.trans here.1.2⟩, found.2.trans here.2⟩
          rw [found, if_neg different]
        · rw [Bool.eq_false_of_not_eq_true found]
          exact ih

variable (ctx : CpasContext K)

def writeEntry (rows : List Activation) (entry : Activation × List String) : List Activation :=
  upsertActivation entry.1.dpaId entry.1.lowHz entry.1.highHz entry.2 (ctx.clock 0) rows

theorem written_find (key : Activation) (lists : List (Activation × List String)) (movelist : List String)
    (agree : ∀ entry ∈ lists, sameActivation entry.1.dpaId entry.1.lowHz entry.1.highHz key = true → entry.2 = movelist)
    (rows : List Activation)
    (present : ((rows.find? (sameActivation key.dpaId key.lowHz key.highHz)).map (·.movelist)) = some movelist ∨
      ∃ entry ∈ lists, sameActivation entry.1.dpaId entry.1.lowHz entry.1.highHz key = true) :
    ((lists.foldl (writeEntry ctx) rows).find? (sameActivation key.dpaId key.lowHz key.highHz)).map (·.movelist) =
      some movelist := by
  induction lists generalizing rows with
  | nil =>
      rcases present with stored | ⟨entry, member, _⟩
      · exact stored
      · cases member
  | cons entry rest ih =>
      refine ih (fun other member => agree other (List.mem_cons_of_mem entry member)) (writeEntry ctx rows entry) ?_
      by_cases here : sameActivation entry.1.dpaId entry.1.lowHz entry.1.highHz key = true
      · left
        rw [writeEntry, upsert_find, if_pos here, agree entry List.mem_cons_self here]
      · rcases present with stored | ⟨other, member, same⟩
        · left
          rw [writeEntry, upsert_find, if_neg here]
          exact stored
        · rcases List.mem_cons.mp member with isHead | later
          · rw [isHead] at same
            exact absurd same here
          · exact Or.inr ⟨other, later, same⟩

theorem activation_channel_key (db : Database K) (first second : Activation)
    (same : sameActivation first.dpaId first.lowHz first.highHz second = true) :
    activationChannel db first = activationChannel db second := by
  simp only [sameActivation, Bool.and_eq_true, decide_eq_true_eq] at same
  obtain ⟨⟨dpa, low⟩, high⟩ := same
  rw [activationChannel, activationChannel, dpa, low, high]

theorem stored_movelist (db : Database K) (grants : List (Dpa.DpaGrantRf K)) (row : Activation)
    (active : row ∈ db.activations) (channel : Dpa.ProtectedDpaChannel K) (found : activationChannel db row = some channel) :
    storedMovelist (writeMovelists ctx (refreshedMovelists ctx db grants) db) row = localMovelist ctx channel grants := by
  have written := written_find ctx row (refreshedMovelists ctx db grants) (localMovelist ctx channel grants) ?_
    db.activations (Or.inr ?_)
  · rw [storedMovelist]
    change (((refreshedMovelists ctx db grants).foldl (writeEntry ctx) db.activations).find? _ |>.map (·.movelist)).getD [] = _
    rw [written, Option.getD_some]
  · intro entry member same
    obtain ⟨other, _, isEntry⟩ := List.mem_filterMap.mp member
    obtain ⟨otherChannel, otherFound, pair⟩ := Option.map_eq_some_iff.mp isEntry
    rw [← pair] at same ⊢
    rw [activation_channel_key db other row same, found] at otherFound
    rw [Option.some.inj otherFound]
  · refine ⟨(row, localMovelist ctx channel grants), List.mem_filterMap.mpr ⟨row, active, by rw [found]; rfl⟩, ?_⟩
    simp only [sameActivation, decide_true, Bool.and_self]

end Stored

section Populations

variable (backends : Dpa.DpaBackends K) (channel : Dpa.ProtectedDpaChannel K) (point : K × K)

def isPeer (item : Interferer K) : Bool := !item.grant.isManagingSas

theorem interferer_of (grants : List (Dpa.DpaGrantRf K)) (item : Interferer K)
    (member : item ∈ interferers backends channel point grants) :
    item.grant ∈ grants ∧ item.hit.grantId = item.grant.grantId := by
  obtain ⟨g, gMember, found⟩ := List.mem_filterMap.mp member
  obtain ⟨hit, hitFound, same⟩ := Option.map_eq_some_iff.mp found
  rw [← same]
  refine ⟨gMember, ?_⟩
  rw [hitAt, Option.join_eq_some_iff, Dpa.interferenceDbmAtPoint] at hitFound
  split at hitFound
  · cases hitFound
  · split at hitFound
    · cases hitFound
    · split at hitFound
      · cases hitFound
      · rw [← Option.some.inj (Option.some.inj hitFound)]

theorem interferer_ids (grants : List (Dpa.DpaGrantRf K)) :
    ((interferers backends channel point grants).map (·.grant.grantId)).Sublist (grants.map (·.grantId)) := by
  refine Collect.keys_sublist _ Dpa.DpaGrantRf.grantId (fun i : Interferer K => i.grant.grantId) ?_ grants
  intro g i found
  obtain ⟨hit, _, same⟩ := Option.map_eq_some_iff.mp found
  rw [← same]

variable [IsStrictOrderedRing K]

theorem fits_antitone (grows : Log10Grows backends) (low high : K) (le : low ≤ high)
    (fine : fits backends channel high = true) : fits backends channel low = true := by
  rw [fits] at fine ⊢
  by_cases positive : 0 < low
  · have highPositive := positive.trans_le le
    rw [if_pos highPositive, Dpa.mwToDbm, if_neg (not_le.mpr highPositive), Dpa.AggregateDbm.within,
      decide_eq_true_eq] at fine
    rw [if_pos positive, Dpa.mwToDbm, if_neg (not_le.mpr positive), Dpa.AggregateDbm.within, decide_eq_true_eq]
    have bel : (0 : K) ≤ Dpa.decibelsPerBel := Nat.cast_nonneg _
    exact (mul_le_mul_of_nonneg_left (grows low high positive le) bel).trans fine
  · rw [if_neg positive]
    rfl

variable (locals peers : List (Dpa.DpaGrantRf K))

theorem kinds_of (grows : Log10Grows backends) (managed : ∀ g ∈ locals, g.isManagingSas = true)
    (foreign : ∀ g ∈ peers, g.isManagingSas = false) :
    Greedy.Kinds Interferer.arrives cost (fits backends channel) isPeer (interferers backends channel point locals)
      (interferers backends channel point peers) where
  movables := fun item member => by
    rw [isPeer, managed _ (interferer_of backends channel point locals item member).1]
    rfl
  fixeds := fun item member => by
    rw [isPeer, foreign _ (interferer_of backends channel point peers item member).1]
    rfl
  nonneg := fun item => le_max_left _ _
  grows := fun _ _ le => max_le_max (le_refl _) le
  antitone := fits_antitone backends channel grows

end Populations

section Protection

variable (ctx : CpasContext K) (channel : Dpa.ProtectedDpaChannel K) (point : K × K)
variable (locals peers : List (Dpa.DpaGrantRf K))

def ownHits : List (Interferer K) :=
  interferers ctx.backends channel point (neighborhood ctx.backends channel locals)

def peerHits : List (Interferer K) :=
  interferers ctx.backends channel point (neighborhood ctx.backends channel peers)

def movedHits : List (Interferer K) :=
  (Greedy.drops (Greedy.accepted cost (fits ctx.backends channel))
    (Greedy.byKey Interferer.arrives (ownHits ctx channel point locals ++ peerHits ctx channel point peers))).1

-- The interferers among the locals that a movelist leaves.
def leftHits (movelist : List String) : List (Interferer K) :=
  (ownHits ctx channel point locals).filter fun i => !movelist.contains i.grant.grantId

theorem left_hits_eq (movelist : List String) :
    interferers ctx.backends channel point (leftLocals ctx.backends channel movelist locals) =
      leftHits ctx channel point locals movelist := by
  rw [leftLocals, leftHits, ownHits, interferers, interferers, List.filterMap_filter, List.filter_filterMap]
  refine List.filterMap_congr fun g _ => ?_
  cases hitAt ctx.backends channel point g with
  | none => simp only [Option.map_none, ite_self, Option.filter_none]
  | some hit =>
      rw [Option.map_some, Option.filter_some]

theorem hits_nil_iff (grants : List (Dpa.DpaGrantRf K)) :
    interferers ctx.backends channel point grants = [] ↔ ∀ g ∈ grants, hitAt ctx.backends channel point g = none := by
  rw [interferers, List.filterMap_eq_nil_iff]
  refine forall_congr' fun g => forall_congr' fun _ => ?_
  rw [Option.map_eq_none_iff]

theorem protects_respected (movelist : List String)
    (rf : RfAvailable ctx.backends channel point (neighborhood ctx.backends channel (locals ++ peers))) :
    MovelistProtects ctx.backends channel point movelist locals peers ↔
      Greedy.Respected cost (fits ctx.backends channel) (peerHits ctx channel point peers)
        (leftHits ctx channel point locals movelist) := by
  have inside : ∀ g ∈ leftLocals ctx.backends channel movelist locals ++ neighborhood ctx.backends channel peers,
      g ∈ neighborhood ctx.backends channel (locals ++ peers) := by
    intro g member
    rw [neighborhood, Dpa.filterGrantsInNeighborhood, List.filter_append]
    rcases List.mem_append.mp member with own | foreign
    · exact List.mem_append_left _ (List.mem_of_mem_filter own)
    · exact List.mem_append_right _ foreign
  have aggregate := (evaluate_available ctx.backends channel point _ _ rf inside).2
  have together : interferers ctx.backends channel point (leftLocals ctx.backends channel movelist locals ++
      neighborhood ctx.backends channel peers) = leftHits ctx channel point locals movelist ++ peerHits ctx channel point peers := by
    rw [interferers, List.filterMap_append, ← interferers, left_hits_eq]
    rfl
  rw [MovelistProtects, aggregate, together, within_accepted, ← hits_nil_iff, left_hits_eq]
  exact or_comm

theorem moved_of_movelist (rf : RfAvailable ctx.backends channel point (neighborhood ctx.backends channel (locals ++ peers)))
    (managed : ∀ g ∈ locals, g.isManagingSas = true) :
    leftHits ctx channel point locals (localMovelist ctx channel (locals ++ peers)) =
      (ownHits ctx channel point locals).filter fun i =>
        !((movedHits ctx channel point locals peers).map (·.hit.grantId)).contains i.grant.grantId := by
  have list := (evaluate_available ctx.backends channel point _ _ rf fun _ member => member).1
  have halves : interferers ctx.backends channel point (neighborhood ctx.backends channel (locals ++ peers)) =
      ownHits ctx channel point locals ++ peerHits ctx channel point peers := by
    rw [neighborhood, Dpa.filterGrantsInNeighborhood, List.filter_append, interferers, List.filterMap_append]
    rfl
  rw [halves] at list
  rw [leftHits]
  refine List.filter_congr fun i member => ?_
  have inLocals := (interferer_of ctx.backends channel point _ i member).1
  have isManaging : i.grant.grantId ∈
      ((neighborhood ctx.backends channel (locals ++ peers)).filter (·.isManagingSas)).map (·.grantId) := by
    refine List.mem_map_of_mem (List.mem_filter.mpr ⟨?_, managed _ (List.mem_of_mem_filter inLocals)⟩)
    rw [neighborhood, Dpa.filterGrantsInNeighborhood, List.filter_append]
    exact List.mem_append_left _ inLocals
  congr 1
  rw [localMovelist, Bool.eq_iff_iff, List.contains_iff_mem, List.contains_iff_mem, List.mem_filter]
  rw [neighborhood] at list isManaging
  simp only [list, movedHits]
  exact ⟨fun both => both.1, fun moved => ⟨moved, List.contains_iff_mem.mpr isManaging⟩⟩

theorem moved_hit (i : Interferer K) (moved : i ∈ movedHits ctx channel point locals peers) :
    i ∈ ownHits ctx channel point locals ++ peerHits ctx channel point peers := by
  refine (Greedy.by_key_perm Interferer.arrives _).mem_iff.mp ?_
  rw [← Greedy.drops_append (Greedy.accepted cost (fits ctx.backends channel)) (Greedy.byKey _ _)]
  exact List.mem_append_left _ moved

variable [IsStrictOrderedRing K] (kinds : Greedy.Kinds Interferer.arrives cost (fits ctx.backends channel) isPeer
  (ownHits ctx channel point locals) (peerHits ctx channel point peers))

def keptHits : List (Interferer K) :=
  Greedy.keptMovable Interferer.arrives cost (fits ctx.backends channel) isPeer (ownHits ctx channel point locals)
    (peerHits ctx channel point peers)

include kinds

-- The local hits are those that were moved and those that were kept.
theorem own_split :
    ((movedHits ctx channel point locals peers).filter (fun i => !isPeer i) ++ keptHits ctx channel point locals peers).Perm
      (ownHits ctx channel point locals) := by
  have perm := (Greedy.by_key_perm Interferer.arrives
    (ownHits ctx channel point locals ++ peerHits ctx channel point peers)).filter fun i => !isPeer i
  rw [Greedy.filter_movable Interferer.arrives cost (fits ctx.backends channel) isPeer _ _ kinds,
    ← Greedy.drops_append (Greedy.accepted cost (fits ctx.backends channel)) (Greedy.byKey _ _), List.filter_append] at perm
  exact perm

-- What is neither on the movelist by id was not moved.
theorem left_perm :
    ((ownHits ctx channel point locals).filter fun i =>
      !((movedHits ctx channel point locals peers).map (·.hit.grantId)).contains i.grant.grantId).Perm
      ((keptHits ctx channel point locals peers).filter fun i =>
        !((movedHits ctx channel point locals peers).map (·.hit.grantId)).contains i.grant.grantId) := by
  have again := ((own_split ctx channel point locals peers kinds).filter fun i =>
    !((movedHits ctx channel point locals peers).map (·.hit.grantId)).contains i.grant.grantId).symm
  rw [List.filter_append] at again
  have none : ((movedHits ctx channel point locals peers).filter fun i => !isPeer i).filter (fun i =>
      !((movedHits ctx channel point locals peers).map (·.hit.grantId)).contains i.grant.grantId) = [] := by
    refine List.filter_eq_nil_iff.mpr fun i member => ?_
    have moved := List.mem_of_mem_filter member
    have sameId : i.hit.grantId = i.grant.grantId := by
      rcases List.mem_append.mp (moved_hit ctx channel point locals peers i moved) with own | foreign
      · exact (interferer_of ctx.backends channel point _ i own).2
      · exact (interferer_of ctx.backends channel point _ i foreign).2
    have listed : i.grant.grantId ∈ (movedHits ctx channel point locals peers).map (·.hit.grantId) :=
      List.mem_map.mpr ⟨i, moved, sameId⟩
    rw [List.contains_iff_mem.mpr listed]
    exact Bool.false_ne_true
  rw [none, List.nil_append] at again
  exact again

theorem kept_not_moved (distinct : DistinctIds locals peers) (i : Interferer K)
    (kept : i ∈ keptHits ctx channel point locals peers) :
    i.grant.grantId ∉ (movedHits ctx channel point locals peers).map (·.hit.grantId) := by
  have perm := own_split ctx channel point locals peers kinds
  have ids : ((ownHits ctx channel point locals).map (·.grant.grantId)).Nodup :=
    distinct.unique.sublist ((interferer_ids ctx.backends channel point _).trans (List.filter_sublist.map _))
  have split := (perm.map (·.grant.grantId)).nodup_iff.mpr ids
  rw [List.map_append] at split
  have keptOwn : i ∈ ownHits ctx channel point locals := perm.mem_iff.mp (List.mem_append_right _ kept)
  intro listed
  obtain ⟨j, moved, sameId⟩ := List.mem_map.mp listed
  rcases List.mem_append.mp (moved_hit ctx channel point locals peers j moved) with own | foreign
  · have movedId := (interferer_of ctx.backends channel point _ j own).2
    have inMoved : j ∈ (movedHits ctx channel point locals peers).filter fun i => !isPeer i :=
      List.mem_filter.mpr ⟨moved, by rw [kinds.movables j own]; rfl⟩
    refine List.disjoint_of_nodup_append split (List.mem_map_of_mem inMoved) ?_
    rw [← movedId, sameId]
    exact List.mem_map_of_mem kept
  · obtain ⟨jPeer, jId⟩ := interferer_of ctx.backends channel point _ j foreign
    have iLocal := (interferer_of ctx.backends channel point _ i keptOwn).1
    exact distinct.apart _ (List.mem_of_mem_filter iLocal) _ (List.mem_of_mem_filter jPeer) (sameId.symm.trans jId)

end Protection

-- For every database and every refresh: the stored movelist of an active channel protects it whenever there
-- is enough to move, and, ids being distinct, only then.
theorem movelist_protects_iff [IsStrictOrderedRing K] (ctx : CpasContext K) (grows : Log10Grows ctx.backends)
    (db : Database K) (locals peers : List (Dpa.DpaGrantRf K)) (managed : ∀ g ∈ locals, g.isManagingSas = true)
    (foreign : ∀ g ∈ peers, g.isManagingSas = false) (row : Activation) (active : row ∈ db.activations)
    (channel : Dpa.ProtectedDpaChannel K) (found : activationChannel db row = some channel) (point : K × K)
    (rf : RfAvailable ctx.backends channel point (neighborhood ctx.backends channel (locals ++ peers))) :
    let stored := storedMovelist (writeMovelists ctx (refreshedMovelists ctx db (locals ++ peers)) db) row
    (MovableEnough ctx.backends channel point locals peers →
      MovelistProtects ctx.backends channel point stored locals peers) ∧
    (DistinctIds locals peers → MovelistProtects ctx.backends channel point stored locals peers →
      MovableEnough ctx.backends channel point locals peers) := by
  have kinds : Greedy.Kinds Interferer.arrives cost (fits ctx.backends channel) isPeer
      (ownHits ctx channel point locals) (peerHits ctx channel point peers) :=
    kinds_of ctx.backends channel point _ _ grows (fun g member => managed g (List.mem_of_mem_filter member))
      fun g member => foreign g (List.mem_of_mem_filter member)
  have exact_when := Greedy.respected_iff Interferer.arrives cost (fits ctx.backends channel) isPeer _ _ kinds
  have left := left_perm ctx channel point locals peers kinds
  simp only [stored_movelist ctx db (locals ++ peers) row active channel found,
    protects_respected ctx channel point locals peers _ rf, moved_of_movelist ctx channel point locals peers rf managed]
  simp only [MovableEnough, within_accepted]
  constructor
  · intro enough
    have fewer := left.subperm.trans (List.filter_sublist (l := keptHits ctx channel point locals peers)).subperm
    rcases exact_when.mpr enough with none | fine
    · left
      have empty : keptHits ctx channel point locals peers = [] := none
      rw [empty] at fewer
      exact List.subperm_nil.mp fewer
    · right
      exact Greedy.accepted_subperm Interferer.arrives cost _ isPeer _ _ kinds _ _
        ((List.subperm_append_right _).mpr fewer) fine
  · intro distinct respected
    apply exact_when.mp
    have same : (keptHits ctx channel point locals peers).filter (fun i =>
        !((movedHits ctx channel point locals peers).map (·.hit.grantId)).contains i.grant.grantId) =
        keptHits ctx channel point locals peers := by
      refine List.filter_eq_self.mpr fun i kept => ?_
      have free := kept_not_moved ctx channel point locals peers kinds distinct i kept
      rw [Bool.not_eq_true', ← Bool.not_eq_true, List.contains_iff_mem]
      exact free
    rw [same] at left
    rcases respected with empty | fine
    · rw [empty] at left
      exact Or.inl left.nil_eq.symm
    · exact Or.inr (Greedy.accepted_subperm Interferer.arrives cost _ isPeer _ _ kinds _ _
        ((List.subperm_append_right _).mpr left.symm.subperm) fine)

-- math.log10 at 1/10, 1, 11/10 (as a double) and 10, and a step in between.
def movelistLog10 (x : Rat) : Rat :=
  if x < 1 / 10 then -2
  else if x < 1 then -1
  else if x < 11 / 10 then 0
  else if x < 10 then 5965314606542295 / 144115188075855872
  else 1

-- Everything is in the neighborhood and arrives with 20 dB less than it is sent with.
def movelistContext : CpasContext Rat :=
  { plainContext with
    backends := ⟨movelistLog10, fun x => if x = 0 then 1 else if x = -1 then 1 / 10 else 0, fun _ _ _ _ => true,
      fun _ _ => none, fun _ _ _ _ => some 20⟩ }

def transmitter (grantId : String) (maxEirp : Rat) (managing : Bool) : Dpa.DpaGrantRf Rat :=
  { grantId := grantId
    cbsdId := "fcc/sn"
    latitude := 0
    longitude := 0
    heightM := 3
    heightIsAgl := true
    indoor := false
    lowHz := 3550000000
    highHz := 3560000000
    maxEirpDbmMhz := maxEirp
    isManagingSas := managing }

def movelistActivation : Activation := ⟨"dpa", 3550000000, 3560000000, [], 0, none⟩

-- The threshold is -5 dBm: the peer's 0 dBm is too much, the local's -10 dBm is not.
def movelistDatabase : Database Rat :=
  { (Database.empty : Database Rat) with
    catalogue := [⟨"dpa", some (.point [0, 0]), [], -5, 50⟩]
    activations := [movelistActivation] }

def movelistChannel : Dpa.ProtectedDpaChannel Rat :=
  ⟨"dpa", 3550000000, 3560000000, .active, some (.point [0, 0]), [], -5, 50⟩

def weakLocal : List (Dpa.DpaGrantRf Rat) := [transmitter "grant/a" 0 true]
def strongPeer : List (Dpa.DpaGrantRf Rat) := [transmitter "peer/1/b" 10 false]

theorem movelist_log10_grows : Log10Grows movelistContext.backends := by
  intro x y positive le
  change movelistLog10 x ≤ movelistLog10 y
  simp only [movelistLog10]
  split_ifs <;> linarith

theorem sample_available : RfAvailable movelistContext.backends movelistChannel (0, 0)
    (neighborhood movelistContext.backends movelistChannel (weakLocal ++ strongPeer)) :=
  ⟨rfl, fun _ _ _ missing => by cases missing⟩

-- The peer is moved first, which no movelist can do, and then the local is left alone.
theorem sample_movelist :
    storedMovelist (writeMovelists movelistContext (refreshedMovelists movelistContext movelistDatabase
      (weakLocal ++ strongPeer)) movelistDatabase) movelistActivation = [] := by
  rw [stored_movelist movelistContext movelistDatabase (weakLocal ++ strongPeer) movelistActivation List.mem_cons_self
    movelistChannel rfl]
  have hits : interferers movelistContext.backends movelistChannel (0, 0)
      (neighborhood movelistContext.backends movelistChannel (weakLocal ++ strongPeer)) =
      [⟨transmitter "grant/a" 0 true, ⟨"grant/a", -10, 1 / 10, 20⟩⟩,
        ⟨transmitter "peer/1/b" 10 false, ⟨"peer/1/b", 0, 1, 20⟩⟩] := by decide +kernel
  have list := (evaluate_available movelistContext.backends movelistChannel (0, 0) _ _ sample_available
    fun _ member => member).1
  rw [hits, Greedy.by_key_pair _ _ _ (by decide +kernel)] at list
  rw [neighborhood] at list
  rw [localMovelist]
  simp only [list]
  decide +kernel

theorem strong_peer_moved :
    ¬ ∀ (db : Database Rat) (locals peers : List (Dpa.DpaGrantRf Rat)), (∀ g ∈ locals, g.isManagingSas = true) →
      (∀ g ∈ peers, g.isManagingSas = false) → DistinctIds locals peers → ∀ row ∈ db.activations,
      ∀ channel, activationChannel db row = some channel → ∀ point,
      RfAvailable movelistContext.backends channel point (neighborhood movelistContext.backends channel (locals ++ peers)) →
      MovelistProtects movelistContext.backends channel point
        (storedMovelist (writeMovelists movelistContext (refreshedMovelists movelistContext db (locals ++ peers)) db) row)
        locals peers := by
  intro claim
  have distinct : DistinctIds weakLocal strongPeer := ⟨by decide, by decide⟩
  have protects := claim movelistDatabase weakLocal strongPeer (by decide) (by decide) distinct movelistActivation
    List.mem_cons_self movelistChannel rfl (0, 0) sample_available
  rw [sample_movelist] at protects
  rcases protects with within | silent
  · exact absurd within (by decide +kernel)
  · exact absurd (silent (transmitter "grant/a" 0 true) (by decide +kernel)) (by decide +kernel)

theorem movelist_protects_iff_sample :
    (MovableEnough movelistContext.backends movelistChannel (0, 0) weakLocal strongPeer →
      MovelistProtects movelistContext.backends movelistChannel (0, 0)
        (storedMovelist (writeMovelists movelistContext (refreshedMovelists movelistContext movelistDatabase
          (weakLocal ++ strongPeer)) movelistDatabase) movelistActivation) weakLocal strongPeer) ∧
    (DistinctIds weakLocal strongPeer → MovelistProtects movelistContext.backends movelistChannel (0, 0)
        (storedMovelist (writeMovelists movelistContext (refreshedMovelists movelistContext movelistDatabase
          (weakLocal ++ strongPeer)) movelistDatabase) movelistActivation) weakLocal strongPeer →
      MovableEnough movelistContext.backends movelistChannel (0, 0) weakLocal strongPeer) :=
  movelist_protects_iff movelistContext movelist_log10_grows movelistDatabase weakLocal strongPeer (by decide) (by decide)
    movelistActivation List.mem_cons_self movelistChannel rfl (0, 0) sample_available

end SasCore.Cpas
