import Mathlib.Data.List.Basic
import Mathlib.Data.List.Infix
import Mathlib.Logic.Function.Basic
import Mathlib.Logic.Relation

set_option autoImplicit false

-- Workers that take locks section by section and give back all they hold at the end of a section.
namespace SasCore.WaitGraph

variable {T L : Type}

structure Worker (L : Type) where
  held : List L
  wanted : List L
  later : List (List L)

def Worker.next : List (List L) → Worker L
  | [] => ⟨[], [], []⟩
  | opened :: later => ⟨[], opened, later⟩

def start (sections : T → List (List L)) (worker : T) : Worker L := .next (sections worker)

-- A lock is taken when no other worker holds it; a section may end before all of its locks are taken.
inductive Step [DecidableEq T] : (T → Worker L) → (T → Worker L) → Prop
  | acquire (state : T → Worker L) (worker : T) (lock : L) (rest : List L)
      (wants : (state worker).wanted = lock :: rest)
      (free : ∀ other, other ≠ worker → lock ∉ (state other).held) :
      Step state (Function.update state worker ⟨(state worker).held ++ [lock], rest, (state worker).later⟩)
  | release (state : T → Worker L) (worker : T) :
      Step state (Function.update state worker (.next (state worker).later))

def Reachable [DecidableEq T] (sections : T → List (List L)) (state : T → Worker L) : Prop :=
  Relation.ReflTransGen Step (start sections) state

-- The wait-for graph: an edge to the holder of the lock that a worker asks for next.
def Waits (state : T → Worker L) (waiting holder : T) : Prop :=
  holder ≠ waiting ∧ ∃ lock rest, (state waiting).wanted = lock :: rest ∧ lock ∈ (state holder).held

def Deadlocked (state : T → Worker L) : Prop :=
  ∃ worker, Relation.TransGen (Waits state) worker worker

section Invariant

-- Every worker is inside one of its sections, or has none left.
structure Inside (sections : T → List (List L)) (state : T → Worker L) : Prop where
  opened : ∀ worker, (state worker).held ++ (state worker).wanted ∈ sections worker ∨
    (state worker).held ++ (state worker).wanted = []
  later : ∀ worker, ∀ locks ∈ (state worker).later, locks ∈ sections worker
  exclusive : ∀ first second lock, lock ∈ (state first).held → lock ∈ (state second).held → first = second

theorem next_held (sections : List (List L)) : (Worker.next sections).held = [] := by
  cases sections <;> rfl

theorem next_opened (sections : List (List L)) :
    (Worker.next sections).held ++ (Worker.next sections).wanted ∈ sections ∨
      (Worker.next sections).held ++ (Worker.next sections).wanted = [] := by
  cases sections <;> simp [Worker.next]

theorem next_later (sections : List (List L)) : ∀ locks ∈ (Worker.next sections).later, locks ∈ sections := by
  cases sections with
  | nil => simp [Worker.next]
  | cons opened later => exact fun locks among => List.mem_cons_of_mem opened among

theorem start_inside (sections : T → List (List L)) : Inside sections (start sections) where
  opened worker := next_opened (sections worker)
  later worker := next_later (sections worker)
  exclusive first second lock among := by simp [start, next_held] at among

variable [DecidableEq T]

theorem step_inside (sections : T → List (List L)) (state next : T → Worker L) (moved : Step state next)
    (inside : Inside sections state) : Inside sections next := by
  cases moved with
  | acquire worker lock rest wants free =>
      refine ⟨fun other => ?_, fun other => ?_, fun first second wanted among also => ?_⟩
      · by_cases same : other = worker
        · subst same
          simpa [wants] using inside.opened other
        · simpa [same] using inside.opened other
      · by_cases same : other = worker
        · subst same
          simpa using inside.later other
        · simpa [same] using inside.later other
      · by_cases one : first = worker
        · by_cases two : second = worker
          · rw [one, two]
          · subst one
            rw [Function.update_self, List.mem_append, List.mem_singleton] at among
            rw [Function.update_of_ne two] at also
            cases among with
            | inl before => exact inside.exclusive first second wanted before also
            | inr taken => exact absurd (taken ▸ also) (free second two)
        · rw [Function.update_of_ne one] at among
          by_cases two : second = worker
          · subst two
            rw [Function.update_self, List.mem_append, List.mem_singleton] at also
            cases also with
            | inl before => exact inside.exclusive first second wanted among before
            | inr taken => exact absurd (taken ▸ among) (free first one)
          · rw [Function.update_of_ne two] at also
            exact inside.exclusive first second wanted among also
  | release worker =>
      have later := inside.later worker
      refine ⟨fun other => ?_, fun other => ?_, fun first second wanted among also => ?_⟩
      · by_cases same : other = worker
        · subst same
          rw [Function.update_self]
          exact (next_opened _).imp_left (later _)
        · simpa [same] using inside.opened other
      · by_cases same : other = worker
        · subst same
          rw [Function.update_self]
          exact fun locks among => later locks (next_later _ locks among)
        · simpa [same] using inside.later other
      · by_cases one : first = worker
        · subst one
          simp [next_held] at among
        · by_cases two : second = worker
          · subst two
            simp [next_held] at also
          · rw [Function.update_of_ne one] at among
            rw [Function.update_of_ne two] at also
            exact inside.exclusive first second wanted among also

theorem reachable_inside (sections : T → List (List L)) (state : T → Worker L) (reached : Reachable sections state) :
    Inside sections state := by
  induction reached with
  | refl => exact start_inside sections
  | tail _ moved ih => exact step_inside sections _ _ moved ih

end Invariant

section Ranks

variable (rank : L → Nat) (sections : T → List (List L)) (state : T → Worker L)

theorem waits_rank (inside : Inside sections state)
    (ordered : ∀ worker, ∀ locks ∈ sections worker, locks.Pairwise (fun first second => rank first ≤ rank second))
    (worker : T) (held wanted : L) (among : held ∈ (state worker).held) (asked : wanted ∈ (state worker).wanted) :
    rank held ≤ rank wanted := by
  have sorted : ((state worker).held ++ (state worker).wanted).Pairwise (fun first second => rank first ≤ rank second) := by
    rcases inside.opened worker with taken | nothing
    · exact ordered worker _ taken
    · rw [nothing]
      exact List.Pairwise.nil
  exact (List.pairwise_append.mp sorted).2.2 held among wanted asked

-- Along the edges of the graph the locks asked for never go down in rank.
theorem rank_along (inside : Inside sections state)
    (ordered : ∀ worker, ∀ locks ∈ sections worker, locks.Pairwise (fun first second => rank first ≤ rank second))
    (waiting last : T) (path : Relation.TransGen (Waits state) waiting last) (asked final : L) (rest others : List L)
    (asks : (state waiting).wanted = asked :: rest) (asksLast : (state last).wanted = final :: others) :
    rank asked ≤ rank final := by
  induction path generalizing final others with
  | single edge =>
      obtain ⟨_, lock, more, wants, holds⟩ := edge
      cases asks.symm.trans wants
      exact waits_rank rank sections state inside ordered _ asked final holds (by simp [asksLast])
  | tail _ edge ih =>
      obtain ⟨_, lock, more, wants, holds⟩ := edge
      exact (ih lock more wants).trans
        (waits_rank rank sections state inside ordered _ lock final holds (by simp [asksLast]))

-- On a cycle every worker asks for a lock of one and the same rank, and the next worker holds it.
theorem cycle_next (inside : Inside sections state)
    (ordered : ∀ worker, ∀ locks ∈ sections worker, locks.Pairwise (fun first second => rank first ≤ rank second))
    (worker : T) (cycle : Relation.TransGen (Waits state) worker worker) :
    ∃ holder asked wanted, holder ≠ worker ∧ asked ∈ (state worker).wanted ∧ asked ∈ (state holder).held ∧
      wanted ∈ (state holder).wanted ∧ rank asked = rank wanted ∧ Relation.TransGen (Waits state) holder holder := by
  obtain ⟨holder, edge, back⟩ := Relation.TransGen.head'_iff.mp cycle
  obtain ⟨differs, asked, rest, asks, holds⟩ := edge
  have onward : Relation.TransGen (Waits state) holder worker := by
    rcases Relation.reflTransGen_iff_eq_or_transGen.mp back with same | onward
    · exact absurd same.symm differs
    · exact onward
  obtain ⟨_, ⟨_, wanted, more, wants, _⟩, _⟩ := Relation.TransGen.head'_iff.mp onward
  refine ⟨holder, asked, wanted, differs, by simp [asks], holds, by simp [wants], ?_,
    onward.tail ⟨differs, asked, rest, asks, holds⟩⟩
  refine le_antisymm ?_ ?_
  · exact waits_rank rank sections state inside ordered holder asked wanted holds (by simp [wants])
  · exact rank_along rank sections state inside ordered holder worker onward wanted asked more rest wants asks

end Ranks

section Meeting

theorem split_at_first (locks : List L) (meets : L → Bool) (lock : L) (found : locks.find? meets = some lock) :
    ∃ front rest, locks = front ++ lock :: rest ∧ meets lock = true ∧ ∀ earlier ∈ front, meets earlier = false := by
  obtain ⟨met, front, rest, parts, before⟩ := List.find?_eq_some_iff_append.mp found
  exact ⟨front, rest, parts, met, fun earlier among => by simpa using before earlier among⟩

theorem find_of_mem (locks : List L) (meets : L → Bool) (lock : L) (among : lock ∈ locks) (met : meets lock = true) :
    ∃ first, locks.find? meets = some first := by
  cases found : locks.find? meets with
  | some first => exact ⟨first, rfl⟩
  | none =>
      have missed := List.find?_eq_none.mp found lock among
      exact absurd met missed

variable [DecidableEq T]

theorem take_front (worker : T) (front rest : List L) (state : T → Worker L)
    (wants : (state worker).wanted = front ++ rest)
    (free : ∀ lock ∈ front, ∀ other, other ≠ worker → lock ∉ (state other).held) :
    Relation.ReflTransGen Step state
      (Function.update state worker ⟨(state worker).held ++ front, rest, (state worker).later⟩) := by
  induction front generalizing state with
  | nil =>
      rw [List.nil_append] at wants
      rw [List.append_nil, ← wants, Function.update_eq_self]
  | cons lock others ih =>
      have first := Step.acquire state worker lock (others ++ rest) (by simpa using wants)
        (free lock (List.mem_cons_self ..))
      refine .head first ?_
      have further := ih (Function.update state worker
        ⟨(state worker).held ++ [lock], others ++ rest, (state worker).later⟩) (by simp) (fun wanted among other differs => by
          rw [Function.update_of_ne differs]
          exact free wanted (List.mem_cons_of_mem lock among) other differs)
      simpa [Function.update_idem] using further

-- A worker comes to the beginning of any of its sections, the others standing still.
theorem reach_section (worker : T) (before : List (List L)) (opened : List L) (later : List (List L))
    (state : T → Worker L) (stands : state worker = .next (before ++ opened :: later)) :
    Relation.ReflTransGen Step state (Function.update state worker ⟨[], opened, later⟩) := by
  induction before generalizing state with
  | nil =>
      have already : Function.update state worker ⟨[], opened, later⟩ = state := by
        rw [Function.update_eq_self_iff, stands]
        rfl
      rw [already]
  | cons first rest ih =>
      have ended := Step.release state worker
      rw [stands] at ended
      refine .head ended ?_
      simpa [Function.update_idem, Worker.next] using ih _ (Function.update_self worker (.next (rest ++ opened :: later)) state)

-- A worker that asks, now or later in its section, for a lock of another one takes locks until it waits for that one.
theorem run_into (worker holder : T) (state : T → Worker L)
    (alone : ∀ other, other ≠ worker → other ≠ holder → (state other).held = [])
    (decides : ∀ lock, Decidable (lock ∈ (state holder).held))
    (lock : L) (asked : lock ∈ (state worker).wanted) (holds : lock ∈ (state holder).held) :
    ∃ front rest, Relation.ReflTransGen Step state
        (Function.update state worker ⟨(state worker).held ++ front, rest, (state worker).later⟩) ∧
      ∃ wanted more, rest = wanted :: more ∧ wanted ∈ (state holder).held := by
  obtain ⟨wanted, found⟩ := find_of_mem (state worker).wanted (fun lock => decide (lock ∈ (state holder).held)) lock asked
    (by simpa using holds)
  obtain ⟨front, more, parts, met, before⟩ := split_at_first _ _ wanted found
  refine ⟨front, wanted :: more, take_front worker front (wanted :: more) state parts ?_, wanted, more, rfl, by simpa using met⟩
  intro earlier among other apart
  by_cases same : other = holder
  · rw [same]
    simpa using before earlier among
  · simp [alone other apart same]

variable [DecidableEq L]

-- Two workers, each asking for a lock that the other one holds, run into one another.
theorem cross_wait (first second : T) (differs : second ≠ first) (state : T → Worker L)
    (alone : ∀ other, other ≠ first → other ≠ second → (state other).held = [])
    (lock : L) (asked : lock ∈ (state first).wanted) (holds : lock ∈ (state second).held)
    (other : L) (askedToo : other ∈ (state second).wanted) (holdsToo : other ∈ (state first).held) :
    ∃ last, Relation.ReflTransGen Step state last ∧ Deadlocked last := by
  obtain ⟨front, _, moved, wanted, more, rfl, met⟩ :=
    run_into first second state alone (fun _ => inferInstance) lock asked holds
  obtain ⟨state', isState'⟩ : ∃ state', state' =
    Function.update state first ⟨(state first).held ++ front, wanted :: more, (state first).later⟩ := ⟨_, rfl⟩
  rw [← isState'] at moved
  have firstNow : state' first = ⟨(state first).held ++ front, wanted :: more, (state first).later⟩ := by
    rw [isState', Function.update_self]
  have secondNow : state' second = state second := by rw [isState', Function.update_of_ne differs]
  have aloneNow : ∀ third, third ≠ second → third ≠ first → (state' third).held = [] := by
    intro third apart away
    rw [isState', Function.update_of_ne away]
    exact alone third away apart
  obtain ⟨otherFront, _, movedToo, wantedToo, moreToo, rfl, metToo⟩ :=
    run_into second first state' aloneNow (fun _ => inferInstance) other (by rw [secondNow]; exact askedToo)
      (by rw [firstNow]; exact List.mem_append_left front holdsToo)
  refine ⟨_, moved.trans movedToo, first, .tail (.single ⟨differs, wanted, more, ?_, ?_⟩)
    ⟨differs.symm, wantedToo, moreToo, ?_, ?_⟩⟩
  · rw [Function.update_of_ne differs.symm, firstNow]
  · rw [Function.update_self, secondNow]
    exact List.mem_append_left otherFront met
  · rw [Function.update_self]
  · rw [Function.update_of_ne differs.symm]
    exact metToo

-- The first lock of the one list that the other one has too.
def firstShared (locks others : List L) : Option L := locks.find? (others.contains ·)

theorem first_shared_mem (locks others : List L) (lock : L) (found : firstShared locks others = some lock) :
    lock ∈ locks ∧ lock ∈ others :=
  ⟨List.mem_of_find?_eq_some found, by simpa using List.find?_some found⟩

-- Before the first shared lock, that one included, a list has nothing but this lock of the other one.
theorem first_shared_parts (locks others : List L) (lock : L) (found : firstShared locks others = some lock) :
    ∃ front rest, locks = (front ++ [lock]) ++ rest ∧ ∀ earlier ∈ front ++ [lock], earlier ∈ others → earlier = lock := by
  obtain ⟨front, rest, parts, _, before⟩ := split_at_first locks _ lock found
  refine ⟨front, rest, by rw [parts, List.append_cons], fun earlier among shared => ?_⟩
  rcases List.mem_append.mp among with early | same
  · have missed := before earlier early
    simp [shared] at missed
  · exact List.mem_singleton.mp same

-- Two lists that meet first at different locks: up to the meeting they share nothing, after it each has the lock that
-- the other one took.
theorem meet_apart (locks others : List L) (apart : firstShared locks others ≠ firstShared others locks) :
    ∃ front rest otherFront otherRest mine yours, locks = front ++ rest ∧ others = otherFront ++ otherRest ∧
      (∀ lock ∈ otherFront, lock ∉ front) ∧ mine ∈ front ∧ mine ∈ otherRest ∧ yours ∈ otherFront ∧ yours ∈ rest := by
  have shared : ∃ lock, lock ∈ locks ∧ lock ∈ others := by
    by_contra absent
    have missed : ∀ lock, lock ∈ locks → lock ∉ others := fun lock one two => absent ⟨lock, one, two⟩
    refine apart ((List.find?_eq_none.mpr ?_).trans (List.find?_eq_none.mpr ?_).symm)
    · intro lock one
      simpa using missed lock one
    · intro lock two
      simpa using fun one => missed lock one two
  obtain ⟨lock, one, two⟩ := shared
  obtain ⟨mine, foundMine⟩ := find_of_mem locks (others.contains ·) lock one (by simpa using two)
  obtain ⟨yours, foundYours⟩ := find_of_mem others (locks.contains ·) lock two (by simpa using one)
  have distinct : mine ≠ yours := fun same => apart (foundMine.trans (same ▸ foundYours.symm))
  obtain ⟨front, rest, parts, only⟩ := first_shared_parts locks others mine foundMine
  obtain ⟨otherFront, otherRest, otherParts, otherOnly⟩ := first_shared_parts others locks yours foundYours
  obtain ⟨mineHere, mineThere⟩ := first_shared_mem locks others mine foundMine
  obtain ⟨yoursHere, yoursThere⟩ := first_shared_mem others locks yours foundYours
  refine ⟨front ++ [mine], rest, otherFront ++ [yours], otherRest, mine, yours, parts, otherParts, ?_, by simp, ?_,
    by simp, ?_⟩
  · intro taken among also
    have isYours := otherOnly taken among (by simp only [parts, List.mem_append] at also ⊢; exact .inl also)
    have isMine := only taken also (by simp only [otherParts, List.mem_append] at among ⊢; exact .inl among)
    exact distinct (isMine.symm.trans isYours)
  · rw [otherParts] at mineThere
    exact (List.mem_append.mp mineThere).resolve_left fun taken => distinct (otherOnly mine taken mineHere)
  · rw [parts] at yoursThere
    exact (List.mem_append.mp yoursThere).resolve_left fun taken => distinct (only yours taken yoursHere).symm

omit [DecidableEq L] in
-- Two workers can come to the beginning of their sections, with nothing taken.
theorem both_begin (sections : T → List (List L)) (first second : T) (differs : second ≠ first)
    (done otherDone later otherLater : List (List L)) (locks others : List L)
    (places : sections first = done ++ locks :: later) (otherPlaces : sections second = otherDone ++ others :: otherLater) :
    ∃ both, Reachable sections both ∧ both first = ⟨[], locks, later⟩ ∧ both second = ⟨[], others, otherLater⟩ ∧
      ∀ worker, (both worker).held = [] := by
  obtain ⟨begun, isBegun⟩ : ∃ begun, begun =
    Function.update (start sections) first (⟨[], locks, later⟩ : Worker L) := ⟨_, rfl⟩
  have toBegun : Reachable sections begun := by
    rw [isBegun]
    exact reach_section first done locks later (start sections) (congrArg Worker.next places)
  refine ⟨Function.update begun second (⟨[], others, otherLater⟩ : Worker L), ?_, ?_, ?_, ?_⟩
  · refine toBegun.trans (reach_section second otherDone others otherLater begun ?_)
    rw [isBegun, Function.update_of_ne differs]
    exact congrArg Worker.next otherPlaces
  · rw [Function.update_of_ne differs.symm, isBegun, Function.update_self]
  · rw [Function.update_self]
  · intro worker
    by_cases isSecond : worker = second
    · rw [isSecond, Function.update_self]
    · rw [Function.update_of_ne isSecond]
      by_cases isFirst : worker = first
      · rw [isBegun, isFirst, Function.update_self]
      · rw [isBegun, Function.update_of_ne isFirst]
        exact next_held _

-- Two sections that meet first at different locks bring their workers to a cycle.
theorem deadlock_reachable (sections : T → List (List L)) (first second : T) (differs : second ≠ first)
    (locks others : List L) (among : locks ∈ sections first) (also : others ∈ sections second)
    (apart : firstShared locks others ≠ firstShared others locks) :
    ∃ state, Reachable sections state ∧ Deadlocked state := by
  obtain ⟨front, rest, otherFront, otherRest, mine, yours, parts, otherParts, disjoint, mineTaken, mineAsked, yoursTaken,
    yoursAsked⟩ := meet_apart locks others apart
  obtain ⟨done, later, places⟩ := List.append_of_mem among
  obtain ⟨otherDone, otherLater, otherPlaces⟩ := List.append_of_mem also
  obtain ⟨both, toBoth, firstBoth, secondBoth, empty⟩ :=
    both_begin sections first second differs done otherDone later otherLater locks others places otherPlaces
  -- The one takes its locks as far as the first shared one, then the other one does.
  have took := take_front first front rest both (by rw [firstBoth, parts])
    (fun wanted _ worker _ => by simp [empty worker])
  rw [firstBoth, List.nil_append] at took
  obtain ⟨ahead, isAhead⟩ : ∃ ahead, ahead = Function.update both first (⟨front, rest, later⟩ : Worker L) := ⟨_, rfl⟩
  rw [← isAhead] at took
  have firstAhead : ahead first = ⟨front, rest, later⟩ := by rw [isAhead, Function.update_self]
  have secondAhead : ahead second = ⟨[], others, otherLater⟩ := by
    rw [isAhead, Function.update_of_ne differs, secondBoth]
  have takeToo := take_front second otherFront otherRest ahead (by rw [secondAhead, otherParts])
    (fun wanted asked worker away holds => by
      by_cases isFirst : worker = first
      · rw [isFirst, firstAhead] at holds
        exact disjoint wanted asked holds
      · rw [isAhead, Function.update_of_ne isFirst, empty] at holds
        cases holds)
  rw [secondAhead, List.nil_append] at takeToo
  obtain ⟨met, isMet⟩ : ∃ met, met = Function.update ahead second (⟨otherFront, otherRest, otherLater⟩ : Worker L) :=
    ⟨_, rfl⟩
  rw [← isMet] at takeToo
  have firstMet : met first = ⟨front, rest, later⟩ := by rw [isMet, Function.update_of_ne differs.symm, firstAhead]
  have secondMet : met second = ⟨otherFront, otherRest, otherLater⟩ := by rw [isMet, Function.update_self]
  obtain ⟨last, moved, cycle⟩ := cross_wait first second differs met
    (fun worker isFirst isSecond => by
      rw [isMet, Function.update_of_ne isSecond, isAhead, Function.update_of_ne isFirst]
      exact empty worker)
    yours (by rw [firstMet]; exact yoursAsked) (by rw [secondMet]; exact yoursTaken)
    mine (by rw [secondMet]; exact mineAsked) (by rw [firstMet]; exact mineTaken)
  exact ⟨last, ((toBoth.trans took).trans takeToo).trans moved, cycle⟩

end Meeting

end SasCore.WaitGraph
