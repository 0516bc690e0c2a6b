import Mathlib.Data.List.Basic

set_option autoImplicit false
set_option linter.unusedSectionVars false

-- The rows of one kind as a session without autoflush works on them.
namespace SasCore.Orm

-- A flushed row, as the object in memory has it. A doomed one is deleted by the next flush.
structure Entry (V : Type) where
  value : V
  doomed : Bool
deriving DecidableEq, Repr

-- Inserts wait in `pending` for the flush, where no query sees them.
structure Table (V : Type) where
  rows : List (Entry V)
  pending : List V
deriving DecidableEq, Repr

variable {V : Type}

def kept (value : V) : Entry V := ⟨value, false⟩

-- The first entry that matches is changed; `none` when there is none.
def changeFirst (found : V → Bool) (change : V → V) : List (Entry V) → Option (List (Entry V))
  | [] => none
  | entry :: rest =>
      if found entry.value then some ({ entry with value := change entry.value } :: rest)
      else (changeFirst found change rest).map (entry :: ·)

def doomIf (found : V → Bool) (entry : Entry V) : Entry V :=
  if found entry.value then { entry with doomed := true } else entry

def changeIf (found : V → Bool) (change : V → V) (entry : Entry V) : Entry V :=
  if found entry.value then { entry with value := change entry.value } else entry

-- The first entry that matches takes a value, the later ones are deleted.
def supersedeFirst (found : V → Bool) (value : V) : List (Entry V) → Option (List (Entry V))
  | [] => none
  | entry :: rest =>
      if found entry.value then some ({ entry with value := value } :: rest.map (doomIf found))
      else (supersedeFirst found value rest).map (entry :: ·)

namespace Table

def stored (values : List V) : Table V := ⟨values.map kept, []⟩

-- query.all(): in the order of the ids, doomed rows included.
def all (table : Table V) : List V := table.rows.map (·.value)

def add (value : V) (table : Table V) : Table V := { table with pending := table.pending ++ [value] }

-- query.delete() runs at once, on flushed rows only.
def clear (table : Table V) : Table V := { table with rows := [] }

-- db.delete of every row that matches.
def doom (found : V → Bool) (table : Table V) : Table V :=
  { table with rows := table.rows.map (doomIf found) }

-- The first matching row is changed in place, else a row is added.
def put (found : V → Bool) (change : V → V) (fresh : V) (table : Table V) : Table V :=
  match changeFirst found change table.rows with
  | some rows => { table with rows := rows }
  | none => table.add fresh

-- One row is left for all that match.
def supersede (found : V → Bool) (value : V) (table : Table V) : Table V :=
  match supersedeFirst found value table.rows with
  | some rows => { table with rows := rows }
  | none => table.add value

def survivors (table : Table V) : List V := (table.rows.filter fun entry => !entry.doomed).map (·.value)

-- What a commit leaves in the database.
def settled (table : Table V) : List V := table.survivors ++ table.pending

def flush (table : Table V) : Table V := stored table.settled

-- No deletion waits for a flush.
def Clean (table : Table V) : Prop := ∀ entry ∈ table.rows, entry.doomed = false

end Table

section Rules

variable (table : Table V) (value : V) (values : List V) (found : V → Bool) (change : V → V) (fresh : V)

@[simp] theorem all_stored : (Table.stored values).all = values := by
  rw [Table.all, Table.stored, List.map_map]
  exact List.map_id values

theorem stored_clean : (Table.stored values).Clean := by
  intro entry member
  obtain ⟨value, _, same⟩ := List.mem_map.mp member
  rw [← same]
  rfl

theorem survivors_clean (clean : table.Clean) : table.survivors = table.all := by
  have alive : table.rows.filter (fun entry => !entry.doomed) = table.rows := by
    rw [List.filter_eq_self]
    intro entry member
    rw [clean entry member]
    rfl
  rw [Table.survivors, alive, Table.all]

theorem settled_clean (clean : table.Clean) : table.settled = table.all ++ table.pending := by
  rw [Table.settled, survivors_clean table clean]

@[simp] theorem settled_stored : (Table.stored values).settled = values := by
  rw [settled_clean _ (stored_clean values), all_stored]
  exact List.append_nil values

@[simp] theorem all_flush : table.flush.all = table.settled := all_stored table.settled

@[simp] theorem settled_flush : table.flush.settled = table.settled := settled_stored table.settled

@[simp] theorem pending_flush : table.flush.pending = [] := rfl

theorem flush_clean : table.flush.Clean := stored_clean table.settled

@[simp] theorem settled_add : (table.add value).settled = table.settled ++ [value] := (List.append_assoc _ _ _).symm

theorem add_clean (clean : table.Clean) : (table.add value).Clean := clean

@[simp] theorem settled_clear : table.clear.settled = table.pending := rfl

theorem survivors_doom : (table.doom found).survivors = table.survivors.filter fun value => !found value := by
  simp only [Table.survivors, Table.doom]
  induction table.rows with
  | nil => rfl
  | cons entry rest ih =>
      simp only [List.map_cons, List.filter_cons, doomIf]
      by_cases hit : found entry.value = true
      · by_cases gone : entry.doomed = true
        · simpa [hit, gone] using ih
        · simpa [hit, gone] using ih
      · by_cases gone : entry.doomed = true
        · simpa [hit, gone] using ih
        · simpa [hit, gone] using ih

theorem settled_doom : (table.doom found).settled = (table.survivors.filter fun value => !found value) ++ table.pending := by
  rw [Table.settled, survivors_doom]
  rfl

theorem change_first_none (rows : List (Entry V)) :
    changeFirst found change rows = none ↔ ∀ entry ∈ rows, found entry.value = false := by
  induction rows with
  | nil => simp [changeFirst]
  | cons entry rest ih =>
      rw [changeFirst, List.forall_mem_cons]
      by_cases here : found entry.value = true
      · simp [here]
      · simp [here, ih]

theorem change_first_some (rows changed : List (Entry V)) (done : changeFirst found change rows = some changed) :
    ∃ before entry after, rows = before ++ entry :: after ∧ found entry.value = true ∧
      (∀ other ∈ before, found other.value = false) ∧
      changed = before ++ { entry with value := change entry.value } :: after := by
  induction rows generalizing changed with
  | nil => cases done
  | cons entry rest ih =>
      rw [changeFirst] at done
      by_cases here : found entry.value = true
      · rw [if_pos here] at done
        cases done
        exact ⟨[], entry, rest, rfl, here, (fun other member => by cases member), rfl⟩
      · rw [if_neg here] at done
        obtain ⟨later, found, same⟩ := Option.map_eq_some_iff.mp done
        obtain ⟨before, hit, after, split, hits, apart, result⟩ := ih later found
        refine ⟨entry :: before, hit, after, by rw [split]; rfl, hits, ?_, by rw [← same, result]; rfl⟩
        intro other member
        rcases List.mem_cons.mp member with isHead | inBefore
        · rw [isHead]
          exact eq_false_of_ne_true here
        · exact apart other inBefore

-- The two ways of a put: one row changed in its place, or a row added at the end.
theorem put_cases :
    ((∀ value ∈ table.all, found value = false) ∧ table.put found change fresh = table.add fresh) ∨
    ∃ before entry after, table.rows = before ++ entry :: after ∧ found entry.value = true ∧
      (∀ other ∈ before, found other.value = false) ∧
      table.put found change fresh = { table with rows := before ++ { entry with value := change entry.value } :: after } := by
  cases done : changeFirst found change table.rows with
  | none =>
      left
      have absent := (change_first_none found change table.rows).mp done
      refine ⟨fun value member => ?_, by rw [Table.put, done]⟩
      obtain ⟨entry, inRows, same⟩ := List.mem_map.mp member
      rw [← same]
      exact absent entry inRows
  | some rows =>
      right
      obtain ⟨before, entry, after, split, hit, apart, result⟩ := change_first_some found change table.rows rows done
      exact ⟨before, entry, after, split, hit, apart, by rw [Table.put, done, result]⟩

theorem change_if_map (rows : List (Entry V)) (apart : ∀ entry ∈ rows, ¬ found entry.value = true) :
    rows.map (changeIf found change) = rows :=
  (List.map_congr_left fun entry member => if_neg (apart entry member)).trans (List.map_id rows)

-- Where at most one entry matches, each entry can be looked at on its own.
theorem change_first_single (rows : List (Entry V))
    (single : rows.Pairwise fun first second => ¬ (found first.value = true ∧ found second.value = true)) :
    changeFirst found change rows =
      if rows.any (fun entry => found entry.value) then some (rows.map (changeIf found change)) else none := by
  induction rows with
  | nil => rfl
  | cons entry rest ih =>
      obtain ⟨apart, later⟩ := List.pairwise_cons.mp single
      by_cases here : found entry.value = true
      · have others : rest.map (changeIf found change) = rest :=
          change_if_map found change rest fun other member hit => apart other member ⟨here, hit⟩
        simp [changeFirst, changeIf, here, others]
      · rw [changeFirst, if_neg here, ih later]
        by_cases elsewhere : rest.any (fun entry => found entry.value) = true
        · simp [changeIf, here, elsewhere]
        · simp [here, elsewhere]

theorem put_single (single : table.rows.Pairwise fun first second => ¬ (found first.value = true ∧ found second.value = true)) :
    table.put found change fresh =
      ⟨table.rows.map (changeIf found change),
        if table.rows.any (fun entry => found entry.value) then table.pending else table.pending ++ [fresh]⟩ := by
  rw [Table.put, change_first_single found change table.rows single]
  by_cases hit : table.rows.any (fun entry => found entry.value) = true
  · simp only [hit, if_true]
  · have same : table.rows.map (changeIf found change) = table.rows :=
      change_if_map found change table.rows (by simpa using hit)
    rw [if_neg hit, if_neg hit, same]
    rfl

theorem put_clean (clean : table.Clean) : (table.put found change fresh).Clean := by
  rcases put_cases table found change fresh with ⟨_, added⟩ | ⟨before, entry, after, split, _, _, changed⟩
  · rw [added]
    exact clean
  · rw [changed]
    intro other member
    rw [Table.Clean, split] at clean
    rcases List.mem_append.mp member with first | rest
    · exact clean other (List.mem_append_left _ first)
    · rcases List.mem_cons.mp rest with here | last
      · rw [here]
        exact clean entry (List.mem_append_right _ List.mem_cons_self)
      · exact clean other (List.mem_append_right _ (List.mem_cons_of_mem entry last))

theorem supersede_first_none (rows : List (Entry V)) (missed : supersedeFirst found value rows = none) :
    ∀ entry ∈ rows, found entry.value = false := by
  induction rows with
  | nil =>
      intro entry member
      cases member
  | cons entry rest ih =>
      rw [supersedeFirst] at missed
      by_cases here : found entry.value = true
      · rw [if_pos here] at missed
        cases missed
      · rw [if_neg here] at missed
        rw [List.forall_mem_cons]
        exact ⟨eq_false_of_ne_true here, ih (Option.map_eq_none_iff.mp missed)⟩

theorem supersede_first_alive (rows changed : List (Entry V)) (done : supersedeFirst found value rows = some changed)
    (clean : ∀ entry ∈ rows, entry.doomed = false) (held : V) :
    held ∈ ((changed.filter fun entry => !entry.doomed).map (·.value)) ↔
      held = value ∨ (held ∈ rows.map (·.value) ∧ found held = false) := by
  induction rows generalizing changed with
  | nil => cases done
  | cons entry rest ih =>
      rw [List.forall_mem_cons] at clean
      rw [supersedeFirst] at done
      by_cases here : found entry.value = true
      · rw [if_pos here] at done
        cases done
        have later : held ∈ (((rest.map (doomIf found)).filter fun entry => !entry.doomed).map (·.value)) ↔
            held ∈ rest.map (·.value) ∧ found held = false := by
          have doomed := survivors_doom (⟨rest, []⟩ : Table V) found
          have alive := survivors_clean (⟨rest, []⟩ : Table V) clean.2
          rw [alive, Table.all, Table.survivors, Table.doom] at doomed
          rw [doomed, List.mem_filter, Bool.not_eq_true']
        rw [List.filter_cons, if_pos (by simp [clean.1]), List.map_cons, List.mem_cons, later, List.map_cons, List.mem_cons]
        constructor
        · rintro (isNew | ⟨old, kept⟩)
          · exact .inl isNew
          · exact .inr ⟨.inr old, kept⟩
        · rintro (isNew | ⟨isHere | old, kept⟩)
          · exact .inl isNew
          · rw [isHere, here] at kept
            cases kept
          · exact .inr ⟨old, kept⟩
      · rw [if_neg here] at done
        obtain ⟨others, inner, same⟩ := Option.map_eq_some_iff.mp done
        rw [← same, List.filter_cons, if_pos (by simp [clean.1]), List.map_cons, List.mem_cons, ih others inner clean.2,
          List.map_cons, List.mem_cons]
        constructor
        · rintro (isHere | isNew | ⟨old, kept⟩)
          · exact .inr ⟨.inl isHere, by rw [isHere]; exact eq_false_of_ne_true here⟩
          · exact .inl isNew
          · exact .inr ⟨.inr old, kept⟩
        · rintro (isNew | ⟨isHere | old, kept⟩)
          · exact .inr (.inl isNew)
          · exact .inl isHere
          · exact .inr (.inr ⟨old, kept⟩)

-- A supersede of flushed rows leaves its value and the rows that do not match.
theorem mem_settled_supersede (clean : table.Clean) (flushed : table.pending = []) (held : V) :
    held ∈ (table.supersede found value).settled ↔ held = value ∨ (held ∈ table.settled ∧ found held = false) := by
  have rows : table.settled = table.all := by rw [settled_clean table clean, flushed, List.append_nil]
  rw [rows, Table.supersede]
  cases done : supersedeFirst found value table.rows with
  | none =>
      have absent := supersede_first_none value found table.rows done
      simp only
      rw [settled_add, rows, List.mem_append, List.mem_singleton, or_comm]
      refine or_congr Iff.rfl ⟨fun member => ⟨member, ?_⟩, And.left⟩
      obtain ⟨entry, inRows, same⟩ := List.mem_map.mp member
      rw [← same]
      exact absent entry inRows
  | some changed =>
      simp only [Table.settled, flushed, List.append_nil]
      exact supersede_first_alive value found table.rows changed done clean held

-- What a put can leave: what was there, the value that is added, or a changed value.
theorem mem_settled_put (clean : table.Clean) (held : V) (member : held ∈ (table.put found change fresh).settled) :
    held ∈ table.settled ∨ held = fresh ∨ ∃ old ∈ table.settled, held = change old := by
  rw [settled_clean _ (put_clean table found change fresh clean)] at member
  rw [settled_clean _ clean]
  rcases put_cases table found change fresh with ⟨_, added⟩ | ⟨before, entry, after, split, _, _, changed⟩
  · rw [added] at member
    rcases List.mem_append.mp member with stored | waiting
    · exact .inl (List.mem_append_left _ stored)
    · rcases List.mem_append.mp waiting with old | isNew
      · exact .inl (List.mem_append_right _ old)
      · exact .inr (.inl (List.mem_singleton.mp isNew))
  · rw [changed] at member
    simp only [Table.all, split, List.map_append, List.map_cons, List.mem_append, List.mem_cons] at member ⊢
    rcases member with (early | here | late) | waiting
    · exact .inl (.inl (.inl early))
    · exact .inr (.inr ⟨entry.value, .inl (.inr (.inl rfl)), here⟩)
    · exact .inl (.inl (.inr (.inr late)))
    · exact .inl (.inr waiting)

-- A put leaves the values that do not match.
theorem settled_put_keeps (clean : table.Clean) (held : V) (member : held ∈ table.settled) (apart : found held = false) :
    held ∈ (table.put found change fresh).settled := by
  rw [settled_clean _ clean] at member
  rw [settled_clean _ (put_clean table found change fresh clean)]
  rcases put_cases table found change fresh with ⟨_, added⟩ | ⟨before, entry, after, split, hit, _, changed⟩
  · rw [added]
    rcases List.mem_append.mp member with stored | waiting
    · exact List.mem_append_left _ stored
    · exact List.mem_append_right _ (List.mem_append_left _ waiting)
  · rw [changed]
    simp only [Table.all, split, List.map_append, List.map_cons, List.mem_append, List.mem_cons] at member ⊢
    rcases member with (early | here | late) | waiting
    · exact .inl (.inl early)
    · rw [here, hit] at apart
      cases apart
    · exact .inl (.inr (.inr late))
    · exact .inr waiting

theorem settled_put_own (clean : table.Clean) : value ∈ (table.put found (fun _ => value) value).settled := by
  rw [settled_clean _ (put_clean table found (fun _ => value) value clean)]
  rcases put_cases table found (fun _ => value) value with ⟨_, added⟩ | ⟨before, entry, after, _, _, _, changed⟩
  · rw [added]
    exact List.mem_append_right _ (List.mem_append_right _ (List.mem_singleton_self value))
  · rw [changed]
    simp [Table.all]

end Rules

section Keys

variable {κ : Type} [DecidableEq κ] (key : V → Option κ)

def under (k : Option κ) (values : List V) : List V := values.filter fun value => key value = k

def hasKey (k : κ) (value : V) : Bool := key value = some k

theorem under_append (k : Option κ) (first second : List V) : under key k (first ++ second) = under key k first ++ under key k second :=
  List.filter_append first second

theorem under_none (k : Option κ) (values : List V) (apart : ∀ value ∈ values, key value ≠ k) : under key k values = [] :=
  List.filter_eq_nil_iff.mpr fun value member => by simpa using apart value member

theorem under_cons (k : Option κ) (value : V) (rest : List V) :
    under key k (value :: rest) = if key value = k then value :: under key k rest else under key k rest := by
  by_cases here : key value = k <;> simp [under, here]

variable (table : Table V) (k : κ) (value : V)

-- A put replaces the one row of its key, unless an insert of that key is still pending.
theorem put_under (clean : table.Clean) (own : key value = some k) (single : (under key (some k) table.settled).length ≤ 1)
    (flushed : ∀ waiting ∈ table.pending, key waiting ≠ some k) :
    under key (some k) (table.put (hasKey key k) (fun _ => value) value).settled = [value] := by
  rcases put_cases table (hasKey key k) (fun _ => value) value with ⟨absent, added⟩ | ⟨before, entry, after, split, hit, apart, changed⟩
  · have none : under key (some k) table.settled = [] := by
      refine under_none key (some k) _ fun other member => ?_
      rw [settled_clean table clean] at member
      rcases List.mem_append.mp member with here | waiting
      · have missed := absent other here
        simpa [hasKey] using missed
      · exact flushed other waiting
    rw [added, settled_add, under_append, none, under_cons, if_pos own]
    rfl
  · have nothingBefore : under key (some k) (before.map (·.value)) = [] := by
      refine under_none key (some k) _ fun other member => ?_
      obtain ⟨held, inBefore, same⟩ := List.mem_map.mp member
      rw [← same]
      have missed := apart held inBefore
      simpa [hasKey] using missed
    have here : key entry.value = some k := by simpa [hasKey] using hit
    have cleanAfter := put_clean table (hasKey key k) (fun _ => value) value clean
    rw [changed] at cleanAfter ⊢
    rw [settled_clean table clean, Table.all, split, List.map_append, List.map_cons, List.append_assoc, under_append,
      nothingBefore, List.nil_append, List.cons_append, under_cons, if_pos here, List.length_cons] at single
    have nothingAfter : under key (some k) (after.map (·.value) ++ table.pending) = [] := List.length_eq_zero_iff.mp (by omega)
    rw [settled_clean _ cleanAfter, Table.all, List.map_append, List.map_cons, List.append_assoc, under_append,
      nothingBefore, List.nil_append, List.cons_append, under_cons, if_pos own, nothingAfter]

theorem put_under_other (clean : table.Clean) (own : key value = some k) (other : Option κ) (apart : other ≠ some k) :
    under key other (table.put (hasKey key k) (fun _ => value) value).settled = under key other table.settled := by
  have elsewhere : ¬ some k = other := fun same => apart same.symm
  rcases put_cases table (hasKey key k) (fun _ => value) value with ⟨_, added⟩ | ⟨before, entry, after, split, hit, _, changed⟩
  · rw [added, settled_add, under_append, under_cons, own, if_neg elsewhere]
    exact List.append_nil _
  · have here : key entry.value = some k := by simpa [hasKey] using hit
    have cleanAfter := put_clean table (hasKey key k) (fun _ => value) value clean
    rw [changed] at cleanAfter ⊢
    have prior : table.settled = before.map (·.value) ++ entry.value :: (after.map (·.value) ++ table.pending) := by
      rw [settled_clean table clean, Table.all, split, List.map_append, List.append_assoc]
      rfl
    have later : Table.settled { table with rows := before ++ { entry with value := value } :: after } =
        before.map (·.value) ++ value :: (after.map (·.value) ++ table.pending) := by
      rw [settled_clean _ cleanAfter, Table.all, List.map_append, List.append_assoc]
      rfl
    rw [prior, later, under_append, under_append, under_cons, under_cons, own, here, if_neg elsewhere, if_neg elsewhere]

-- The keys of the flushed rows stay; a value whose key is not among them waits.
theorem put_keys (change : V → V) (kept : ∀ held, key held = some k → key (change held) = some k) :
    (table.put (hasKey key k) change value).all.map key = table.all.map key ∧
      (table.put (hasKey key k) change value).pending =
        if some k ∈ table.all.map key then table.pending else table.pending ++ [value] := by
  rcases put_cases table (hasKey key k) change value with ⟨absent, added⟩ | ⟨before, entry, after, split, hit, _, changed⟩
  · have missing : some k ∉ table.all.map key := by
      intro member
      obtain ⟨other, inAll, same⟩ := List.mem_map.mp member
      have missed := absent other inAll
      rw [hasKey, same] at missed
      simp at missed
    rw [added, if_neg missing]
    exact ⟨rfl, rfl⟩
  · have here : key entry.value = some k := by simpa [hasKey] using hit
    have present : some k ∈ table.all.map key := by
      rw [Table.all, split, List.map_append, List.map_append, List.map_cons, List.map_cons, here]
      exact List.mem_append_right _ List.mem_cons_self
    rw [changed, if_pos present]
    refine ⟨?_, rfl⟩
    rw [Table.all, Table.all, split]
    simp only [List.map_append, List.map_cons, kept entry.value here, here]

theorem settled_keys (clean : table.Clean) : table.settled.map key = table.all.map key ++ table.pending.map key := by
  rw [settled_clean table clean, List.map_append]

-- A table with one row for each key: the keys that queries see, and those that wait for a flush.
structure Keyed (stored waiting : κ → Prop) (table : Table V) : Prop where
  clean : table.Clean
  single : ∀ k, (under key (some k) table.settled).length ≤ 1
  known : ∀ k, stored k ↔ some k ∈ table.all.map key
  awaited : ∀ k, waiting k ↔ some k ∈ table.pending.map key

variable {key table} {stored waiting : κ → Prop}

theorem Keyed.add (keyed : Keyed key stored waiting table) (keyless : key value = none) :
    Keyed key stored waiting (table.add value) := by
  refine ⟨add_clean table value keyed.clean, fun j => ?_, keyed.known, fun j => ?_⟩
  · rw [settled_add, under_append, under_cons, keyless, if_neg (by simp)]
    simpa [under] using keyed.single j
  · rw [keyed.awaited j, Table.add]
    simp [keyless]

theorem Keyed.put (keyed : Keyed key stored waiting table) (own : key value = some k) (free : ¬ waiting k) :
    Keyed key stored (fun j => waiting j ∨ (j = k ∧ ¬ stored k)) (table.put (hasKey key k) (fun _ => value) value) := by
  obtain ⟨same, pending⟩ := put_keys key table k value (fun _ => value) (fun _ _ => own)
  have flushed : ∀ other ∈ table.pending, key other ≠ some k := by
    intro other member isKey
    exact free ((keyed.awaited k).mpr (List.mem_map.mpr ⟨other, member, isKey⟩))
  refine ⟨put_clean table _ _ value keyed.clean, fun j => ?_, fun j => ?_, fun j => ?_⟩
  · by_cases here : j = k
    · rw [here, put_under key table k value keyed.clean own (keyed.single k) flushed]
      exact Nat.le_refl 1
    · rw [put_under_other key table k value keyed.clean own (some j) (by simpa using here)]
      exact keyed.single j
  · rw [same]
    exact keyed.known j
  · rw [pending, keyed.awaited j, keyed.known k]
    by_cases present : some k ∈ table.all.map key
    · simp [present]
    · rw [if_neg present, List.map_append, List.mem_append]
      simp [present, own]

theorem Keyed.flush (keyed : Keyed key stored waiting table) :
    Keyed key (fun j => stored j ∨ waiting j) (fun _ => False) table.flush := by
  refine ⟨flush_clean table, fun j => ?_, fun j => ?_, fun j => ?_⟩
  · rw [settled_flush]
    exact keyed.single j
  · rw [all_flush, settled_keys key table keyed.clean, List.mem_append, keyed.known j, keyed.awaited j]
  · simp

theorem Keyed.congr {other : κ → Prop} {later : κ → Prop} (keyed : Keyed key stored waiting table) (known : ∀ j, other j ↔ stored j)
    (awaited : ∀ j, later j ↔ waiting j) : Keyed key other later table :=
  ⟨keyed.clean, keyed.single, fun j => (known j).trans (keyed.known j), fun j => (awaited j).trans (keyed.awaited j)⟩

end Keys

end SasCore.Orm
