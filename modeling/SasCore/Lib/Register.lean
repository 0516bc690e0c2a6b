import SasCore.Lib.Orm

set_option autoImplicit false

-- A value kept in one row of a table: the last row is read, all rows are deleted and a new one is inserted.
namespace SasCore.Orm

variable {V : Type}

namespace Table

def current (initial : V) (table : Table V) : V := table.all.getLast?.getD initial

def rewrite (initial : V) (change : V → V) (table : Table V) : Table V := table.clear.add (change (table.current initial))

-- What the next transaction reads.
def latest (initial : V) (table : Table V) : V := table.settled.getLast?.getD initial

end Table

inductive Access (V : Type) where
  | flush
  | rewrite (change : V → V)

def access (initial : V) (table : Table V) : Access V → Table V
  | .flush => table.flush
  | .rewrite change => table.rewrite initial change

-- A rewrite that no flush separates from one before it reads the emptied table.
def spaced (waits : Bool) : List (Access V) → Bool
  | [] => true
  | .flush :: rest => spaced false rest
  | .rewrite _ :: rest => !waits && spaced true rest

def changes : List (Access V) → List (V → V)
  | [] => []
  | .flush :: rest => changes rest
  | .rewrite change :: rest => change :: changes rest

variable (initial : V)

theorem current_stored (values : List V) : (Table.stored values).current initial = (Table.stored values).latest initial := by
  rw [Table.current, Table.latest, all_stored, settled_stored]

theorem latest_flush (table : Table V) : table.flush.latest initial = table.latest initial := by
  rw [Table.latest, settled_flush]
  rfl

theorem latest_rewrite (change : V → V) (table : Table V) :
    (table.rewrite initial change).latest initial = change (table.current initial) := by
  rw [Table.latest, Table.rewrite, settled_add, List.getLast?_append]
  rfl

theorem changes_append (first second : List (Access V)) : changes (first ++ second) = changes first ++ changes second := by
  induction first with
  | nil => rfl
  | cons one rest ih =>
      cases one with
      | flush => exact ih
      | rewrite change => exact congrArg (change :: ·) ih

-- Spaced accesses rewrite the value one after the other.
theorem accesses_latest (accesses : List (Access V)) (table : Table V) (waits : Bool)
    (ready : waits = false → table.current initial = table.latest initial) (apart : spaced waits accesses = true) :
    (accesses.foldl (access initial) table).latest initial =
      (changes accesses).foldl (fun value change => change value) (table.latest initial) := by
  induction accesses generalizing table waits with
  | nil => rfl
  | cons one rest ih =>
      cases one with
      | flush =>
          have flushed : (access initial table .flush).current initial = (access initial table .flush).latest initial :=
            current_stored initial _
          rw [List.foldl_cons, ih _ false (fun _ => flushed) apart, changes, access, latest_flush]
      | rewrite change =>
          rw [spaced, Bool.and_eq_true, Bool.not_eq_true'] at apart
          rw [List.foldl_cons, ih _ true (fun absurdity => by cases absurdity) apart.2, changes, List.foldl_cons, access,
            latest_rewrite, ready apart.1]

-- From one commit to the next.
theorem accesses_committed (accesses : List (Access V)) (table : Table V) (apart : spaced false accesses = true) :
    (accesses.foldl (access initial) table.flush).flush.current initial =
      (changes accesses).foldl (fun value change => change value) (table.flush.current initial) := by
  have flushed : ∀ other : Table V, other.flush.current initial = other.flush.latest initial :=
    fun other => current_stored initial other.settled
  rw [flushed, latest_flush, accesses_latest initial accesses table.flush false (fun _ => flushed table) apart, flushed]

end SasCore.Orm
