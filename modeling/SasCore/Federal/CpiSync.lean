import SasCore.Fad.RoundTrip
import SasCore.Federal.Sync
import SasCore.Lib.Collect
import SasCore.Lib.Csv

set_option autoImplicit false
set_option linter.unusedSectionVars false

namespace SasCore.Federal

open Injection Dpa

section Users

structure CpiUser where
  cpiId : String
  cpiName : String
  cpiPublicKey : String
deriving DecidableEq, Repr

-- The rows of cpi_users under the unique index of cpi_id.
structure CpiUsers where
  users : List CpiUser
  unique : (users.map (·.cpiId)).Nodup

def hasCpiId (cpiId : String) (user : CpiUser) : Bool := user.cpiId = cpiId

theorem settled_cpi_unique (table : Orm.Table CpiUser) (unique : ((table.all ++ table.pending).map (·.cpiId)).Nodup) :
    (table.settled.map (·.cpiId)).Nodup := by
  have fewer : table.settled.Sublist (table.all ++ table.pending) := (List.filter_sublist.map _).append_right table.pending
  exact List.Nodup.sublist (fewer.map _) unique

-- The flush of a commit inserts before it deletes, each row under the unique index.
def commitCpiUsers (table : Orm.Table CpiUser) : Except String CpiUsers :=
  if unique : ((table.all ++ table.pending).map (·.cpiId)).Nodup then .ok ⟨table.settled, settled_cpi_unique table unique⟩
  else .error "IntegrityError"

end Users

section Feed

-- One row of the index, its cells stripped, with its place.
structure CpiRow where
  index : Nat
  cpiId : String
  status : String
  keyUrl : String
deriving DecidableEq, Repr

def CpiRow.active (row : CpiRow) : Bool := PyText.upper row.status.toList = "ACTIVE".toList

def cpiCell (row : List (String × Option String)) (name : String) : String :=
  String.ofList (PyText.strip (((PyDict.lookup row name).getD none).getD "").toList)

def cpiRow (row : List (String × Option String)) (index : Nat) : CpiRow :=
  ⟨index, cpiCell row "cpiId", cpiCell row "status", cpiCell row "publicKeyIdentifier"⟩

def cpiRows (raw : String) : List CpiRow := (Csv.dictRows raw.toList).1.zipIdx.map fun entry => cpiRow entry.1 entry.2

-- What the GET of a key answers while the row at that place is processed.
abbrev KeyServer := Nat → String → Except String ByteArray

variable (keys : KeyServer)

def publicKeyOf (row : CpiRow) : Except String String :=
  if row.keyUrl = "" then .error ("cpi_missing_public_key:" ++ row.cpiId)
  else
    match keys row.index row.keyUrl with
    | .error _ => .error ("cpi_key_fetch_failed:" ++ row.cpiId)
    | .ok raw =>
        match String.fromUTF8? raw with
        | none => .error ("cpi_key_fetch_failed:" ++ row.cpiId)
        | some key => if PyText.strip key.toList = [] then .error ("cpi_empty_public_key:" ++ row.cpiId) else .ok key

structure CpiState where
  table : Orm.Table CpiUser
  seenActive : List String

def renewKey (cpiId key : String) (user : CpiUser) : CpiUser :=
  { user with cpiPublicKey := key, cpiName := if user.cpiName = "" then cpiId else user.cpiName }

def syncCpiRow (state : CpiState) (row : CpiRow) : Except String CpiState :=
  if row.cpiId = "" then .ok state
  else if !row.active then .ok { state with table := state.table.doom (hasCpiId row.cpiId) }
  else
    match publicKeyOf keys row with
    | .error error => .error error
    | .ok key =>
        .ok ⟨state.table.put (hasCpiId row.cpiId) (renewKey row.cpiId key) ⟨row.cpiId, row.cpiId, key⟩,
          row.cpiId :: state.seenActive⟩

-- The CPI users that are not in the active feed go.
def sweepCpi (state : CpiState) : Orm.Table CpiUser := state.table.doom fun user => !state.seenActive.contains user.cpiId

def applyCpiFeed (raw : String) (users : CpiUsers) : Except String (Orm.Table CpiUser) :=
  match (cpiRows raw).foldlM (syncCpiRow keys) ⟨.stored users.users, []⟩ with
  | .error error => .error error
  | .ok state =>
      match (Csv.dictRows raw.toList).2 with
      | some error => .error error
      | none => .ok (sweepCpi state)

variable {K : Type} [Field K] [LinearOrder K] (env : SyncEnv K)

def syncCpi (indexUrl : String) (checksum : Json K) (users : CpiUsers) (tables : Tables K) :
    Except String (Orm.Table CpiUser × Tables K) :=
  match env.httpGet indexUrl false with
  | .error error => .error error
  | .ok body =>
      match verifyChecksum env body checksum "CPI" with
      | .error error => .error error
      | .ok _ =>
          match String.fromUTF8? body with
          | none => .error "UnicodeDecodeError"
          | some raw => (applyCpiFeed keys raw users).map fun table => (table, bumpInjectionGeneration .cpi tables)

-- _sync_cpi and the commit after it.
def reconcileCpi (indexUrl : String) (checksum : Json K) (users : CpiUsers) (tables : Tables K) :
    Except String (CpiUsers × Tables K) :=
  match syncCpi keys env indexUrl checksum users tables with
  | .error error => .error error
  | .ok (table, written) => (commitCpiUsers table).map fun stored => (stored, written.flush)

end Feed

section Claims

variable (keys : KeyServer)

-- The rows of the index that name a CPI.
def namedRows (raw : String) : List CpiRow := (cpiRows raw).filter fun row => row.cpiId ≠ ""

def cpiFeedOf {K : Type} (env : SyncEnv K) (indexUrl : String) : List CpiRow :=
  match env.httpGet indexUrl false with
  | .error _ => []
  | .ok body =>
      match String.fromUTF8? body with
      | none => []
      | some raw => namedRows raw

def rowsOf (feed : List CpiRow) (cpiId : String) : List CpiRow := feed.filter fun row => row.cpiId = cpiId

def lastRow (feed : List CpiRow) (cpiId : String) : Option CpiRow := (rowsOf feed cpiId).getLast?

-- Stored are the CPIs whose last row is active, each with the key of that row.
def FollowsFeed (feed : List CpiRow) (stored : CpiUsers) : Prop :=
  ∀ cpiId key, (∃ user ∈ stored.users, user.cpiId = cpiId ∧ user.cpiPublicKey = key) ↔
    ∃ row, lastRow feed cpiId = some row ∧ row.active = true ∧ publicKeyOf keys row = .ok key

def knownIds (users : CpiUsers) : List String := users.users.map (·.cpiId)

-- No stored CPI is activated after another status, no new one loses its activation.
def NoReversal (feed : List CpiRow) (users : CpiUsers) : Prop :=
  ∀ row ∈ feed, ∀ last ∈ lastRow feed row.cpiId,
    if row.cpiId ∈ knownIds users then row.active = false → last.active = false
    else row.active = true → last.active = true

end Claims

section Rows

variable (keys : KeyServer)

def keyOf (row : CpiRow) : String :=
  match publicKeyOf keys row with
  | .ok key => key
  | .error _ => ""

theorem key_of_ok (row : CpiRow) (key : String) (ok : publicKeyOf keys row = .ok key) : keyOf keys row = key := by
  rw [keyOf, ok]

def newUser (row : CpiRow) : CpiUser := ⟨row.cpiId, row.cpiId, keyOf keys row⟩

-- What a row does to one of the stored users.
def stepEntry (entry : Orm.Entry CpiUser) (row : CpiRow) : Orm.Entry CpiUser :=
  if row.active then Orm.changeIf (hasCpiId row.cpiId) (renewKey row.cpiId (keyOf keys row)) entry
  else Orm.doomIf (hasCpiId row.cpiId) entry

def isNew (known : List String) (row : CpiRow) : Bool := row.active && !known.contains row.cpiId

def idsOf (table : Orm.Table CpiUser) : List String := table.all.map (·.cpiId)

theorem step_entry_id (entry : Orm.Entry CpiUser) (row : CpiRow) : (stepEntry keys entry row).value.cpiId = entry.value.cpiId := by
  rw [stepEntry, Orm.changeIf, Orm.doomIf]
  split
  · split
    · rfl
    · rfl
  · split
    · rfl
    · rfl

-- What a row leaves when it does not raise.
structure RowDone (state next : CpiState) (row : CpiRow) : Prop where
  rows : next.table.rows = state.table.rows.map fun entry => stepEntry keys entry row
  pending : next.table.pending = state.table.pending ++ if isNew (idsOf state.table) row then [newUser keys row] else []
  seen : next.seenActive = (if row.active then [row.cpiId] else []) ++ state.seenActive
  fetched : row.active = true → publicKeyOf keys row = .ok (keyOf keys row)

theorem single_id (table : Orm.Table CpiUser) (unique : (idsOf table).Nodup) (cpiId : String) :
    table.rows.Pairwise fun first second => ¬ (hasCpiId cpiId first.value = true ∧ hasCpiId cpiId second.value = true) := by
  rw [idsOf, Orm.Table.all, List.map_map, List.Nodup, List.pairwise_map] at unique
  apply unique.imp
  intro first second apart both
  simp only [hasCpiId, decide_eq_true_eq] at both
  exact apart (both.1.trans both.2.symm)

theorem known_any (table : Orm.Table CpiUser) (cpiId : String) :
    (table.rows.any fun entry => hasCpiId cpiId entry.value) = (idsOf table).contains cpiId := by
  rw [Bool.eq_iff_iff, List.any_eq_true, List.contains_iff_mem, idsOf, Orm.Table.all, List.map_map, List.mem_map]
  simp only [hasCpiId, decide_eq_true_eq, Function.comp]

theorem row_done (state next : CpiState) (row : CpiRow) (named : row.cpiId ≠ "") (unique : (idsOf state.table).Nodup)
    (done : syncCpiRow keys state row = .ok next) : RowDone keys state next row := by
  rw [syncCpiRow, if_neg named] at done
  cases active : row.active with
  | false =>
      rw [active] at done
      cases done
      refine ⟨?_, ?_, ?_, ?_⟩
      · simp only [stepEntry, active, Bool.false_eq_true, if_false]
        rfl
      · simp only [isNew, active, Bool.false_and, Bool.false_eq_true, if_false, List.append_nil]
        rfl
      · simp [active]
      · intro absurdity
        rw [active] at absurdity
        cases absurdity
  | true =>
      rw [active] at done
      cases fetched : publicKeyOf keys row with
      | error error =>
          rw [fetched] at done
          cases done
      | ok key =>
          rw [fetched] at done
          cases done
          have own := key_of_ok keys row key fetched
          rw [← own, Orm.put_single _ _ _ _ (single_id state.table unique row.cpiId), known_any]
          refine ⟨?_, ?_, ?_, ?_⟩
          · simp only [stepEntry, active, if_true]
          · by_cases known : row.cpiId ∈ idsOf state.table
            · simp [isNew, known]
            · simp [isNew, active, known, newUser]
          · simp [active]
          · intro _
            rw [own]
            exact fetched

theorem row_ids (state next : CpiState) (row : CpiRow) (done : RowDone keys state next row) :
    idsOf next.table = idsOf state.table := by
  rw [idsOf, idsOf, Orm.Table.all, Orm.Table.all, done.rows, List.map_map, List.map_map, List.map_map]
  apply List.map_congr_left
  intro entry _
  exact step_entry_id keys entry row

-- What all rows of a feed leave.
structure FeedDone (state last : CpiState) (feed : List CpiRow) : Prop where
  rows : last.table.rows = state.table.rows.map fun entry => feed.foldl (stepEntry keys) entry
  pending : last.table.pending = state.table.pending ++ (feed.filter (isNew (idsOf state.table))).map (newUser keys)
  seen : ∀ cpiId, cpiId ∈ last.seenActive ↔ cpiId ∈ state.seenActive ∨ ∃ row ∈ feed, row.active = true ∧ row.cpiId = cpiId
  fetched : ∀ row ∈ feed, row.active = true → publicKeyOf keys row = .ok (keyOf keys row)

theorem feed_done (feed : List CpiRow) (state last : CpiState) (named : ∀ row ∈ feed, row.cpiId ≠ "")
    (unique : (idsOf state.table).Nodup) (done : feed.foldlM (syncCpiRow keys) state = .ok last) :
    FeedDone keys state last feed := by
  induction feed generalizing state with
  | nil =>
      cases done
      refine ⟨?_, ?_, ?_, ?_⟩
      · simp
      · simp
      · simp
      · simp
  | cons row rest ih =>
      rw [List.foldlM_cons] at done
      obtain ⟨next, first, others⟩ := Collect.bind_ok _ _ last done
      obtain ⟨isNamed, areNamed⟩ := List.forall_mem_cons.mp named
      have head := row_done keys state next row isNamed unique first
      have same := row_ids keys state next row head
      have tail := ih next areNamed (same ▸ unique) others
      refine ⟨?_, ?_, ?_, ?_⟩
      · rw [tail.rows, head.rows, List.map_map]
        rfl
      · rw [tail.pending, head.pending, same, List.filter_cons]
        by_cases new : isNew (idsOf state.table) row = true
        · simp [new]
        · simp [new]
      · intro cpiId
        have here : cpiId ∈ (if row.active then [row.cpiId] else []) ↔ row.active = true ∧ row.cpiId = cpiId := by
          by_cases active : row.active = true
          · simp [active, eq_comm]
          · simp [active]
        rw [tail.seen, head.seen, List.mem_append, here, List.exists_mem_cons_iff, or_assoc, or_left_comm]
      · rw [List.forall_mem_cons]
        exact ⟨head.fetched, tail.fetched⟩

-- Rows without a CPI change nothing.
theorem blank_rows_skipped (feed : List CpiRow) (state : CpiState) :
    feed.foldlM (syncCpiRow keys) state = (feed.filter fun row => row.cpiId ≠ "").foldlM (syncCpiRow keys) state := by
  induction feed generalizing state with
  | nil => rfl
  | cons row rest ih =>
      by_cases named : row.cpiId = ""
      · have skipped : syncCpiRow keys state row = .ok state := if_pos named
        rw [List.foldlM_cons, skipped, List.filter_cons, if_neg (by simpa using named)]
        exact ih state
      · rw [List.foldlM_cons, List.filter_cons, if_pos (by simpa using named), List.foldlM_cons]
        exact congrArg _ (funext ih)

section Entries

variable (feed : List CpiRow) (entry : Orm.Entry CpiUser)

def isOf (cpiId : String) (row : CpiRow) : Bool := row.cpiId = cpiId

def revokes (cpiId : String) (row : CpiRow) : Bool := !row.active && isOf cpiId row

def activates (cpiId : String) (row : CpiRow) : Bool := row.active && isOf cpiId row

def lastActive (cpiId : String) : Option CpiRow := (feed.filter (activates cpiId)).getLast?

theorem entry_id : (feed.foldl (stepEntry keys) entry).value.cpiId = entry.value.cpiId := by
  induction feed generalizing entry with
  | nil => rfl
  | cons row rest ih => rw [List.foldl_cons, ih, step_entry_id]

-- A deletion stays, whatever row comes after it.
theorem entry_doomed :
    (feed.foldl (stepEntry keys) entry).doomed = (entry.doomed || feed.any (revokes entry.value.cpiId)) := by
  induction feed generalizing entry with
  | nil => simp
  | cons row rest ih =>
      have one : (stepEntry keys entry row).doomed = (entry.doomed || revokes entry.value.cpiId row) := by
        rw [stepEntry, Orm.changeIf, Orm.doomIf, revokes, isOf, hasCpiId]
        by_cases active : row.active = true
        · simp only [active, if_true, Bool.not_true, Bool.false_and, Bool.or_false]
          split
          · rfl
          · rfl
        · by_cases same : entry.value.cpiId = row.cpiId
          · simp [active, same]
          · simp [active, same, Ne.symm same]
      rw [List.foldl_cons, ih, one, step_entry_id, List.any_cons, Bool.or_assoc]

theorem entry_key :
    (feed.foldl (stepEntry keys) entry).value.cpiPublicKey =
      match lastActive feed entry.value.cpiId with
      | some row => keyOf keys row
      | none => entry.value.cpiPublicKey := by
  induction feed generalizing entry with
  | nil => rfl
  | cons row rest ih =>
      have one : (stepEntry keys entry row).value.cpiPublicKey =
          if activates entry.value.cpiId row then keyOf keys row else entry.value.cpiPublicKey := by
        rw [stepEntry, Orm.changeIf, Orm.doomIf, activates, isOf, hasCpiId]
        by_cases active : row.active = true
        · by_cases same : entry.value.cpiId = row.cpiId
          · simp [active, same, renewKey]
          · simp [active, same, Ne.symm same]
        · by_cases same : entry.value.cpiId = row.cpiId
          · simp [active, same]
          · simp [active, same]
      rw [List.foldl_cons, ih, one, step_entry_id, lastActive, lastActive, List.filter_cons]
      by_cases hit : activates entry.value.cpiId row = true
      · rw [if_pos hit, if_pos hit, List.getLast?_cons]
        cases (rest.filter (activates entry.value.cpiId)).getLast? with
        | none => rfl
        | some later => rfl
      · rw [if_neg hit, if_neg hit]

end Entries

section Stored

variable (users stored : CpiUsers) (feed : List CpiRow) (state : CpiState)

theorem ids_stored : idsOf (.stored users.users) = knownIds users := by
  rw [idsOf, Orm.all_stored]
  rfl

theorem committed_settled (table : Orm.Table CpiUser) (committed : commitCpiUsers table = .ok stored) :
    stored.users = table.settled ∧ ((table.all ++ table.pending).map (·.cpiId)).Nodup := by
  rw [commitCpiUsers] at committed
  split at committed
  · rename_i unique
    cases committed
    exact ⟨rfl, unique⟩
  · cases committed

theorem mem_stored (done : FeedDone keys ⟨.stored users.users, []⟩ state feed)
    (committed : commitCpiUsers (sweepCpi state) = .ok stored) (user : CpiUser) :
    user ∈ stored.users ↔
      (∃ held ∈ users.users, (feed.foldl (stepEntry keys) (Orm.kept held)).doomed = false ∧ held.cpiId ∈ state.seenActive ∧
          (feed.foldl (stepEntry keys) (Orm.kept held)).value = user) ∨
        ∃ row ∈ feed, isNew (knownIds users) row = true ∧ newUser keys row = user := by
  have rows : state.table.rows = users.users.map fun held => feed.foldl (stepEntry keys) (Orm.kept held) := by
    rw [done.rows]
    exact List.map_map
  rw [(committed_settled stored (sweepCpi state) committed).1, sweepCpi, Orm.settled_doom, done.pending, List.mem_append,
    Orm.Table.survivors, rows, ids_stored]
  apply or_congr
  · simp only [List.mem_filter, List.mem_map, Bool.not_not, List.contains_iff_mem, Bool.not_eq_true']
    constructor
    · rintro ⟨⟨entry, ⟨⟨held, member, isEntry⟩, alive⟩, isUser⟩, seen⟩
      rw [← isEntry] at alive isUser
      rw [← isUser, entry_id] at seen
      exact ⟨held, member, alive, seen, isUser⟩
    · rintro ⟨held, member, alive, seen, isUser⟩
      refine ⟨⟨_, ⟨⟨held, member, rfl⟩, alive⟩, isUser⟩, ?_⟩
      rw [← isUser, entry_id]
      exact seen
  · simp only [Orm.Table.stored, List.nil_append, List.mem_map, List.mem_filter, and_assoc]

-- What the commit stores under an id: a stored user that no row revokes, with its last key, or a new one.
theorem stored_iff (done : FeedDone keys ⟨.stored users.users, []⟩ state feed)
    (committed : commitCpiUsers (sweepCpi state) = .ok stored) (cpiId key : String) :
    (∃ user ∈ stored.users, user.cpiId = cpiId ∧ user.cpiPublicKey = key) ↔
      (cpiId ∈ knownIds users ∧ feed.any (revokes cpiId) = false ∧ ∃ row, lastActive feed cpiId = some row ∧ keyOf keys row = key) ∨
        ∃ row ∈ feed, isNew (knownIds users) row = true ∧ row.cpiId = cpiId ∧ keyOf keys row = key := by
  have doomed := fun held => entry_doomed keys feed (Orm.kept held)
  have keyAfter := fun held => entry_key keys feed (Orm.kept held)
  have idAfter := fun held => entry_id keys feed (Orm.kept held)
  simp only [Orm.kept, Bool.false_or] at doomed keyAfter idAfter
  have seen : ∀ held : String, held ∈ state.seenActive ↔ ∃ row, lastActive feed held = some row := by
    intro held
    rw [done.seen, ← Option.isSome_iff_exists, lastActive, List.getLast?_isSome]
    simp [List.filter_eq_nil_iff, activates, isOf]
  simp only [mem_stored keys users stored feed state done committed]
  constructor
  · rintro ⟨user, ⟨held, member, alive, active, isUser⟩ | ⟨row, member, new, isUser⟩, isId, isKey⟩
    · left
      rw [← isUser] at isId isKey
      have same : held.cpiId = cpiId := (idAfter held).symm.trans isId
      obtain ⟨row, isLast⟩ := (seen held.cpiId).mp active
      have last := keyAfter held
      rw [isLast] at last
      rw [← same]
      exact ⟨List.mem_map_of_mem member, (doomed held).symm.trans alive, row, isLast, last.symm.trans isKey⟩
    · right
      rw [← isUser] at isId isKey
      exact ⟨row, member, new, isId, isKey⟩
  · rintro (⟨known, kept, row, isLast, isKey⟩ | ⟨row, member, new, isId, isKey⟩)
    · obtain ⟨held, member, same⟩ := List.mem_map.mp known
      rw [← same] at kept isLast ⊢
      have last := keyAfter held
      rw [isLast] at last
      exact ⟨_, .inl ⟨held, member, (doomed held).trans kept, (seen held.cpiId).mpr ⟨row, isLast⟩, rfl⟩, idAfter held,
        last.trans isKey⟩
    · exact ⟨newUser keys row, .inr ⟨row, member, new, rfl⟩, isId, isKey⟩

-- The unique index leaves one activation of a new id.
theorem new_row_single (done : FeedDone keys ⟨.stored users.users, []⟩ state feed)
    (committed : commitCpiUsers (sweepCpi state) = .ok stored) (first second : CpiRow) (member : first ∈ feed)
    (other : second ∈ feed) (new : isNew (knownIds users) first = true) (alsoNew : isNew (knownIds users) second = true)
    (same : first.cpiId = second.cpiId) : first = second := by
  have unique := (committed_settled stored (sweepCpi state) committed).2
  rw [List.map_append] at unique
  have pending := (List.nodup_append.mp unique).2.1
  rw [sweepCpi, Orm.Table.doom, done.pending, ids_stored, Orm.Table.stored, List.nil_append, List.map_map] at pending
  exact List.inj_on_of_nodup_map pending (List.mem_filter.mpr ⟨member, new⟩) (List.mem_filter.mpr ⟨other, alsoNew⟩) same

end Stored

end Rows

section Outcome

variable {K : Type} [Field K] [LinearOrder K] (keys : KeyServer) (env : SyncEnv K) (indexUrl : String) (checksum : Json K)
  (users : CpiUsers) (tables : Tables K) (result : CpiUsers × Tables K)

theorem feed_applied (raw : String) (table : Orm.Table CpiUser) (applied : applyCpiFeed keys raw users = .ok table) :
    ∃ state, FeedDone keys ⟨.stored users.users, []⟩ state (namedRows raw) ∧ table = sweepCpi state := by
  rw [applyCpiFeed, blank_rows_skipped] at applied
  split at applied
  · cases applied
  · rename_i state ran
    split at applied
    · cases applied
    · cases applied
      have unique : (idsOf (.stored users.users)).Nodup := by
        rw [ids_stored]
        exact users.unique
      refine ⟨state, feed_done keys _ _ state (fun row member => ?_) unique ran, rfl⟩
      simpa using (List.mem_filter.mp member).2

theorem synced_feed (pair : Orm.Table CpiUser × Tables K) (synced : syncCpi keys env indexUrl checksum users tables = .ok pair) :
    ∃ raw, cpiFeedOf env indexUrl = namedRows raw ∧ applyCpiFeed keys raw users = .ok pair.1 := by
  rw [syncCpi] at synced
  rw [cpiFeedOf]
  cases got : env.httpGet indexUrl false with
  | error error =>
      rw [got] at synced
      cases synced
  | ok body =>
      simp only [got] at synced
      split at synced
      · cases synced
      · cases decoded : String.fromUTF8? body with
        | none =>
            rw [decoded] at synced
            cases synced
        | some raw =>
            simp only [decoded] at synced ⊢
            obtain ⟨table, applied, same⟩ := Collect.map_ok _ _ pair synced
            rw [← same]
            exact ⟨raw, rfl, applied⟩

-- A sync that succeeds has processed every row of its feed.
theorem reconciled (done : reconcileCpi keys env indexUrl checksum users tables = .ok result) :
    ∃ state, FeedDone keys ⟨.stored users.users, []⟩ state (cpiFeedOf env indexUrl) ∧
      commitCpiUsers (sweepCpi state) = .ok result.1 := by
  rw [reconcileCpi] at done
  split at done
  · cases done
  · rename_i table written synced
    obtain ⟨stored, committed, same⟩ := Collect.map_ok _ _ result done
    obtain ⟨raw, isFeed, applied⟩ := synced_feed keys env indexUrl checksum users tables (table, written) synced
    obtain ⟨state, processed, swept⟩ := feed_applied keys users raw table applied
    rw [← same, isFeed]
    exact ⟨state, processed, swept ▸ committed⟩

theorem last_row_of (feed : List CpiRow) (cpiId : String) (last : CpiRow) (isLast : lastRow feed cpiId = some last) :
    last ∈ feed ∧ last.cpiId = cpiId := by
  have member := List.mem_of_getLast? isLast
  simpa [rowsOf] using member

theorem last_row_some (feed : List CpiRow) (row : CpiRow) (member : row ∈ feed) : ∃ last, lastRow feed row.cpiId = some last := by
  rw [← Option.isSome_iff_exists, lastRow, List.getLast?_isSome]
  apply List.ne_nil_of_mem (a := row)
  simpa [rowsOf] using member

-- Without a revocation the last row is the last activation.
theorem last_active_row (feed : List CpiRow) (cpiId : String) (kept : feed.any (revokes cpiId) = false) :
    lastActive feed cpiId = lastRow feed cpiId := by
  rw [lastActive, lastRow, rowsOf]
  congr 1
  apply List.filter_congr
  intro row member
  have notRevoked := (List.any_eq_false.mp kept) row member
  simp only [revokes, activates, isOf] at notRevoked ⊢
  by_cases active : row.active = true
  · simp [active]
  · simpa [active] using notRevoked

-- For every prior table and feed: a sync that succeeds stores what the last rows say exactly when no stored CPI is activated
-- after a row of another status, and no new one has such a row after its activation.
theorem cpi_follows_feed_iff (done : reconcileCpi keys env indexUrl checksum users tables = .ok result) :
    FollowsFeed keys (cpiFeedOf env indexUrl) result.1 ↔ NoReversal (cpiFeedOf env indexUrl) users := by
  obtain ⟨state, processed, committed⟩ := reconciled keys env indexUrl checksum users tables result done
  generalize cpiFeedOf env indexUrl = feed at processed ⊢
  have stores := stored_iff keys users result.1 feed state processed committed
  have isNewIff : ∀ row : CpiRow, isNew (knownIds users) row = true ↔ row.active = true ∧ row.cpiId ∉ knownIds users := by
    intro row
    simp [isNew]
  constructor
  · intro follows row member last isLast
    obtain ⟨lastMember, lastId⟩ := last_row_of feed row.cpiId last isLast
    split
    · rename_i known
      intro inactive
      by_contra active
      rw [Bool.not_eq_false] at active
      have fetched := processed.fetched last lastMember active
      obtain ⟨_, kept, _⟩ | ⟨other, _, new, isId, _⟩ :=
        (stores row.cpiId (keyOf keys last)).mp ((follows row.cpiId _).mpr ⟨last, isLast, active, fetched⟩)
      · have revoked := (List.any_eq_false.mp kept) row member
        simp [revokes, isOf, inactive] at revoked
      · rw [isNewIff, isId] at new
        exact new.2 known
    · rename_i unknown
      intro active
      obtain ⟨other, isOther, otherActive, _⟩ := (follows row.cpiId _).mp
        ((stores row.cpiId (keyOf keys row)).mpr (.inr ⟨row, member, (isNewIff row).mpr ⟨active, unknown⟩, rfl, rfl⟩))
      rw [Option.some.inj (isLast.symm.trans isOther)]
      exact otherActive
  · intro steady cpiId key
    rw [stores]
    constructor
    · rintro (⟨known, kept, row, isLast, isKey⟩ | ⟨row, member, new, isId, isKey⟩)
      · have chosen := List.mem_filter.mp (List.mem_of_getLast? isLast)
        have active : row.active = true := by
          have both := chosen.2
          rw [activates, Bool.and_eq_true] at both
          exact both.1
        rw [last_active_row feed cpiId kept] at isLast
        exact ⟨row, isLast, active, isKey ▸ processed.fetched row chosen.1 active⟩
      · obtain ⟨active, unknown⟩ := (isNewIff row).mp new
        obtain ⟨last, isLast⟩ := last_row_some feed row member
        obtain ⟨lastMember, lastId⟩ := last_row_of feed row.cpiId last isLast
        have lastActive := steady row member last isLast
        rw [if_neg unknown] at lastActive
        have alsoNew := (isNewIff last).mpr ⟨lastActive active, lastId ▸ unknown⟩
        have same := new_row_single keys users result.1 feed state processed committed last row lastMember member alsoNew new lastId
        rw [same, isId] at isLast
        exact ⟨row, isLast, active, isKey ▸ processed.fetched row member active⟩
    · rintro ⟨row, isLast, active, isKey⟩
      obtain ⟨member, isId⟩ := last_row_of feed cpiId row isLast
      have ownKey := key_of_ok keys row key isKey
      by_cases known : cpiId ∈ knownIds users
      · left
        have kept : feed.any (revokes cpiId) = false := by
          rw [List.any_eq_false]
          intro other otherMember revoked
          simp only [revokes, isOf, Bool.and_eq_true, Bool.not_eq_true', decide_eq_true_eq] at revoked
          have reversed := steady other otherMember row (revoked.2 ▸ isLast)
          rw [revoked.2, if_pos known] at reversed
          rw [reversed revoked.1] at active
          cases active
        exact ⟨known, kept, row, (last_active_row feed cpiId kept).trans isLast, ownKey⟩
      · right
        exact ⟨row, member, (isNewIff row).mpr ⟨active, isId ▸ known⟩, isId, ownKey⟩

end Outcome

-- An index with these rows, a server with one key, and no CPI users before.
def cpiIndex (rows : String) : String := "cpiId,status,publicKeyIdentifier\n" ++ rows

def plainKeys : KeyServer := fun _ _ => .ok "KEY".toUTF8

def noCpiUsers : CpiUsers := ⟨[], List.nodup_nil⟩

def indexEnv (rows : String) : SyncEnv Rat := syncSampleEnv (cpiIndex rows).toUTF8

theorem index_feed (rows : String) : cpiFeedOf (indexEnv rows) "" = namedRows (cpiIndex rows) := by
  rw [cpiFeedOf]
  change (match String.fromUTF8? (cpiIndex rows).toUTF8 with | none => [] | some raw => namedRows raw) = _
  rw [Fad.decode_encode]

theorem plain_key (row : CpiRow) (addressed : row.keyUrl ≠ "") : publicKeyOf plainKeys row = .ok "KEY" := by
  simp only [publicKeyOf, if_neg addressed, plainKeys, Fad.decode_encode]
  rfl

theorem index_synced (rows : String) (table : Orm.Table CpiUser) (stored : CpiUsers)
    (applied : applyCpiFeed plainKeys (cpiIndex rows) noCpiUsers = .ok table) (committed : commitCpiUsers table = .ok stored) :
    reconcileCpi plainKeys (indexEnv rows) "" .null noCpiUsers Tables.empty =
      .ok (stored, (bumpInjectionGeneration .cpi Tables.empty).flush) := by
  have synced : syncCpi plainKeys (indexEnv rows) "" .null noCpiUsers Tables.empty =
      .ok (table, bumpInjectionGeneration .cpi Tables.empty) := by
    change (match String.fromUTF8? (cpiIndex rows).toUTF8 with
      | none => Except.error _
      | some raw => (applyCpiFeed plainKeys raw noCpiUsers).map fun table => (table, bumpInjectionGeneration .cpi Tables.empty)) = _
    rw [Fad.decode_encode]
    simp only [applied]
    rfl
  rw [reconcileCpi, synced]
  simp only [committed]
  rfl

def oneCpiUser : CpiUsers := ⟨[⟨"cpi-1", "cpi-1", "KEY"⟩], List.nodup_singleton _⟩

def revokedAfter : String := "cpi-1,ACTIVE,https://keys/1\ncpi-1,REVOKED,\n"

def activeAfter : String := "cpi-1,REVOKED,\ncpi-1,ACTIVE,https://keys/1\n"

def activeRow (index : Nat) : CpiRow := ⟨index, "cpi-1", "ACTIVE", "https://keys/1"⟩

def revokedRow (index : Nat) : CpiRow := ⟨index, "cpi-1", "REVOKED", ""⟩

theorem revoked_after_rows : cpiRows (cpiIndex revokedAfter) = [activeRow 0, revokedRow 1] := by decide +kernel

theorem active_after_rows : cpiRows (cpiIndex activeAfter) = [revokedRow 0, activeRow 1] := by decide +kernel

theorem active_row_synced (state : CpiState) (index : Nat) :
    syncCpiRow plainKeys state (activeRow index) =
      .ok ⟨state.table.put (hasCpiId "cpi-1") (renewKey "cpi-1" "KEY") ⟨"cpi-1", "cpi-1", "KEY"⟩, "cpi-1" :: state.seenActive⟩ := by
  have named : (activeRow index).cpiId ≠ "" := by simp [activeRow]
  have upper : PyText.upper "ACTIVE".toList = "ACTIVE".toList := by decide +kernel
  have active : (activeRow index).active = true := decide_eq_true upper
  rw [syncCpiRow, if_neg named, active, plain_key (activeRow index) (by simp [activeRow])]
  rfl

theorem revoked_after_synced :
    reconcileCpi plainKeys (indexEnv revokedAfter) "" .null noCpiUsers Tables.empty =
      .ok (oneCpiUser, (bumpInjectionGeneration .cpi Tables.empty).flush) := by
  have ending : (Csv.dictRows (cpiIndex revokedAfter).toList).2 = none := by decide +kernel
  have applied : applyCpiFeed plainKeys (cpiIndex revokedAfter) noCpiUsers = .ok ⟨[], oneCpiUser.users⟩ := by
    rw [applyCpiFeed, revoked_after_rows, ending, List.foldlM_cons, active_row_synced]
    rfl
  exact index_synced revokedAfter _ oneCpiUser applied rfl

theorem active_after_synced :
    reconcileCpi plainKeys (indexEnv activeAfter) "" .null noCpiUsers Tables.empty =
      .ok (oneCpiUser, (bumpInjectionGeneration .cpi Tables.empty).flush) := by
  have ending : (Csv.dictRows (cpiIndex activeAfter).toList).2 = none := by decide +kernel
  have applied : applyCpiFeed plainKeys (cpiIndex activeAfter) noCpiUsers = .ok ⟨[], oneCpiUser.users⟩ := by
    have first : ∀ state, syncCpiRow plainKeys state (revokedRow 0) =
        .ok { state with table := state.table.doom (hasCpiId "cpi-1") } := fun _ => rfl
    rw [applyCpiFeed, active_after_rows, ending, List.foldlM_cons, first]
    change (match [activeRow 1].foldlM (syncCpiRow plainKeys) ⟨(Orm.Table.stored noCpiUsers.users).doom (hasCpiId "cpi-1"), []⟩ with
      | .error error => Except.error error
      | .ok state => .ok (sweepCpi state)) = _
    rw [List.foldlM_cons, active_row_synced]
    rfl
  exact index_synced activeAfter _ oneCpiUser applied rfl

-- A CPI that a later row revokes is trusted after the sync.
theorem revoked_cpi_stays :
    ¬ ∀ (keys : KeyServer) (env : SyncEnv Rat) (indexUrl : String) (checksum : Json Rat) (users : CpiUsers) (tables : Tables Rat)
      (result : CpiUsers × Tables Rat), reconcileCpi keys env indexUrl checksum users tables = .ok result →
      FollowsFeed keys (cpiFeedOf env indexUrl) result.1 := by
  intro claim
  have follows := claim plainKeys (indexEnv revokedAfter) "" .null noCpiUsers Tables.empty _ revoked_after_synced
  have trusted := (follows "cpi-1" "KEY").mp ⟨_, List.mem_singleton_self _, rfl, rfl⟩
  obtain ⟨row, isLast, active, _⟩ := trusted
  rw [index_feed, namedRows, revoked_after_rows] at isLast
  have revoked : lastRow ([activeRow 0, revokedRow 1].filter fun row => row.cpiId ≠ "") "cpi-1" = some (revokedRow 1) := by
    decide +kernel
  rw [Option.some.inj (isLast.symm.trans revoked)] at active
  have inactive : (revokedRow 1).active = false := by decide +kernel
  rw [inactive] at active
  cases active

-- One that a later row activates is stored, where it was not stored before.
theorem cpi_follows_feed_iff_sample : FollowsFeed plainKeys (cpiFeedOf (indexEnv activeAfter) "") oneCpiUser := by
  apply (cpi_follows_feed_iff plainKeys (indexEnv activeAfter) "" .null noCpiUsers Tables.empty _ active_after_synced).mpr
  rw [index_feed, namedRows, active_after_rows]
  intro row member last isLast
  have kept : ∀ row ∈ [revokedRow 0, activeRow 1].filter (fun row => row.cpiId ≠ ""), row.cpiId = "cpi-1" := by decide +kernel
  rw [kept row member] at isLast ⊢
  have active : lastRow ([revokedRow 0, activeRow 1].filter fun row => row.cpiId ≠ "") "cpi-1" = some (activeRow 1) := by
    decide +kernel
  have unknown : "cpi-1" ∉ knownIds noCpiUsers := List.not_mem_nil
  rw [if_neg unknown, Option.some.inj ((Option.mem_def.mp isLast).symm.trans active)]
  intro _
  decide +kernel

end SasCore.Federal
