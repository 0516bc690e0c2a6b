import SasCore.Dpa.MovelistRows

set_option autoImplicit false
set_option linter.unusedSectionVars false

-- When a movelist refresh is all or nothing on the stored rows.
namespace SasCore.Dpa.StoredRows

variable {K : Type} [Field K] [LinearOrder K]

section Statement

variable (readers : PyReaders K) (backends : DpaBackends K) (channels : List (RangeKey × ProtectedDpaChannel K))

-- The key and the channel of a row that the refresh evaluates; the rows without one are to stay as they are.
def evaluatedRow (row : Row K) : Option (RangeKey × ProtectedDpaChannel K) := (activation row).bind (evaluated readers channels)

def evaluatedKeys (rows : List (Row K)) : List RangeKey :=
  rows.filterMap fun row => (evaluatedRow readers channels row).map (·.1)

-- An empty source is no tag.
def sourceTag (row : Row K) : Json K := tagOf ((activation row).elim .null (·.field "source"))

def Refreshed (args : RefreshArguments K) (grants : List (DpaGrantRf K)) (before after : Row K) : Prop :=
  match evaluatedRow readers channels before with
  | none => after = before
  | some (_, channel) =>
      ∃ data moved, activation after = some data ∧ movedLocal backends args grants channel = .ok moved ∧
        data.field "movelist" = .array (moved.map .text) ∧ sourceTag after = sourceTag before

-- No grant, wherever it is, counts toward the channel.
def Idle (channel : ProtectedDpaChannel K) : Prop :=
  ∀ grant : DpaGrantRf K, rfInsideProtectedNeighborhood backends grant channel = some false

def search (key : RangeKey) (rows : List (Row K)) : Except RefreshFault (Option Nat) :=
  FirstMatch.locate (sameKey readers key) rows

-- The update of a row reaches that row, or it reaches another evaluated row and has nothing to write on this one.
def Reached (rows : List (Row K)) (place : Nat) (row : Row K) (key : RangeKey) (channel : ProtectedDpaChannel K) : Prop :=
  search readers key rows = .ok (some place) ∨
    ((activation row).map (·.field "movelist") = some (.array []) ∧ Idle backends channel ∧
      ∃ (first : Nat) (other : Row K), search readers key rows = .ok (some first) ∧ rows[first]? = some other ∧
        (evaluatedRow readers channels other).isSome)

def FirstSearchRaises (rows : List (Row K)) : Prop :=
  ∃ key fault, (evaluatedKeys readers channels rows).head? = some key ∧ search readers key rows = .error fault

def Writable (rows : List (Row K)) : Prop :=
  FirstSearchRaises readers channels rows ∨
    ∀ (place : Nat) row key channel, rows[place]? = some row → evaluatedRow readers channels row = some (key, channel) →
      Reached readers backends channels rows place row key channel

variable (geometryOf : Json K → Geometry K) (catalogue : List (Json K)) (rows : List (Row K))

def AllOrNothing (args : RefreshArguments K) : Prop :=
  match refreshActivationMovelists readers backends args geometryOf catalogue rows with
  | (after, .error _) => after = rows
  | (after, .ok _) =>
      ∃ grants, refreshGrants args = .ok grants ∧
        List.Forall₂ (Refreshed readers backends (byKey readers geometryOf catalogue rows) args grants) rows after

end Statement

section Pending

variable (readers : PyReaders K) (backends : DpaBackends K) (args : RefreshArguments K)
variable (channels : List (RangeKey × ProtectedDpaChannel K)) (grants : List (DpaGrantRf K))

theorem evaluated_row_parts (row : Row K) (key : RangeKey) (channel : ProtectedDpaChannel K)
    (held : evaluatedRow readers channels row = some (key, channel)) :
    ∃ act, activation row = some act ∧ rangeKey readers act = some key ∧ PyDict.lookup channels key = some channel := by
  obtain ⟨act, isAct, known⟩ := Option.bind_eq_some_iff.mp held
  obtain ⟨own, isOwn, found⟩ := Option.bind_eq_some_iff.mp known
  obtain ⟨held, isHeld, same⟩ := Option.map_eq_some_iff.mp found
  cases same
  exact ⟨act, isAct, isOwn, isHeld⟩

-- The rows that are evaluated: objects whose range can be read and whose trimmed name is one of the catalogue.
theorem evaluated_row_iff (geometryOf : Json K → Geometry K) (catalogue : List (Json K)) (rows : List (Row K)) (row : Row K)
    (member : row ∈ rows) :
    (evaluatedRow readers (byKey readers geometryOf catalogue rows) row).isSome ↔
      ∃ act key, activation row = some act ∧ rangeKey readers act = some key ∧ key.dpaId ≠ "" ∧
        (PyDict.lookup (byId catalogue) key.dpaId).isSome := by
  constructor
  · intro known
    obtain ⟨⟨key, channel⟩, held⟩ := Option.isSome_iff_exists.mp known
    obtain ⟨act, isAct, own, found⟩ := evaluated_row_parts readers _ row key channel held
    have listed : act ∈ listActiveActivations rows := List.mem_filterMap.mpr ⟨row, member, isAct⟩
    have catalogued := by_key_catalogued readers geometryOf catalogue rows act key listed own
    exact ⟨act, key, isAct, own, catalogued.mp (by rw [found]; rfl)⟩
  · rintro ⟨act, key, isAct, own, catalogued⟩
    have listed : act ∈ listActiveActivations rows := List.mem_filterMap.mpr ⟨row, member, isAct⟩
    have known := (by_key_catalogued readers geometryOf catalogue rows act key listed own).mpr catalogued
    obtain ⟨channel, found⟩ := Option.isSome_iff_exists.mp known
    simp [evaluatedRow, evaluated, isAct, own, found]

-- A row that the update meets for the key of an evaluated row has that key where its own can be read.
theorem met_evaluated_key (row : Row K) (own key : RangeKey) (channel : ProtectedDpaChannel K)
    (held : evaluatedRow readers channels row = some (own, channel))
    (stripped : PyText.strip key.dpaId.toList = key.dpaId.toList) (met : sameKey readers key row = .ok true) : key = own := by
  obtain ⟨act, isAct, isOwn, _⟩ := evaluated_row_parts readers channels row own channel held
  exact met_own_key readers row act own key isAct isOwn stripped met

theorem mem_evaluated_keys (rows : List (Row K)) (key : RangeKey) :
    key ∈ evaluatedKeys readers channels rows ↔
      ∃ (place : Nat) (row : Row K) (channel : ProtectedDpaChannel K), rows[place]? = some row ∧
        evaluatedRow readers channels row = some (key, channel) := by
  rw [evaluatedKeys, List.mem_filterMap]
  constructor
  · rintro ⟨row, member, own⟩
    obtain ⟨⟨key', channel⟩, held, same⟩ := Option.map_eq_some_iff.mp own
    cases same
    obtain ⟨place, isRow⟩ := List.mem_iff_getElem?.mp member
    exact ⟨place, row, channel, isRow, held⟩
  · rintro ⟨place, row, channel, isRow, held⟩
    exact ⟨row, List.mem_of_getElem? isRow, by rw [held]; rfl⟩

-- A row that is not evaluated adds nothing, and one that is adds its key with the movelist of its channel.
theorem pending_cons (act : Json K) (rest : List (Json K)) (pending : List (RangeKey × List String))
    (done : pendingFrom readers backends args channels grants (act :: rest) = .ok pending) :
    (evaluated readers channels act = none ∧ pendingFrom readers backends args channels grants rest = .ok pending) ∨
      ∃ key channel moved others, evaluated readers channels act = some (key, channel) ∧
        movedLocal backends args grants channel = .ok moved ∧
        pendingFrom readers backends args channels grants rest = .ok others ∧ pending = (key, moved) :: others := by
  rw [pendingFrom] at done
  cases own : evaluated readers channels act with
  | none =>
      rw [own] at done
      exact .inl ⟨rfl, done⟩
  | some entry =>
      obtain ⟨key, channel⟩ := entry
      rw [own] at done
      dsimp only at done
      cases moved : movedLocal backends args grants channel with
      | error fault =>
          rw [moved] at done
          cases done
      | ok list =>
          rw [moved] at done
          cases later : pendingFrom readers backends args channels grants rest with
          | error fault =>
              rw [later] at done
              cases done
          | ok others =>
              rw [later] at done
              cases done
              exact .inr ⟨key, channel, list, others, rfl, moved, rfl, rfl⟩

theorem pending_acts (acts : List (Json K)) (pending : List (RangeKey × List String))
    (done : pendingFrom readers backends args channels grants acts = .ok pending) :
    pending.map (·.1) = acts.filterMap fun act => (evaluated readers channels act).map (·.1) := by
  induction acts generalizing pending with
  | nil =>
      cases done
      rfl
  | cons act rest ih =>
      rw [List.filterMap_cons]
      rcases pending_cons readers backends args channels grants act rest pending done with
        ⟨skipped, later⟩ | ⟨key, channel, moved, others, own, _, later, same⟩
      · rw [skipped]
        exact ih pending later
      · rw [own, same, List.map_cons, ih others later]
        rfl

-- The evaluation lists the evaluated rows in their order.
theorem pending_keys (rows : List (Row K)) (pending : List (RangeKey × List String))
    (done : pendingFrom readers backends args channels grants (listActiveActivations rows) = .ok pending) :
    pending.map (·.1) = evaluatedKeys readers channels rows := by
  rw [pending_acts readers backends args channels grants _ pending done, listActiveActivations, List.filterMap_filterMap]
  apply congrArg fun own => rows.filterMap own
  funext row
  cases isAct : activation row with
  | none => simp [evaluatedRow, isAct]
  | some act => simp [evaluatedRow, isAct]

theorem pending_moved (acts : List (Json K)) (pending : List (RangeKey × List String))
    (done : pendingFrom readers backends args channels grants acts = .ok pending) :
    ∀ entry ∈ pending, ∃ channel, PyDict.lookup channels entry.1 = some channel ∧
      movedLocal backends args grants channel = .ok entry.2 := by
  induction acts generalizing pending with
  | nil =>
      cases done
      simp
  | cons act rest ih =>
      rcases pending_cons readers backends args channels grants act rest pending done with
        ⟨_, later⟩ | ⟨key, channel, moved, others, own, isMoved, later, same⟩
      · exact ih pending later
      · obtain ⟨known, _, found⟩ := Option.bind_eq_some_iff.mp own
        obtain ⟨held, isHeld, sameEntry⟩ := Option.map_eq_some_iff.mp found
        cases sameEntry
        subst same
        intro entry member
        rcases List.mem_cons.mp member with first | among
        · exact ⟨channel, by rw [first, isHeld], by rw [first, isMoved]⟩
        · exact ih others later entry among

theorem pending_total (quiet : ∀ channel, ∃ moved, movedLocal backends args grants channel = .ok moved)
    (acts : List (Json K)) : ∃ pending, pendingFrom readers backends args channels grants acts = .ok pending := by
  induction acts with
  | nil => exact ⟨[], rfl⟩
  | cons act rest ih =>
      rw [pendingFrom]
      cases evaluated readers channels act with
      | none => exact ih
      | some entry =>
          obtain ⟨pending, done⟩ := ih
          obtain ⟨moved, found⟩ := quiet entry.2
          dsimp only
          rw [found, done]
          exact ⟨(entry.1, moved) :: pending, rfl⟩

theorem writes_pending (pending : List (RangeKey × List String)) :
    (writes args pending).map (fun write => (write.key, write.movelist)) = pending := by
  rw [writes, List.map_map]
  exact List.zipIdx_map_fst 0 pending

theorem write_pending (pending : List (RangeKey × List String)) (write : MovelistWrite) (member : write ∈ writes args pending) :
    (write.key, write.movelist) ∈ pending := by
  rw [← writes_pending args pending]
  exact List.mem_map.mpr ⟨write, member, rfl⟩

theorem pending_write (pending : List (RangeKey × List String)) (entry : RangeKey × List String) (member : entry ∈ pending) :
    ∃ write ∈ writes args pending, (write.key, write.movelist) = entry := by
  rw [← writes_pending args pending] at member
  exact List.mem_map.mp member

end Pending

section Updates

variable (readers : PyReaders K)

def writeTest (write : MovelistWrite) (row : Row K) : Except RefreshFault Bool := sameKey readers write.key row

def freshRow (write : MovelistWrite) : Row K := some (activationPayload write .null)

def Stamped (stamp : String) (row : Row K) : Prop := ∃ data, row = some data ∧ data.field "activatedAt" = .text stamp

theorem update_rows_run (args : RefreshArguments K) (pending : List (RangeKey × List String)) (rows : List (Row K)) :
    updateRows readers args pending rows =
      FirstMatch.writeAll (FirstMatch.upsertEach (writeTest readers) rewritten freshRow) (writes args pending) rows := rfl

theorem finds_search (rows : List (Row K)) (write : MovelistWrite) (place : Nat) :
    FirstMatch.Finds (writeTest readers) rows write place ↔ search readers write.key rows = .ok (some place) := Iff.rfl

theorem source_kept (write : MovelistWrite) (row : Row K) : sourceTag (rewritten write row) = sourceTag row := by
  rw [sourceTag, sourceTag, rewritten, payload_activation, Option.elim_some, payload_source, tag_of_tag]

theorem rewritten_stamped (write : MovelistWrite) (row : Row K) : Stamped write.writtenAt (rewritten write row) :=
  ⟨_, rfl, payload_stamp write _⟩

theorem fresh_stamped (write : MovelistWrite) : Stamped write.writtenAt (freshRow (K := K) write) :=
  ⟨_, rfl, payload_stamp write _⟩

-- Some text is the time of no stored row.
theorem unused_stamp (rows : List (Row K)) : ∃ stamp, ∀ row ∈ rows, ¬ Stamped stamp row := by
  have many : Function.Injective fun count : Nat => String.ofList (List.replicate count 'x') := by
    intro first second same
    have lists := String.ofList_injective same
    simpa using congrArg List.length lists
  have infinite : Infinite String := Infinite.of_injective _ many
  have plain : PyReaders K := ⟨fun _ => none, fun _ => none, fun _ => none, fun _ => 0, fun _ => ""⟩
  obtain ⟨stamp, fresh⟩ := Infinite.exists_notMem_finset
    (rows.filterMap fun row => row.map fun data => (data.field "activatedAt").toText plain).toFinset
  refine ⟨stamp, fun row member stamped => fresh ?_⟩
  obtain ⟨data, isData, same⟩ := stamped
  rw [List.mem_toFinset, List.mem_filterMap]
  exact ⟨row, member, by rw [isData, Option.map_some, same, Json.toText]⟩

end Updates

section Probe

variable (backends : DpaBackends K)

-- A refresh of these grants with no path loss at hand, where all that overlap a channel move.
def probe (grants : List (DpaGrantRf K)) (stamp : String) : RefreshArguments K where
  pathLoss := fun _ _ _ _ => .error .unavailable
  localGrants := some grants
  peerGrants := []
  eirpByGrantId := []
  excludeGrantIds := []
  collected := .ok []
  clock := fun _ => stamp

theorem probe_grants (grants : List (DpaGrantRf K)) (stamp : String) : refreshGrants (probe grants stamp) = .ok grants := by
  have same : grants.map (adjusted []) = grants := List.map_id grants
  simp [refreshGrants, probe, same]

theorem probe_evaluates (channel : ProtectedDpaChannel K) (grants held : List (DpaGrantRf K)) (stamp : String) :
    ∃ evaluation, evaluateOrRaise backends (probe held stamp).pathLoss channel grants = .ok evaluation := by
  unfold evaluateOrRaise
  dsimp only
  cases channel.geometry.bind polygonRepresentativePoint with
  | none => exact ⟨_, rfl⟩
  | some point =>
      cases grants.filter fun g => overlapsChannel g.lowHz g.highHz channel with
      | nil => exact ⟨_, rfl⟩
      | cons grant rest => exact ⟨_, rfl⟩

theorem probe_total (channel : ProtectedDpaChannel K) (grants held : List (DpaGrantRf K)) (stamp : String) :
    ∃ moved, movedLocal backends (probe held stamp) grants channel = .ok moved := by
  obtain ⟨evaluation, done⟩ :=
    probe_evaluates backends channel (filterGrantsInNeighborhood backends channel grants) held stamp
  rw [movedLocal, done]
  exact ⟨_, rfl⟩

-- Without a grant around the channel nothing moves.
theorem empty_moved (args : RefreshArguments K) (channel : ProtectedDpaChannel K) (grants : List (DpaGrantRf K))
    (empty : filterGrantsInNeighborhood backends channel grants = []) :
    movedLocal backends args grants channel = .ok [] := by
  rw [movedLocal, empty]
  unfold evaluateOrRaise
  dsimp only
  cases channel.geometry.bind polygonRepresentativePoint with
  | none => simp [Except.map]
  | some point => simp [Except.map]

theorem idle_moved (args : RefreshArguments K) (channel : ProtectedDpaChannel K) (grants : List (DpaGrantRf K))
    (idle : Idle backends channel) : movedLocal backends args grants channel = .ok [] := by
  apply empty_moved
  rw [filterGrantsInNeighborhood, List.filter_eq_nil_iff]
  intro grant _
  simp [idle grant]

def acrossChannel (channel : ProtectedDpaChannel K) (grant : DpaGrantRf K) : DpaGrantRf K :=
  { grant with lowHz := channel.highHz - 1, highHz := channel.lowHz + 1, isManagingSas := true }

theorem across_overlaps (channel : ProtectedDpaChannel K) (grant : DpaGrantRf K) :
    ([acrossChannel channel grant].filter fun g => overlapsChannel g.lowHz g.highHz channel) = [acrossChannel channel grant] := by
  simp [overlapsChannel, acrossChannel]

theorem unheard_evaluation (channel : ProtectedDpaChannel K) (grant : DpaGrantRf K) (marginDb : K) :
    evaluateProtectedChannel { backends with pathLoss := fun _ _ _ _ => none } channel [acrossChannel channel grant] marginDb =
      overThreshold [acrossChannel channel grant] := by
  have apart : ¬ (channel.highHz - 1 ≥ channel.highHz ∨ channel.lowHz + 1 ≤ channel.lowHz) := by omega
  rw [evaluateProtectedChannel]
  simp only [across_overlaps]
  cases channel.geometry.bind polygonRepresentativePoint with
  | none => rfl
  | some point =>
      have noHit : interferenceDbmAtPoint { backends with pathLoss := fun _ _ _ _ => none } (acrossChannel channel grant)
          point.1 point.2 channel.refHeightM channel.lowHz channel.highHz = none := by
        rw [interferenceDbmAtPoint, acrossChannel]
        dsimp only
        rw [if_neg apart]
      simp [noHit]

theorem probe_moves (channel : ProtectedDpaChannel K) (grant : DpaGrantRf K) (held : List (DpaGrantRf K)) (stamp : String)
    (around : rfInsideProtectedNeighborhood backends grant channel ≠ some false) :
    movedLocal backends (probe held stamp) [acrossChannel channel grant] channel = .ok [grant.grantId] := by
  have inside : rfInsideProtectedNeighborhood backends (acrossChannel channel grant) channel =
      rfInsideProtectedNeighborhood backends grant channel := rfl
  have kept : filterGrantsInNeighborhood backends channel [acrossChannel channel grant] = [acrossChannel channel grant] := by
    simp [filterGrantsInNeighborhood, inside, around]
  have quiet : evaluateOrRaise backends (probe held stamp).pathLoss channel [acrossChannel channel grant] =
      .ok (overThreshold [acrossChannel channel grant]) := by
    rw [← unheard_evaluation backends channel grant defaultDpaMarginDb]
    unfold evaluateOrRaise
    simp only [across_overlaps]
    cases channel.geometry.bind polygonRepresentativePoint with
    | none => rfl
    | some point => rfl
  rw [movedLocal, kept, quiet]
  simp [Except.map, overThreshold, acrossChannel]

end Probe

section Runs

variable (readers : PyReaders K) (backends : DpaBackends K) (args : RefreshArguments K)
variable (channels : List (RangeKey × ProtectedDpaChannel K)) (grants : List (DpaGrantRf K)) (rows : List (Row K))
variable (pending : List (RangeKey × List String))

theorem write_evaluated
    (done : pendingFrom readers backends args channels grants (listActiveActivations rows) = .ok pending)
    (write : MovelistWrite) (member : write ∈ writes args pending) :
    ∃ (place : Nat) (row : Row K) (channel : ProtectedDpaChannel K), rows[place]? = some row ∧
      evaluatedRow readers channels row = some (write.key, channel) ∧
      movedLocal backends args grants channel = .ok write.movelist := by
  have listed := write_pending args pending write member
  have known : write.key ∈ evaluatedKeys readers channels rows := by
    rw [← pending_keys readers backends args channels grants rows pending done]
    exact List.mem_map.mpr ⟨_, listed, rfl⟩
  obtain ⟨place, row, channel, isRow, held⟩ := (mem_evaluated_keys readers channels rows write.key).mp known
  obtain ⟨act, _, _, found⟩ := evaluated_row_parts readers channels row write.key channel held
  obtain ⟨channel', found', moved⟩ := pending_moved readers backends args channels grants _ pending done _ listed
  cases found.symm.trans found'
  exact ⟨place, row, channel, isRow, held, moved⟩

theorem evaluated_write
    (done : pendingFrom readers backends args channels grants (listActiveActivations rows) = .ok pending)
    (place : Nat) (row : Row K) (key : RangeKey) (channel : ProtectedDpaChannel K) (isRow : rows[place]? = some row)
    (held : evaluatedRow readers channels row = some (key, channel)) :
    ∃ write ∈ writes args pending, write.key = key ∧ movedLocal backends args grants channel = .ok write.movelist := by
  have known : key ∈ evaluatedKeys readers channels rows :=
    (mem_evaluated_keys readers channels rows key).mpr ⟨place, row, channel, isRow, held⟩
  rw [← pending_keys readers backends args channels grants rows pending done] at known
  obtain ⟨entry, listed, isKey⟩ := List.mem_map.mp known
  obtain ⟨write, member, same⟩ := pending_write args pending entry listed
  obtain ⟨act, _, _, found⟩ := evaluated_row_parts readers channels row key channel held
  obtain ⟨channel', found', moved⟩ := pending_moved readers backends args channels grants _ pending done entry listed
  rw [isKey, found] at found'
  cases found'
  subst same
  exact ⟨write, member, isKey, moved⟩

theorem write_stripped
    (done : pendingFrom readers backends args channels grants (listActiveActivations rows) = .ok pending)
    (write : MovelistWrite) (member : write ∈ writes args pending) :
    PyText.strip write.key.dpaId.toList = write.key.dpaId.toList := by
  obtain ⟨place, row, channel, _, held, _⟩ :=
    write_evaluated readers backends args channels grants rows pending done write member
  obtain ⟨act, _, own, _⟩ := evaluated_row_parts readers channels row write.key channel held
  exact row_key_stripped readers act write.key own

-- A write that reaches an evaluated row is one for the key of that row.
theorem write_key
    (done : pendingFrom readers backends args channels grants (listActiveActivations rows) = .ok pending)
    (write : MovelistWrite) (member : write ∈ writes args pending) (place : Nat) (row : Row K) (key : RangeKey)
    (channel : ProtectedDpaChannel K) (isRow : rows[place]? = some row)
    (held : evaluatedRow readers channels row = some (key, channel))
    (finds : search readers write.key rows = .ok (some place)) : write.key = key := by
  obtain ⟨met, isMet, accepted⟩ := FirstMatch.locate_accepts (sameKey readers write.key) rows place finds
  cases isRow.symm.trans isMet
  exact met_evaluated_key readers channels row key write.key channel held
    (write_stripped readers backends args channels grants rows pending done write member) accepted

theorem run_settled (found : ∀ write ∈ writes args pending, ∃ place, search readers write.key rows = .ok (some place)) :
    ∃ after, updateRows readers args pending rows = (after, .ok ()) ∧ after.length = rows.length ∧
      ∀ (place : Nat) row, rows[place]? = some row → ∃ final, after[place]? = some final ∧
        FirstMatch.Settled (writeTest readers) rewritten sourceTag (writes args pending) rows place row final :=
  FirstMatch.write_all_settled (writeTest readers) rewritten freshRow sourceTag (fun write row _ => source_kept write row)
    (same_key_steady readers) (writes args pending) rows found

theorem run_finds (after : List (Row K)) (run : updateRows readers args pending rows = (after, .ok ()))
    (same : after.length = rows.length) :
    ∀ write ∈ writes args pending, ∃ place, search readers write.key rows = .ok (some place) :=
  FirstMatch.write_all_finds (writeTest readers) rewritten freshRow (same_key_steady readers) (writes args pending) rows
    after run same

theorem forall_places {R : Row K → Row K → Prop} (before after : List (Row K)) (long : after.length = before.length)
    (places : ∀ (place : Nat) row, before[place]? = some row → ∃ final, after[place]? = some final ∧ R row final) :
    List.Forall₂ R before after := by
  rw [List.forall₂_iff_get]
  refine ⟨long.symm, fun place inBefore inAfter => ?_⟩
  obtain ⟨final, isFinal, holds⟩ := places place (before.get ⟨place, inBefore⟩) (by simp)
  have same : after.get ⟨place, inAfter⟩ = final := by
    rw [List.getElem?_eq_getElem inAfter] at isFinal
    exact Option.some.inj isFinal
  rw [same]
  exact holds

theorem place_pair {R : Row K → Row K → Prop} (before after : List (Row K)) (pairs : List.Forall₂ R before after)
    (place : Nat) (row final : Row K) (isRow : before[place]? = some row) (isFinal : after[place]? = some final) :
    R row final := by
  obtain ⟨inBefore, same⟩ := List.getElem?_eq_some_iff.mp isRow
  obtain ⟨inAfter, same'⟩ := List.getElem?_eq_some_iff.mp isFinal
  have pair := (List.forall₂_iff_get.mp pairs).2 place inBefore inAfter
  rw [List.get_eq_getElem, List.get_eq_getElem, same, same'] at pair
  exact pair

-- Where every update reaches its row, the refresh does all that it promises.
theorem reached_run
    (done : pendingFrom readers backends args channels grants (listActiveActivations rows) = .ok pending)
    (reached : ∀ (place : Nat) row key channel, rows[place]? = some row →
      evaluatedRow readers channels row = some (key, channel) → Reached readers backends channels rows place row key channel) :
    ∃ after, updateRows readers args pending rows = (after, .ok ()) ∧
      List.Forall₂ (Refreshed readers backends channels args grants) rows after := by
  have found : ∀ write ∈ writes args pending, ∃ place, search readers write.key rows = .ok (some place) := by
    intro write member
    obtain ⟨place, row, channel, isRow, held, _⟩ :=
      write_evaluated readers backends args channels grants rows pending done write member
    rcases reached place row write.key channel isRow held with own | ⟨_, _, first, _, finds, _⟩
    · exact ⟨place, own⟩
    · exact ⟨first, finds⟩
  obtain ⟨after, run, long, places⟩ := run_settled readers args rows pending found
  refine ⟨after, run, forall_places rows after long fun place row isRow => ?_⟩
  obtain ⟨final, isFinal, settled⟩ := places place row isRow
  refine ⟨final, isFinal, ?_⟩
  rw [Refreshed]
  cases held : evaluatedRow readers channels row with
  | none =>
      rcases settled with ⟨same, _⟩ | ⟨write, member, finds, _⟩
      · exact same
      · obtain ⟨place', row', channel, isRow', held', _⟩ :=
          write_evaluated readers backends args channels grants rows pending done write member
        rw [finds_search] at finds
        rcases reached place' row' write.key channel isRow' held' with own | ⟨_, _, first, other, finds', isOther, known⟩
        · cases finds.symm.trans own
          cases isRow.symm.trans isRow'
          rw [held] at held'
          cases held'
        · cases finds.symm.trans finds'
          cases isRow.symm.trans isOther
          rw [held] at known
          cases known
  | some entry =>
      obtain ⟨key, channel⟩ := entry
      dsimp only
      rcases settled with ⟨same, missed⟩ | ⟨write, member, finds, before, tagged, same⟩
      · obtain ⟨act, isAct, _, _⟩ := evaluated_row_parts readers channels row key channel held
        rcases reached place row key channel isRow held with own | ⟨stored, idle, _⟩
        · obtain ⟨write, member, isKey, _⟩ :=
            evaluated_write readers backends args channels grants rows pending done place row key channel isRow held
          have finds : search readers write.key rows = .ok (some place) := isKey ▸ own
          exact absurd finds (missed write member)
        · rw [isAct] at stored
          rw [same]
          exact ⟨act, [], isAct, idle_moved backends args channel grants idle, Option.some.inj stored, rfl⟩
      · have isKey := write_key readers backends args channels grants rows pending done write member place row key channel
          isRow held finds
        obtain ⟨_, row', channel', _, held', moved⟩ :=
          write_evaluated readers backends args channels grants rows pending done write member
        obtain ⟨_, _, _, known⟩ := evaluated_row_parts readers channels row key channel held
        obtain ⟨_, _, _, known'⟩ := evaluated_row_parts readers channels row' write.key channel' held'
        rw [isKey, known] at known'
        cases known'
        rw [same]
        refine ⟨_, write.movelist, payload_activation write _, moved, payload_movelist write _, ?_⟩
        rw [source_kept, tagged]

end Runs

section FirstSearch

variable (readers : PyReaders K) (backends : DpaBackends K) (args : RefreshArguments K)
variable (channels : List (RangeKey × ProtectedDpaChannel K)) (grants : List (DpaGrantRf K)) (rows : List (Row K))
variable (pending : List (RangeKey × List String))

theorem write_keys (done : pendingFrom readers backends args channels grants (listActiveActivations rows) = .ok pending) :
    (writes args pending).map (·.key) = evaluatedKeys readers channels rows := by
  rw [← pending_keys readers backends args channels grants rows pending done]
  have same := congrArg (List.map (·.1)) (writes_pending args pending)
  rw [List.map_map] at same
  exact same

-- A search that raises at once leaves nothing written.
theorem first_search_stops
    (done : pendingFrom readers backends args channels grants (listActiveActivations rows) = .ok pending)
    (raises : FirstSearchRaises readers channels rows) :
    ∃ fault, updateRows readers args pending rows = (rows, .error fault) := by
  obtain ⟨key, fault, isHead, raised⟩ := raises
  rw [← write_keys readers backends args channels grants rows pending done] at isHead
  rw [update_rows_run]
  cases shape : writes args pending with
  | nil =>
      rw [shape] at isHead
      cases isHead
  | cons write rest =>
      rw [shape] at isHead
      cases isHead
      have stops : FirstMatch.upsertEach (writeTest readers) rewritten freshRow write rows = .error fault := by
        rw [FirstMatch.upsertEach, FirstMatch.upsert_locate]
        exact congrArg (Except.map _) raised
      refine ⟨fault, ?_⟩
      rw [FirstMatch.writeAll, stops]

-- Where the first search does not raise, a run that raises later has left its time on a row.
theorem later_stop_stamped (stamp : String) (clock : args.clock = fun _ => stamp)
    (done : pendingFrom readers backends args channels grants (listActiveActivations rows) = .ok pending)
    (quiet : ¬ FirstSearchRaises readers channels rows) (after : List (Row K)) (fault : RefreshFault)
    (run : updateRows readers args pending rows = (after, .error fault)) : ∃ row ∈ after, Stamped stamp row := by
  have keys := write_keys readers backends args channels grants rows pending done
  have times : ∀ write ∈ writes args pending, write.writtenAt = stamp := by
    intro write member
    obtain ⟨entry, _, same⟩ := List.mem_map.mp member
    rw [← same, clock]
  rw [update_rows_run] at run
  cases shape : writes args pending with
  | nil =>
      rw [shape] at run
      cases run
  | cons write rest =>
      rw [shape] at run keys times
      have stamped : ∀ other ∈ write :: rest, ∀ row : Row K, Stamped stamp (rewritten other row) :=
        fun other member row => times other member ▸ rewritten_stamped other row
      have added : ∀ other ∈ write :: rest, Stamped (K := K) stamp (freshRow other) :=
        fun other member => times other member ▸ fresh_stamped other
      rw [FirstMatch.writeAll] at run
      cases written : FirstMatch.upsertEach (writeTest readers) rewritten freshRow write rows with
      | error first =>
          rw [FirstMatch.upsertEach, FirstMatch.upsert_locate] at written
          cases located : FirstMatch.locate (writeTest readers write) rows with
          | error raised => exact absurd ⟨write.key, raised, by rw [← keys]; rfl, located⟩ quiet
          | ok found =>
              rw [located] at written
              cases written
      | ok next =>
          rw [written] at run
          dsimp only at run
          have here := FirstMatch.upsert_marked (writeTest readers) rewritten freshRow (Stamped stamp) write
            (stamped write List.mem_cons_self) (added write List.mem_cons_self) rows next written
          have there := FirstMatch.write_all_marked (writeTest readers) rewritten freshRow (Stamped stamp) rest
            (fun other member => stamped other (List.mem_cons_of_mem write member))
            (fun other member => added other (List.mem_cons_of_mem write member)) next here
          rw [run] at there
          exact there

end FirstSearch

section Verdict

variable (readers : PyReaders K) (backends : DpaBackends K) (geometryOf : Json K → Geometry K)
variable (catalogue : List (Json K)) (rows : List (Row K))

theorem writable_all_or_nothing (args : RefreshArguments K)
    (writable : Writable readers backends (byKey readers geometryOf catalogue rows) rows) :
    AllOrNothing readers backends geometryOf catalogue rows args := by
  rw [AllOrNothing, refreshActivationMovelists]
  cases collected : refreshGrants args with
  | error fault => rfl
  | ok grants =>
      dsimp only
      cases done : pendingFrom readers backends args (byKey readers geometryOf catalogue rows) grants
          (listActiveActivations rows) with
      | error fault => rfl
      | ok pending =>
          dsimp only
          rcases writable with raises | reached
          · obtain ⟨fault, run⟩ := first_search_stops readers backends args _ grants rows pending done raises
            rw [run]
            rfl
          · obtain ⟨after, run, refreshed⟩ := reached_run readers backends args _ grants rows pending done reached
            rw [run]
            exact ⟨grants, rfl, refreshed⟩

-- A probe of rows whose first search does not raise has to write every row.
theorem probe_refreshes (held : List (DpaGrantRf K)) (stamp : String) (unused : ∀ row ∈ rows, ¬ Stamped stamp row)
    (holds : AllOrNothing readers backends geometryOf catalogue rows (probe held stamp))
    (quiet : ¬ FirstSearchRaises readers (byKey readers geometryOf catalogue rows) rows) :
    ∃ pending after, pendingFrom readers backends (probe held stamp) (byKey readers geometryOf catalogue rows) held
        (listActiveActivations rows) = .ok pending ∧
      updateRows readers (probe held stamp) pending rows = (after, .ok ()) ∧
      List.Forall₂ (Refreshed readers backends (byKey readers geometryOf catalogue rows) (probe held stamp) held) rows after := by
  obtain ⟨pending, done⟩ := pending_total readers backends (probe held stamp) (byKey readers geometryOf catalogue rows) held
    (fun channel => probe_total backends channel held held stamp) (listActiveActivations rows)
  rw [AllOrNothing, refreshActivationMovelists, probe_grants] at holds
  dsimp only at holds
  rw [done] at holds
  dsimp only at holds
  cases run : updateRows readers (probe held stamp) pending rows with
  | mk after outcome =>
      rw [run] at holds
      cases outcome with
      | error fault =>
          have unchanged : after = rows := holds
          obtain ⟨row, member, stamped⟩ :=
            later_stop_stamped readers backends (probe held stamp) _ held rows pending stamp rfl done quiet after fault run
          exact absurd stamped (unused row (unchanged ▸ member))
      | ok finished =>
          obtain ⟨grants, same, refreshed⟩ := holds
          cases same
          exact ⟨pending, after, done, run, refreshed⟩

-- A row that the updates do not reach holds what each probe gives, so nothing ever counts toward its channel.
theorem missed_row (place first : Nat) (row : Row K) (key : RangeKey) (channel : ProtectedDpaChannel K)
    (isRow : rows[place]? = some row)
    (held : evaluatedRow readers (byKey readers geometryOf catalogue rows) row = some (key, channel))
    (finds : search readers key rows = .ok (some first)) (apart : first ≠ place) (grants : List (DpaGrantRf K)) (stamp : String)
    (unused : ∀ row ∈ rows, ¬ Stamped stamp row)
    (holds : AllOrNothing readers backends geometryOf catalogue rows (probe grants stamp))
    (quiet : ¬ FirstSearchRaises readers (byKey readers geometryOf catalogue rows) rows) (moved : List String)
    (expected : movedLocal backends (probe grants stamp) grants channel = .ok moved) :
    (activation row).map (·.field "movelist") = some (.array (moved.map .text)) ∧
      ∃ other, rows[first]? = some other ∧ (evaluatedRow readers (byKey readers geometryOf catalogue rows) other).isSome := by
  obtain ⟨pending, after, done, run, refreshed⟩ :=
    probe_refreshes readers backends geometryOf catalogue rows grants stamp unused holds quiet
  have found := run_finds readers (probe grants stamp) rows pending after run refreshed.length_eq.symm
  obtain ⟨after', run', _, places⟩ := run_settled readers (probe grants stamp) rows pending found
  cases run.symm.trans run'
  constructor
  · obtain ⟨final, isFinal, settled⟩ := places place row isRow
    have pair := place_pair rows after refreshed place row final isRow isFinal
    rcases settled with ⟨same, _⟩ | ⟨write, member, writeFinds, _⟩
    · rw [Refreshed, held] at pair
      obtain ⟨data, list, isData, isList, stored, _⟩ := pair
      cases isList.symm.trans expected
      rw [same] at isData
      rw [isData, Option.map_some, stored]
    · have isKey := write_key readers backends (probe grants stamp) _ grants rows pending done write member place row key
        channel isRow held writeFinds
      rw [finds_search, isKey, finds] at writeFinds
      cases writeFinds
      exact absurd rfl apart
  · obtain ⟨other, isOther, _⟩ := FirstMatch.locate_accepts (sameKey readers key) rows first finds
    refine ⟨other, isOther, ?_⟩
    obtain ⟨final, isFinal, settled⟩ := places first other isOther
    have pair := place_pair rows after refreshed first other final isOther isFinal
    by_contra unknown
    rw [Option.not_isSome_iff_eq_none] at unknown
    rw [Refreshed, unknown] at pair
    obtain ⟨own, ownMember, isKey, _⟩ :=
      evaluated_write readers backends (probe grants stamp) _ grants rows pending done place row key channel isRow held
    have ownFinds : search readers own.key rows = .ok (some first) := isKey ▸ finds
    rcases settled with ⟨_, missed⟩ | ⟨write, member, _, before, _, same⟩
    · exact missed own ownMember ownFinds
    · have stamped : Stamped write.writtenAt (rewritten write before) := rewritten_stamped write before
      obtain ⟨entry, _, isWrite⟩ := List.mem_map.mp member
      have time : write.writtenAt = stamp := by rw [← isWrite]; rfl
      rw [← same, pair, time] at stamped
      exact unused other (List.mem_of_getElem? isOther) stamped

theorem all_or_nothing_writable
    (holds : ∀ args, AllOrNothing readers backends geometryOf catalogue rows args) :
    Writable readers backends (byKey readers geometryOf catalogue rows) rows := by
  by_cases quiet : FirstSearchRaises readers (byKey readers geometryOf catalogue rows) rows
  · exact .inl quiet
  · refine .inr fun place row key channel isRow held => ?_
    obtain ⟨stamp, unused⟩ := unused_stamp rows
    obtain ⟨pending, after, done, run, refreshed⟩ :=
      probe_refreshes readers backends geometryOf catalogue rows [] stamp unused (holds _) quiet
    have found := run_finds readers (probe [] stamp) rows pending after run refreshed.length_eq.symm
    obtain ⟨write, member, isKey, _⟩ :=
      evaluated_write readers backends (probe [] stamp) _ [] rows pending done place row key channel isRow held
    obtain ⟨first, finds⟩ := found write member
    rw [isKey] at finds
    by_cases own : first = place
    · exact .inl (own ▸ finds)
    · obtain ⟨empty, other, isOther, known⟩ := missed_row readers backends geometryOf catalogue rows place first row key channel
        isRow held finds own [] stamp unused (holds _) quiet [] (empty_moved backends _ channel [] rfl)
      refine .inr ⟨empty, fun grant => ?_, first, other, finds, isOther, known⟩
      by_contra around
      obtain ⟨stored, _⟩ := missed_row readers backends geometryOf catalogue rows place first row key channel isRow held
        finds own [acrossChannel channel grant] stamp unused (holds _) quiet [grant.grantId]
        (probe_moves backends channel grant _ stamp around)
      rw [empty] at stored
      simp at stored

theorem refresh_all_or_nothing_iff :
    (∀ args, AllOrNothing readers backends geometryOf catalogue rows args) ↔
      Writable readers backends (byKey readers geometryOf catalogue rows) rows :=
  ⟨all_or_nothing_writable readers backends geometryOf catalogue rows,
    fun writable args => writable_all_or_nothing readers backends geometryOf catalogue rows args writable⟩

end Verdict

section Corrupt

-- The rows below hold no text that is a number.
def textReaders : PyReaders Rat := ⟨fun _ => none, fun _ => none, fun _ => none, fun value => value.floor, fun _ => ""⟩

def stillBackends : DpaBackends Rat := ⟨fun _ => 0, fun _ => 0, fun _ _ _ _ => false, fun _ _ => none, fun _ _ _ _ => none⟩

def storedRow (dpaId : String) (low : Json Rat) : Row Rat :=
  some (.object [("dpaId", .text dpaId),
    ("frequencyRange", .object [("lowFrequency", low), ("highFrequency", .int 3560000000)]),
    ("movelist", .array []), ("activatedAt", .text "2024-05-01T00:00:00+00:00"), ("active", .bool true)])

def twoDpas : List (Json Rat) := [.object [("dpaId", .text "East1")], .object [("dpaId", .text "East2")]]

-- The row in the middle has no number for its lower bound.
def corruptRows : List (Row Rat) :=
  [storedRow "East1" (.int 3550000000), storedRow "East2" (.text "3550 MHz"), storedRow "East2" (.int 3550000000)]

def nightly : RefreshArguments Rat := probe [] "2024-05-02T00:00:00+00:00"

def nightlyPending : List (RangeKey × List String) :=
  [(⟨"East1", 3550000000, 3560000000⟩, []), (⟨"East2", 3550000000, 3560000000⟩, [])]

def firstTime (rows : List (Row Rat)) (time : String) : Bool :=
  (rows.head?.bind id).any fun data => (data.field "activatedAt").isText time

theorem nightly_pending :
    pendingFrom textReaders stillBackends nightly (byKey textReaders (fun _ => .other) twoDpas corruptRows) []
      (listActiveActivations corruptRows) = .ok nightlyPending := by
  have ordered : ((listActiveActivations corruptRows).foldl (addActivation textReaders (fun _ => .other) twoDpas) []).map (·.2)
      |>.Pairwise fun first second => channelOrder first second = true := by decide +kernel
  rw [byKey, listProtectedDpaChannels, List.mergeSort_of_pairwise ordered]
  decide +kernel

-- The evaluation skips the row, the update of the last one raises at it, and the first row is already written.
theorem corrupt_row_half_written :
    ¬ AllOrNothing textReaders stillBackends (fun _ => .other) twoDpas corruptRows nightly := by
  have raises : (updateRows textReaders nightly nightlyPending corruptRows).2 = .error .intError := by decide +kernel
  have written : firstTime (updateRows textReaders nightly nightlyPending corruptRows).1 "2024-05-02T00:00:00+00:00" = true := by
    decide +kernel
  have before : firstTime corruptRows "2024-05-02T00:00:00+00:00" = false := by decide +kernel
  intro holds
  rw [AllOrNothing, refreshActivationMovelists, nightly, probe_grants] at holds
  dsimp only at holds
  rw [← nightly, nightly_pending] at holds
  dsimp only at holds
  rw [raises] at holds
  have unchanged : (updateRows textReaders nightly nightlyPending corruptRows).1 = corruptRows := holds
  rw [unchanged, before] at written
  cases written

end Corrupt

end SasCore.Dpa.StoredRows
