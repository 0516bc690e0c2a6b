import Mathlib.Data.List.Forall2

set_option autoImplicit false

-- Updates of the first row that a test accepts, where the test may raise.
namespace SasCore.FirstMatch

variable {α ε ι τ : Type}

-- The place of the first row that the test accepts.
def locate (test : α → Except ε Bool) : List α → Except ε (Option Nat)
  | [] => .ok none
  | row :: rest =>
      match test row with
      | .error fault => .error fault
      | .ok true => .ok (some 0)
      | .ok false => (locate test rest).map (Option.map (· + 1))

-- That row is rewritten; without one, a fresh row is added at the end.
def upsert (test : α → Except ε Bool) (rewrite : α → α) (fresh : α) : List α → Except ε (List α)
  | [] => .ok [fresh]
  | row :: rest =>
      match test row with
      | .error fault => .error fault
      | .ok true => .ok (rewrite row :: rest)
      | .ok false => (upsert test rewrite fresh rest).map (row :: ·)

-- Writes in a row: the rows where they stopped, and whether one raised.
def writeAll (write : ι → List α → Except ε (List α)) : List ι → List α → List α × Except ε Unit
  | [], rows => (rows, .ok ())
  | entry :: rest, rows =>
      match write entry rows with
      | .error fault => (rows, .error fault)
      | .ok after => writeAll write rest after

section Upsert

variable (test : α → Except ε Bool) (rewrite : α → α) (fresh : α) (rows : List α)

theorem locate_cons (row : α) :
    locate test (row :: rows) = match test row with
      | .error fault => .error fault
      | .ok true => .ok (some 0)
      | .ok false => (locate test rows).map (Option.map (· + 1)) := rfl

theorem upsert_cons (row : α) :
    upsert test rewrite fresh (row :: rows) = match test row with
      | .error fault => .error fault
      | .ok true => .ok (rewrite row :: rows)
      | .ok false => (upsert test rewrite fresh rows).map (row :: ·) := rfl

def placed (found : Option Nat) : List α :=
  match found with
  | some place => rows.modify place rewrite
  | none => rows ++ [fresh]

theorem upsert_locate : upsert test rewrite fresh rows = (locate test rows).map (placed rewrite fresh rows) := by
  induction rows with
  | nil => rfl
  | cons row rest ih =>
      rw [upsert_cons, locate_cons]
      cases test row with
      | error fault => rfl
      | ok hit =>
          cases hit with
          | true => rfl
          | false =>
              simp only [ih]
              cases locate test rest with
              | error fault => rfl
              | ok found => cases found <;> rfl

theorem locate_accepts (place : Nat) (found : locate test rows = .ok (some place)) :
    ∃ row, rows[place]? = some row ∧ test row = .ok true := by
  induction rows generalizing place with
  | nil => cases found
  | cons row rest ih =>
      rw [locate_cons] at found
      cases met : test row with
      | error fault =>
          rw [met] at found
          cases found
      | ok hit =>
          rw [met] at found
          cases hit with
          | true =>
              cases found
              exact ⟨row, rfl, met⟩
          | false =>
              cases later : locate test rest with
              | error fault =>
                  rw [later] at found
                  cases found
              | ok held =>
                  rw [later] at found
                  cases held with
                  | none => cases found
                  | some next =>
                      cases found
                      obtain ⟨row', isRow, accepted⟩ := ih next later
                      exact ⟨row', by simpa using isRow, accepted⟩

-- A row that gives every test the result it gave before leaves the search as it was.
theorem locate_modify (place : Nat) (same : ∀ row, rows[place]? = some row → test (rewrite row) = test row) :
    locate test (rows.modify place rewrite) = locate test rows := by
  induction rows generalizing place with
  | nil => simp
  | cons row rest ih =>
      cases place with
      | zero =>
          rw [List.modify_zero_cons, locate_cons, locate_cons, same row rfl]
      | succ next =>
          rw [List.modify_succ_cons, locate_cons, locate_cons, ih next (fun row isRow => same row (by simpa using isRow))]

end Upsert

section Runs

variable (test : ι → α → Except ε Bool) (rewrite : ι → α → α) (fresh : ι → α)

def upsertEach (entry : ι) (rows : List α) : Except ε (List α) := upsert (test entry) (rewrite entry) (fresh entry) rows

def Finds (rows : List α) (entry : ι) (place : Nat) : Prop := locate (test entry) rows = .ok (some place)

-- A rewritten row answers every test as the row before it did.
def Steady : Prop := ∀ entry other row, test entry row = .ok true → test other (rewrite entry row) = test other row

theorem upsert_finds (rows : List α) (entry : ι) (place : Nat) (found : Finds test rows entry place) :
    upsertEach test rewrite fresh entry rows = .ok (rows.modify place (rewrite entry)) := by
  rw [upsertEach, upsert_locate, found]
  rfl

theorem finds_modify (steady : Steady test rewrite) (rows : List α) (entry other : ι) (place later : Nat)
    (found : Finds test rows entry place) :
    Finds test (rows.modify place (rewrite entry)) other later ↔ Finds test rows other later := by
  obtain ⟨row, isRow, accepted⟩ := locate_accepts (test entry) rows place found
  have same : ∀ held, rows[place]? = some held → test other (rewrite entry held) = test other held := by
    intro held isHeld
    cases isRow.symm.trans isHeld
    exact steady entry other row accepted
  rw [Finds, Finds, locate_modify (test other) (rewrite entry) rows place same]

theorem write_all_cons (entry : ι) (rest : List ι) (rows after : List α)
    (written : upsertEach test rewrite fresh entry rows = .ok after) :
    writeAll (upsertEach test rewrite fresh) (entry :: rest) rows = writeAll (upsertEach test rewrite fresh) rest after := by
  rw [writeAll, written]

theorem upsert_length (rows after : List α) (entry : ι) (written : upsertEach test rewrite fresh entry rows = .ok after) :
    rows.length ≤ after.length := by
  rw [upsertEach, upsert_locate] at written
  cases found : locate (test entry) rows with
  | error fault =>
      rw [found] at written
      cases written
  | ok held =>
      rw [found] at written
      cases held with
      | none =>
          cases written
          simp [placed]
      | some place =>
          cases written
          simp [placed]

theorem write_all_length (entries : List ι) (rows : List α) :
    rows.length ≤ (writeAll (upsertEach test rewrite fresh) entries rows).1.length := by
  induction entries generalizing rows with
  | nil => exact Nat.le_refl _
  | cons entry rest ih =>
      rw [writeAll]
      cases written : upsertEach test rewrite fresh entry rows with
      | error fault => exact Nat.le_refl _
      | ok after => exact Nat.le_trans (upsert_length test rewrite fresh rows after entry written) (ih after)

theorem upsert_marked (marked : α → Prop) (entry : ι) (rewrites : ∀ row, marked (rewrite entry row))
    (adds : marked (fresh entry)) (rows after : List α)
    (written : upsertEach test rewrite fresh entry rows = .ok after) : ∃ row ∈ after, marked row := by
  rw [upsertEach, upsert_locate] at written
  cases found : locate (test entry) rows with
  | error fault =>
      rw [found] at written
      cases written
  | ok held =>
      rw [found] at written
      cases held with
      | none =>
          cases written
          exact ⟨fresh entry, List.mem_append_right rows (List.mem_singleton_self _), adds⟩
      | some place =>
          cases written
          obtain ⟨row, isRow, _⟩ := locate_accepts (test entry) rows place found
          have rewritten : (rows.modify place (rewrite entry))[place]? = some (rewrite entry row) := by
            rw [List.getElem?_modify_eq, isRow]
            rfl
          exact ⟨rewrite entry row, List.mem_of_getElem? rewritten, rewrites row⟩

-- What every write leaves on its row stays visible to the end.
theorem write_all_marked (marked : α → Prop) (entries : List ι)
    (rewrites : ∀ entry ∈ entries, ∀ row, marked (rewrite entry row))
    (adds : ∀ entry ∈ entries, marked (fresh entry)) (rows : List α) (held : ∃ row ∈ rows, marked row) :
    ∃ row ∈ (writeAll (upsertEach test rewrite fresh) entries rows).1, marked row := by
  induction entries generalizing rows with
  | nil => exact held
  | cons entry rest ih =>
      rw [writeAll]
      cases written : upsertEach test rewrite fresh entry rows with
      | error fault => exact held
      | ok after =>
          have here := upsert_marked test rewrite fresh marked entry (rewrites entry List.mem_cons_self)
            (adds entry List.mem_cons_self) rows after written
          have later : ∀ other ∈ rest, ∀ row, marked (rewrite other row) :=
            fun other member => rewrites other (List.mem_cons_of_mem entry member)
          exact ih later (fun other member => adds other (List.mem_cons_of_mem entry member)) after here

-- A run that leaves the number of rows as it was has found a row for each of its writes.
theorem write_all_finds (steady : Steady test rewrite) (entries : List ι) (rows after : List α)
    (run : writeAll (upsertEach test rewrite fresh) entries rows = (after, .ok ())) (same : after.length = rows.length) :
    ∀ entry ∈ entries, ∃ place, Finds test rows entry place := by
  induction entries generalizing rows with
  | nil => simp
  | cons entry rest ih =>
      rw [writeAll] at run
      cases found : locate (test entry) rows with
      | error fault =>
          have raised : upsertEach test rewrite fresh entry rows = .error fault := by
            rw [upsertEach, upsert_locate, found]
            rfl
          rw [raised] at run
          cases run
      | ok held =>
          cases held with
          | none =>
              have added : upsertEach test rewrite fresh entry rows = .ok (rows ++ [fresh entry]) := by
                rw [upsertEach, upsert_locate, found]
                rfl
              rw [added] at run
              dsimp only at run
              have longer := write_all_length test rewrite fresh rest (rows ++ [fresh entry])
              rw [run, List.length_append, List.length_singleton] at longer
              simp only [same] at longer
              omega
          | some place =>
              rw [upsert_finds test rewrite fresh rows entry place found] at run
              have later := ih (rows.modify place (rewrite entry)) run (by rw [same, List.length_modify])
              intro other member
              rcases List.mem_cons.mp member with isEntry | among
              · exact ⟨place, isEntry ▸ found⟩
              · obtain ⟨next, finds⟩ := later other among
                exact ⟨next, (finds_modify test rewrite steady rows entry other place next found).mp finds⟩

-- The row a place ends with: what it held where no write finds it, else what one of the writes that find it makes
-- of a row that it accepts and that carries the same tag.
def Settled (tag : α → τ) (entries : List ι) (rows : List α) (place : Nat) (row final : α) : Prop :=
  (final = row ∧ ∀ entry ∈ entries, ¬ Finds test rows entry place) ∨
    ∃ entry ∈ entries, Finds test rows entry place ∧ ∃ held, tag held = tag row ∧ final = rewrite entry held

theorem write_all_settled (tag : α → τ)
    (keeps : ∀ entry row, test entry row = .ok true → tag (rewrite entry row) = tag row)
    (steady : Steady test rewrite) (entries : List ι) (rows : List α)
    (found : ∀ entry ∈ entries, ∃ place, Finds test rows entry place) :
    ∃ after, writeAll (upsertEach test rewrite fresh) entries rows = (after, .ok ()) ∧ after.length = rows.length ∧
      ∀ (place : Nat) row, rows[place]? = some row →
        ∃ final, after[place]? = some final ∧ Settled test rewrite tag entries rows place row final := by
  induction entries generalizing rows with
  | nil => exact ⟨rows, rfl, rfl, fun _ row isRow => ⟨row, isRow, .inl ⟨rfl, by simp⟩⟩⟩
  | cons entry rest ih =>
      obtain ⟨⟨target, finds⟩, others⟩ := List.forall_mem_cons.mp found
      obtain ⟨hit, isHit, accepted⟩ := locate_accepts (test entry) rows target finds
      have moved := fun other place => finds_modify test rewrite steady rows entry other target place finds
      have later : ∀ other ∈ rest, ∃ place, Finds test (rows.modify target (rewrite entry)) other place := by
        intro other member
        obtain ⟨place, otherFinds⟩ := others other member
        exact ⟨place, (moved other place).mpr otherFinds⟩
      obtain ⟨after, run, long, places⟩ := ih (rows.modify target (rewrite entry)) later
      refine ⟨after, ?_, long.trans (List.length_modify _ _ _), fun place row isRow => ?_⟩
      · rw [write_all_cons test rewrite fresh entry rest rows _ (upsert_finds test rewrite fresh rows entry target finds), run]
      · by_cases here : target = place
        · subst here
          cases isHit.symm.trans isRow
          have rewritten : (rows.modify target (rewrite entry))[target]? = some (rewrite entry hit) := by
            rw [List.getElem?_modify_eq, isHit]
            rfl
          obtain ⟨final, isFinal, settled⟩ := places target (rewrite entry hit) rewritten
          refine ⟨final, isFinal, .inr ?_⟩
          rcases settled with ⟨same, _⟩ | ⟨other, member, otherFinds, held, tagged, same⟩
          · exact ⟨entry, List.mem_cons_self, finds, hit, rfl, same⟩
          · have alike : tag held = tag hit := tagged.trans (keeps entry hit accepted)
            exact ⟨other, List.mem_cons_of_mem entry member, (moved other target).mp otherFinds, held, alike, same⟩
        · have untouched : (rows.modify target (rewrite entry))[place]? = some row := by
            rw [List.getElem?_modify_ne (rewrite entry) rows here, isRow]
          obtain ⟨final, isFinal, settled⟩ := places place row untouched
          refine ⟨final, isFinal, ?_⟩
          rcases settled with ⟨same, missed⟩ | ⟨other, member, otherFinds, held, tagged, same⟩
          · refine .inl ⟨same, List.forall_mem_cons.mpr ⟨fun alsoFinds => ?_, fun other member otherFinds => ?_⟩⟩
            · rw [Finds] at finds alsoFinds
              rw [finds] at alsoFinds
              cases alsoFinds
              exact here rfl
            · exact missed other member ((moved other place).mpr otherFinds)
          · exact .inr ⟨other, List.mem_cons_of_mem entry member, (moved other place).mp otherFinds, held, tagged, same⟩

end Runs

end SasCore.FirstMatch
