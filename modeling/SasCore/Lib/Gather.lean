import SasCore.Lib.Outcomes

set_option autoImplicit false

-- A batch in which some items are refused: the others are taken out with their places, answered in turn and put back.
namespace SasCore.Gather

open Outcomes

section Round

variable {σ R : Type}

-- The rest of a round of a loop, from the responses so far.
abbrev Round (σ R : Type) := List R → Except String (σ × List R)

-- responses.append(response), and the next item.
def respond (after : σ) (response : R) : Round σ R := fun responses => .ok (after, responses ++ [response])

def raised (error : String) : Round σ R := fun _ => .error error

-- A round raises, or appends one response whatever the responses so far.
def Appends (round : Round σ R) : Prop := (∃ error, round = raised error) ∨ ∃ after response, round = respond after response

theorem respond_appends (after : σ) (response : R) : Appends (respond after response) := .inr ⟨after, response, rfl⟩

theorem raised_appends (error : String) : Appends (raised error : Round σ R) := .inl ⟨error, rfl⟩

-- What a round answers on its own.
def answered (round : Round σ R) : Except String (σ × R) :=
  match round [] with
  | .error error => .error error
  | .ok (after, response :: _) => .ok (after, response)
  | .ok (_, []) => .error ""

theorem answered_respond (after : σ) (response : R) : answered (respond after response) = .ok (after, response) := rfl

theorem answered_raised (error : String) : answered (raised error : Round σ R) = .error error := rfl

end Round

section Batch

variable {α β σ R S : Type}

def rounds (body : β → σ → Round σ R) (items : List β) (state : σ × List R) : Except String (σ × List R) :=
  items.foldlM (fun current item => body item current.1 current.2) state

-- The items answered one after the other.
def answers (visit : β → σ → Except String (σ × R)) : List β → σ → Except String (List R × σ)
  | [], state => .ok ([], state)
  | item :: rest, state =>
      match visit item state with
      | .error error => .error error
      | .ok (after, response) => (answers visit rest after).map fun later => (response :: later.1, later.2)

-- A loop whose rounds all append one response has the answers behind the responses before it.
theorem rounds_answers (body : β → σ → Round σ R) (appends : ∀ item state, Appends (body item state)) (items : List β) (state : σ)
    (responses : List R) :
    rounds body items (state, responses) =
      (answers (fun item state => answered (body item state)) items state).map fun done => (done.2, responses ++ done.1) := by
  induction items generalizing state responses with
  | nil =>
      change Except.ok (state, responses) = Except.ok (state, responses ++ [])
      rw [List.append_nil]
  | cons item rest ih =>
      rw [rounds, List.foldlM_cons]
      rcases appends item state with ⟨error, stops⟩ | ⟨after, response, answersOne⟩
      · simp only [answers, stops, answered_raised]
        rfl
      · simp only [answers, answersOne, answered_respond]
        change rounds body rest (after, responses ++ [response]) = _
        rw [ih]
        cases answers (fun item state => answered (body item state)) rest after with
        | error error => rfl
        | ok done => simp [Except.map]

theorem answers_length (visit : β → σ → Except String (σ × R)) (items : List β) (state : σ) (done : List R × σ)
    (answered : answers visit items state = .ok done) : done.1.length = items.length := by
  induction items generalizing state done with
  | nil =>
      cases answered
      rfl
  | cons item rest ih =>
      rw [answers] at answered
      split at answered
      · cases answered
      · rename_i after response _
        obtain ⟨later, answeredRest, same⟩ := Collect.map_ok _ _ done answered
        rw [← same, List.length_cons, List.length_cons, ih after later answeredRest]

def accepted : List (Except α β) → List β
  | [] => []
  | .error _ :: rest => accepted rest
  | .ok item :: rest => item :: accepted rest

def places (start : Nat) : List (Except α β) → List Nat
  | [] => []
  | .error _ :: rest => places (start + 1) rest
  | .ok _ :: rest => start :: places (start + 1) rest

theorem places_length (start : Nat) (items : List (Except α β)) : (places start items).length = (accepted items).length := by
  induction items generalizing start with
  | nil => rfl
  | cons item rest ih =>
      cases item with
      | error fault => exact ih (start + 1)
      | ok value => exact congrArg (· + 1) (ih (start + 1))

-- Every refused item has its refusal, and the answers stand in the places of the others.
def woven (refuse : α → S) (answer : R → S) : List (Except α β) → List R → List S
  | [], _ => []
  | .error fault :: rest, responses => refuse fault :: woven refuse answer rest responses
  | .ok _ :: rest, response :: responses => answer response :: woven refuse answer rest responses
  | .ok _ :: _, [] => []

def putBack (answer : R → S) (slots : List (Option S)) (placed : List (Nat × R)) : List (Option S) :=
  placed.foldl (fun out entry => out.set entry.1 (some (answer entry.2))) slots

def refusals (refuse : α → S) (items : List (Except α β)) : List (Option S) := items.map fun item => (fault? item).map refuse

theorem put_back_from (refuse : α → S) (answer : R → S) (items : List (Except α β)) (responses : List R)
    (enough : responses.length = (accepted items).length) (before : List (Option S)) :
    putBack answer (before ++ refusals refuse items) ((places before.length items).zip responses) =
      before ++ (woven refuse answer items responses).map some := by
  induction items generalizing responses before with
  | nil => rfl
  | cons item rest ih =>
      cases item with
      | error fault =>
          have later := ih responses enough (before ++ [some (refuse fault)])
          simpa [refusals, fault?, places, woven] using later
      | ok value =>
          cases responses with
          | nil => cases enough
          | cons response others =>
              have later := ih others (Nat.succ.inj enough) (before ++ [some (answer response)])
              simpa [refusals, fault?, places, woven, putBack] using later

theorem put_back (refuse : α → S) (answer : R → S) (items : List (Except α β)) (responses : List R)
    (enough : responses.length = (accepted items).length) :
    putBack answer (refusals refuse items) ((places 0 items).zip responses) = (woven refuse answer items responses).map some :=
  put_back_from refuse answer items responses enough []

-- A second loop over the items and their responses.
def amended (amend : β → R → R) : List β → List R → List R
  | item :: items, response :: responses => amend item response :: amended amend items responses
  | _, responses => responses

theorem answers_amended (visit : β → σ → Except String (σ × R)) (amend : β → R → R) (items : List β) (state : σ) :
    ((answers visit items state).map fun done => (amended amend items done.1, done.2)) =
      answers (fun item state => (visit item state).map fun one => (one.1, amend item one.2)) items state := by
  induction items generalizing state with
  | nil => rfl
  | cons item rest ih =>
      rw [answers, answers]
      cases visited : visit item state with
      | error error => rfl
      | ok one =>
          change _ = (answers (fun item state => (visit item state).map fun one => (one.1, amend item one.2)) rest one.1).map
            fun later => (amend item one.2 :: later.1, later.2)
          rw [← ih]
          dsimp only
          cases answers visit rest one.1 with
          | error error => rfl
          | ok later => rfl

-- One pass over all items: a refused one has its refusal, any other is visited where it stands, with its place among these.
def inPlace (visit : β × Nat → σ → Except String (σ × R)) (refuse : α → S) (answer : R → S) :
    Nat → List (Except α β) → σ → Except String (List S × σ)
  | _, [], state => .ok ([], state)
  | position, .error fault :: rest, state =>
      (inPlace visit refuse answer position rest state).map fun later => (refuse fault :: later.1, later.2)
  | position, .ok value :: rest, state =>
      match visit (value, position) state with
      | .error error => .error error
      | .ok (after, response) =>
          (inPlace visit refuse answer (position + 1) rest after).map fun later => (answer response :: later.1, later.2)

theorem woven_answers (visit : β × Nat → σ → Except String (σ × R)) (refuse : α → S) (answer : R → S) (items : List (Except α β))
    (position : Nat) (state : σ) :
    ((answers visit ((accepted items).zipIdx position) state).map fun done => (woven refuse answer items done.1, done.2)) =
      inPlace visit refuse answer position items state := by
  induction items generalizing position state with
  | nil => rfl
  | cons item rest ih =>
      cases item with
      | error fault =>
          rw [inPlace, ← ih, accepted]
          cases answers visit ((accepted rest).zipIdx position) state with
          | error error => rfl
          | ok done => rfl
      | ok value =>
          rw [inPlace, accepted, List.zipIdx_cons, answers]
          cases visit (value, position) state with
          | error error => rfl
          | ok one =>
              simp only [← ih]
              cases answers visit ((accepted rest).zipIdx (position + 1)) one.1 with
              | error error => rfl
              | ok later => rfl

-- The slot of an item: its refusal, or the answer of a visit to it.
def Stands (visit : β × Nat → σ → Except String (σ × R)) (refuse : α → S) (answer : R → S) : Except α β → S → Prop
  | .error fault, slot => slot = refuse fault
  | .ok value, slot =>
      ∃ position before after response, visit (value, position) before = .ok (after, response) ∧ slot = answer response

theorem in_place_stands (visit : β × Nat → σ → Except String (σ × R)) (refuse : α → S) (answer : R → S) (items : List (Except α β))
    (position : Nat) (state : σ) (done : List S × σ) (finished : inPlace visit refuse answer position items state = .ok done) :
    List.Forall₂ (Stands visit refuse answer) items done.1 := by
  induction items generalizing position state done with
  | nil =>
      cases finished
      exact .nil
  | cons item rest ih =>
      cases item with
      | error fault =>
          rw [inPlace] at finished
          obtain ⟨later, finishedRest, same⟩ := Collect.map_ok _ _ done finished
          rw [← same]
          exact .cons rfl (ih position state later finishedRest)
      | ok value =>
          rw [inPlace] at finished
          split at finished
          · cases finished
          · rename_i after response visited
            obtain ⟨later, finishedRest, same⟩ := Collect.map_ok _ _ done finished
            rw [← same]
            exact .cons ⟨position, state, after, response, visited, rfl⟩ (ih (position + 1) after later finishedRest)

theorem accepted_map (parse : S → Except α β) (items : List S) :
    accepted (items.map parse) = items.filterMap fun item => (parse item).toOption := by
  induction items with
  | nil => rfl
  | cons item rest ih =>
      rw [List.map_cons, List.filterMap_cons]
      cases parse item with
      | error fault => exact ih
      | ok value => exact congrArg (List.cons value) ih

end Batch

end SasCore.Gather
