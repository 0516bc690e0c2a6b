import Mathlib.Algebra.Order.Ring.Int

set_option autoImplicit false

-- The request size limit: a body counted piece by piece against the same body read whole.
namespace SasCore.Routes

-- An event of the server: a piece of the body with its more_body flag, or an event of another type.
inductive AsgiEvent where
  | request (body : List UInt8) (moreBody : Bool)
  | other (kind : String)
deriving DecidableEq, Repr

structure AsgiScope where
  kind : String
  headers : List (String × String)
deriving DecidableEq, Repr

-- The answers of receive() to an application, call by call; `none` waits for ever.
abbrev Receive := Nat → Option AsgiEvent

inductive LimitOutcome where
  | forward (receive : Receive)
  | tooLarge (unread : List AsgiEvent)
  | badLength (unread : List AsgiEvent)
  | waiting

section Model

def pendingEvents (events : List AsgiEvent) : Receive := fun call => events[call]?

-- The header names of a scope are in lower case.
def contentLength (scope : AsgiScope) : Option String :=
  (scope.headers.find? fun header => header.1 = "content-length").map (·.2)

-- The events left after the drain; `none` where it waits for one more.
def drainBody : List AsgiEvent → Option (List AsgiEvent)
  | [] => none
  | .other _ :: rest => some rest
  | .request _ moreBody :: rest => if moreBody then drainBody rest else some rest

def replayReceive (body : List UInt8) (receive : Receive) : Receive
  | 0 => some (.request body false)
  | call + 1 => receive call

def passthrough (held : AsgiEvent) : Receive := fun _ => some held

def drainAndRefuse (events : List AsgiEvent) : LimitOutcome :=
  match drainBody events with
  | none => .waiting
  | some unread => .tooLarge unread

def countBody (limit : Int) (buf : List UInt8) : List AsgiEvent → LimitOutcome
  | [] => .waiting
  | .other kind :: _ => .forward (passthrough (.other kind))
  | .request chunk moreBody :: rest =>
      if limit < (buf.length + chunk.length : Nat) then
        if moreBody then drainAndRefuse rest else .tooLarge rest
      else if moreBody then countBody limit (buf ++ chunk) rest
      else .forward (replayReceive (buf ++ chunk) (pendingEvents rest))

def requestSizeLimit (intOfText : String → Option Int) (limit : Int) (scope : AsgiScope) (events : List AsgiEvent) :
    LimitOutcome :=
  if scope.kind ≠ "http" then .forward (pendingEvents events)
  else if limit ≤ 0 then .forward (pendingEvents events)
  else
    match contentLength scope with
    | none => countBody limit [] events
    | some text =>
        match intOfText text with
        | none => .badLength events
        | some announced =>
            if announced < 0 then .badLength events
            else if limit < announced then drainAndRefuse events
            else countBody limit [] events

-- The buffers the loop holds, one after each event it has counted.
def heldBuffers (limit : Int) (buf : List UInt8) : List AsgiEvent → List (List UInt8)
  | .request chunk moreBody :: rest =>
      if limit < (buf.length + chunk.length : Nat) then []
      else if moreBody then (buf ++ chunk) :: heldBuffers limit (buf ++ chunk) rest
      else [buf ++ chunk]
  | _ => []

end Model

section Whole

-- A request as a whole: complete, broken off by another event, or not at its end yet.
inductive WholeRequest where
  | complete (body : List UInt8) (rest : List AsgiEvent)
  | brokenOff (part : List UInt8) (kind : String) (rest : List AsgiEvent)
  | unfinished

def readWhole (part : List UInt8) : List AsgiEvent → WholeRequest
  | [] => .unfinished
  | .other kind :: rest => .brokenOff part kind rest
  | .request chunk moreBody :: rest => if moreBody then readWhole (part ++ chunk) rest else .complete (part ++ chunk) rest

def announcedLength (intOfText : String → Option Int) (scope : AsgiScope) : Except Unit (Option Int) :=
  match contentLength scope with
  | none => .ok none
  | some text =>
      match intOfText text with
      | none => .error ()
      | some announced => if announced < 0 then .error () else .ok (some announced)

def exceeds (limit : Int) (announced : Option Int) (body : List UInt8) : Prop :=
  limit < body.length ∨ announced.any (fun length => decide (limit < length)) = true

instance (limit : Int) (announced : Option Int) (body : List UInt8) : Decidable (exceeds limit announced body) :=
  inferInstanceAs (Decidable (_ ∨ _))

-- One look at the size of the whole body.
def judgeWhole (limit : Int) (announced : Option Int) : WholeRequest → LimitOutcome
  | .unfinished => .waiting
  | .complete body rest =>
      if exceeds limit announced body then .tooLarge rest else .forward (replayReceive body (pendingEvents rest))
  | .brokenOff part kind rest => if exceeds limit announced part then .tooLarge rest else .forward (passthrough (.other kind))

-- The answer of a reader that takes the whole request before it looks at its size.
def answerWhole (intOfText : String → Option Int) (limit : Int) (scope : AsgiScope) (events : List AsgiEvent) : LimitOutcome :=
  match announcedLength intOfText scope with
  | .error _ => .badLength events
  | .ok announced => judgeWhole limit announced (readWhole [] events)

end Whole

section Refinement

theorem drain_judged (limit : Int) (announced : Option Int) (events : List AsgiEvent) (part : List UInt8)
    (grown : ∀ suffix, exceeds limit announced (part ++ suffix)) :
    drainAndRefuse events = judgeWhole limit announced (readWhole part events) := by
  have now : exceeds limit announced part := by
    have whole := grown []
    rwa [List.append_nil] at whole
  induction events generalizing part with
  | nil => rfl
  | cons event rest ih =>
      cases event with
      | other kind => simp only [drainAndRefuse, drainBody, readWhole, judgeWhole, if_pos now]
      | request chunk moreBody =>
          cases moreBody with
          | false =>
              simp only [drainAndRefuse, drainBody, readWhole, judgeWhole, if_pos (grown chunk), if_neg Bool.false_ne_true]
          | true =>
              have further : ∀ suffix, exceeds limit announced ((part ++ chunk) ++ suffix) := by
                intro suffix
                rw [List.append_assoc]
                exact grown (chunk ++ suffix)
              have tail := ih (part ++ chunk) further (grown chunk)
              rw [readWhole, if_pos rfl, ← tail]
              simp only [drainAndRefuse, drainBody, if_pos]

theorem exceeds_append (limit : Int) (announced : Option Int) (part suffix : List UInt8) (exceeding : limit < part.length) :
    exceeds limit announced (part ++ suffix) := by
  left
  rw [List.length_append]
  omega

-- Up to the first piece over the limit the two readers hold the same bytes.
theorem count_judged (limit : Int) (announced : Option Int) (honest : ∀ length, announced = some length → length ≤ limit)
    (events : List AsgiEvent) (buf : List UInt8) (within : (buf.length : Int) ≤ limit) :
    countBody limit buf events = judgeWhole limit announced (readWhole buf events) := by
  have fits : ∀ part : List UInt8, (part.length : Int) ≤ limit → ¬exceeds limit announced part := by
    rintro part small (exceeding | exceeding)
    · omega
    · obtain ⟨length, isAnnounced, above⟩ := (Option.any_eq_true _ _).mp exceeding
      have kept := honest length isAnnounced
      have beyond := of_decide_eq_true above
      omega
  induction events generalizing buf with
  | nil => rfl
  | cons event rest ih =>
      cases event with
      | other kind => rw [countBody, readWhole, judgeWhole, if_neg (fits buf within)]
      | request chunk moreBody =>
          rw [countBody, ← List.length_append]
          by_cases exceeding : limit < ((buf ++ chunk).length : Nat)
          · have refused := exceeds_append limit announced (buf ++ chunk)
            cases moreBody with
            | false =>
                have whole := refused [] exceeding
                rw [List.append_nil] at whole
                rw [if_pos exceeding, if_neg Bool.false_ne_true, readWhole, if_neg Bool.false_ne_true, judgeWhole, if_pos whole]
            | true =>
                rw [if_pos exceeding, if_pos rfl, readWhole, if_pos rfl]
                exact drain_judged limit announced rest (buf ++ chunk) fun suffix => refused suffix exceeding
          · have small : ((buf ++ chunk).length : Int) ≤ limit := by omega
            rw [if_neg exceeding]
            cases moreBody with
            | false => rw [if_neg Bool.false_ne_true, readWhole, if_neg Bool.false_ne_true, judgeWhole, if_neg (fits _ small)]
            | true =>
                rw [if_pos rfl, readWhole, if_pos rfl]
                exact ih (buf ++ chunk) small

theorem held_within (limit : Int) (events : List AsgiEvent) (buf : List UInt8) :
    ∀ held ∈ heldBuffers limit buf events, (held.length : Int) ≤ limit := by
  induction events generalizing buf with
  | nil =>
      intro held member
      cases member
  | cons event rest ih =>
      cases event with
      | other kind =>
          intro held member
          cases member
      | request chunk moreBody =>
          intro held member
          rw [heldBuffers, ← List.length_append] at member
          by_cases exceeding : limit < ((buf ++ chunk).length : Nat)
          · rw [if_pos exceeding] at member
            cases member
          · rw [if_neg exceeding] at member
            have small : ((buf ++ chunk).length : Int) ≤ limit := by omega
            cases moreBody with
            | false =>
                rw [if_neg Bool.false_ne_true, List.mem_singleton] at member
                rwa [member]
            | true =>
                rw [if_pos rfl, List.mem_cons] at member
                rcases member with isFirst | later
                · rwa [isFirst]
                · exact ih (buf ++ chunk) held later

-- However the body is cut into events, the count refuses, forwards and leaves unread what one look at the whole would.
theorem size_limit_judges_whole (intOfText : String → Option Int) (limit : Int) (scope : AsgiScope) (events : List AsgiEvent)
    (isHttp : scope.kind = "http") (limited : 0 < limit) :
    requestSizeLimit intOfText limit scope events = answerWhole intOfText limit scope events ∧
      ∀ held ∈ heldBuffers limit [] events, (held.length : Int) ≤ limit := by
  refine ⟨?_, held_within limit events []⟩
  have empty : (([] : List UInt8).length : Int) ≤ limit := by
    rw [List.length_nil]
    omega
  rw [requestSizeLimit, if_neg (not_not_intro isHttp), if_neg (by omega), answerWhole, announcedLength]
  cases contentLength scope with
  | none => exact count_judged limit none (by intro length absent; cases absent) events [] empty
  | some text =>
      dsimp only
      cases intOfText text with
      | none => rfl
      | some announced =>
          dsimp only
          by_cases negative : announced < 0
          · rw [if_pos negative, if_pos negative]
          · rw [if_neg negative, if_neg negative]
            by_cases exceeding : limit < announced
            · rw [if_pos exceeding]
              exact drain_judged limit (some announced) events [] fun _ => .inr (decide_eq_true exceeding)
            · rw [if_neg exceeding]
              refine count_judged limit (some announced) ?_ events [] empty
              intro length isAnnounced
              cases isAnnounced
              omega

-- Two pieces of a body at the limit, and what follows them.
theorem size_limit_judges_pieces :
    requestSizeLimit (fun text => if text = "3" then some 3 else none) 3 ⟨"http", [("content-length", "3")]⟩
        [.request [1, 2] true, .request [3] false, .other "http.disconnect"] =
      .forward (replayReceive [1, 2, 3] (pendingEvents [.other "http.disconnect"])) ∧
      ∀ held ∈ [[1, 2], [1, 2, 3]], ((held : List UInt8).length : Int) ≤ 3 :=
  size_limit_judges_whole (fun text => if text = "3" then some 3 else none) 3 ⟨"http", [("content-length", "3")]⟩
    [.request [1, 2] true, .request [3] false, .other "http.disconnect"] rfl (by decide)

end Refinement

end SasCore.Routes
