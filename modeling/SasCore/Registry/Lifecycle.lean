import SasCore.Registry.Store

set_option autoImplicit false

namespace SasCore.Registry

variable {K : Type}

def success : Nat := 0
def blacklistedCode : Nat := 101
def missingParam : Nat := 102
def invalidParam : Nat := 103
def terminatedGrant : Nat := 500
def suspendedGrant : Nat := 501
def unsyncOpParam : Nat := 502

inductive CbsdEvent where
  | register | reregister | deregister
deriving DecidableEq, Repr

inductive GrantEvent where
  | approve | authorize | suspend | terminate | expire | relinquish
deriving DecidableEq, Repr

def GrantState.terminal : GrantState → Bool
  | .terminated | .expired | .relinquished => true
  | .requested | .granted | .authorized | .suspended => false

structure TransitionSpec (S : Type) where
  sources : List S
  target : S
  successCode : Nat
  requiredFields : List String
  idempotent : Bool
  failureCode : Nat
deriving DecidableEq, Repr

structure TransitionOutcome (S : Type) where
  ok : Bool
  responseCode : Nat
  fromState : S
  toState : Option S
  idempotentHit : Bool
  detail : Option String
deriving DecidableEq, Repr

def cbsdTransitions : CbsdEvent → TransitionSpec CbsdState
  | .register => ⟨[.unregistered, .deregistered], .registered, success, ["cbsdSerialNumber", "fccId", "userId"], false,
      invalidParam⟩
  | .reregister => ⟨[.registered], .registered, success, ["cbsdSerialNumber", "fccId", "userId"], true, invalidParam⟩
  | .deregister => ⟨[.registered], .deregistered, success, ["cbsdId"], false, invalidParam⟩

def grantTransitions : GrantEvent → TransitionSpec GrantState
  | .approve => ⟨[.requested], .granted, success, ["cbsdId", "operationParam"], false, invalidParam⟩
  | .authorize => ⟨[.granted, .authorized, .suspended], .authorized, success, ["cbsdId", "grantId", "operationState"],
      true, invalidParam⟩
  | .suspend => ⟨[.granted, .authorized, .suspended], .suspended, suspendedGrant, ["cbsdId", "grantId"], true,
      invalidParam⟩
  | .terminate => ⟨[.granted, .authorized, .suspended], .terminated, terminatedGrant, ["cbsdId", "grantId"], false,
      invalidParam⟩
  | .expire => ⟨[.granted, .authorized, .suspended], .expired, invalidParam, ["cbsdId", "grantId"], true, invalidParam⟩
  | .relinquish => ⟨[.granted, .authorized, .suspended], .relinquished, success, ["cbsdId", "grantId"], false,
      invalidParam⟩

-- A payload lists the fields of a request with their texts; an empty text counts as missing.
abbrev Payload := List (String × String)

def Payload.get (payload : Payload) (name : String) : String := ((payload.lookup name).getD "")

def missingRequiredFields (payload : Payload) (required : List String) : List String :=
  required.filter fun name => payload.get name = ""

def missingOutcome {S : Type} (current : S) (missing : List String) : TransitionOutcome S :=
  ⟨false, missingParam, current, none, false, some ("missing:" ++ String.intercalate "," missing)⟩

def acceptedOutcome {S : Type} [DecidableEq S] (spec : TransitionSpec S) (current : S) : TransitionOutcome S :=
  ⟨true, spec.successCode, current, some spec.target, spec.idempotent && current = spec.target, none⟩

def resolveCbsdState : Option (Cbsd K) → CbsdState
  | none => .unregistered
  | some cbsd => cbsd.lifecycleState.getD .registered

def grantExpired (grant : Grant K) (now : Int) : Bool := wholeSecond grant.grantExpireTime ≤ wholeSecond now

def resolveGrantState (grant : Grant K) (now : Int) : GrantState :=
  match grant.lifecycleState with
  | some state =>
      if (state = .granted ∨ state = .authorized ∨ state = .suspended) ∧ grantExpired grant now then .expired else state
  | none =>
      if grant.terminated then .terminated
      else if grantExpired grant now then .expired
      else if grant.authorized then .authorized
      else .granted

def evaluateCbsdTransition (event : CbsdEvent) (current : CbsdState) (payload : Payload) :
    TransitionOutcome CbsdState :=
  let spec := cbsdTransitions event
  let missing := missingRequiredFields payload spec.requiredFields
  if missing ≠ [] then missingOutcome current missing
  else if current ∉ spec.sources then ⟨false, spec.failureCode, current, none, false, some "illegal_source"⟩
  else acceptedOutcome spec current

def evaluateGrantTransition (event : GrantEvent) (current : GrantState) (payload : Payload) :
    TransitionOutcome GrantState :=
  let spec := grantTransitions event
  let missing := missingRequiredFields payload spec.requiredFields
  if missing ≠ [] then missingOutcome current missing
  else if current.terminal ∧ event ≠ .approve then
    if spec.idempotent ∧ current = spec.target then acceptedOutcome spec current
    else ⟨false, invalidParam, current, none, false, some "terminal_state"⟩
  else if current ∉ spec.sources then ⟨false, spec.failureCode, current, none, false, some "illegal_source"⟩
  else acceptedOutcome spec current

def applyCbsdState (cbsd : Cbsd K) (state : CbsdState) : Cbsd K := { cbsd with lifecycleState := some state }

def applyGrantState (grant : Grant K) (state : GrantState) : Grant K :=
  match state with
  | .authorized => { grant with lifecycleState := some .authorized, authorized := true, terminated := false }
  | .granted => { grant with lifecycleState := some .granted, authorized := false, terminated := false }
  | .suspended => { grant with lifecycleState := some .suspended, terminated := false }
  | .terminated => { grant with lifecycleState := some .terminated, terminated := true }
  | .expired => { grant with lifecycleState := some .expired, terminated := true }
  | .relinquished => { grant with lifecycleState := some .relinquished, terminated := true }
  | .requested => { grant with lifecycleState := some .requested }

def applyGrantEvent (grant : Grant K) (event : GrantEvent) (payload : Payload) (now : Int) :
    Grant K × TransitionOutcome GrantState :=
  let outcome := evaluateGrantTransition event (resolveGrantState grant now) payload
  match outcome.ok, outcome.toState with
  | true, some target => (applyGrantState grant target, outcome)
  | _, _ => (grant, outcome)

def heartbeatOperationAllowed (grant : Grant K) (operationState : String) (now : Int) : TransitionOutcome GrantState :=
  let current := resolveGrantState grant now
  if current = .terminated then
    ⟨false, terminatedGrant, current, some .terminated, false, some "already_terminated"⟩
  else if current = .relinquished then ⟨false, invalidParam, current, none, false, some "terminal_state"⟩
  else if operationState = "AUTHORIZED" ∧ current = .granted then
    ⟨false, unsyncOpParam, current, none, false, some "authorized_before_granted_heartbeat"⟩
  else if current = .suspended then ⟨false, suspendedGrant, current, some .suspended, false, some "suspended"⟩
  else ⟨true, success, current, some current, false, none⟩

def Grant.terminalColumn (grant : Grant K) : Bool :=
  match grant.lifecycleState with
  | some state => state.terminal
  | none => false

-- The boolean flag says what the state column says.
def Grant.InSync (grant : Grant K) : Prop := grant.terminated = grant.terminalColumn

theorem terminal_column_resolved (grant : Grant K) (now : Int) (dead : grant.terminalColumn = true) :
    (resolveGrantState grant now).terminal = true ∧ grant.lifecycleState = some (resolveGrantState grant now) := by
  cases column : grant.lifecycleState with
  | none => simp [Grant.terminalColumn, column] at dead
  | some state =>
      simp only [Grant.terminalColumn, column] at dead
      have resolved : resolveGrantState grant now = state := by
        simp only [resolveGrantState, column]
        cases state <;> simp_all [GrantState.terminal]
      rw [resolved]
      exact ⟨dead, rfl⟩

-- An event either leaves the row alone or moves it to the target of the event; from a terminal
-- state the only such move is the repeated expiry of an expired grant.
theorem apply_grant_event_cases (grant : Grant K) (event : GrantEvent) (payload : Payload) (now : Int) :
    (applyGrantEvent grant event payload now).1 = grant ∨
      ((applyGrantEvent grant event payload now).1 = applyGrantState grant (grantTransitions event).target ∧
        (applyGrantEvent grant event payload now).2.ok = true ∧
        ((resolveGrantState grant now).terminal = true →
          event = .expire ∧ resolveGrantState grant now = .expired)) := by
  unfold applyGrantEvent evaluateGrantTransition
  dsimp only
  split
  · rename_i target okEq targetEq
    right
    by_cases missing : missingRequiredFields payload (grantTransitions event).requiredFields ≠ []
    · rw [if_pos missing] at okEq
      cases okEq
    · rw [if_neg missing] at okEq targetEq ⊢
      by_cases dead : (resolveGrantState grant now).terminal = true ∧ event ≠ .approve
      · rw [if_pos dead] at okEq targetEq ⊢
        by_cases repeated : (grantTransitions event).idempotent = true ∧
            resolveGrantState grant now = (grantTransitions event).target
        · rw [if_pos repeated] at okEq targetEq ⊢
          refine ⟨by rw [Option.some.inj targetEq], rfl, fun _ => ?_⟩
          obtain ⟨_, same⟩ := repeated
          rw [same] at dead
          cases event <;> simp_all [grantTransitions, GrantState.terminal]
        · rw [if_neg repeated] at okEq
          cases okEq
      · rw [if_neg dead] at okEq targetEq ⊢
        by_cases source : resolveGrantState grant now ∉ (grantTransitions event).sources
        · rw [if_pos source] at okEq
          cases okEq
        · rw [if_neg source] at okEq targetEq ⊢
          refine ⟨by rw [Option.some.inj targetEq], rfl, fun terminal => ?_⟩
          have isSource := not_not.mp source
          cases event <;> simp_all [grantTransitions, GrantState.terminal]
  · exact Or.inl rfl

theorem evaluate_accepted (event : GrantEvent) (current : GrantState) (payload : Payload) :
    (evaluateGrantTransition event current payload).ok = true →
      (evaluateGrantTransition event current payload).toState = some (grantTransitions event).target := by
  unfold evaluateGrantTransition
  dsimp only
  split
  · intro accepted
    cases accepted
  · split
    · split
      · exact fun _ => rfl
      · intro accepted
        cases accepted
    · split
      · intro accepted
        cases accepted
      · exact fun _ => rfl

theorem event_outcome (grant : Grant K) (event : GrantEvent) (payload : Payload) (now : Int) :
    (applyGrantEvent grant event payload now).2 = evaluateGrantTransition event (resolveGrantState grant now) payload := by
  unfold applyGrantEvent
  dsimp only
  split <;> rfl

theorem event_accepted_row (grant : Grant K) (event : GrantEvent) (payload : Payload) (now : Int)
    (accepted : (applyGrantEvent grant event payload now).2.ok = true) :
    (applyGrantEvent grant event payload now).1 = applyGrantState grant (grantTransitions event).target := by
  rw [event_outcome] at accepted
  unfold applyGrantEvent
  dsimp only
  rw [accepted, evaluate_accepted event _ payload accepted]

-- Every event but the expiry moves a row only from one of its sources.
theorem event_row (grant : Grant K) (event : GrantEvent) (payload : Payload) (now : Int) (other : event ≠ .expire)
    (fields : missingRequiredFields payload (grantTransitions event).requiredFields = []) :
    (applyGrantEvent grant event payload now).1 =
      if resolveGrantState grant now ∈ (grantTransitions event).sources then
        applyGrantState grant (grantTransitions event).target
      else grant := by
  unfold applyGrantEvent evaluateGrantTransition
  dsimp only
  rw [if_neg (not_not.mpr fields)]
  cases event with
  | expire => exact absurd rfl other
  | approve => cases resolveGrantState grant now <;> rfl
  | authorize => cases resolveGrantState grant now <;> rfl
  | suspend => cases resolveGrantState grant now <;> rfl
  | terminate => cases resolveGrantState grant now <;> rfl
  | relinquish => cases resolveGrantState grant now <;> rfl

theorem event_missing_row (grant : Grant K) (event : GrantEvent) (payload : Payload) (now : Int)
    (missing : missingRequiredFields payload (grantTransitions event).requiredFields ≠ []) :
    (applyGrantEvent grant event payload now).1 = grant := by
  unfold applyGrantEvent evaluateGrantTransition
  dsimp only
  rw [if_pos missing]
  rfl

theorem apply_grant_state_sync (grant : Grant K) (state : GrantState) (known : state ≠ .requested) :
    (applyGrantState grant state).InSync := by
  cases state <;> first | rfl | exact absurd rfl known

theorem event_target_known (event : GrantEvent) : (grantTransitions event).target ≠ .requested := by
  cases event <;> simp [grantTransitions]

theorem apply_grant_event_sync (grant : Grant K) (event : GrantEvent) (payload : Payload) (now : Int)
    (sync : grant.InSync) : (applyGrantEvent grant event payload now).1.InSync := by
  rcases apply_grant_event_cases grant event payload now with same | ⟨moved, _, _⟩
  · rw [same]
    exact sync
  · rw [moved]
    exact apply_grant_state_sync grant _ (event_target_known event)

theorem apply_grant_event_terminal (grant : Grant K) (event : GrantEvent) (payload : Payload) (now : Int)
    (dead : grant.terminalColumn = true) : (applyGrantEvent grant event payload now).1.terminalColumn = true := by
  rcases apply_grant_event_cases grant event payload now with same | ⟨moved, _, repeated⟩
  · rw [same]
    exact dead
  · obtain ⟨isExpire, _⟩ := repeated (terminal_column_resolved grant now dead).1
    rw [moved, isExpire]
    rfl

-- Everything an event can touch is the state column and the two flags.
theorem apply_grant_event_frame (grant : Grant K) (event : GrantEvent) (payload : Payload) (now : Int) :
    (applyGrantEvent grant event payload now).1 =
      { grant with
        lifecycleState := (applyGrantEvent grant event payload now).1.lifecycleState
        authorized := (applyGrantEvent grant event payload now).1.authorized
        terminated := (applyGrantEvent grant event payload now).1.terminated } := by
  rcases apply_grant_event_cases grant event payload now with same | ⟨moved, _, _⟩
  · rw [same]
  · rw [moved]
    cases event <;> rfl

end SasCore.Registry
