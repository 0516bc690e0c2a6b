import SasCore.Registry.GrantSession

set_option autoImplicit false
set_option linter.unusedSectionVars false

namespace SasCore.Registry

variable {K : Type} [Field K] [LinearOrder K]

-- A grant that can no longer block, be counted, be exported or be heartbeated.
def Grant.Cleared (grant : Grant K) : Prop := grant.terminated = true ∧ grant.terminalColumn = true

instance (grant : Grant K) : Decidable grant.Cleared := inferInstanceAs (Decidable (_ ∧ _))

-- The terminate event has a row to work on: the row has an id, and its state, derived from the column
-- and the clock, is one that terminate may leave.
def Grant.Terminable (grant : Grant K) (now : Int) : Prop :=
  grant.grantId ≠ "" ∧ resolveGrantState grant now ∈ (grantTransitions .terminate).sources

instance (grant : Grant K) (now : Int) : Decidable (grant.Terminable now) := inferInstanceAs (Decidable (_ ∧ _))

def Grant.Sweepable (clock : Clock) (grant : Grant K) : Prop :=
  if grant.terminated then grant.terminalColumn = true else grant.Terminable (clock grant.id)

instance (clock : Clock) (grant : Grant K) : Decidable (grant.Sweepable clock) :=
  inferInstanceAs (Decidable (if grant.terminated = true then grant.terminalColumn = true else grant.Terminable (clock grant.id)))

theorem terminate_row_terminable (clock : Clock) (cbsdId : String) (grant : Grant K) (named : cbsdId ≠ "")
    (terminable : grant.Terminable (clock grant.id)) :
    terminateRow clock cbsdId grant = applyGrantState grant .terminated := by
  obtain ⟨hasId, source⟩ := terminable
  have fields := id_payload_missing cbsdId grant.grantId named
  rw [if_neg hasId] at fields
  rw [terminateRow, event_row grant .terminate _ _ (fun same => by cases same) fields, if_pos source]
  rfl

theorem terminate_row_refused (clock : Clock) (cbsdId : String) (grant : Grant K) (named : cbsdId ≠ "")
    (refused : ¬ grant.Terminable (clock grant.id)) : terminateRow clock cbsdId grant = grant := by
  have fields := id_payload_missing cbsdId grant.grantId named
  by_cases empty : grant.grantId = ""
  · rw [if_pos empty] at fields
    exact event_missing_row grant .terminate _ _ (by simp [fields])
  · rw [if_neg empty] at fields
    rw [terminateRow, event_row grant .terminate _ _ (fun same => by cases same) fields]
    exact if_neg fun source => refused ⟨empty, source⟩

theorem terminate_row_cleared_iff (clock : Clock) (cbsdId : String) (grant : Grant K) (named : cbsdId ≠ "")
    (live : grant.terminated = false) :
    (terminateRow clock cbsdId grant).Cleared ↔ grant.Terminable (clock grant.id) := by
  constructor
  · intro cleared
    by_contra refused
    rw [terminate_row_refused clock cbsdId grant named refused] at cleared
    exact Bool.false_ne_true (live.symm.trans cleared.1)
  · intro terminable
    rw [terminate_row_terminable clock cbsdId grant named terminable]
    exact ⟨rfl, rfl⟩

theorem swept_row_cleared_iff (clock : Clock) (cbsdId : String) (grant : Grant K) (named : cbsdId ≠ "") :
    (if grant.terminated then grant else terminateRow clock cbsdId grant).Cleared ↔ grant.Sweepable clock := by
  cases flag : grant.terminated with
  | true => simp [Grant.Sweepable, Grant.Cleared, flag]
  | false =>
      simp only [Grant.Sweepable, flag, Bool.false_eq_true, if_false]
      exact terminate_row_cleared_iff clock cbsdId grant named flag

theorem terminate_row_cbsd (clock : Clock) (cbsdId : String) (grant : Grant K) :
    (terminateRow clock cbsdId grant).cbsdId = grant.cbsdId := by
  rw [terminateRow, apply_grant_event_frame]

-- Sweeping leaves the grants of a CBSD cleared exactly when each of them could be swept.
theorem terminate_grants_clear_iff (clock : Clock) (cbsdId : String) (store : Store K) (named : cbsdId ≠ "") :
    (∀ grant ∈ (terminateGrants clock cbsdId store).grants, grant.cbsdId = cbsdId → grant.Cleared) ↔
      ∀ grant ∈ store.grants, grant.cbsdId = cbsdId → grant.Sweepable clock := by
  simp only [terminateGrants, Store.mapGrantsOf, List.forall_mem_map]
  refine forall₂_congr fun grant _ => ?_
  by_cases own : grant.cbsdId = cbsdId
  · have owner : (if grant.terminated then grant else terminateRow clock cbsdId grant).cbsdId = cbsdId := by
      split
      · exact own
      · rw [terminate_row_cbsd]
        exact own
    rw [if_pos own]
    simp only [owner, own, true_implies]
    exact swept_row_cleared_iff clock cbsdId grant named
  · rw [if_neg own]
    simp only [own, false_implies]

theorem make_cbsd_id_named (fccId serial : String) : makeCbsdId fccId serial ≠ "" := by
  intro empty
  have length := congrArg String.length empty
  simp only [makeCbsdId, String.length_append] at length
  have slash : "/".length = 1 := rfl
  have none : "".length = 0 := rfl
  omega

-- A SUCCESS for a known CBSD is the answer of the re-registration branch.
theorem reregistered_store (validated : Except Nat (Registration K)) (certificateHash : Option String) (clock : Clock)
    (req : RegistrationRequest) (store : Store K) (existing : Cbsd K)
    (found : store.findCbsd (makeCbsdId req.fccId req.cbsdSerialNumber) = some existing)
    (answered : (registrationItem validated certificateHash clock req store).2 =
      ⟨success, some (makeCbsdId req.fccId req.cbsdSerialNumber), none⟩) :
    ∃ row, (registrationItem validated certificateHash clock req store).1 =
      terminateGrants clock (makeCbsdId req.fccId req.cbsdSerialNumber) (store.putCbsd row) := by
  cases validated with
  | error code => simp [registrationItem, registrationRefused] at answered
  | ok merged =>
      simp only [registrationItem, found] at answered ⊢
      split at answered
      · simp [registrationRefused] at answered
      · split at answered
        · rename_i bound accepted
          rw [if_neg bound, if_pos accepted]
          exact ⟨_, rfl⟩
        · simp [registrationRefused] at answered

theorem reregistration_clears_iff (validated : Except Nat (Registration K)) (certificateHash : Option String)
    (clock : Clock) (req : RegistrationRequest) (store : Store K) (existing : Cbsd K)
    (found : store.findCbsd (makeCbsdId req.fccId req.cbsdSerialNumber) = some existing)
    (answered : (registrationItem validated certificateHash clock req store).2 =
      ⟨success, some (makeCbsdId req.fccId req.cbsdSerialNumber), none⟩) :
    (∀ grant ∈ (registrationItem validated certificateHash clock req store).1.grants,
        grant.cbsdId = makeCbsdId req.fccId req.cbsdSerialNumber → grant.terminated = true ∧ grant.terminalColumn = true) ↔
      ∀ grant ∈ store.grants, grant.cbsdId = makeCbsdId req.fccId req.cbsdSerialNumber → grant.Sweepable clock := by
  obtain ⟨row, after⟩ := reregistered_store validated certificateHash clock req store existing found answered
  rw [after]
  exact terminate_grants_clear_iff clock _ (store.putCbsd row) (make_cbsd_id_named req.fccId req.cbsdSerialNumber)

-- A granted row whose time is over, seen by the clock of the re-registration and by no heartbeat.
def lapsedGrant (expireTime : Int) : Grant Rat where
  id := 0
  grantId := "grant/1"
  cbsdPk := 0
  cbsdId := "fcc/sn"
  channelType := .gaa
  lowFrequency := 3550000000
  highFrequency := 3560000000
  maxEirp := some 10
  grantExpireTime := expireTime
  heartbeatInterval := 60
  transmitExpireTime := none
  authorized := false
  measReportRequested := false
  terminated := false
  lifecycleState := some .granted
  grantJson := ⟨⟨0, 0, 0, 0⟩, none⟩

def lapsedStore (expireTime : Int) : Store Rat := (storeAt 0).addGrant (lapsedGrant expireTime)

def sampleRegistration : RegistrationRequest := ⟨"fcc", "sn", "user"⟩

theorem lapsed_grant_survives :
    ¬ ∀ (validated : Except Nat (Registration Rat)) (certificateHash : Option String) (clock : Clock)
      (req : RegistrationRequest) (store : Store Rat) (existing : Cbsd Rat),
      store.findCbsd (makeCbsdId req.fccId req.cbsdSerialNumber) = some existing →
      (registrationItem validated certificateHash clock req store).2 =
        ⟨success, some (makeCbsdId req.fccId req.cbsdSerialNumber), none⟩ →
      ∀ grant ∈ (registrationItem validated certificateHash clock req store).1.grants,
        grant.cbsdId = makeCbsdId req.fccId req.cbsdSerialNumber →
          grant.terminated = true ∧ grant.terminalColumn = true := by
  intro claim
  have found : ((lapsedStore second).findCbsd "fcc/sn").isSome = true := by decide +kernel
  obtain ⟨existing, isExisting⟩ := Option.isSome_iff_exists.mp found
  have cleared := claim (.ok (registeredAt 0)) none (fun _ => 2 * second) sampleRegistration (lapsedStore second) existing
    isExisting (by decide +kernel)
  exact absurd cleared (by decide +kernel)

theorem reregistration_clears_iff_sample :
    (∀ grant ∈ (registrationItem (.ok (registeredAt 0)) none (fun _ => 2 * second) sampleRegistration
        (lapsedStore (5 * second))).1.grants, grant.cbsdId = "fcc/sn" →
          grant.terminated = true ∧ grant.terminalColumn = true) ↔
      ∀ grant ∈ (lapsedStore (5 * second)).grants, grant.cbsdId = "fcc/sn" → grant.Sweepable fun _ => 2 * second :=
  reregistration_clears_iff (.ok (registeredAt 0)) none (fun _ => 2 * second) sampleRegistration
    (lapsedStore (5 * second)) ((storeAt 0).cbsds.head (by decide +kernel)) (by decide +kernel) (by decide +kernel)

end SasCore.Registry
