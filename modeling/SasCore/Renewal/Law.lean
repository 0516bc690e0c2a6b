import SasCore.Renewal.Service
import SasCore.Registry.LifecycleSafety
import Mathlib.Algebra.Order.Ring.Rat

set_option autoImplicit false
set_option linter.unusedSectionVars false

namespace SasCore.Renewal

open Registry Injection

variable {K : Type} [Field K] [LinearOrder K] (env : RenewalEnv K)

section Statement

def readEnd (reading : Except Raised (Option Int)) : Option Int := reading.toOption.join

-- When the licence of a live PAL row ends: the column first, then the record.
def liveEnd (pal : PalRecord K) : Option Int :=
  (readEnd (parseUtcZ env (textColumn pal.licenseExpiration))).or (readEnd (recordExpiration env pal))

-- A live row decides where it has an expiration; the stored one counts where there is none.
def licenceEnd (pals : List (PalRecord K)) (row : GrantRow K) : Option Int :=
  ((linkedPal env pals row).bind (liveEnd env)).or (readEnd (storedExpiration env row))

structure Licensed (pals : List (PalRecord K)) (row : GrantRow K) (newExpire : Int) : Prop where
  valid : ∀ pal, linkedPal env pals row = some pal → statusValid pal = true
  ending : ∃ cap, licenceEnd env pals row = some cap ∧ newExpire ≤ cap

def generationKeys : List String := ["fss_gen", "gwbl_gen", "exz_gen", "dpa_gen"]

-- What a renewal leaves in grant_json beside the generations and the expiration in the context.
structure MetaKept (before after : List (String × Json K)) : Prop where
  others : ∀ key, key ∉ generationKeys → key ≠ authContextKey → PyDict.lookup after key = PyDict.lookup before key
  context : PyDict.lookup after authContextKey = PyDict.lookup before authContextKey ∨
    ∃ fields value, PyDict.lookup before authContextKey = some (.object fields) ∧
      PyDict.lookup after authContextKey = some (.object (PyDict.set expirationKey value fields))

structure Renewed (pals : List (PalRecord K)) (stamp : SyncStamp) (now : Int) (before after : GrantRow K) : Prop where
  live : (resolveGrantState before now).terminal = false ∧ before.terminated = false
  unexpired : now < before.grantExpireTime
  future : now < after.grantExpireTime
  capped : after.grantExpireTime ≤ now + defaultGrantDurationSec * second
  licensed : palAuthorized env before = true → Licensed env pals before after.grantExpireTime
  stamped : ∀ entry ∈ generationFields stamp, PyDict.lookup (loadGrantMeta after) entry.1 = some (.int entry.2)
  kept : MetaKept (loadGrantMeta before) (loadGrantMeta after)
  frame : after = { before with grantExpireTime := after.grantExpireTime, grantJson := after.grantJson }

def Failed (answer : Except Raised RenewalResult) : Prop := ∀ result, answer = .ok result → result.ok = false

-- A renewal fails and changes nothing, or it succeeds with every limit kept.
def Lawful (pals : List (PalRecord K)) (current : Option SyncStamp) (now : Int) (before : GrantRow K)
    (outcome : GrantRow K × Except Raised RenewalResult) : Prop :=
  (Failed outcome.2 ∧ outcome.1 = before) ∨
    ∃ result stamp, outcome.2 = .ok result ∧ result.ok = true ∧ result.newExpire = some outcome.1.grantExpireTime ∧
      current = some stamp ∧ Renewed env pals stamp now before outcome.1

-- The stored generations read as numbers as far as they are compared.
def StampReadable (current : Option SyncStamp) (row : GrantRow K) : Prop :=
  ∃ drifted, protectionStampDrifted env current row = .ok drifted

end Statement

section Runs

-- A grant with the PAL table, which changes as it likes between the renewals.
structure RenewalWorld (K : Type) where
  row : GrantRow K
  pals : List (PalRecord K)

inductive RenewalStep (K : Type) where
  | changePals (pals : List (PalRecord K))
  | renew (current : Option SyncStamp) (now : Int)

def renewalStep (world : RenewalWorld K) : RenewalStep K → RenewalWorld K
  | .changePals pals => { world with pals := pals }
  | .renew current now => { world with row := (applyRenewal env world.pals current world.row now).1 }

def StepLawful (world : RenewalWorld K) : RenewalStep K → Prop
  | .changePals pals => (renewalStep env world (.changePals pals)).row = world.row
  | .renew current now => Lawful env world.pals current now world.row (applyRenewal env world.pals current world.row now)

-- Only a renewal that would move the expiry needs the generations.
def StepReadable (world : RenewalWorld K) : RenewalStep K → Prop
  | .changePals _ => True
  | .renew current now =>
      StampReadable env current world.row ∨
        ∀ newExpire, computeRenewal env world.pals world.row now = .ok (renewedAt newExpire) → newExpire = world.row.grantExpireTime

-- A property of every step of a run.
def Throughout (holds : RenewalWorld K → RenewalStep K → Prop) : RenewalWorld K → List (RenewalStep K) → Prop
  | _, [] => True
  | world, step :: rest => holds world step ∧ Throughout holds (renewalStep env world step) rest

end Runs

section Context

variable (stamp : SyncStamp) (row : GrantRow K)

theorem generation_key_known (entry : String × Int) (member : entry ∈ generationFields stamp) : entry.1 ∈ generationKeys := by
  simp only [generationFields, List.mem_cons, List.not_mem_nil, or_false] at member
  rcases member with rfl | rfl | rfl | rfl <;> simp [generationKeys]

theorem stamped_meta_other (data : List (String × Json K)) (key : String) (other : key ∉ generationKeys) :
    PyDict.lookup (stampedMeta stamp data) key = PyDict.lookup data key := by
  apply PyDict.lookup_update
  intro entry member same
  obtain ⟨field, isField, isEntry⟩ := List.mem_map.mp member
  rw [← isEntry] at same
  exact other (same ▸ generation_key_known stamp field isField)

theorem context_key_other : authContextKey ∉ generationKeys := by decide

theorem stamped_meta_generation (data : List (String × Json K)) (entry : String × Int)
    (member : entry ∈ generationFields stamp) :
    PyDict.lookup (stampedMeta stamp data) entry.1 = some (.int entry.2) := by
  simp only [stampedMeta, generationFields, List.map_cons, List.map_nil, PyDict.update, List.foldl_cons, List.foldl_nil,
    PyDict.lookup_set]
  simp only [generationFields, List.mem_cons, List.not_mem_nil, or_false] at member
  rcases member with rfl | rfl | rfl | rfl <;> simp

theorem refreshed_context : loadAuthContext (refreshProtectionStamp stamp row) = loadAuthContext row := by
  have same : authContext (loadGrantMeta (refreshProtectionStamp stamp row)) = authContext (loadGrantMeta row) := by
    simp only [authContext, refreshProtectionStamp, loadGrantMeta]
    rw [stamped_meta_other stamp _ authContextKey context_key_other]
  rw [loadAuthContext, loadAuthContext, same]
  rfl

theorem same_context_cap (pals : List (PalRecord K)) (first second : GrantRow K)
    (same : loadAuthContext first = loadAuthContext second) :
    resolvePalLicenseCap env pals first = resolvePalLicenseCap env pals second := by
  simp only [resolvePalLicenseCap, linkedPal, palId, storedExpiration, same]

end Context

section Computing

variable (pals : List (PalRecord K)) (row : GrantRow K) (now : Int)

-- What a computed renewal has checked.
structure Computed (newExpire : Int) : Prop where
  live : (resolveGrantState row now).terminal = false ∧ row.terminated = false
  unexpired : wholeSecond now < wholeSecond row.grantExpireTime
  future : wholeSecond now < newExpire
  whole : wholeSecond newExpire = newExpire
  capped : newExpire ≤ wholeSecond now + defaultGrantDurationSec * second
  cap : palAuthorized env row = true → ∃ cap, resolvePalLicenseCap env pals row = .ok (some cap) ∧ newExpire ≤ cap ∧
    ∀ pal, linkedPal env pals row = some pal → statusValid pal = true

theorem resolve_state_whole : resolveGrantState row (wholeSecond now) = resolveGrantState row now := by
  have same : grantExpired row (wholeSecond now) = grantExpired row now := by rw [grantExpired, grantExpired, whole_second_whole]
  rw [resolveGrantState, resolveGrantState, same]

theorem default_whole : wholeSecond (wholeSecond now + defaultGrantDurationSec * second) =
    wholeSecond now + defaultGrantDurationSec * second := by
  simp only [wholeSecond, defaultGrantDurationSec, second]
  omega

theorem compute_renewal_cases :
    (∃ raised, computeRenewal env pals row now = .error raised) ∨
      (∃ detail, computeRenewal env pals row now = .ok (renewalRefused detail)) ∨
      ∃ newExpire, computeRenewal env pals row now = .ok (renewedAt newExpire) ∧ Computed env pals row now newExpire := by
  have later : wholeSecond now < wholeSecond now + defaultGrantDurationSec * second := by
    simp only [defaultGrantDurationSec, second]
    omega
  rw [computeRenewal]
  simp only [resolve_state_whole]
  by_cases dead : ((resolveGrantState row now).terminal || row.terminated) = true
  · exact .inr (.inl ⟨_, if_pos dead⟩)
  · rw [if_neg dead]
    have live : (resolveGrantState row now).terminal = false ∧ row.terminated = false := by simpa using dead
    by_cases expired : wholeSecond row.grantExpireTime ≤ wholeSecond now
    · exact .inr (.inl ⟨_, if_pos expired⟩)
    · rw [if_neg expired]
      by_cases isPal : palAuthorized env row = true
      · rw [if_pos isPal]
        by_cases invalid : ((linkedPal env pals row).any fun pal => !statusValid pal) = true
        · exact .inr (.inl ⟨_, if_pos invalid⟩)
        · rw [if_neg invalid]
          have valid : ∀ pal, linkedPal env pals row = some pal → statusValid pal = true := by
            intro pal isLinked
            rw [isLinked] at invalid
            simpa using invalid
          cases resolved : resolvePalLicenseCap env pals row with
          | error raised => exact .inl ⟨raised, rfl⟩
          | ok known =>
              cases known with
              | none => exact .inr (.inl ⟨_, rfl⟩)
              | some cap =>
                  simp only
                  by_cases late : wholeSecond cap ≤ wholeSecond now
                  · exact .inr (.inl ⟨_, if_pos late⟩)
                  · rw [if_neg late]
                    refine .inr (.inr ⟨_, rfl, live, not_le.mp expired, ?_, ?_, min_le_left _ _, fun _ => ⟨cap, resolved, ?_, valid⟩⟩)
                    · exact lt_min later (not_le.mp late)
                    · rcases min_choice (wholeSecond now + defaultGrantDurationSec * second) (wholeSecond cap) with isDefault | isCap
                      · rw [isDefault, default_whole]
                      · rw [isCap, whole_second_whole]
                    · exact (min_le_right _ _).trans (whole_second_below cap)
      · rw [if_neg isPal]
        exact .inr (.inr ⟨_, rfl, live, not_le.mp expired, later, default_whole now, le_refl _, fun asked => absurd asked isPal⟩)

theorem first_known_end (first later : Except Raised (Option Int)) (cap : Option Int) (known : firstKnown first later = .ok cap) :
    cap = (readEnd first).or (readEnd later) := by
  cases first with
  | error raised => cases known
  | ok reading =>
      cases reading with
      | some value =>
          cases known
          rfl
      | none =>
          rw [show firstKnown (.ok none) later = later from rfl] at known
          rw [known]
          rfl

-- The cap of a valid licence is when the licence ends.
theorem cap_is_licence_end (cap : Int) (resolved : resolvePalLicenseCap env pals row = .ok (some cap)) :
    licenceEnd env pals row = some cap := by
  rw [resolvePalLicenseCap] at resolved
  rw [licenceEnd]
  cases isLinked : linkedPal env pals row with
  | none =>
      rw [isLinked] at resolved
      simp only at resolved
      rw [resolved]
      rfl
  | some pal =>
      rw [isLinked] at resolved
      simp only at resolved
      by_cases valid : statusValid pal = true
      · rw [if_pos valid] at resolved
        rw [Option.bind_some, liveEnd]
        cases column : parseUtcZ env (textColumn pal.licenseExpiration) with
        | error raised =>
            rw [column] at resolved
            cases resolved
        | ok known =>
            cases known with
            | some value =>
                rw [column] at resolved
                cases resolved
                rfl
            | none =>
                rw [column] at resolved
                have later : firstKnown (recordExpiration env pal) (storedExpiration env row) = .ok (some cap) := resolved
                exact (first_known_end _ _ _ later).symm
      · rw [if_neg valid] at resolved
        cases resolved

theorem after_whole (first later : Int) (whole : wholeSecond later = later) (before : wholeSecond first < later) : first < later := by
  simp only [wholeSecond] at whole before
  omega

theorem computed_later (newExpire : Int) (computed : Computed env pals row now newExpire) : now < newExpire :=
  after_whole now newExpire computed.whole computed.future

theorem computed_unexpired (newExpire : Int) (computed : Computed env pals row now newExpire) : now < row.grantExpireTime :=
  (after_whole now _ (whole_second_whole _) computed.unexpired).trans_le (whole_second_below _)

end Computing

section Stamping

variable (pals : List (PalRecord K)) (row : GrantRow K)

-- The drift check reads nothing but grant_json.
theorem drift_expiry (current : Option SyncStamp) (newExpire : Int) :
    protectionStampDrifted env current { row with grantExpireTime := newExpire } = protectionStampDrifted env current row := rfl

theorem pal_context_authorized (auth : List (String × Json K)) (held : authContext (loadGrantMeta row) = some auth)
    (isPal : contextChannel env auth = "PAL".toList) : palAuthorized env row = true := by
  have context : loadAuthContext row = auth := by rw [loadAuthContext, held, Option.getD_some]
  rw [palAuthorized, channelOf, context, orValue]
  simp only [contextChannel] at isPal
  by_cases given : (get auth "channelType").truthy = true
  · rw [if_pos given] at isPal ⊢
    simp [isPal]
  · rw [if_neg given] at isPal
    cases isPal

-- Where the cap is known for a PAL grant, the sync of the licence changes at most the expiration in the context.
theorem sync_license_kept
    (known : palAuthorized env row = true → ∃ cap, resolvePalLicenseCap env pals row = .ok cap) :
    (syncLicense env pals row).2 = .ok () ∧
      (syncLicense env pals row).1 = { row with grantJson := (syncLicense env pals row).1.grantJson } ∧
      (∀ key, key ≠ authContextKey →
        PyDict.lookup (loadGrantMeta (syncLicense env pals row).1) key = PyDict.lookup (loadGrantMeta row) key) ∧
      (PyDict.lookup (loadGrantMeta (syncLicense env pals row).1) authContextKey =
          PyDict.lookup (loadGrantMeta row) authContextKey ∨
        ∃ fields value, PyDict.lookup (loadGrantMeta row) authContextKey = some (.object fields) ∧
          PyDict.lookup (loadGrantMeta (syncLicense env pals row).1) authContextKey =
            some (.object (PyDict.set expirationKey value fields))) := by
  rw [syncLicense]
  cases held : authContext (loadGrantMeta row) with
  | none => exact ⟨rfl, rfl, fun _ _ => rfl, .inl rfl⟩
  | some auth =>
      simp only
      by_cases isPal : contextChannel env auth = "PAL".toList
      · rw [if_pos isPal]
        obtain ⟨cap, resolved⟩ := known (pal_context_authorized env row auth held isPal)
        rw [resolved]
        cases cap with
        | none => exact ⟨rfl, rfl, fun _ _ => rfl, .inl rfl⟩
        | some cap =>
            have isObject : PyDict.lookup (loadGrantMeta row) authContextKey = some (.object auth) := by
              rw [authContext] at held
              split at held
              · rename_i fields found
                cases held
                exact found
              · cases held
            refine ⟨rfl, rfl, fun key other => ?_, .inr ⟨auth, .text (env.strftime cap), isObject, ?_⟩⟩
            · simp only [loadGrantMeta]
              rw [PyDict.lookup_set, if_neg (Ne.symm other)]
            · simp only [loadGrantMeta]
              rw [PyDict.lookup_set, if_pos rfl]
      · rw [if_neg isPal]
        exact ⟨rfl, rfl, fun _ _ => rfl, .inl rfl⟩

end Stamping

section Step

variable (pals : List (PalRecord K)) (current : Option SyncStamp) (row : GrantRow K) (now : Int)

theorem apply_refused (detail : String) (refused : computeRenewal env pals row now = .ok (renewalRefused detail)) :
    applyRenewal env pals current row now = (row, .ok (renewalRefused detail)) := by
  rw [applyRenewal, refused]
  rfl

theorem apply_raised (raised : Raised) (failed : computeRenewal env pals row now = .error raised) :
    applyRenewal env pals current row now = (row, .error raised) := by
  rw [applyRenewal, failed]

theorem apply_renewed (newExpire : Int) (renewed : computeRenewal env pals row now = .ok (renewedAt newExpire)) :
    applyRenewal env pals current row now =
      restamp env pals current (renewedAt newExpire) { row with grantExpireTime := newExpire } := by
  rw [applyRenewal, renewed]
  rfl

-- With generations that cannot be compared, a computed renewal stops after the expiry was set.
theorem unreadable_stamp_moves_expiry (newExpire : Int) (renewed : computeRenewal env pals row now = .ok (renewedAt newExpire))
    (unreadable : ¬ StampReadable env current row) :
    ∃ raised, applyRenewal env pals current row now = ({ row with grantExpireTime := newExpire }, .error raised) := by
  rw [apply_renewed env pals current row now newExpire renewed, restamp, drift_expiry]
  cases drift : protectionStampDrifted env current row with
  | ok drifted => exact absurd ⟨drifted, drift⟩ unreadable
  | error raised => exact ⟨raised, by cases current <;> rfl⟩

theorem readable_stamp_known (drifted : Bool) (drift : protectionStampDrifted env current row = .ok drifted) :
    ∃ stamp, current = some stamp := by
  cases current with
  | none => cases drift
  | some stamp => exact ⟨stamp, rfl⟩

theorem restamped (newExpire : Int) (drifted : Bool) (stamp : SyncStamp)
    (drift : protectionStampDrifted env (some stamp) row = .ok drifted)
    (computed : Computed env pals row now newExpire) :
    restamp env pals (some stamp) (renewedAt newExpire) { row with grantExpireTime := newExpire } =
      ((syncLicense env pals (refreshProtectionStamp stamp { row with grantExpireTime := newExpire })).1,
        .ok { renewedAt newExpire with detail := if drifted then some "protections_restamped" else none }) := by
  have sameCap := same_context_cap env pals _ _ (refreshed_context stamp { row with grantExpireTime := newExpire })
  have samePal : palAuthorized env (refreshProtectionStamp stamp { row with grantExpireTime := newExpire }) =
      palAuthorized env row := by
    rw [palAuthorized, palAuthorized, channelOf, channelOf, refreshed_context]
    rfl
  have known : palAuthorized env (refreshProtectionStamp stamp { row with grantExpireTime := newExpire }) = true →
      ∃ cap, resolvePalLicenseCap env pals (refreshProtectionStamp stamp { row with grantExpireTime := newExpire }) = .ok cap := by
    intro isPal
    obtain ⟨cap, resolved, _⟩ := computed.cap (samePal ▸ isPal)
    exact ⟨some cap, sameCap.trans resolved⟩
  obtain ⟨done, _⟩ := sync_license_kept env pals _ known
  rw [restamp, drift_expiry, drift]
  simp only
  cases synced : syncLicense env pals (refreshProtectionStamp stamp { row with grantExpireTime := newExpire }) with
  | mk after answer =>
      rw [synced] at done
      cases done
      cases drifted <;> rfl

theorem renewed_lawful (newExpire : Int) (renewed : computeRenewal env pals row now = .ok (renewedAt newExpire))
    (computed : Computed env pals row now newExpire) (readable : StampReadable env current row) :
    Lawful env pals current now row (applyRenewal env pals current row now) := by
  obtain ⟨drifted, drift⟩ := readable
  obtain ⟨stamp, isStamp⟩ := readable_stamp_known env current row drifted drift
  subst isStamp
  have answer := restamped env pals row now newExpire drifted stamp drift computed
  have sameCap := same_context_cap env pals _ _ (refreshed_context stamp { row with grantExpireTime := newExpire })
  have known : palAuthorized env (refreshProtectionStamp stamp { row with grantExpireTime := newExpire }) = true →
      ∃ cap, resolvePalLicenseCap env pals (refreshProtectionStamp stamp { row with grantExpireTime := newExpire }) = .ok cap := by
    intro isPal
    rw [palAuthorized, channelOf, refreshed_context] at isPal
    obtain ⟨cap, resolved, _⟩ := computed.cap isPal
    exact ⟨some cap, sameCap.trans resolved⟩
  obtain ⟨_, frame, others, context⟩ := sync_license_kept env pals _ known
  rw [apply_renewed env pals (some stamp) row now newExpire renewed, answer]
  generalize (syncLicense env pals (refreshProtectionStamp stamp { row with grantExpireTime := newExpire })).1 = after
    at frame others context
  have expire : after.grantExpireTime = newExpire := by rw [frame]; rfl
  refine .inr ⟨_, stamp, rfl, rfl, by rw [expire]; rfl, rfl, ?_⟩
  refine ⟨computed.live, computed_unexpired env pals row now newExpire computed, ?_, ?_, fun isPal => ?_, ?_, ⟨?_, ?_⟩, ?_⟩
  · rw [expire]
    exact computed_later env pals row now newExpire computed
  · rw [expire]
    exact computed.capped.trans (by have := whole_second_below now; omega)
  · obtain ⟨cap, resolved, below, valid⟩ := computed.cap isPal
    rw [expire]
    exact ⟨valid, cap, cap_is_licence_end env pals row cap resolved, below⟩
  · intro entry member
    have other : entry.1 ≠ authContextKey := by
      intro same
      exact context_key_other (same ▸ generation_key_known stamp entry member)
    rw [others entry.1 other]
    exact stamped_meta_generation stamp (loadGrantMeta row) entry member
  · intro key isOther notContext
    rw [others key notContext]
    exact stamped_meta_other stamp (loadGrantMeta row) key isOther
  · have stampedContext : PyDict.lookup (loadGrantMeta (refreshProtectionStamp stamp { row with grantExpireTime := newExpire }))
        authContextKey = PyDict.lookup (loadGrantMeta row) authContextKey :=
      stamped_meta_other stamp (loadGrantMeta row) authContextKey context_key_other
    rw [stampedContext] at context
    exact context
  · rw [frame]
    rfl

-- One renewal keeps the law exactly when the generations can be compared or nothing would move.
theorem apply_renewal_lawful_iff :
    Lawful env pals current now row (applyRenewal env pals current row now) ↔
      StampReadable env current row ∨
        ∀ newExpire, computeRenewal env pals row now = .ok (renewedAt newExpire) → newExpire = row.grantExpireTime := by
  rcases compute_renewal_cases env pals row now with ⟨raised, failed⟩ | ⟨detail, refused⟩ | ⟨newExpire, renewed, computed⟩
  · refine iff_of_true ?_ (.inr fun newExpire renewed => by rw [failed] at renewed; cases renewed)
    rw [apply_raised env pals current row now raised failed]
    exact .inl ⟨fun result same => (by cases same), rfl⟩
  · refine iff_of_true ?_ (.inr fun newExpire renewed => by rw [refused] at renewed; cases renewed)
    rw [apply_refused env pals current row now detail refused]
    exact .inl ⟨fun result same => (by cases same; rfl), rfl⟩
  · by_cases readable : StampReadable env current row
    · exact iff_of_true (renewed_lawful env pals current row now newExpire renewed computed readable) (.inl readable)
    · obtain ⟨raised, moved⟩ := unreadable_stamp_moves_expiry env pals current row now newExpire renewed readable
      rw [moved]
      constructor
      · rintro (⟨_, same⟩ | ⟨result, stamp, succeeded, _⟩)
        · refine .inr fun other again => ?_
          rw [renewed] at again
          cases again
          exact congrArg GrantRow.grantExpireTime same
        · cases succeeded
      · rintro (readable' | unmoved)
        · exact absurd readable' readable
        · refine .inl ⟨fun result same => (by cases same), ?_⟩
          rw [unmoved newExpire renewed]

end Step

section Run

-- In every run of renewals, with the PAL table changing in between, every step keeps the law exactly when at every
-- renewal the generations can be compared or the expiry would not move.
theorem renewals_lawful_iff (world : RenewalWorld K) (steps : List (RenewalStep K)) :
    Throughout env (StepLawful env) world steps ↔ Throughout env (StepReadable env) world steps := by
  induction steps generalizing world with
  | nil => exact Iff.rfl
  | cons step rest ih =>
      refine and_congr ?_ (ih (renewalStep env world step))
      cases step with
      | changePals pals => exact iff_of_true rfl trivial
      | renew current now => exact apply_renewal_lawful_iff env world.pals current world.row now

end Run

-- A grant whose stored generation is a word instead of a number.
def wordReaders : PyReaders Rat := ⟨fun _ => none, fun _ => none, fun _ => none, fun _ => 0, fun _ => ""⟩

def wordEnv : RenewalEnv Rat := ⟨wordReaders, fun _ => none, fun _ => .unreadable, fun _ => ""⟩

def wordGrant : GrantRow Rat :=
  { id := 1, grantId := "grant/1", cbsdPk := 0, cbsdId := "fcc/sn", channelType := "GAA", lowFrequency := 3550000000
    highFrequency := 3560000000, maxEirp := none, grantExpireTime := 600 * second, heartbeatInterval := 60
    transmitExpireTime := none, authorized := true, measReportRequested := false, terminated := false
    lifecycleState := some .authorized, grantJson := some (.object [("fss_gen", .text "one")]) }

theorem word_generation_moves_expiry :
    ¬ ∀ (world : RenewalWorld Rat) (steps : List (RenewalStep Rat)), Throughout wordEnv (StepLawful wordEnv) world steps := by
  intro claim
  have lawful : Lawful wordEnv [] (some ⟨0, 0, 0, 0⟩) 0 wordGrant (applyRenewal wordEnv [] (some ⟨0, 0, 0, 0⟩) wordGrant 0) :=
    (claim ⟨wordGrant, []⟩ [.renew (some ⟨0, 0, 0, 0⟩) 0]).1
  have moved : (applyRenewal wordEnv [] (some ⟨0, 0, 0, 0⟩) wordGrant 0).1.grantExpireTime = 900 * second := by decide +kernel
  have raised : (applyRenewal wordEnv [] (some ⟨0, 0, 0, 0⟩) wordGrant 0).2 = .error .generationNotInt := by decide +kernel
  rcases lawful with ⟨_, same⟩ | ⟨result, stamp, succeeded, _⟩
  · rw [same] at moved
    exact absurd moved (by decide)
  · rw [raised] at succeeded
    cases succeeded

section Stamped

-- A row as process_grant and every renewal leave it.
def StampedRow (row : GrantRow K) : Prop :=
  ∀ key ∈ generationKeys, ∃ generation, PyDict.lookup (loadGrantMeta row) key = some (.int generation)

theorem stamped_readable (row : GrantRow K) (stamp : SyncStamp) (stamped : StampedRow row) :
    StampReadable env (some stamp) row := by
  have among : ∀ entries : List (String × Int), (∀ entry ∈ entries, entry.1 ∈ generationKeys) →
      ∃ drifted, driftAmong env (loadGrantMeta row) entries = .ok drifted := by
    intro entries known
    induction entries with
    | nil => exact ⟨false, rfl⟩
    | cons entry rest ih =>
        obtain ⟨generation, held⟩ := stamped entry.1 (known entry List.mem_cons_self)
        have read : storedGeneration env (loadGrantMeta row) entry.1 = some generation := by
          rw [storedGeneration, get, held]
          by_cases zero : generation = 0
          · simp [Json.truthy, zero]
          · simp [Json.truthy, zero, Json.toInt]
        rw [driftAmong, read]
        simp only
        split
        · exact ih fun other member => known other (List.mem_cons_of_mem entry member)
        · exact ⟨true, rfl⟩
  exact among (generationFields stamp) (generation_key_known stamp)

theorem stamped_after (pals : List (PalRecord K)) (current : Option SyncStamp) (row : GrantRow K) (now : Int)
    (stamped : StampedRow row) (lawful : Lawful env pals current now row (applyRenewal env pals current row now)) :
    StampedRow (applyRenewal env pals current row now).1 := by
  rcases lawful with ⟨_, same⟩ | ⟨_, stamp, _, _, _, _, renewed⟩
  · rw [same]
    exact stamped
  · intro key member
    have known : ∃ entry ∈ generationFields stamp, entry.1 = key := by
      simp only [generationKeys, List.mem_cons, List.not_mem_nil, or_false] at member
      rcases member with rfl | rfl | rfl | rfl <;> simp [generationFields]
    obtain ⟨entry, isEntry, rfl⟩ := known
    exact ⟨entry.2, renewed.stamped entry isEntry⟩

def StampGiven : RenewalStep K → Prop
  | .changePals _ => True
  | .renew current _ => current.isSome

-- The law holds throughout for a row that process_grant wrote, as long as the current generations can be read.
theorem stamped_renewals_lawful (world : RenewalWorld K) (steps : List (RenewalStep K)) (stamped : StampedRow world.row)
    (given : ∀ step ∈ steps, StampGiven step) : Throughout env (StepLawful env) world steps := by
  induction steps generalizing world with
  | nil => trivial
  | cons step rest ih =>
      have later := fun other member => given other (List.mem_cons_of_mem step member)
      cases step with
      | changePals pals => exact ⟨rfl, ih _ stamped later⟩
      | renew current now =>
          cases current with
          | none => exact absurd (given _ List.mem_cons_self) (by simp [StampGiven])
          | some stamp =>
              have lawful := (apply_renewal_lawful_iff env world.pals (some stamp) world.row now).mpr
                (.inl (stamped_readable env world.row stamp stamped))
              exact ⟨lawful, ih _ (stamped_after env world.pals (some stamp) world.row now stamped lawful) later⟩

end Stamped

end SasCore.Renewal
