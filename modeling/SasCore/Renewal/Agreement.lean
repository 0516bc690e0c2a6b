import SasCore.Renewal.Law

set_option autoImplicit false
set_option linter.unusedSectionVars false

namespace SasCore.Renewal

open Registry Injection

variable {K : Type} [Field K] [LinearOrder K] (env : RenewalEnv K)

section Correspondence

def channelText : ChannelType → List Char
  | .gaa => "GAA".toList
  | .pal => "PAL".toList

def contextPalId (auth : List (String × Json K)) : Option String :=
  if (get auth "palId").truthy then some ((get auth "palId").toText env.readers) else none

structure ContextMatches (auth : List (String × Json K)) (context : AuthContext) : Prop where
  channel : contextChannel env auth = channelText context.channelType
  pal : contextPalId env auth = context.palId
  ending : parseUtcZ env (get auth expirationKey) = .ok context.palLicenseExpiration

-- A row of the table and the grant that the registry model has for it.
structure Represents (row : GrantRow K) (grant : Registry.Grant K) : Prop where
  expire : row.grantExpireTime = grant.grantExpireTime
  state : row.lifecycleState = grant.lifecycleState
  terminated : row.terminated = grant.terminated
  authorized : row.authorized = grant.authorized
  column : upperOf (orText row.channelType "GAA") = channelText grant.channelType
  stamp : ∀ entry ∈ generationFields grant.grantJson.stamp, PyDict.lookup (loadGrantMeta row) entry.1 = some (.int entry.2)
  context : match grant.grantJson.authContext with
    | none => authContext (loadGrantMeta row) = none
    | some context => ∃ auth, authContext (loadGrantMeta row) = some auth ∧ ContextMatches env auth context

def palRow (pal : PalRecord K) : PalRow where
  palId := pal.palId
  licenseStatus := if pal.licenseStatus = "" then none else some pal.licenseStatus
  licenseExpiration := readEnd (parseUtcZ env (textColumn pal.licenseExpiration))
  recordExpiration := readEnd (recordExpiration env pal)

-- No date of the PAL is out of range, and the license of its record is an object.
def PalReadable (pal : PalRecord K) : Prop :=
  (∃ ending, parseUtcZ env (textColumn pal.licenseExpiration) = .ok ending) ∧ ∃ ending, recordExpiration env pal = .ok ending

end Correspondence

section Computing

variable (row : GrantRow K) (grant : Registry.Grant K) (represents : Represents env row grant)

include represents

theorem represented_context : ContextMatches env (loadAuthContext row) (Registry.loadAuthContext grant) := by
  have context := represents.context
  rw [loadAuthContext, Registry.loadAuthContext]
  cases held : grant.grantJson.authContext with
  | none =>
      rw [held] at context
      simp only at context
      rw [context, Option.getD_none, Option.getD_none]
      refine ⟨?_, rfl, rfl⟩
      have nonempty : orText row.channelType "GAA" ≠ "" := by
        rw [orText]
        split
        · decide
        · assumption
      have given : ((.text (orText row.channelType "GAA") : Json K)).truthy = true := by simpa [Json.truthy] using nonempty
      have read : get [("channelType", (.text (orText row.channelType "GAA") : Json K))] "channelType" =
          .text (orText row.channelType "GAA") := rfl
      rw [contextChannel, read]
      simp only [given, if_true]
      exact represents.column
  | some context' =>
      rw [held] at context
      obtain ⟨auth, isAuth, known⟩ := context
      rw [isAuth]
      exact known

theorem represented_pal_id : palId env row = (Registry.loadAuthContext grant).palId :=
  (represented_context env row grant represents).pal

theorem represented_channel : palAuthorized env row = true ↔ (Registry.loadAuthContext grant).channelType = .pal := by
  have context := represented_context env row grant represents
  have given : (get (loadAuthContext row) "channelType").truthy = true := by
    have channel := context.channel
    rw [contextChannel] at channel
    by_contra missing
    simp only [missing, if_false] at channel
    cases isChannel : (Registry.loadAuthContext grant).channelType <;> rw [isChannel] at channel <;> cases channel
  have same : channelOf env row = channelText (Registry.loadAuthContext grant).channelType := by
    rw [← context.channel, channelOf, orValue, contextChannel]
    simp only [given, if_true]
  rw [palAuthorized, same]
  cases (Registry.loadAuthContext grant).channelType with
  | gaa => decide
  | pal => decide

theorem represented_state (now : Int) : resolveGrantState row now = Registry.resolveGrantState grant now := by
  have expired : grantExpired row now = Registry.grantExpired grant now := by
    rw [grantExpired, Registry.grantExpired, represents.expire]
  rw [resolveGrantState, Registry.resolveGrantState]
  cases state : grant.lifecycleState
  all_goals
    rw [represents.state, represents.terminated, represents.authorized, expired, state]
    try rfl

theorem represented_pal (pals : List (PalRecord K)) :
    Registry.linkedPal (pals.map (palRow env)) grant = (linkedPal env pals row).map (palRow env) := by
  rw [Registry.linkedPal, linkedPal, represented_pal_id env row grant represents]
  cases (Registry.loadAuthContext grant).palId with
  | none => rfl
  | some id =>
      rw [Option.bind_some, Option.bind_some, List.find?_map]
      rfl

omit represents in
theorem pal_row_status (pal : PalRecord K) : palStatusValid (palRow env pal) = statusValid pal := by
  rw [palStatusValid, statusValid, licenseStatus, upperOf, orText, palRow]
  by_cases empty : pal.licenseStatus = ""
  · simp [empty]
  · simp [empty]

theorem represented_cap (pals : List (PalRecord K)) (readable : ∀ pal ∈ pals, PalReadable env pal) :
    resolvePalLicenseCap env pals row = .ok (Registry.resolvePalLicenseCap (pals.map (palRow env)) grant) := by
  have stored : storedExpiration env row = .ok (Registry.loadAuthContext grant).palLicenseExpiration :=
    (represented_context env row grant represents).ending
  rw [resolvePalLicenseCap, Registry.resolvePalLicenseCap, represented_pal env row grant represents]
  cases isLinked : linkedPal env pals row with
  | none => exact stored
  | some pal =>
      have member : pal ∈ pals := by
        rw [linkedPal] at isLinked
        obtain ⟨id, _, found⟩ := Option.bind_eq_some_iff.mp isLinked
        exact List.mem_of_find?_eq_some found
      obtain ⟨⟨column, isColumn⟩, ⟨record, isRecord⟩⟩ := readable pal member
      have ends : (palRow env pal).licenseExpiration = column ∧ (palRow env pal).recordExpiration = record := by
        simp only [palRow, isColumn, isRecord]
        exact ⟨rfl, rfl⟩
      simp only [Option.map_some, pal_row_status, isColumn, isRecord, stored, ends.1, ends.2]
      by_cases valid : statusValid pal = true
      · rw [if_pos valid, if_pos valid]
        cases column with
        | some value => rfl
        | none =>
            cases record with
            | some value => rfl
            | none => rfl
      · rw [if_neg valid, if_neg valid]

theorem compute_renewal_agrees (pals : List (PalRecord K)) (readable : ∀ pal ∈ pals, PalReadable env pal) (now : Int) :
    computeRenewal env pals row now = .ok (Registry.computeRenewal (pals.map (palRow env)) grant now) := by
  have channel := represented_channel env row grant represents
  rw [computeRenewal, Registry.computeRenewal]
  simp only [represented_state env row grant represents, represents.terminated, represents.expire]
  split
  · rfl
  · split
    · rfl
    · by_cases isPal : palAuthorized env row = true
      · have invalid : ((Registry.linkedPal (pals.map (palRow env)) grant).any fun pal => !palStatusValid pal) =
            (linkedPal env pals row).any fun pal => !statusValid pal := by
          rw [represented_pal env row grant represents, Option.any_map]
          congr 1
          funext pal
          rw [pal_row_status]
        rw [if_pos isPal, channel.mp isPal]
        simp only [invalid, represented_cap env row grant represents pals readable]
        split
        · rfl
        · cases Registry.resolvePalLicenseCap (pals.map (palRow env)) grant with
          | none => rfl
          | some cap =>
              simp only
              split <;> rfl
      · rw [if_neg isPal]
        cases isChannel : (Registry.loadAuthContext grant).channelType with
        | pal => exact absurd (channel.mpr isChannel) isPal
        | gaa => rfl

end Computing

section Dates

theorem parse_whole (value : Json K) (ending : Int) (read : parseUtcZ env value = .ok (some ending)) :
    wholeSecond ending = ending := by
  rw [parseUtcZ] at read
  generalize (if value.isNull then [] else PyText.strip (value.toText env.readers).toList) = text at read
  split at read
  · cases read
  · split at read
    · obtain ⟨seconds, _, same⟩ := Option.map_eq_some_iff.mp (Except.ok.inj read)
      rw [← same, whole_second_whole]
    · split at read
      · cases read
      · cases read
      · cases read
        exact whole_second_whole _

theorem record_whole (pal : PalRecord K) (ending : Int) (read : recordExpiration env pal = .ok (some ending)) :
    wholeSecond ending = ending := by
  rw [recordExpiration] at read
  split at read
  · split at read
    · cases read
    · exact parse_whole env _ ending read
  · cases read

theorem first_known_cases (first later : Except Raised (Option Int)) (cap : Int)
    (known : firstKnown first later = .ok (some cap)) : first = .ok (some cap) ∨ later = .ok (some cap) := by
  cases first with
  | error raised => cases known
  | ok reading =>
      cases reading with
      | some value => exact .inl known
      | none => exact .inr known

theorem cap_whole (row : GrantRow K) (pals : List (PalRecord K)) (cap : Int)
    (resolved : resolvePalLicenseCap env pals row = .ok (some cap)) : wholeSecond cap = cap := by
  rw [resolvePalLicenseCap] at resolved
  split at resolved
  · exact parse_whole env _ cap resolved
  · split at resolved
    · rcases first_known_cases _ _ cap resolved with column | later
      · exact parse_whole env _ cap column
      · rcases first_known_cases _ _ cap later with record | stored
        · exact record_whole env _ cap record
        · exact parse_whole env _ cap stored
    · cases resolved

end Dates

section Applying

variable (row : GrantRow K) (grant : Registry.Grant K) (represents : Represents env row grant)

include represents

theorem represented_drift (stamp : SyncStamp) :
    protectionStampDrifted env (some stamp) row = .ok (decide (grant.grantJson.stamp ≠ stamp)) := by
  have read : ∀ key generation, (key, generation) ∈ generationFields grant.grantJson.stamp →
      storedGeneration env (loadGrantMeta row) key = some generation := by
    intro key generation member
    rw [storedGeneration, get, represents.stamp (key, generation) member]
    by_cases zero : generation = 0
    · simp [Json.truthy, zero]
    · simp [Json.truthy, zero, Json.toInt]
  simp only [protectionStampDrifted, generationFields, driftAmong]
  rw [read "fss_gen" grant.grantJson.stamp.fss (by simp [generationFields]),
    read "gwbl_gen" grant.grantJson.stamp.gwbl (by simp [generationFields]),
    read "exz_gen" grant.grantJson.stamp.exz (by simp [generationFields]),
    read "dpa_gen" grant.grantJson.stamp.dpa (by simp [generationFields])]
  obtain ⟨fss, gwbl, exz, dpa⟩ := stamp
  cases grant.grantJson.stamp with
  | mk heldFss heldGwbl heldExz heldDpa =>
      simp only [SyncStamp.mk.injEq, Nat.cast_inj, ne_eq]
      by_cases sameFss : heldFss = fss
      · by_cases sameGwbl : heldGwbl = gwbl
        · by_cases sameExz : heldExz = exz
          · by_cases sameDpa : heldDpa = dpa
            · simp [sameFss, sameGwbl, sameExz, sameDpa]
            · simp [sameFss, sameGwbl, sameExz, sameDpa]
          · simp [sameFss, sameGwbl, sameExz]
        · simp [sameFss, sameGwbl]
      · simp [sameFss]

theorem represented_stamped (stamp : SyncStamp) (newExpire : Int) :
    Represents env (refreshProtectionStamp stamp { row with grantExpireTime := newExpire })
      { grant with grantExpireTime := newExpire, grantJson := { grant.grantJson with stamp := stamp } } where
  expire := rfl
  state := represents.state
  terminated := represents.terminated
  authorized := represents.authorized
  column := represents.column
  stamp := stamped_meta_generation stamp (loadGrantMeta row)
  context := by
    have kept : authContext (loadGrantMeta (refreshProtectionStamp stamp { row with grantExpireTime := newExpire })) =
        authContext (loadGrantMeta row) := by
      simp only [authContext, refreshProtectionStamp, loadGrantMeta]
      rw [stamped_meta_other stamp _ authContextKey context_key_other]
    simp only
    rw [kept]
    exact represents.context

-- The sync of the licence writes what the registry model has as the stored expiration, where a date reads back as
-- it was written.
theorem represented_sync (pals : List (PalRecord K)) (readable : ∀ pal ∈ pals, PalReadable env pal)
    (dates : ∀ cap, wholeSecond cap = cap → parseUtcZ env (.text (env.strftime cap)) = .ok (some cap)) :
    Represents env (syncLicense env pals row).1
      { grant with grantJson := restampedMeta (pals.map (palRow env)) grant.grantJson.stamp grant } := by
  have context := represents.context
  have cap := represented_cap env row grant represents pals readable
  rw [syncLicense, restampedMeta]
  cases held : grant.grantJson.authContext with
  | none =>
      rw [held] at context
      simp only at context
      rw [context]
      exact { represents with stamp := represents.stamp, context := context }
  | some known =>
      rw [held] at context
      obtain ⟨auth, isAuth, matching⟩ := context
      obtain ⟨kind, palId, stored⟩ := known
      have unchanged : Represents env row { grant with grantJson := ⟨grant.grantJson.stamp, some ⟨kind, palId, stored⟩⟩ } :=
        { represents with stamp := represents.stamp, context := ⟨auth, isAuth, matching⟩ }
      rw [isAuth]
      simp only [matching.channel]
      cases kind with
      | gaa =>
          rw [if_neg (by decide)]
          exact unchanged
      | pal =>
          rw [if_pos (show channelText .pal = "PAL".toList from rfl), cap]
          cases isCap : Registry.resolvePalLicenseCap (pals.map (palRow env)) grant with
          | none => exact unchanged
          | some ending =>
              have whole := cap_whole env row pals ending (cap.trans (congrArg Except.ok isCap))
              have other : ∀ key, key ≠ expirationKey →
                  get (PyDict.set expirationKey (.text (env.strftime ending)) auth) key = get auth key := by
                intro key apart
                rw [get, get, PyDict.lookup_set, if_neg (Ne.symm apart)]
              refine { represents with
                stamp := fun entry member => ?_
                context := ⟨PyDict.set expirationKey (.text (env.strftime ending)) auth, ?_, ?_, ?_, ?_⟩ }
              · have apart : ¬ authContextKey = entry.1 := by
                  intro same
                  exact context_key_other (same ▸ generation_key_known grant.grantJson.stamp entry member)
                simp only [loadGrantMeta]
                rw [PyDict.lookup_set, if_neg apart]
                exact represents.stamp entry member
              · simp only [authContext, loadGrantMeta]
                rw [PyDict.lookup_set, if_pos rfl]
              · rw [contextChannel, other "channelType" (by decide)]
                exact matching.channel
              · rw [contextPalId, other "palId" (by decide)]
                exact matching.pal
              · rw [get, PyDict.lookup_set, if_pos rfl, Option.getD_some]
                exact dates ending whole

-- A renewal of the row is the renewal of the grant it stands for: the same answer, and the rows keep standing for
-- each other.
theorem apply_renewal_agrees (pals : List (PalRecord K)) (readable : ∀ pal ∈ pals, PalReadable env pal)
    (dates : ∀ cap, wholeSecond cap = cap → parseUtcZ env (.text (env.strftime cap)) = .ok (some cap)) (stamp : SyncStamp)
    (now : Int) :
    (applyRenewal env pals (some stamp) row now).2 = .ok (Registry.applyRenewal (pals.map (palRow env)) stamp grant now).2 ∧
      Represents env (applyRenewal env pals (some stamp) row now).1
        (Registry.applyRenewal (pals.map (palRow env)) stamp grant now).1 := by
  have computes := compute_renewal_agrees env row grant represents pals readable now
  rcases Registry.compute_renewal_cases (pals.map (palRow env)) grant now with ⟨newExpire, renewed⟩ | ⟨detail, refused⟩
  · have ours : computeRenewal env pals row now = .ok (renewedAt newExpire) := computes.trans (congrArg Except.ok renewed)
    rcases compute_renewal_cases env pals row now with ⟨_, other⟩ | ⟨_, other⟩ | ⟨again, other, computed⟩
    · cases ours.symm.trans other
    · cases ours.symm.trans other
    · cases ours.symm.trans other
      have answer := restamped env pals row now newExpire _ stamp (represented_drift env row grant represents stamp) computed
      have stamped := represented_stamped env row grant represents stamp newExpire
      have synced := represented_sync env _ _ stamped pals readable dates
      rw [apply_renewed env pals (some stamp) row now newExpire ours, answer, Registry.applyRenewal, renewed]
      refine ⟨?_, synced⟩
      by_cases drifted : grant.grantJson.stamp = stamp
      · simp [drifted, renewedAt]
      · simp [drifted, renewedAt]
  · have ours : computeRenewal env pals row now = .ok (renewalRefused detail) := computes.trans (congrArg Except.ok refused)
    rw [apply_refused env pals (some stamp) row now detail ours, Registry.applyRenewal, refused]
    exact ⟨rfl, represents⟩

end Applying

end SasCore.Renewal
