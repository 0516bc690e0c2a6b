import SasCore.Spectrum.PalRules
import SasCore.Registry.GrantSession

set_option autoImplicit false
set_option linter.unusedSectionVars false

namespace SasCore.Spectrum

open Injection Federal Registry

variable {K : Type} [Field K] [LinearOrder K] (env : SpectrumEnv K)

section Rows

-- grant_renewal._parse_utc_z of what a column or a record holds.
def parseUtcZ (value : Json K) : Option Int :=
  let text := if value.isNull then [] else PyText.strip (value.toText env.feeds.readers).toList
  if text = [] then none
  else if text.getLast? = some 'Z' then (env.strptime (.text (String.ofList text))).map (· * second)
  else (env.fromIsoFormat (String.ofList (text.flatMap fun c => if c = 'Z' then "+00:00".toList else [c]))).map wholeSecond

-- A row of the PAL table as renewal reads it; upsert refuses a license in which nothing can be looked up.
def renewalRow (row : Injection.PalRow K) : Registry.PalRow where
  palId := row.palId
  licenseStatus := if row.licenseStatus = "" then none else some row.licenseStatus
  licenseExpiration := row.licenseExpiration.bind fun text => parseUtcZ env (.text text)
  recordExpiration := parseUtcZ env ((row.record.field "license").field "licenseExpiration")

def renewalRows (state : SpectrumTables K) : List Registry.PalRow := state.tables.pals.all.map (renewalRow env)

end Rows

section Creation

variable (state : SpectrumTables K)

def internalError : Nat := 500

-- The checks of process_grant with the PAL rules of the tables. An exception ends the request without a grant.
def withPalRules (checks : GrantChecks K) : GrantChecks K :=
  { checks with
    resolveChannel := fun cbsd low high =>
      match ppaPalContext env state cbsd with
      | .error _ => .error internalError
      | .ok contexts => resolveChannel env contexts low high cbsd.userId }

def authorizing (low high : Int) (userId : String) (entry : LinkedPal K) : Bool :=
  overlapsHz low high entry.low entry.high && ((entry.low ≤ low && high ≤ entry.high) &&
    (entry.inCluster && (entry.pal.field "userId").isText userId))

-- The PAL that lets a CBSD have a range as PAL channel.
def authorizingPal (cbsd : Cbsd K) (low high : Int) : Option (LinkedPal K) :=
  ((loadPals state).bind fun pals => linkedPals env state pals cbsd).toOption.bind fun linked =>
    linked.find? (authorizing low high cbsd.userId)

def licenseValid (pal : Json K) : Bool :=
  match orValue (pal.field "licenseStatus") (.text "VALID") with
  | .text status => PyText.upper status.toList == "VALID".toList
  | _ => false

-- The licence expiration as grant creation reads it.
def licenseEnd (entry : LinkedPal K) : Option Int :=
  match innerField entry.pal "license" "licenseExpiration" with
  | .ok expiration => if expiration.truthy then (env.strptime expiration).map (· * second) else none
  | .error _ => none

def palIdText (entry : LinkedPal K) : Option String :=
  if entry.palId.truthy then some (entry.palId.toText env.feeds.readers) else none

-- The row that renewal looks up for the PAL.
def linkedRow (entry : LinkedPal K) : Option Registry.PalRow :=
  (palIdText env entry).bind fun palId => (renewalRows env state).find? fun row => row.palId = palId

end Creation

section Renewal

theorem whole_second_seconds (seconds : Int) : wholeSecond (seconds * second) = seconds * second := by
  rw [wholeSecond, second]
  omega

-- Renewal of a PAL grant that has just been created.
theorem renewal_ok_iff (rows : List Registry.PalRow) (grant : Grant K) (now : Int) (palId : Option String) (stored : Option Int)
    (fresh : grant.lifecycleState = some .granted) (live : grant.terminated = false)
    (context : grant.grantJson.authContext = some ⟨.pal, palId, stored⟩) :
    (computeRenewal rows grant now).ok = true ↔ wholeSecond now < wholeSecond grant.grantExpireTime ∧
      (∀ row, (palId.bind fun id => rows.find? fun row => row.palId = id) = some row → palStatusValid row = true) ∧
      ∃ cap, ((palId.bind fun id => rows.find? fun row => row.palId = id).elim stored fun row =>
        row.licenseExpiration.or (row.recordExpiration.or stored)) = some cap ∧ wholeSecond now < wholeSecond cap := by
  have auth : loadAuthContext grant = ⟨.pal, palId, stored⟩ := by rw [loadAuthContext, context]; rfl
  have linked : linkedPal rows grant = palId.bind fun id => rows.find? fun row => row.palId = id := by rw [linkedPal, auth]
  have wall := whole_second_whole now
  rw [computeRenewal, ← linked]
  by_cases expired : wholeSecond grant.grantExpireTime ≤ wholeSecond now
  · have ended : resolveGrantState grant (wholeSecond now) = .expired := by
      rw [resolveGrantState, fresh]
      simp only [grantExpired, wall, expired, decide_true, true_or, and_self, if_true]
    simp only [ended]
    exact iff_of_false Bool.false_ne_true fun both => absurd both.1 (not_lt.mpr expired)
  · have current : resolveGrantState grant (wholeSecond now) = .granted := by
      rw [resolveGrantState, fresh]
      simp [grantExpired, wall, expired]
    have open_ : wholeSecond now < wholeSecond grant.grantExpireTime := not_le.mp expired
    have going : (GrantState.granted.terminal || grant.terminated) = false := by rw [live]; rfl
    rw [current, going]
    simp only [Bool.false_eq_true, if_false, expired, auth, resolvePalLicenseCap, open_, true_and]
    cases isRow : linkedPal rows grant with
    | none =>
        cases stored with
        | none => simp [renewalRefused]
        | some cap =>
            by_cases late : wholeSecond cap ≤ wholeSecond now
            · simp [late, renewalRefused]
            · simp [late, not_le.mp late]
    | some row =>
        by_cases valid : palStatusValid row = true
        · simp only [Option.any_some, valid, Bool.not_true, Bool.false_eq_true, if_false, if_true, Option.elim_some,
            Option.orElse_eq_or]
          cases isCap : row.licenseExpiration.or (row.recordExpiration.or stored) with
          | none => simp [renewalRefused]
          | some cap =>
              by_cases late : wholeSecond cap ≤ wholeSecond now
              · simp [late, renewalRefused]
              · simp [late, not_le.mp late, valid]
        · simp [valid, renewalRefused]

end Renewal

section Authorization

def authorizes (low high : Int) (userId : String) (context : PalContext K) : Bool :=
  overlapsHz low high context.low context.high && (coversRange context low high && (context.inCluster && context.userId.isText userId))

theorem authorizes_context (low high : Int) (userId : String) (entry : LinkedPal K) (context : PalContext K)
    (read : palContext entry = .ok context) : authorizes low high userId context = authorizing low high userId entry := by
  obtain ⟨isLow, isHigh, cluster, _, owner⟩ := context_fields entry context read
  rw [authorizes, authorizing, coversRange, isLow, isHigh, cluster, owner]

theorem context_find (linked : List (LinkedPal K)) (contexts : List (PalContext K)) (read : linked.mapM palContext = .ok contexts)
    (low high : Int) (userId : String) (context : PalContext K)
    (found : contexts.find? (authorizes low high userId) = some context) :
    ∃ entry, linked.find? (authorizing low high userId) = some entry ∧ palContext entry = .ok context := by
  induction linked generalizing contexts with
  | nil =>
      cases read
      cases found
  | cons entry rest ih =>
      rw [List.mapM_cons] at read
      cases first : palContext entry with
      | error error =>
          rw [first] at read
          cases read
      | ok own =>
          cases others : rest.mapM palContext with
          | error error =>
              rw [first, others] at read
              cases read
          | ok tail =>
              rw [first, others] at read
              cases read
              rw [List.find?_cons, authorizes_context low high userId entry own first] at found
              rw [List.find?_cons]
              cases here : authorizing low high userId entry with
              | true =>
                  rw [here] at found
                  cases found
                  exact ⟨entry, rfl, first⟩
              | false =>
                  rw [here] at found
                  exact ih tail others found

theorem resolved_pal (contexts : List (PalContext K)) (low high : Int) (userId : String) (granted : ChannelGrant)
    (done : resolveChannel env contexts low high userId = .ok granted) (isPal : granted.channelType = .pal) :
    ∃ context, contexts.find? (authorizes low high userId) = some context ∧ granted = palGrant env context := by
  have single : ((overlappingPals contexts low high).filter fun context => coversRange context low high).find? (fun context =>
      context.inCluster && context.userId.isText userId) = contexts.find? (authorizes low high userId) := by
    rw [overlappingPals, List.filter_filter, List.find?_filter]
    congr 1
    funext context
    rw [authorizes]
    cases overlapsHz low high context.low context.high <;> cases coversRange context low high <;> simp
  rcases resolve_cases env contexts low high userId with ⟨_, code, refused⟩ | ⟨_, answer⟩
  · rw [refused] at done
    cases done
  · rw [answer, single] at done
    split at done
    · cases done
      cases isPal
    · split at done
      · rename_i context found
        cases done
        exact ⟨context, found, rfl⟩
      · cases done

-- The licence of a granted PAL channel is that of the PAL that authorizes it.
theorem resolved_license (state : SpectrumTables K) (cbsd : Cbsd K) (low high : Int) (granted : ChannelGrant) (checks : GrantChecks K)
    (done : (withPalRules env state checks).resolveChannel cbsd low high = .ok granted) (isPal : granted.channelType = .pal) :
    ∃ entry, authorizingPal env state cbsd low high = some entry ∧ granted = ⟨.pal, licenseEnd env entry, palIdText env entry⟩ := by
  simp only [withPalRules] at done
  split at done
  · cases done
  · rename_i contexts read
    obtain ⟨context, found, same⟩ := resolved_pal env contexts low high cbsd.userId granted done isPal
    rw [ppaPalContext] at read
    cases loaded : loadPals state with
    | error error =>
        rw [loaded] at read
        cases read
    | ok pals =>
        rw [loaded] at read
        simp only [Except.bind] at read
        cases isLinked : linkedPals env state pals cbsd with
        | error error =>
            rw [isLinked] at read
            cases read
        | ok linked =>
            rw [isLinked] at read
            obtain ⟨entry, isFirst, isContext⟩ := context_find linked contexts read low high cbsd.userId context found
            refine ⟨entry, ?_, ?_⟩
            · rw [authorizingPal, loaded]
              simp only [Except.bind, isLinked]
              exact isFirst
            · obtain ⟨expiration, isRead, isSame⟩ := Collect.map_ok _ _ context isContext
              rw [same, ← isSame, palGrant, licenseEnd, isRead, palIdText]

end Authorization

section Requests

variable (checks : GrantChecks K) (certificateHash : Option String) (req : GrantRequest K)

-- A screened request is refused, or proposes the range it asks for on the channel of the PAL rules.
theorem screen_cases (cbsd : Cbsd K) :
    (∃ code cbsdId, screenRequest checks certificateHash req cbsd = .error (grantRefused code cbsdId)) ∨
      ∃ op proposal, screenRequest checks certificateHash req cbsd = .ok proposal ∧ req.operationParam = some op ∧
        parseFreq op = .ok proposal.range ∧
        checks.resolveChannel cbsd proposal.range.low proposal.range.high = .ok proposal.channel := by
  rw [screenRequest]
  by_cases mismatch : cbsdCertificateMismatch cbsd certificateHash = true
  · exact .inl ⟨_, _, if_pos mismatch⟩
  · rw [if_neg mismatch]
    by_cases blacklisted : checks.blacklisted cbsd = true
    · exact .inl ⟨_, _, if_pos blacklisted⟩
    · rw [if_neg blacklisted]
      simp only
      cases (if checks.askMeas && cbsd.registration.measCapability.contains measWithoutGrant then checks.measError req else none) with
      | some code => exact .inl ⟨_, _, rfl⟩
      | none =>
          cases isOp : req.operationParam with
          | none => exact .inl ⟨_, _, rfl⟩
          | some op =>
              cases eirp : op.maxEirp with
              | absent =>
                  simp only [eirp]
                  exact .inl ⟨_, _, rfl⟩
              | malformed =>
                  simp only [eirp]
                  cases parseFreq op with
                  | error code => exact .inl ⟨_, _, rfl⟩
                  | ok range => exact .inl ⟨_, _, rfl⟩
              | given maxEirp =>
                  simp only [eirp]
                  cases isRange : parseFreq op with
                  | error code => exact .inl ⟨_, _, rfl⟩
                  | ok range =>
                      simp only
                      by_cases strong : maxAllowedEirpMhz cbsd ((checks.fccMaxEirp cbsd.fccId).getD catBMaxEirp10mhz) < maxEirp
                      · exact .inl ⟨invalidParam, some req.cbsdId, by simp [strong]⟩
                      · cases resolved : checks.resolveChannel cbsd range.low range.high with
                        | error code => exact .inl ⟨code, some req.cbsdId, by simp [strong]⟩
                        | ok channel =>
                            exact .inr ⟨op, ⟨range, maxEirp, channel⟩, by simp [strong], rfl, isRange, resolved⟩

theorem created_grant (pending : List FrequencyRange) (grantId : String) (clock : Clock) (store after : Store K)
    (response : GrantResponse) (item : grantItem checks certificateHash req pending grantId clock store = (after, response))
    (kind : ChannelType) (answered : response.channelType = some kind) :
    ∃ cbsd op proposal, store.findCbsd req.cbsdId = some cbsd ∧ req.operationParam = some op ∧ parseFreq op = .ok proposal.range ∧
      checks.resolveChannel cbsd proposal.range.low proposal.range.high = .ok proposal.channel ∧
      after = store.addGrant (newGrant checks req cbsd proposal grantId clock) ∧
      response = grantedResponse (newGrant checks req cbsd proposal grantId clock) := by
  rw [grantItem] at item
  split at item
  · cases item
    cases answered
  · split at item
    · cases item
      cases answered
    · rename_i cbsd found
      rcases screen_cases checks certificateHash req cbsd with ⟨code, cbsdId, refused⟩ | ⟨op, proposal, screened, isOp, isRange, resolved⟩
      · rw [refused] at item
        cases item
        cases answered
      · rw [screened] at item
        simp only at item
        split at item
        · rw [found, lockedCreate] at item
          simp only at item
          split at item
          · cases item
            cases answered
          · split at item
            · cases item
              cases answered
            · split at item
              · cases item
                cases answered
              · split at item
                · cases item
                  cases answered
                · cases item
                  exact ⟨cbsd, op, proposal, found, isOp, isRange, resolved, rfl, rfl⟩
        · cases item
          cases answered

end Requests

section Agreement

variable (state : SpectrumTables K) (cbsd : Cbsd K) (low high now : Int)

-- Renewal at the instant of the creation succeeds, and the licence covers the time that creation returned.
structure RenewsAtOnce (grant : Grant K) (response : GrantResponse) : Prop where
  renewal : (computeRenewal (renewalRows env state) grant now).ok = true
  licensed : ∃ entry expiration returned, authorizingPal env state cbsd low high = some entry ∧ licenseValid entry.pal = true ∧
    licenseEnd env entry = some expiration ∧ now < expiration ∧ response.grantExpireTime = some returned ∧ now < returned ∧
    returned ≤ expiration

-- The PAL record is VALID with a licence that ends in the future, and so is the row of its id, if there is one.
def LicensedNow : Prop :=
  ∃ entry expiration, authorizingPal env state cbsd low high = some entry ∧ licenseValid entry.pal = true ∧
    licenseEnd env entry = some expiration ∧ now < expiration ∧
    ∀ row, linkedRow env state entry = some row → palStatusValid row = true ∧
      wholeSecond now < wholeSecond ((row.licenseExpiration.or row.recordExpiration).getD expiration)

theorem license_whole (entry : LinkedPal K) (expiration : Int) (read : licenseEnd env entry = some expiration) :
    wholeSecond expiration = expiration := by
  rw [licenseEnd] at read
  split at read
  · split at read
    · obtain ⟨seconds, _, same⟩ := Option.map_eq_some_iff.mp read
      rw [← same]
      exact whole_second_seconds seconds
    · cases read
  · cases read

-- The time of a PAL grant is that of the licence where this ends before the default.
theorem expire_time_between (expiration : Int) (whole : wholeSecond expiration = expiration) (future : now < expiration) :
    now < wholeSecond (grantExpireTime (some expiration) now) ∧ wholeSecond (grantExpireTime (some expiration) now) ≤ expiration := by
  simp only [grantExpireTime, defaultGrantDurationSec, second, wholeSecond] at whole ⊢
  omega

theorem cap_of_row (row : Registry.PalRow) (expiration : Int) :
    row.licenseExpiration.or (row.recordExpiration.or (some expiration)) =
      some ((row.licenseExpiration.or row.recordExpiration).getD expiration) := by
  cases row.licenseExpiration <;> cases row.recordExpiration <;> rfl

-- A grant that process_grant answers with SUCCESS on a PAL channel can be renewed at once exactly when its PAL is
-- licensed at that instant.
theorem pal_grant_renews_iff (checks : GrantChecks K) (certificateHash : Option String) (req : GrantRequest K)
    (op : OperationParam K) (range : FrequencyRange) (pending : List FrequencyRange) (grantId : String) (store after : Store K)
    (response : GrantResponse) (grant : Grant K) (found : store.findCbsd req.cbsdId = some cbsd)
    (isOp : req.operationParam = some op) (isRange : parseFreq op = .ok range)
    (item : grantItem (withPalRules env state checks) certificateHash req pending grantId (fun _ => now) store = (after, response))
    (answered : response.channelType = some .pal) (created : after.grants.getLast? = some grant) :
    RenewsAtOnce env state cbsd range.low range.high now grant response ↔ LicensedNow env state cbsd range.low range.high now := by
  obtain ⟨same, asked, proposal, isSame, isAsked, proposed, resolved, isAfter, isResponse⟩ :=
    created_grant (withPalRules env state checks) certificateHash req pending grantId (fun _ => now) store after response item
      .pal answered
  cases found.symm.trans isSame
  cases isOp.symm.trans isAsked
  cases isRange.symm.trans proposed
  have isPal : proposal.channel.channelType = .pal := by
    rw [isResponse] at answered
    exact Option.some.inj answered
  obtain ⟨entry, authorized, license⟩ :=
    resolved_license env state cbsd proposal.range.low proposal.range.high proposal.channel checks resolved isPal
  have isGrant : grant =
      { newGrant (withPalRules env state checks) req cbsd proposal grantId (fun _ => now) with id := store.nextGrantPk } := by
    rw [isAfter, Store.addGrant, List.getLast?_concat] at created
    exact (Option.some.inj created).symm
  have context : grant.grantJson.authContext = some ⟨.pal, palIdText env entry, (licenseEnd env entry).map wholeSecond⟩ := by
    rw [isGrant, newGrant, license]
  have expire : grant.grantExpireTime = grantExpireTime (licenseEnd env entry) now := by
    rw [isGrant, newGrant, license]
  have returned : response.grantExpireTime = some (wholeSecond (grantExpireTime (licenseEnd env entry) now)) := by
    rw [isResponse, grantedResponse, newGrant, license]
  have renewal := renewal_ok_iff (renewalRows env state) grant now (palIdText env entry) ((licenseEnd env entry).map wholeSecond)
    (by rw [isGrant]; rfl) (by rw [isGrant]; rfl) context
  rw [← linkedRow, expire] at renewal
  constructor
  · rintro ⟨renews, other, expiration, _, isEntry, valid, isEnd, future, _⟩
    cases authorized.symm.trans isEntry
    obtain ⟨_, rowValid, cap, isCap, capFuture⟩ := renewal.mp renews
    refine ⟨entry, expiration, authorized, valid, isEnd, future, fun row isRow => ⟨rowValid row isRow, ?_⟩⟩
    rw [isRow, isEnd, Option.map_some, license_whole env entry expiration isEnd] at isCap
    rw [Option.elim_some, cap_of_row] at isCap
    rw [Option.some.inj isCap]
    exact capFuture
  · rintro ⟨other, expiration, isEntry, valid, isEnd, future, rows⟩
    cases authorized.symm.trans isEntry
    have whole := license_whole env entry expiration isEnd
    obtain ⟨after, before⟩ := expire_time_between now expiration whole future
    refine ⟨renewal.mpr ⟨?_, fun row isRow => (rows row isRow).1, ?_⟩, entry, expiration, _, authorized, valid, isEnd, future,
      by rw [returned, isEnd], after, before⟩
    · rw [isEnd]
      exact (whole_second_below now).trans_lt (by omega)
    · rw [isEnd, Option.map_some, whole]
      cases isRow : linkedRow env state entry with
      | none =>
          refine ⟨expiration, rfl, ?_⟩
          rw [whole]
          exact (whole_second_below now).trans_lt (by omega)
      | some row =>
          rw [Option.elim_some, cap_of_row]
          exact ⟨_, rfl, (rows row isRow).2⟩

end Agreement

-- A CBSD in the cluster of the PPA of a PAL whose license ends in 2030.
def licenseEndText : String := "2030-01-01T00:00:00Z"

def datedEnv : SpectrumEnv Rat :=
  { plainsEnv with strptime := fun value => if value.isText licenseEndText then some 1893456000 else none }

def statedPal (licenseStatus : String) : Json Rat :=
  palFields [("channelAssignment", .object [("primaryAssignment", lowBlock)]), ("licenseStatus", .text licenseStatus),
    ("license", .object [("licenseExpiration", .text licenseEndText)])]

def clusterPpa : Json Rat :=
  .object [("id", .text "zone/ppa/sas/1"), ("usage", .text "PPA"),
    ("ppaInfo", .object [("palId", .array [.text "pal/1"]), ("cbsdReferenceId", .array [.text "fcc/sn"])]),
    ("zone", .object [("type", .text "Polygon"), ("coordinates", .array [eastRing])])]

def statedTables (licenseStatus : String) : SpectrumTables Rat where
  tables :=
    { (Tables.empty : Tables Rat) with
      records := fun kind => if kind = .zone then .stored [some clusterPpa] else .stored []
      pals := .stored [⟨"pal/1", "user", 3550000000, 3560000000, licenseStatus, some licenseEndText, statedPal licenseStatus⟩] }
  legacyPals := []

def plainsStore : Store Rat := { (Store.empty : Store Rat) with cbsds := [plainsCbsd] }

def instant2023 : Int := 1700000000 * second

def clusterItem (licenseStatus : String) : Store Rat × GrantResponse :=
  grantItem (withPalRules datedEnv (statedTables licenseStatus) openGrantChecks) none sampleRequest [] "grant/1"
    (fun _ => instant2023) plainsStore

def clusterProposal : Proposal Rat := { sampleProposal with channel := ⟨.pal, some (1893456000 * second), some "pal/1"⟩ }

def clusterGrant : Grant Rat :=
  { newGrant openGrantChecks sampleRequest plainsCbsd clusterProposal "grant/1" (fun _ => instant2023) with
    id := plainsStore.nextGrantPk }

theorem expired_license_granted :
    ¬ ∀ (state : SpectrumTables Rat) (after : Store Rat) (response : GrantResponse) (grant : Grant Rat),
      grantItem (withPalRules datedEnv state openGrantChecks) none sampleRequest [] "grant/1" (fun _ => instant2023) plainsStore =
          (after, response) → response.channelType = some .pal → after.grants.getLast? = some grant →
        RenewsAtOnce datedEnv state plainsCbsd 3550000000 3560000000 instant2023 grant response := by
  intro claim
  have renews := (claim (statedTables "EXPIRED") (clusterItem "EXPIRED").1 (clusterItem "EXPIRED").2 clusterGrant rfl
    (by decide +kernel) (by decide +kernel)).renewal
  have refused : (computeRenewal (renewalRows datedEnv (statedTables "EXPIRED")) clusterGrant instant2023).ok = false := by
    decide +kernel
  exact absurd (refused.symm.trans renews) nofun

theorem pal_grant_renews_iff_sample :
    RenewsAtOnce datedEnv (statedTables "VALID") plainsCbsd 3550000000 3560000000 instant2023 clusterGrant
      (clusterItem "VALID").2 := by
  apply (pal_grant_renews_iff datedEnv (statedTables "VALID") plainsCbsd instant2023 openGrantChecks none sampleRequest
    ⟨.given 10, some (.given 3550000000, .given 3560000000)⟩ sampleProposal.range [] "grant/1" plainsStore
    (clusterItem "VALID").1 (clusterItem "VALID").2 clusterGrant rfl rfl rfl rfl (by decide +kernel) (by decide +kernel)).mpr
  refine ⟨⟨3550000000, 3560000000, true, false, .text "pal/1", statedPal "VALID"⟩, 1893456000 * second, rfl,
    by decide +kernel, by decide +kernel, by decide +kernel, fun row found => ?_⟩
  have isRow : linkedRow datedEnv (statedTables "VALID") ⟨3550000000, 3560000000, true, false, .text "pal/1", statedPal "VALID"⟩ =
      some ⟨"pal/1", some "VALID", some (1893456000 * second), some (1893456000 * second)⟩ := by decide +kernel
  cases isRow.symm.trans found
  exact ⟨by decide +kernel, by decide +kernel⟩

end SasCore.Spectrum
