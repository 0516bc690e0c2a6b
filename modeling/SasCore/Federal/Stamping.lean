import SasCore.Federal.NewerFeed
import SasCore.Federal.Counters
import SasCore.Registry.LifecycleSafety
import Mathlib.Logic.Function.Basic

set_option autoImplicit false
set_option linter.unusedSectionVars false

namespace SasCore.Federal

open Injection Registry
open Cpas (SyncKey)

variable {K : Type} [Field K] [LinearOrder K]

-- The feeds that the federal checks go by.
def checkedFeeds : List SyncKey := [.exz, .fss, .gwbl]

-- What checks have gone by so far: the generation that each query has read and, once no query is left, the generation
-- at that time of every feed that they made no query of.
structure Basis where
  reads : List (SyncKey × Nat)
  skipped : List (SyncKey × Nat)
deriving DecidableEq, Repr

def Basis.empty : Basis := ⟨[], []⟩

def Basis.all (basis : Basis) : List (SyncKey × Nat) := basis.reads ++ basis.skipped

def Basis.queried (basis : Basis) : List SyncKey := basis.reads.map (·.1)

-- What a session is at: the federal checks of a grant request or of a heartbeat, and what they have gone by.
inductive Work (K : Type) where
  | idle
  | granting (cbsd : Cbsd K) (req : GrantRequest K) (proposal : Proposal K) (check : Check K (Except String Bool)) (basis : Basis)
  | beating (grantId : String) (check : Check K (Except String (Option Nat))) (basis : Basis)

def Work.basis : Work K → Basis
  | .idle => .empty
  | .granting _ _ _ _ basis => basis
  | .beating _ _ basis => basis

-- The grant that a heartbeat is about.
def Work.beats : Work K → Option String
  | .beating grantId _ _ => some grantId
  | _ => none

-- A stored grant with what the checks behind its stamp went by, and with all that the checks of its request and of the
-- heartbeats that renewed it have read. No column holds either.
structure Admitted (K : Type) where
  row : Grant K
  basis : Basis
  everRead : List (SyncKey × Nat)

structure StampWorld (K : Type) where
  tables : Tables K
  grants : List (Admitted K)
  sessions : Nat → Work K

def StampWorld.start (tables : Tables K) : StampWorld K := ⟨tables, [], fun _ => .idle⟩

-- A sync commits in another session. A request and a heartbeat reach their federal checks, ask one query at a time,
-- and then write the stamp or leave without it.
inductive StampStep (K : Type) where
  | sync (databaseType : DatabaseType) (body : ByteArray)
  | request (who : Nat) (cbsd : Cbsd K) (req : GrantRequest K) (proposal : Proposal K)
  | heartbeat (who : Nat) (cbsd : Option (Cbsd K)) (grantId : String)
  | ask (who : Nat)
  | create (who : Nat) (checks : GrantChecks K) (grantId : String) (clock : Clock)
  | renew (who : Nat) (pals : List PalRow) (now : Int)
  | leave (who : Nat)

-- A counter of zero stands for no zones, which a heartbeat does not read then.
def generationsRead (tables : Tables K) : Reading → List (SyncKey × Nat)
  | .syncMeta => if (getSyncMeta tables).exz = 0 then [(.exz, 0)] else []
  | .exclusionZones => [(.exz, (getSyncMeta tables).exz)]
  | .fss => [(.fss, (getSyncMeta tables).fss)]
  | .gwbl => [(.gwbl, (getSyncMeta tables).gwbl)]

section Asking

variable {α : Type} (tables : Tables K) (check : Check K α)

def basisOf (reads : List (SyncKey × Nat)) : Basis :=
  ⟨reads, if check.asks.isSome then []
    else (checkedFeeds.filter fun feed => !(reads.map (·.1)).contains feed).map fun feed => (feed, stampOf (getSyncMeta tables) feed)⟩

-- The next query is answered; checks without one stay as they are.
def basisNext (basis : Basis) : Basis :=
  match check.asks with
  | none => basis
  | some reading => basisOf tables (check.answer (look tables)) (basis.reads ++ generationsRead tables reading)

end Asking

def askNext (tables : Tables K) : Work K → Work K
  | .idle => .idle
  | .granting cbsd req proposal check basis =>
      .granting cbsd req proposal (check.answer (look tables)) (basisNext tables check basis)
  | .beating grantId check basis => .beating grantId (check.answer (look tables)) (basisNext tables check basis)

def renews (pals : List PalRow) (grant : Grant K) (now : Int) : Bool :=
  (computeRenewal pals grant now).ok && (computeRenewal pals grant now).newExpire.isSome

def renewAdmitted (pals : List PalRow) (current : SyncStamp) (now : Int) (basis : Basis) (held : Admitted K) : Admitted K :=
  let row := (applyRenewal pals current held.row now).1
  if renews pals held.row now then ⟨row, basis, held.everRead ++ basis.reads⟩ else ⟨row, held.basis, held.everRead⟩

def StampWorld.become (who : Nat) (work : Work K) (world : StampWorld K) : StampWorld K :=
  { world with sessions := Function.update world.sessions who work }

section Steps

variable (env : SyncEnv K) (geometry : GeometryEnv K)

def stampStep (world : StampWorld K) : StampStep K → StampWorld K
  | .sync databaseType body => { world with tables := transact env world.tables [.sync databaseType body] }
  | .request who cbsd req proposal =>
      let check := grantFederalChecks env.feeds geometry cbsd proposal.range.low proposal.range.high
      world.become who (.granting cbsd req proposal check (basisOf world.tables check []))
  | .heartbeat who cbsd grantId =>
      match world.grants.find? fun held => held.row.grantId = grantId with
      | none => world
      | some held =>
          let check := heartbeatFederalCode env.feeds geometry cbsd held.row
          world.become who (.beating grantId check (basisOf world.tables check []))
  | .ask who => world.become who (askNext world.tables (world.sessions who))
  | .create who checks grantId clock =>
      match world.sessions who with
      | .granting cbsd req proposal (.done (.ok false)) basis =>
          let row := newGrant { checks with stamp := getSyncMeta world.tables } req cbsd proposal grantId clock
          StampWorld.become who .idle { world with grants := world.grants ++ [⟨row, basis, basis.reads⟩] }
      | _ => world
  | .renew who pals now =>
      match world.sessions who with
      | .beating grantId (.done (.ok none)) basis =>
          let renewed := world.grants.map fun held =>
            if held.row.grantId = grantId then renewAdmitted pals (getSyncMeta world.tables) now basis held else held
          StampWorld.become who .idle { world with grants := renewed }
      | _ => world
  | .leave who => world.become who .idle

def stampRun (world : StampWorld K) (steps : List (StampStep K)) : StampWorld K := steps.foldl (stampStep env geometry) world

-- Every step meets the condition in the state before it.
def StepsMeet (condition : StampWorld K → StampStep K → Prop) : StampWorld K → List (StampStep K) → Prop
  | _, [] => True
  | world, step :: rest => condition world step ∧ StepsMeet condition (stampStep env geometry world step) rest

-- No sync of a feed commits between what a session has gone by of it and the stamp of the session.
def QuietStep (world : StampWorld K) : StampStep K → Prop
  | .sync databaseType body =>
      ∀ who, ∀ entry ∈ (world.sessions who).basis.all, (touch env (.sync databaseType body)).feed ≠ some entry.1
  | _ => True

-- A request that becomes a grant has queried every feed, and a heartbeat that renews one has queried every feed that was
-- synced since the stamp of the grant.
def QueriedStep (world : StampWorld K) : StampStep K → Prop
  | .create who _ _ _ => ∀ feed ∈ checkedFeeds, feed ∈ (world.sessions who).basis.queried
  | .renew who _ _ => ∀ held ∈ world.grants, (world.sessions who).beats = some held.row.grantId → ∀ feed ∈ checkedFeeds,
      feed ∈ (world.sessions who).basis.queried ∨
        stampOf (getSyncMeta world.tables) feed = stampOf held.row.grantJson.stamp feed
  | _ => True

end Steps

section Invariant

variable (env : SyncEnv K) (geometry : GeometryEnv K)

def Fits (stamp : SyncStamp) (entries : List (SyncKey × Nat)) : Prop := ∀ entry ∈ entries, stampOf stamp entry.1 = entry.2

def Covers (basis : Basis) : Prop := ∀ feed ∈ checkedFeeds, feed ∈ basis.all.map (·.1)

def Work.ended : Work K → Bool
  | .idle => false
  | .granting _ _ _ check _ => check.asks.isNone
  | .beating _ check _ => check.asks.isNone

structure WorkSound (tables : Tables K) (work : Work K) : Prop where
  fits : Fits (getSyncMeta tables) work.basis.all
  covers : work.ended = true → Covers work.basis

structure StampsSound (world : StampWorld K) : Prop where
  committed : ∃ tables : Tables K, world.tables = tables.flush
  stored : ∀ held ∈ world.grants, Fits held.row.grantJson.stamp held.basis.all ∧ Covers held.basis
  working : ∀ who, WorkSound world.tables (world.sessions who)

theorem read_fits (tables : Tables K) (reading : Reading) : Fits (getSyncMeta tables) (generationsRead tables reading) := by
  intro entry member
  cases reading with
  | syncMeta =>
      rw [generationsRead] at member
      split at member
      · rename_i zero
        rw [List.mem_singleton.mp member]
        exact zero
      · cases member
  | exclusionZones => rw [List.mem_singleton.mp member]; rfl
  | fss => rw [List.mem_singleton.mp member]; rfl
  | gwbl => rw [List.mem_singleton.mp member]; rfl

theorem fits_append (stamp : SyncStamp) (first second : List (SyncKey × Nat)) (fits : Fits stamp first)
    (others : Fits stamp second) : Fits stamp (first ++ second) := by
  intro entry member
  rcases List.mem_append.mp member with early | late
  · exact fits entry early
  · exact others entry late

section Basis

variable {α : Type} (tables : Tables K) (check : Check K α)

theorem basis_of_fits (reads : List (SyncKey × Nat)) (fits : Fits (getSyncMeta tables) reads) :
    Fits (getSyncMeta tables) (basisOf tables check reads).all := by
  refine fits_append _ _ _ fits ?_
  rw [basisOf]
  split
  · intro entry member
    cases member
  · intro entry member
    obtain ⟨feed, _, rfl⟩ := List.mem_map.mp member
    rfl

theorem basis_of_covers (reads : List (SyncKey × Nat)) (ended : check.asks.isNone = true) :
    Covers (basisOf tables check reads) := by
  intro feed checked
  have noMore : ¬ check.asks.isSome = true := by simpa using ended
  rw [basisOf, Basis.all, if_neg noMore, List.map_append, List.mem_append]
  by_cases read : feed ∈ reads.map (·.1)
  · exact .inl read
  · refine .inr ?_
    rw [List.map_map]
    exact List.mem_map.mpr ⟨feed, List.mem_filter.mpr ⟨checked, by simpa using read⟩, rfl⟩

theorem basis_next_fits (basis : Basis) (fits : Fits (getSyncMeta tables) basis.all) :
    Fits (getSyncMeta tables) (basisNext tables check basis).all := by
  rw [basisNext]
  cases check.asks with
  | none => exact fits
  | some reading =>
      refine basis_of_fits tables _ _ (fits_append _ _ _ ?_ (read_fits tables reading))
      exact fun entry member => fits entry (List.mem_append_left _ member)

theorem basis_next_covers (basis : Basis) (covers : check.asks.isNone = true → Covers basis)
    (ended : (check.answer (look tables)).asks.isNone = true) : Covers (basisNext tables check basis) := by
  rw [basisNext]
  cases check with
  | done result => exact covers rfl
  | ask label next => exact basis_of_covers tables _ _ ended

end Basis

theorem idle_sound (tables : Tables K) : WorkSound tables (.idle : Work K) :=
  ⟨(fun _ member => by cases member), (fun ended => by cases ended)⟩

theorem ask_next_sound (tables : Tables K) (work : Work K) (sound : WorkSound tables work) :
    WorkSound tables (askNext tables work) := by
  cases work with
  | idle => exact sound
  | granting cbsd req proposal check basis =>
      exact ⟨basis_next_fits tables check basis sound.fits, basis_next_covers tables check basis sound.covers⟩
  | beating grantId check basis =>
      exact ⟨basis_next_fits tables check basis sound.fits, basis_next_covers tables check basis sound.covers⟩

theorem renewal_stamp (pals : List PalRow) (current : SyncStamp) (grant : Grant K) (now : Int) :
    (applyRenewal pals current grant now).1.grantJson.stamp = if renews pals grant now then current else grant.grantJson.stamp := by
  have restamped : (restampedMeta pals current grant).stamp = current := by
    rw [restampedMeta]
    split <;> rfl
  rw [applyRenewal, renews]
  cases (computeRenewal pals grant now).ok with
  | false => simp
  | true =>
      cases (computeRenewal pals grant now).newExpire with
      | none => simp
      | some expire => simpa using restamped

-- A sync leaves the counters of the feeds it is not about.
theorem sync_keeps_stamp (committed : Tables K) (databaseType : DatabaseType) (body : ByteArray) (feed : SyncKey)
    (apart : (touch env (.sync databaseType body)).feed ≠ some feed) :
    stampOf (getSyncMeta (transact env committed.flush [.sync databaseType body])) feed = stampOf (getSyncMeta committed.flush) feed := by
  rw [transact]
  cases done : runOps env [.sync databaseType body] committed.flush with
  | error error => rfl
  | ok written =>
      have raised := (committed_counters env committed written _ (one_op_spaced env _) done).2 feed
      have absent : feed ∉ [StoreOp.sync databaseType body].filterMap fun op => (touch env op).feed := by
        intro member
        obtain ⟨op, isOp, found⟩ := List.mem_filterMap.mp member
        rw [List.mem_singleton.mp isOp] at found
        exact apart found
      rw [raised, List.count_eq_zero_of_not_mem absent]
      rfl

theorem become_sound (world : StampWorld K) (who : Nat) (work : Work K) (sound : StampsSound world)
    (workSound : WorkSound world.tables work) : StampsSound (world.become who work) := by
  refine ⟨sound.committed, sound.stored, fun other => ?_⟩
  by_cases here : other = who
  · have own : (world.become who work).sessions other = work := by
      rw [here]
      exact Function.update_self who work world.sessions
    rw [own]
    exact workSound
  · have kept : (world.become who work).sessions other = world.sessions other := by
      rw [StampWorld.become]
      exact Function.update_of_ne here work world.sessions
    rw [kept]
    exact sound.working other

theorem step_sound (world : StampWorld K) (step : StampStep K) (sound : StampsSound world) (quiet : QuietStep env world step) :
    StampsSound (stampStep env geometry world step) := by
  cases step with
  | sync databaseType body =>
      obtain ⟨committed, reached⟩ := sound.committed
      refine ⟨?_, sound.stored, fun who => ⟨fun entry member => ?_, (sound.working who).covers⟩⟩
      · obtain ⟨later, same⟩ := transact_committed env committed [[.sync databaseType body]]
        refine ⟨later, ?_⟩
        rw [← same, stampStep, reached]
        rfl
      · have before := (sound.working who).fits entry member
        rw [reached] at before
        rw [stampStep, reached]
        exact (sync_keeps_stamp env committed databaseType body entry.1 (quiet who entry member)).trans before
  | request who cbsd req proposal =>
      exact become_sound world who _ sound
        ⟨basis_of_fits world.tables _ [] (fun _ member => by cases member), basis_of_covers world.tables _ []⟩
  | heartbeat who cbsd grantId =>
      rw [stampStep]
      split
      · exact sound
      · exact become_sound world who _ sound
          ⟨basis_of_fits world.tables _ [] (fun _ member => by cases member), basis_of_covers world.tables _ []⟩
  | ask who => exact become_sound world who _ sound (ask_next_sound world.tables _ (sound.working who))
  | create who checks grantId clock =>
      rw [stampStep]
      split
      · rename_i cbsd req proposal basis found
        apply become_sound _ who _ ?_ (idle_sound _)
        refine ⟨sound.committed, fun held member => ?_, sound.working⟩
        rcases List.mem_append.mp member with old | isNew
        · exact sound.stored held old
        · have own := sound.working who
          rw [found] at own
          rw [List.mem_singleton.mp isNew]
          exact ⟨own.fits, own.covers rfl⟩
      · exact sound
  | renew who pals now =>
      rw [stampStep]
      split
      · rename_i grantId basis found
        apply become_sound _ who _ ?_ (idle_sound _)
        refine ⟨sound.committed, fun held member => ?_, sound.working⟩
        obtain ⟨old, inGrants, same⟩ := List.mem_map.mp member
        have kept := sound.stored old inGrants
        rw [← same]
        split
        · rw [renewAdmitted]
          by_cases renewed : renews pals old.row now = true
          · have own := sound.working who
            rw [found] at own
            rw [if_pos renewed]
            refine ⟨?_, own.covers rfl⟩
            rw [renewal_stamp, if_pos renewed]
            exact own.fits
          · rw [if_neg renewed]
            refine ⟨?_, kept.2⟩
            rw [renewal_stamp, if_neg renewed]
            exact kept.1
        · exact kept
      · exact sound
  | leave who => exact become_sound world who _ sound (idle_sound _)

-- The generation in the stamp of every stored grant is one that its checks have read.
def Checked (world : StampWorld K) : Prop :=
  ∀ held ∈ world.grants, ∀ feed ∈ checkedFeeds, (feed, stampOf held.row.grantJson.stamp feed) ∈ held.everRead

theorem queried_read (tables : Tables K) (work : Work K) (sound : WorkSound tables work) (feed : SyncKey)
    (queried : feed ∈ work.basis.queried) : (feed, stampOf (getSyncMeta tables) feed) ∈ work.basis.reads := by
  obtain ⟨entry, read, rfl⟩ := List.mem_map.mp queried
  rw [sound.fits entry (List.mem_append_left _ read)]
  exact read

theorem step_checked (world : StampWorld K) (step : StampStep K) (sound : StampsSound world) (checked : Checked world)
    (queried : QueriedStep world step) : Checked (stampStep env geometry world step) := by
  cases step with
  | sync databaseType body => exact checked
  | request who cbsd req proposal => exact checked
  | heartbeat who cbsd grantId =>
      rw [stampStep]
      split
      · exact checked
      · exact checked
  | ask who => exact checked
  | create who checks grantId clock =>
      rw [stampStep]
      split
      · rename_i cbsd req proposal basis found
        intro held member feed isChecked
        rcases List.mem_append.mp member with old | isNew
        · exact checked held old feed isChecked
        · have read := queried_read world.tables _ (sound.working who) feed (queried feed isChecked)
          rw [found] at read
          rw [List.mem_singleton.mp isNew]
          exact read
      · exact checked
  | renew who pals now =>
      rw [stampStep]
      split
      · rename_i grantId basis found
        intro held member feed isChecked
        obtain ⟨old, inGrants, same⟩ := List.mem_map.mp member
        have kept := checked old inGrants feed isChecked
        rw [← same]
        split
        · rename_i own
          rw [renewAdmitted]
          by_cases renewed : renews pals old.row now = true
          · rw [if_pos renewed, renewal_stamp, if_pos renewed, List.mem_append]
            have beats : (world.sessions who).beats = some old.row.grantId := by rw [found, own]; rfl
            rcases queried old inGrants beats feed isChecked with asked | unchanged
            · have read := queried_read world.tables _ (sound.working who) feed asked
              rw [found] at read
              exact .inr read
            · rw [unchanged]
              exact .inl kept
          · rw [if_neg renewed, renewal_stamp, if_neg renewed]
            exact kept
        · exact kept
      · exact checked
  | leave who => exact checked

theorem run_sound (world : StampWorld K) (steps : List (StampStep K)) (sound : StampsSound world)
    (quiet : StepsMeet env geometry (QuietStep env) world steps) : StampsSound (stampRun env geometry world steps) := by
  induction steps generalizing world with
  | nil => exact sound
  | cons step rest ih => exact ih _ (step_sound env geometry world step sound quiet.1) quiet.2

theorem run_checked (world : StampWorld K) (steps : List (StampStep K)) (sound : StampsSound world) (checked : Checked world)
    (quiet : StepsMeet env geometry (QuietStep env) world steps) (queried : StepsMeet env geometry QueriedStep world steps) :
    Checked (stampRun env geometry world steps) := by
  induction steps generalizing world with
  | nil => exact checked
  | cons step rest ih =>
      exact ih _ (step_sound env geometry world step sound quiet.1)
        (step_checked env geometry world step sound checked queried.1) quiet.2 queried.2

-- With no sync in between, a stamp has the generations that its checks went by. Those of all feeds are read where no check
-- behind a stamp leaves out the query of a feed.
theorem stamps_match_checks (start : Tables K) (steps : List (StampStep K))
    (quiet : StepsMeet env geometry (QuietStep env) (.start start.flush) steps) :
    (∀ held ∈ (stampRun env geometry (.start start.flush) steps).grants, ∀ feed ∈ checkedFeeds, ∀ generation,
      (feed, generation) ∈ held.basis.all ↔ generation = stampOf held.row.grantJson.stamp feed) ∧
    (StepsMeet env geometry QueriedStep (.start start.flush) steps →
      ∀ held ∈ (stampRun env geometry (.start start.flush) steps).grants, ∀ feed ∈ checkedFeeds,
        (feed, stampOf held.row.grantJson.stamp feed) ∈ held.everRead) := by
  have sound : StampsSound (StampWorld.start start.flush) :=
    ⟨⟨start, rfl⟩, (fun _ absent => by cases absent), fun _ => idle_sound _⟩
  constructor
  · intro held member feed isChecked generation
    obtain ⟨fits, covers⟩ := (run_sound env geometry _ steps sound quiet).stored held member
    constructor
    · exact fun entry => (fits (feed, generation) entry).symm
    · intro same
      obtain ⟨entry, inBasis, isFeed⟩ := List.mem_map.mp (covers feed isChecked)
      rw [same, ← isFeed, fits entry inBasis]
      exact inBasis
  · intro queried
    exact run_checked env geometry _ steps sound (fun _ absent => by cases absent) quiet queried

section Queried

variable (feeds : FeedEnv K) (req : GrantRequest K) (proposal : Proposal K)

-- The queries of a session, each answered by the tables of its moment.
def askThrough (views : List (Tables K)) (work : Work K) : Work K := views.foldl (fun held tables => askNext tables held) work

theorem ask_through_cons (first : Tables K) (rest : List (Tables K)) (work : Work K) :
    askThrough (first :: rest) work = askThrough rest (askNext first work) := rfl

theorem ask_next_granting (tables : Tables K) (cbsd : Cbsd K) (reading : Reading)
    (next : View K reading → Check K (Except String Bool)) (basis : Basis) :
    askNext tables (.granting cbsd req proposal (.ask reading next) basis) =
      .granting cbsd req proposal (next (look tables reading)) (basisNext tables (.ask reading next) basis) := rfl

theorem queried_kept (tables : Tables K) (work : Work K) (feed : SyncKey) (queried : feed ∈ work.basis.queried) :
    feed ∈ (askNext tables work).basis.queried := by
  have grows : ∀ {α : Type} (check : Check K α) (basis : Basis), feed ∈ basis.queried →
      feed ∈ (basisNext tables check basis).queried := by
    intro α check basis before
    rw [basisNext]
    cases check.asks with
    | none => exact before
    | some reading =>
        simp only [basisOf, Basis.queried, List.map_append, List.mem_append]
        exact .inl before
  cases work with
  | idle => exact queried
  | granting cbsd req proposal check basis => exact grows check basis queried
  | beating grantId check basis => exact grows check basis queried

theorem ask_through_kept (views : List (Tables K)) (work : Work K) (feed : SyncKey) (queried : feed ∈ work.basis.queried) :
    feed ∈ (askThrough views work).basis.queried := by
  induction views generalizing work with
  | nil => exact queried
  | cons tables rest ih => exact ih _ (queried_kept tables work feed queried)

theorem ask_through_done (cbsd : Cbsd K) (result : Except String Bool) (basis : Basis) (views : List (Tables K)) :
    askThrough views (.granting cbsd req proposal (.done result) basis) = .granting cbsd req proposal (.done result) basis := by
  induction views with
  | nil => rfl
  | cons tables rest ih => exact ih

def admits : Work K → Bool
  | .granting _ _ _ (.done (.ok false)) _ => true
  | _ => false

theorem done_admits (cbsd : Cbsd K) (result : Except String Bool) (basis : Basis) (views : List (Tables K))
    (admitted : admits (askThrough views (.granting cbsd req proposal (.done result) basis)) = true) : result = .ok false := by
  rw [ask_through_done] at admitted
  match result with
  | .ok false => rfl
  | .ok true => cases admitted
  | .error _ => cases admitted

-- With a GWBL stored, checks that let through a range of the band query both feeds.
theorem station_check_queries (cbsd : Cbsd K) (lat lon : K) (low high : Int)
    (band : overlapsHz low high fssGwblLowHz fssGwblHighHz = true) (basis : Basis)
    (views : List (Tables K)) (stored : ∀ tables ∈ views, loadKind .gwbl tables ≠ [])
    (admitted : admits (askThrough views (.granting cbsd req proposal
      (grantBlockedByFssGwbl feeds geometry lat lon low high) basis)) = true) (feed : SyncKey) (station : feed = .gwbl ∨ feed = .fss) :
    feed ∈ (askThrough views (.granting cbsd req proposal
      (grantBlockedByFssGwbl feeds geometry lat lon low high) basis)).basis.queried := by
  have inBand : ¬ (!overlapsHz low high fssGwblLowHz fssGwblHighHz) = true := by simp [band]
  rw [grantBlockedByFssGwbl, if_neg inBand] at admitted ⊢
  cases views with
  | nil => cases admitted
  | cons first rest =>
      have someGwbl : ¬ List.isEmpty (look first .gwbl) = true := by simpa [look] using stored first List.mem_cons_self
      rw [ask_through_cons, ask_next_granting] at admitted ⊢
      simp only [if_neg someGwbl] at admitted ⊢
      cases rest with
      | nil => cases admitted
      | cons second others =>
          rw [ask_through_cons, ask_next_granting]
          refine ask_through_kept others _ feed ?_
          rcases station with rfl | rfl
          · simp [Work.basis, basisNext, Query.asks, basisOf, Basis.queried, generationsRead]
          · simp [Work.basis, basisNext, Query.asks, basisOf, Basis.queried, generationsRead]

-- A located CBSD, a range in the band of FSS and GWBL and a stored GWBL make a request that is let through query every
-- feed.
theorem band_request_queries (cbsd : Cbsd K) (lat lon : K) (located : cbsdLocation cbsd = some (lat, lon))
    (band : overlapsHz proposal.range.low proposal.range.high fssGwblLowHz fssGwblHighHz = true) (basis : Basis)
    (views : List (Tables K)) (stored : ∀ tables ∈ views, loadKind .gwbl tables ≠ [])
    (admitted : admits (askThrough views (.granting cbsd req proposal
      (grantFederalChecks feeds geometry cbsd proposal.range.low proposal.range.high) basis)) = true) :
    ∀ feed ∈ checkedFeeds, feed ∈ (askThrough views (.granting cbsd req proposal
      (grantFederalChecks feeds geometry cbsd proposal.range.low proposal.range.high) basis)).basis.queried := by
  rw [grantFederalChecks, located] at admitted ⊢
  cases views with
  | nil => cases admitted
  | cons first rest =>
      have others : ∀ tables ∈ rest, loadKind .gwbl tables ≠ [] := fun tables member => stored tables (List.mem_cons_of_mem first member)
      rw [ask_through_cons, ask_next_granting] at admitted ⊢
      cases hit : zonesHit feeds geometry lat lon proposal.range.low proposal.range.high (look first .exclusionZones) with
      | error error =>
          simp only [hit] at admitted
          cases done_admits req proposal cbsd _ _ rest admitted
      | ok hits =>
          cases hits with
          | true =>
              simp only [hit] at admitted
              cases done_admits req proposal cbsd _ _ rest admitted
          | false =>
              simp only [hit] at admitted ⊢
              intro feed checked
              simp only [checkedFeeds, List.mem_cons, List.not_mem_nil, or_false] at checked
              rcases checked with rfl | rfl | rfl
              · refine ask_through_kept rest _ .exz ?_
                simp [Work.basis, basisNext, Query.asks, basisOf, Basis.queried, generationsRead]
              · exact station_check_queries geometry feeds req proposal cbsd lat lon _ _ band _ rest others admitted .fss (.inr rfl)
              · exact station_check_queries geometry feeds req proposal cbsd lat lon _ _ band _ rest others admitted .gwbl (.inl rfl)

end Queried

def zonePlacemark : Xml :=
  .element (kml "Placemark") [] none [.element (kml "outerBoundaryIs") [] none [.element (kml "LinearRing") [] none
    [.element (kml "coordinates") [] (some "0,0 1,0 1,1 0,0") []]]]

-- The exclusion-zone feed has one zone.
def oneZoneEnv : SyncEnv Rat :=
  { syncSampleEnv ByteArray.empty with
    dpa.feeds.injection.settings.floats := ⟨fun _ => [], fun _ => some 0⟩
    dpa.feeds.parseXml := fun _ => some (.element "kml" [] none [zonePlacemark]) }

def zoneProposal : Proposal Rat := ⟨⟨3600000000, 3610000000, by decide⟩, 20, ⟨.gaa, none, none⟩⟩

def bandProposal : Proposal Rat := ⟨⟨3660000000, 3670000000, by decide⟩, 20, ⟨.gaa, none, none⟩⟩

-- Every point is far from every other one and outside every zone.
def farGeometry : GeometryEnv Rat := ⟨fun _ _ _ _ => 200000, fun _ _ _ _ => false, .ok []⟩

-- The zones are synced before the request reads them; a heartbeat renews the grant, without a query of the GWBLs.
def renewedAfterSync : List (StampStep Rat) :=
  [.request 0 stationCbsd ⟨"cbsd-1", none⟩ bandProposal, .sync .exclusionZone ByteArray.empty, .ask 0, .ask 0, .ask 0,
    .create 0 openGrantChecks "grant/1" (fun _ => 0), .heartbeat 1 (some stationCbsd) "grant/1", .ask 1, .ask 1, .ask 1,
    .renew 1 [] 10]

theorem renewed_after_sync_quiet :
    StepsMeet oneZoneEnv farGeometry (QuietStep oneZoneEnv) (.start (pairTables ⟨1, 1, 0, 0⟩).flush) renewedAfterSync := by
  refine ⟨trivial, ?_, trivial, trivial, trivial, trivial, trivial, trivial, trivial, trivial, trivial, trivial⟩
  intro who entry member
  by_cases here : who = 0
  · subst here
    cases member
  · have unread : ((stampRun oneZoneEnv farGeometry (.start (pairTables ⟨1, 1, 0, 0⟩).flush)
        [.request 0 stationCbsd ⟨"cbsd-1", none⟩ bandProposal]).sessions who).basis.all = [] := by
      simp [stampRun, stampStep, StampWorld.become, StampWorld.start, here, Work.basis, Basis.empty, Basis.all]
    have absent : entry ∈ [] := unread ▸ member
    cases absent

theorem renewed_after_sync_queried :
    StepsMeet oneZoneEnv farGeometry QueriedStep (.start (pairTables ⟨1, 1, 0, 0⟩).flush) renewedAfterSync := by
  refine ⟨trivial, trivial, trivial, trivial, trivial, ?_, trivial, trivial, trivial, trivial, ?_, trivial⟩
  · rw [QueriedStep]
    decide +kernel
  · rw [QueriedStep]
    decide +kernel

theorem stamps_match_checks_sample :
    let world := stampRun oneZoneEnv farGeometry (.start (pairTables ⟨1, 1, 0, 0⟩).flush) renewedAfterSync
    world.grants.map (·.row.grantJson.stamp) = [⟨1, 1, 1, 0⟩] ∧
      ∀ held ∈ world.grants, ∀ feed ∈ checkedFeeds, (feed, stampOf held.row.grantJson.stamp feed) ∈ held.everRead :=
  ⟨by decide +kernel, (stamps_match_checks oneZoneEnv farGeometry (pairTables ⟨1, 1, 0, 0⟩) renewedAfterSync
    renewed_after_sync_quiet).2 renewed_after_sync_queried⟩

-- The sync commits after the zones are read and before the stamp is: the next heartbeat answers 501.
theorem sync_between_check_and_stamp :
    let steps : List (StampStep Rat) := [.request 0 stationCbsd ⟨"cbsd-1", none⟩ zoneProposal, .ask 0,
      .sync .exclusionZone ByteArray.empty, .create 0 openGrantChecks "grant/1" (fun _ => 0)]
    let world := stampRun oneZoneEnv nearbyGeometry (.start Tables.empty.flush) steps
    world.grants.map (·.everRead) = [[(.exz, 0)]] ∧ world.grants.map (·.row.grantJson.stamp.exz) = [1] ∧
      world.grants.map (fun held => (heartbeatFederalCode oneZoneEnv.feeds nearbyGeometry (some stationCbsd) held.row).run
        (look world.tables)) = [.ok (some 501)] := by
  decide +kernel

-- Without a GWBL the FSS sites are not queried, and their generation is stamped all the same.
theorem unqueried_feed_stamped :
    let steps : List (StampStep Rat) := [.request 0 stationCbsd ⟨"cbsd-1", none⟩ bandProposal, .ask 0, .ask 0,
      .create 0 openGrantChecks "grant/1" (fun _ => 0)]
    let world := stampRun oneZoneEnv nearbyGeometry (.start ((pairTables ⟨1, 0, 0, 0⟩).setRecords .gwbl fun _ => .stored []).flush) steps
    world.grants.map (·.everRead) = [[(.exz, 0), (.gwbl, 0)]] ∧ world.grants.map (·.row.grantJson.stamp.fss) = [1] ∧
      world.grants.map (fun held => (heartbeatFederalCode oneZoneEnv.feeds nearbyGeometry (some stationCbsd) held.row).run
        (look world.tables)) = [.ok (some 501)] := by
  decide +kernel

end Invariant

end SasCore.Federal
