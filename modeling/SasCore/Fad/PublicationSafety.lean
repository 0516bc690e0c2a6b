import SasCore.Fad.Publication
import SasCore.Fad.RoundTrip
import SasCore.Lib.Atomic
import Mathlib.Algebra.Field.Rat

set_option autoImplicit false
set_option linter.unusedSectionVars false

namespace SasCore.Fad

open JsonText Txn Txn.Prog

variable {K : Type} [Field K] [DecidableEq K]

section Outcomes

-- A body that starts from what is committed either fails and leaves it committed all along, or ends with
-- `final` committed, once `fact` has been checked.
def Outcome (prog : Prog FadStore FadError) (session : Session FadStore) (final : FadStore) (fact : Prop) : Prop :=
  ((exec prog session).2 ≠ none ∧ (exec prog session).1.committed = session.committed ∧
      ∀ store ∈ published prog session, store = session.committed) ∨
    ((exec prog session).2 = none ∧ (exec prog session).1.committed = final ∧ fact ∧
      ∀ store ∈ published prog session, store = session.committed ∨ store = final)

variable (session : Session FadStore) (final : FadStore) (fact : Prop) (faults : Place → Bool)

theorem atomic_outcome (prog : Prog FadStore FadError) (atomic : Atomic prog session final fact) : Outcome prog session final fact := by
  rcases atomic with ⟨error, failed, all⟩ | ⟨ended, holds, all⟩
  · left
    rw [failed]
    exact ⟨Option.some_ne_none error, rfl, all⟩
  · right
    rw [ended]
    exact ⟨rfl, rfl, holds, all⟩

theorem or_fail_settles (place : Place) (next : Prog FadStore FadError) (settles : Settles next session final fact) :
    Settles (orFail faults place next) session final fact := by
  have same : orFail faults place next = failIf (faults place) (.failed place) next := rfl
  rw [same]
  exact fail_if_settles session final fact (faults place) (.failed place) next settles

theorem write_files_each (dumpId : Nat) (rows : List FileRow) (index : Nat) (next : Prog FadStore FadError) :
    writeFiles faults dumpId index rows next =
      writeEach (FadStore.addFile dumpId) (fun i => faults (.fileWrite i)) (fun i => .failed (.fileWrite i)) index rows next := by
  induction rows generalizing index with
  | nil => rfl
  | cons row rest ih =>
      rw [writeFiles, writeEach, ih]
      rfl

end Outcomes

section Frames

variable (settings : FadSettings K) (urlPath : Json K → Except String String)

def fileRowsOf (id : Nat) (payload : FadSnapshotPayload) : List FadFile :=
  payload.fileRows.map fun row => ⟨id, row.recordType, row.urlPath, row.entry.checksum, row.entry.size, row.content⟩

theorem add_files (id : Nat) (rows : List FileRow) (store : FadStore) :
    rows.foldl (fun store row => FadStore.addFile id row store) store =
      { store with files := store.files ++ rows.map fun row =>
          ⟨id, row.recordType, row.urlPath, row.entry.checksum, row.entry.size, row.content⟩ } := by
  induction rows generalizing store with
  | nil => rw [List.map_nil, List.append_nil, List.foldl_nil]
  | cons row rest ih =>
      rw [List.foldl_cons, ih, FadStore.addFile, List.append_assoc]
      rfl

-- The store a successful publication commits.
def publishedStore (id : Nat) (payload : FadSnapshotPayload) (store : FadStore) : FadStore :=
  FadStore.publish id (FadStore.unpublishAll
    { dumps := store.dumps ++ [readyDump id payload], files := store.files ++ fileRowsOf id payload })

theorem publish_outcome (faults : Place → Bool) (payload : FadSnapshotPayload) (skipped : Nat) (commit : Bool)
    (store : FadStore) :
    Outcome (publishSnapshot settings urlPath faults payload skipped commit) (Session.start store)
      (publishedStore (store.freshId skipped) payload store)
      (verifyReadyDumpIntegrity settings urlPath (store.files ++ fileRowsOf (store.freshId skipped) payload)
        (readyDump (store.freshId skipped) payload) = .ok none) := by
  refine atomic_outcome _ _ _ _ (guarded_atomic _ _ _ _ (or_fail_settles _ _ _ faults .lock _ ?_))
  refine or_fail_settles ((Session.start store).write
    (FadStore.addDump (readyDump (store.freshId skipped) payload))) _ _ faults .dumpFlush _ ?_
  rw [write_files_each]
  refine write_each_settles _ _ _ _ _ _ _ _ _ fun written same seen => ?_
  refine or_fail_settles written _ _ faults .fileFlush _ ?_
  have reached : written.view = ⟨store.dumps ++ [readyDump (store.freshId skipped) payload],
      store.files ++ fileRowsOf (store.freshId skipped) payload⟩ := by
    rw [seen, add_files]
    rfl
  have files : written.view.files = store.files ++ fileRowsOf (store.freshId skipped) payload := by rw [reached]
  refine read_settles written _ _ _ ?_
  rw [show (Session.start store).view = store from rfl, files]
  cases checked : verifyReadyDumpIntegrity settings urlPath (store.files ++ fileRowsOf (store.freshId skipped) payload)
      (readyDump (store.freshId skipped) payload) with
  | error message => exact raise_settles written _ _ (FadError.raised message)
  | ok report =>
      cases report with
      | some report => exact raise_settles written _ _ (FadError.integrity report)
      | none =>
          let flipped := (written.write FadStore.unpublishAll).write (FadStore.publish (store.freshId skipped))
          have whole : flipped.view = publishedStore (store.freshId skipped) payload store :=
            congrArg (fun seen => FadStore.publish (store.freshId skipped) (FadStore.unpublishAll seen)) reached
          have committed := fun (fact : Prop) (holds : fact) =>
            or_fail_settles flipped _ fact faults .commit _ (commit_settles flipped _ fact holds whole)
          refine or_fail_settles (written.write FadStore.unpublishAll) _ _ faults .update _ ?_
          cases commit with
          | true => exact committed _ rfl
          | false =>
              exact or_fail_settles flipped _ _ faults .flush _ (or_fail_settles flipped _ _ faults .caller _ (committed _ rfl))

theorem attempt_outcome (attempt : Attempt K) (store : FadStore) :
    ((dumped settings urlPath attempt store).2 ≠ none ∧ (dumped settings urlPath attempt store).1.committed = store ∧
        ∀ seen ∈ published (createFullActivityDump settings urlPath attempt) (Session.start store), seen = store) ∨
      ∃ payload id, buildSnapshotPayload settings attempt.pageSize attempt.now (buildRecords settings attempt.tables) = .ok payload ∧
        (dumped settings urlPath attempt store).2 = none ∧
        (dumped settings urlPath attempt store).1.committed = publishedStore id payload store ∧
        id = store.freshId attempt.skipped ∧
        verifyReadyDumpIntegrity settings urlPath (store.files ++ fileRowsOf id payload) (readyDump id payload) = .ok none ∧
        ∀ seen ∈ published (createFullActivityDump settings urlPath attempt) (Session.start store),
          seen = store ∨ seen = publishedStore id payload store := by
  rw [dumped, createFullActivityDump]
  split
  · left
    exact ⟨Option.some_ne_none _, rfl, fun seen member => List.mem_singleton.mp member⟩
  · rename_i payload built
    rcases publish_outcome settings urlPath attempt.faults payload attempt.skipped attempt.commit store with
      failed | ⟨ended, reached, checked, states⟩
    · exact Or.inl failed
    · exact Or.inr ⟨payload, store.freshId attempt.skipped, built, ended, reached, rfl, checked, states⟩

end Frames

section Coherence

variable (settings : FadSettings K) (urlPath : Json K → Except String String)

structure Coherent (store : FadStore) : Prop where
  keys : (store.dumps.map (·.id)).Nodup
  single : ∀ first ∈ store.dumps, ∀ second ∈ store.dumps, first.published = true → second.published = true →
    first.id = second.id
  verified : ∀ dump ∈ store.dumps, dump.published = true → verifyReadyDumpIntegrity settings urlPath store.files dump = .ok none
  owned : ∀ file ∈ store.files, ∃ dump ∈ store.dumps, dump.id = file.dumpId

theorem coherent_empty : Coherent settings urlPath FadStore.empty :=
  ⟨List.nodup_nil, (fun first member => by cases member), (fun dump member => by cases member),
    (fun file member => by cases member)⟩

theorem fresh_id_above (store : FadStore) (skipped : Nat) : ∀ dump ∈ store.dumps, dump.id < store.freshId skipped := by
  have grows : ∀ (dumps : List FadDump) (start : Nat), start ≤ dumps.foldl (fun largest dump => max largest dump.id) start ∧
      ∀ dump ∈ dumps, dump.id ≤ dumps.foldl (fun largest dump => max largest dump.id) start := by
    intro dumps
    induction dumps with
    | nil => exact fun start => ⟨Nat.le_refl start, fun dump member => by cases member⟩
    | cons first rest ih =>
        intro start
        obtain ⟨above, each⟩ := ih (max start first.id)
        rw [List.foldl_cons]
        refine ⟨by omega, fun dump member => ?_⟩
        rcases List.mem_cons.mp member with here | later
        · rw [here]
          omega
        · exact each dump later
  intro dump member
  have bound := (grows store.dumps 0).2 dump member
  rw [FadStore.freshId]
  omega

-- The rows a publication leaves: the old ones unpublished, the new one published.
def flipped (id : Nat) (dump : FadDump) : FadDump :=
  if dump.id = id then { dump with published := true } else { dump with published := false }

theorem published_dumps (id : Nat) (payload : FadSnapshotPayload) (store : FadStore) :
    (publishedStore id payload store).dumps = (store.dumps ++ [readyDump id payload]).map (flipped id) := by
  show (((store.dumps ++ [readyDump id payload]).map _).map _) = _
  rw [List.map_map]
  refine List.map_congr_left fun dump _ => ?_
  dsimp only [Function.comp_apply]
  rw [flipped]
  cases flag : dump.published with
  | true => rfl
  | false =>
      rw [if_neg Bool.false_ne_true]
      split
      · rfl
      · rw [← flag]

theorem flipped_id (id : Nat) (dump : FadDump) : (flipped id dump).id = dump.id := by
  rw [flipped]
  split <;> rfl

theorem flipped_published (id : Nat) (dump : FadDump) : (flipped id dump).published = decide (dump.id = id) := by
  rw [flipped]
  split
  · rename_i same
    exact (decide_eq_true same).symm
  · rename_i other
    exact (decide_eq_false other).symm

theorem flipped_verified (id : Nat) (files : List FadFile) (dump : FadDump) :
    verifyReadyDumpIntegrity settings urlPath files (flipped id dump) = verifyReadyDumpIntegrity settings urlPath files dump := by
  rw [flipped]
  split <;> rfl

theorem publication_keeps (id : Nat) (payload : FadSnapshotPayload) (store : FadStore) (skipped : Nat)
    (fresh : id = store.freshId skipped) (coherent : Coherent settings urlPath store)
    (checked : verifyReadyDumpIntegrity settings urlPath (store.files ++ fileRowsOf id payload) (readyDump id payload) = .ok none) :
    Coherent settings urlPath (publishedStore id payload store) := by
  have above : ∀ dump ∈ store.dumps, dump.id ≠ id := fun dump member same =>
    absurd (fresh_id_above store skipped dump member) (by rw [same, fresh]; exact Nat.lt_irrefl _)
  have dumps := published_dumps id payload store
  have newest : ∀ dump ∈ (publishedStore id payload store).dumps, dump.published = true →
      dump = flipped id (readyDump id payload) := by
    intro dump member isPublished
    rw [dumps] at member
    obtain ⟨before, beforeMember, same⟩ := List.mem_map.mp member
    rw [← same, flipped_published, decide_eq_true_iff] at isPublished
    rcases List.mem_append.mp beforeMember with old | new
    · exact absurd isPublished (above before old)
    · rw [← same, List.mem_singleton.mp new]
  refine ⟨?_, ?_, ?_, ?_⟩
  · rw [dumps, List.map_map]
    have ids : ((store.dumps ++ [readyDump id payload]).map ((fun dump => dump.id) ∘ flipped id)) =
        store.dumps.map (fun dump => dump.id) ++ [id] := by
      rw [List.map_append]
      congr 1
      · exact List.map_congr_left fun dump _ => flipped_id id dump
      · exact congrArg (fun key => [key]) (flipped_id id (readyDump id payload))
    rw [ids, List.nodup_append]
    refine ⟨coherent.keys, List.nodup_singleton id, fun key listed other isOther same => ?_⟩
    obtain ⟨dump, member, isKey⟩ := List.mem_map.mp listed
    exact above dump member (isKey.trans (same.trans (List.mem_singleton.mp isOther)))
  · intro first firstMember second secondMember firstPublished secondPublished
    rw [newest first firstMember firstPublished, newest second secondMember secondPublished]
  · intro dump member isPublished
    rw [newest dump member isPublished, flipped_verified]
    exact checked
  · intro file member
    have owner : ∀ before ∈ store.dumps ++ [readyDump id payload], ∃ dump ∈ (publishedStore id payload store).dumps,
        dump.id = before.id := fun before beforeMember =>
      ⟨flipped id before, dumps ▸ List.mem_map_of_mem beforeMember, flipped_id id before⟩
    rcases List.mem_append.mp member with old | new
    · obtain ⟨before, beforeMember, isOwner⟩ := coherent.owned file old
      obtain ⟨dump, dumpMember, same⟩ := owner before (List.mem_append_left _ beforeMember)
      exact ⟨dump, dumpMember, same.trans isOwner⟩
    · obtain ⟨row, _, same⟩ := List.mem_map.mp new
      obtain ⟨dump, dumpMember, isOwner⟩ := owner (readyDump id payload) (List.mem_append_right _ List.mem_cons_self)
      exact ⟨dump, dumpMember, by rw [isOwner, ← same]; rfl⟩

theorem attempt_keeps (attempt : Attempt K) (store : FadStore) (coherent : Coherent settings urlPath store) :
    Coherent settings urlPath (dumped settings urlPath attempt store).1.committed ∧
      ∀ seen ∈ published (createFullActivityDump settings urlPath attempt) (Session.start store),
        Coherent settings urlPath seen := by
  rcases attempt_outcome settings urlPath attempt store with ⟨_, kept, all⟩ | ⟨payload, id, _, _, reached, fresh, checked, all⟩
  · rw [kept]
    exact ⟨coherent, fun seen member => all seen member ▸ coherent⟩
  · have after := publication_keeps settings urlPath id payload store attempt.skipped fresh coherent checked
    rw [reached]
    exact ⟨after, fun seen member => (all seen member).elim (fun same => same ▸ coherent) fun same => same ▸ after⟩

theorem attempts_keep (attempts : List (Attempt K)) (store : FadStore) (coherent : Coherent settings urlPath store) :
    ∀ seen ∈ committedStates settings urlPath store attempts, Coherent settings urlPath seen := by
  induction attempts generalizing store with
  | nil => exact fun seen member => List.mem_singleton.mp member ▸ coherent
  | cons attempt rest ih =>
      obtain ⟨after, during⟩ := attempt_keeps settings urlPath attempt store coherent
      intro seen member
      rcases List.mem_append.mp member with now | later
      · exact during seen now
      · exact ih _ after seen later

end Coherence

section Present

variable (settings : FadSettings K) (urlPath : Json K → Except String String)

-- The file row of a manifest entry, with the checksum and the size that the entry gives.
def FilePresent (files : List FadFile) (dumpId : Nat) (entry : Json K) : Prop :=
  ∃ file ∈ files, ∃ given, file.dumpId = dumpId ∧ urlPath (entry.field "url") = .ok given ∧ file.urlPath = rooted given ∧
    (entry.field "checksum").isText (settings.sha1Hex file.contentJson.toUTF8) = true ∧
    sizeValue settings.readers (entry.field "size") = some (file.contentJson.toUTF8.size : Int)

theorem content_matches (checksum size : Json K) (content : String)
    (passes : assertEntryMatchesContent settings checksum size content = .ok none) :
    checksum.isText (settings.sha1Hex content.toUTF8) = true ∧
      sizeValue settings.readers size = some (content.toUTF8.size : Int) := by
  rw [assertEntryMatchesContent] at passes
  split at passes
  · cases passes
  · rename_i matching
    split at passes
    · cases passes
    · rename_i value isValue
      split at passes
      · cases passes
      · rename_i same
        exact ⟨by simpa using matching, isValue.trans (congrArg some (not_not.mp same))⟩

theorem entry_present (files : List FadFile) (dumpId : Nat) (generation entry : Json K)
    (passes : verifyEntry settings urlPath files dumpId generation entry = .ok none) :
    FilePresent settings urlPath files dumpId entry := by
  rw [verifyEntry] at passes
  split at passes
  · cases passes
  · cases passes
  · split at passes
    · cases passes
    · split at passes
      · cases passes
      · rename_i given isGiven
        dsimp only at passes
        split at passes
        · cases passes
        · rename_i file found
          have chosen := List.find?_some found
          rw [decide_eq_true_iff] at chosen
          rw [verifyFile] at passes
          split at passes
          · cases passes
          · cases passes
          · rename_i matching
            have content := content_matches settings _ _ _ matching
            exact ⟨file, List.mem_of_find?_eq_some found, given, chosen.1, isGiven, chosen.2, content.1, content.2⟩

theorem entries_present (files : List FadFile) (dumpId : Nat) (generation : Json K) (entries : List (Json K))
    (passes : verifyEntries settings urlPath files dumpId generation entries = .ok none) :
    ∀ entry ∈ entries, FilePresent settings urlPath files dumpId entry := by
  induction entries with
  | nil => exact fun entry member => by cases member
  | cons first rest ih =>
      rw [verifyEntries] at passes
      split at passes
      · rename_i here
        intro entry member
        rcases List.mem_cons.mp member with same | later
        · exact same ▸ entry_present settings urlPath files dumpId generation first here
        · exact ih passes entry later
      · rename_i other
        exact absurd passes other

-- A dump that passes has every file its manifest lists.
theorem verified_present (files : List FadFile) (dump : FadDump)
    (passes : verifyReadyDumpIntegrity settings urlPath files dump = .ok none) :
    ∃ manifest, loads settings.floats (if dump.manifestJson = "" then "{}" else dump.manifestJson) = some manifest ∧
      (manifest.field "files").items ≠ [] ∧
      ∀ entry ∈ (manifest.field "files").items, FilePresent settings urlPath files dump.id entry := by
  rw [verifyReadyDumpIntegrity] at passes
  split at passes
  · cases passes
  · rename_i manifest loaded
    split at passes
    · cases passes
    · dsimp only at passes
      split at passes
      · cases passes
      · rename_i listed
        split at passes
        · cases passes
        · split at passes
          · rename_i entries
            exact ⟨manifest, loaded, fun none => listed (List.isEmpty_iff.mpr none),
              entries_present settings urlPath files dump.id _ _ entries⟩
          · rename_i other
            exact absurd passes other

end Present

section Reading

theorem published_dump_mem (store : FadStore) (dump : FadDump) (found : getPublishedDump store = some dump) :
    dump ∈ store.dumps ∧ dump.published = true := by
  have chosen : ∀ (dumps : List FadDump) (best : Option FadDump), dumps.foldl laterDump best = some dump →
      best = some dump ∨ dump ∈ dumps := by
    intro dumps
    induction dumps with
    | nil => exact fun best same => Or.inl same
    | cons first rest ih =>
        intro best same
        rcases ih _ same with here | later
        · cases best with
          | none => exact Or.inr (Option.some.inj here ▸ List.mem_cons_self)
          | some held =>
              rw [laterDump] at here
              split at here
              · exact Or.inr (Option.some.inj here ▸ List.mem_cons_self)
              · exact Or.inl here
        · exact Or.inr (List.mem_cons_of_mem first later)
  rcases chosen _ none found with absent | member
  · cases absent
  · exact List.mem_filter.mp member

variable (endsLike : String → String → Bool)

theorem file_of_dump_owned (files : List FadFile) (dumpId : Nat) (urlPath : String) (file : FadFile)
    (found : fileOfDump endsLike files dumpId urlPath = some file) : file ∈ files ∧ file.dumpId = dumpId := by
  rw [fileOfDump] at found
  dsimp only at found
  split at found
  · cases found
  · split at found
    · rename_i row isRow
      cases found
      have chosen := List.find?_some isRow
      rw [decide_eq_true_iff] at chosen
      exact ⟨List.mem_of_find?_eq_some isRow, chosen.1⟩
    · split at found
      · split at found
        · cases found
        · split at found
          · rename_i row isRow
            cases found
            have member : file ∈ files.filter _ := isRow ▸ List.mem_cons_self
            have chosen := (List.mem_filter.mp member).2
            rw [decide_eq_true_iff] at chosen
            exact ⟨List.mem_of_mem_filter member, chosen.1⟩
          · cases found
      · cases found

theorem file_of_dump_frame (files more : List FadFile) (dumpId : Nat) (urlPath : String)
    (others : ∀ file ∈ more, file.dumpId ≠ dumpId) :
    fileOfDump endsLike (files ++ more) dumpId urlPath = fileOfDump endsLike files dumpId urlPath := by
  have find : ∀ path, ((files ++ more).find? fun file => file.dumpId = dumpId ∧ file.urlPath = path) =
      files.find? fun file => file.dumpId = dumpId ∧ file.urlPath = path := by
    intro path
    have none : (more.find? fun file => decide (file.dumpId = dumpId ∧ file.urlPath = path)) = none :=
      List.find?_eq_none.mpr fun file member same => others file member (of_decide_eq_true same).1
    rw [List.find?_append, none, Option.or_none]
  have filter : ∀ name, ((files ++ more).filter fun file => file.dumpId = dumpId ∧ endsLike file.urlPath name = true) =
      files.filter fun file => file.dumpId = dumpId ∧ endsLike file.urlPath name = true := by
    intro name
    have none : (more.filter fun file => decide (file.dumpId = dumpId ∧ endsLike file.urlPath name = true)) = [] :=
      List.filter_eq_nil_iff.mpr fun file member same => others file member (of_decide_eq_true same).1
    rw [List.filter_append, none, List.append_nil]
  simp only [fileOfDump, find, filter]

end Reading

section Run

variable (settings : FadSettings K) (urlPath : Json K → Except String String)

-- Later states keep the dumps, by id, and the files of each.
structure Extends (before after : FadStore) : Prop where
  dumps : ∀ dump ∈ before.dumps, ∃ later ∈ after.dumps, later.id = dump.id
  files : ∃ more, after.files = before.files ++ more ∧ ∀ file ∈ more, ∀ dump ∈ before.dumps, file.dumpId ≠ dump.id

theorem extends_refl (store : FadStore) : Extends store store :=
  ⟨fun dump member => ⟨dump, member, rfl⟩, [], (List.append_nil _).symm, fun file member => by cases member⟩

theorem extends_trans (first second third : FadStore) (one : Extends first second) (two : Extends second third) :
    Extends first third := by
  obtain ⟨early, earlyFiles, earlyOthers⟩ := one.files
  obtain ⟨late, lateFiles, lateOthers⟩ := two.files
  refine ⟨fun dump member => ?_, early ++ late, ?_, fun file member dump dumpMember => ?_⟩
  · obtain ⟨middle, middleMember, same⟩ := one.dumps dump member
    obtain ⟨last, lastMember, again⟩ := two.dumps middle middleMember
    exact ⟨last, lastMember, again.trans same⟩
  · rw [lateFiles, earlyFiles, List.append_assoc]
  · rcases List.mem_append.mp member with isEarly | isLate
    · exact earlyOthers file isEarly dump dumpMember
    · obtain ⟨middle, middleMember, same⟩ := one.dumps dump dumpMember
      exact same ▸ lateOthers file isLate middle middleMember

theorem publication_extends (id : Nat) (payload : FadSnapshotPayload) (store : FadStore) (skipped : Nat)
    (fresh : id = store.freshId skipped) : Extends store (publishedStore id payload store) := by
  refine ⟨fun dump member => ⟨flipped id dump, ?_, flipped_id id dump⟩, fileRowsOf id payload, rfl, ?_⟩
  · rw [published_dumps]
    exact List.mem_map_of_mem (List.mem_append_left _ member)
  · intro file member dump dumpMember same
    obtain ⟨row, _, isFile⟩ := List.mem_map.mp member
    have below := fresh_id_above store skipped dump dumpMember
    rw [← same, ← isFile, fresh] at below
    exact Nat.lt_irrefl _ below

theorem attempt_extends (attempt : Attempt K) (store : FadStore) :
    Extends store (dumped settings urlPath attempt store).1.committed ∧
      ∀ seen ∈ published (createFullActivityDump settings urlPath attempt) (Session.start store), Extends store seen := by
  have same := extends_refl store
  rcases attempt_outcome settings urlPath attempt store with ⟨_, kept, all⟩ | ⟨payload, id, _, _, reached, fresh, _, all⟩
  · rw [kept]
    exact ⟨same, fun seen member => all seen member ▸ same⟩
  · have grown := publication_extends id payload store attempt.skipped fresh
    rw [reached]
    exact ⟨grown, fun seen member => (all seen member).elim (fun here => here ▸ same) fun here => here ▸ grown⟩

theorem attempts_extend (attempts : List (Attempt K)) (store : FadStore) :
    ∀ seen ∈ committedStates settings urlPath store attempts, Extends store seen := by
  induction attempts generalizing store with
  | nil => exact fun seen member => List.mem_singleton.mp member ▸ extends_refl store
  | cons attempt rest ih =>
      obtain ⟨after, during⟩ := attempt_extends settings urlPath attempt store
      intro seen member
      rcases List.mem_append.mp member with now | later
      · exact during seen now
      · exact extends_trans store _ seen after (ih _ seen later)

theorem one_published (store : FadStore) (coherent : Coherent settings urlPath store) :
    (store.dumps.filter (·.published)).length ≤ 1 := by
  have keys : ((store.dumps.filter (·.published)).map (·.id)).Nodup := coherent.keys.sublist (List.filter_sublist.map _)
  cases list : store.dumps.filter (·.published) with
  | nil => exact Nat.zero_le 1
  | cons first rest =>
      cases rest with
      | nil => exact Nat.le_refl 1
      | cons second others =>
          have members : ∀ dump ∈ first :: second :: others, dump ∈ store.dumps ∧ dump.published = true := by
            rw [← list]
            exact fun dump => List.mem_filter.mp
          have one := members first List.mem_cons_self
          have two := members second (List.mem_cons_of_mem first List.mem_cons_self)
          have same := coherent.single first one.1 second two.1 one.2 two.2
          rw [list, List.map_cons, List.map_cons, List.nodup_cons] at keys
          exact absurd (same ▸ List.mem_cons_self) keys.1

-- After a publication the new dump is the published one, and its rows are those of its payload.
theorem publication_current (id : Nat) (payload : FadSnapshotPayload) (store : FadStore) (above : ∀ dump ∈ store.dumps, dump.id ≠ id) :
    getPublishedDump (publishedStore id payload store) = some { readyDump id payload with published := true } := by
  have old : (store.dumps.map (flipped id)).filter (·.published) = [] := by
    refine List.filter_eq_nil_iff.mpr fun dump member isPublished => ?_
    obtain ⟨before, isBefore, same⟩ := List.mem_map.mp member
    rw [← same, flipped_published, decide_eq_true_iff] at isPublished
    exact above before isBefore isPublished
  have new : flipped id (readyDump id payload) = { readyDump id payload with published := true } := if_pos rfl
  rw [getPublishedDump, published_dumps, List.map_append, List.filter_append, old, List.map_singleton, new]
  rfl

theorem publication_rows (id : Nat) (payload : FadSnapshotPayload) (store : FadStore) (above : ∀ dump ∈ store.dumps, dump.id ≠ id)
    (owned : ∀ file ∈ store.files, ∃ dump ∈ store.dumps, dump.id = file.dumpId) :
    ((publishedStore id payload store).files.filter fun file => file.dumpId = id) = fileRowsOf id payload := by
  have old : (store.files.filter fun file => decide (file.dumpId = id)) = [] := by
    refine List.filter_eq_nil_iff.mpr fun file member same => ?_
    obtain ⟨dump, isDump, owner⟩ := owned file member
    exact above dump isDump (owner.trans (of_decide_eq_true same))
  have new : ((fileRowsOf id payload).filter fun file => decide (file.dumpId = id)) = fileRowsOf id payload := by
    refine List.filter_eq_self.mpr fun file member => ?_
    obtain ⟨row, _, same⟩ := List.mem_map.mp member
    rw [← same]
    exact decide_eq_true rfl
  have files : (publishedStore id payload store).files = store.files ++ fileRowsOf id payload := rfl
  rw [files, List.filter_append, old, new, List.nil_append]

-- One published dump at most, with all its files; a failed attempt commits nothing; one that succeeds leaves the dump
-- of its own payload published, with the rows of that payload; and a path gives a file of the published dump, also to
-- a reader that looks at its files when later attempts have committed.
structure PublishedWhole (endsLike : String → String → Bool) (store : FadStore) : Prop where
  single : (store.dumps.filter (·.published)).length ≤ 1
  verified : ∀ dump ∈ store.dumps, dump.published = true →
    verifyReadyDumpIntegrity settings urlPath store.files dump = .ok none
  present : ∀ dump ∈ store.dumps, dump.published = true →
    ∃ manifest, loads settings.floats (if dump.manifestJson = "" then "{}" else dump.manifestJson) = some manifest ∧
      (manifest.field "files").items ≠ [] ∧
      ∀ entry ∈ (manifest.field "files").items, FilePresent settings urlPath store.files dump.id entry
  resolved : ∀ path file, getDumpFileByPath endsLike store path = some file →
    ∃ dump ∈ store.dumps, dump.published = true ∧ file ∈ store.files ∧ file.dumpId = dump.id
  failed : ∀ attempt : Attempt K, (dumped settings urlPath attempt store).2 ≠ none →
    (dumped settings urlPath attempt store).1.committed = store ∧
      ∀ seen ∈ published (createFullActivityDump settings urlPath attempt) (Session.start store), seen = store
  succeeded : ∀ attempt : Attempt K, (dumped settings urlPath attempt store).2 = none →
    ∃ payload id, buildSnapshotPayload settings attempt.pageSize attempt.now (buildRecords settings attempt.tables) = .ok payload ∧
      getPublishedDump (dumped settings urlPath attempt store).1.committed = some { readyDump id payload with published := true } ∧
      ((dumped settings urlPath attempt store).1.committed.files.filter fun file => file.dumpId = id) = fileRowsOf id payload ∧
      ∀ seen ∈ published (createFullActivityDump settings urlPath attempt) (Session.start store),
        seen = store ∨ seen = (dumped settings urlPath attempt store).1.committed
  unmixed : ∀ (later : List (Attempt K)), ∀ seen ∈ committedStates settings urlPath store later, ∀ dump,
    getPublishedDump store = some dump → ∀ path,
      fileOfDump endsLike seen.files dump.id path = fileOfDump endsLike store.files dump.id path

theorem publication_atomic (endsLike : String → String → Bool) (attempts : List (Attempt K)) :
    ∀ store ∈ committedStates settings urlPath FadStore.empty attempts, PublishedWhole settings urlPath endsLike store := by
  intro store reached
  have coherent := attempts_keep settings urlPath attempts FadStore.empty (coherent_empty settings urlPath) store reached
  refine ⟨one_published settings urlPath store coherent, coherent.verified, fun dump member isPublished => ?_,
    fun path file found => ?_, fun attempt failed => ?_, fun attempt succeeds => ?_, fun later seen member dump found path => ?_⟩
  · exact verified_present settings urlPath store.files dump (coherent.verified dump member isPublished)
  · obtain ⟨dump, isPublished, inDump⟩ := Option.bind_eq_some_iff.mp found
    obtain ⟨member, flag⟩ := published_dump_mem store dump isPublished
    obtain ⟨fileMember, owner⟩ := file_of_dump_owned endsLike store.files dump.id path file inDump
    exact ⟨dump, member, flag, fileMember, owner⟩
  · rcases attempt_outcome settings urlPath attempt store with ⟨_, kept, all⟩ | ⟨_, _, _, ended, _⟩
    · exact ⟨kept, all⟩
    · exact absurd ended failed
  · rcases attempt_outcome settings urlPath attempt store with ⟨fails, _⟩ | ⟨payload, id, built, _, final, fresh, _, all⟩
    · exact absurd succeeds fails
    · have above : ∀ dump ∈ store.dumps, dump.id ≠ id := fun dump member same =>
        absurd (fresh_id_above store attempt.skipped dump member) (by rw [same, fresh]; exact Nat.lt_irrefl _)
      rw [final]
      exact ⟨payload, id, built, publication_current id payload store above,
        publication_rows id payload store above coherent.owned, all⟩
  · obtain ⟨more, grown, others⟩ := (attempts_extend settings urlPath later store seen member).files
    have dumpMember := (published_dump_mem store dump found).1
    rw [grown]
    exact file_of_dump_frame endsLike store.files more dump.id path fun file fileMember => others file fileMember dump dumpMember

theorem run_committed (attempts : List (Attempt K)) (store : FadStore) :
    runAttempts settings urlPath store attempts ∈ committedStates settings urlPath store attempts := by
  induction attempts generalizing store with
  | nil => exact List.mem_singleton_self store
  | cons attempt rest ih => exact List.mem_append_right _ (ih _)

end Run

section Completing

variable (settings : FadSettings K) (urlPath : Json K → Except String String)

theorem write_files_exec (faults : Place → Bool) (faultless : ∀ index, faults (.fileWrite index) = false) (id : Nat) (rows : List FileRow)
    (next : Prog FadStore FadError) (index : Nat) (session : Session FadStore) :
    ∃ written : Session FadStore, exec (writeFiles faults id index rows next) session = exec next written ∧
      written.view = rows.foldl (fun store row => FadStore.addFile id row store) session.view := by
  induction rows generalizing index session with
  | nil => exact ⟨session, rfl, rfl⟩
  | cons row rest ih =>
      obtain ⟨written, ran, seen⟩ := ih (index + 1) (session.write (FadStore.addFile id row))
      refine ⟨written, ?_, seen⟩
      rw [← ran, writeFiles, orFail, faultless]
      rfl

-- Up to its end a publication fails only at a fault or at a dump that does not pass.
theorem body_ends (faults : Place → Bool) (faultless : ∀ place, place ≠ .commit → faults place = false) (payload : FadSnapshotPayload)
    (skipped : Nat) (store : FadStore)
    (checked : verifyReadyDumpIntegrity settings urlPath (store.files ++ fileRowsOf (store.freshId skipped) payload)
      (readyDump (store.freshId skipped) payload) = .ok none) (ending : Prog FadStore FadError) :
    ∃ session, exec (publishBody settings urlPath faults payload skipped ending) (Session.start store) = exec ending session := by
  have start : (Session.start store).view = store := rfl
  have quiet : faults .lock = false ∧ faults .dumpFlush = false ∧ faults .fileFlush = false ∧ faults .update = false :=
    ⟨faultless _ (by decide), faultless _ (by decide), faultless _ (by decide), faultless _ (by decide)⟩
  simp only [publishBody, orFail, quiet, Bool.false_eq_true, if_false, exec, start]
  obtain ⟨written, ran, seen⟩ := write_files_exec faults (fun index => faultless _ (by simp)) (store.freshId skipped) payload.fileRows
    _ 0 ((Session.start store).write (FadStore.addDump (readyDump (store.freshId skipped) payload)))
  have files : written.view.files = store.files ++ fileRowsOf (store.freshId skipped) payload := by
    rw [seen, add_files]
    rfl
  rw [ran]
  simp only [exec, files, checked]
  exact ⟨_, rfl⟩

theorem attempt_ends (attempt : Attempt K) (store : FadStore) (faultless : ∀ place, place ≠ .commit → attempt.faults place = false)
    (payload : FadSnapshotPayload)
    (built : buildSnapshotPayload settings attempt.pageSize attempt.now (buildRecords settings attempt.tables) = .ok payload)
    (checked : verifyReadyDumpIntegrity settings urlPath (store.files ++ fileRowsOf (store.freshId attempt.skipped) payload)
      (readyDump (store.freshId attempt.skipped) payload) = .ok none) :
    (dumped settings urlPath attempt store).2 = if attempt.faults .commit then some (.failed .commit) else none := by
  have quiet : attempt.faults .flush = false ∧ attempt.faults .caller = false :=
    ⟨faultless _ (by decide), faultless _ (by decide)⟩
  obtain ⟨session, reached⟩ := body_ends settings urlPath attempt.faults faultless payload attempt.skipped store checked
    (if attempt.commit then orFail attempt.faults .commit (.commit .done)
      else orFail attempt.faults .flush (orFail attempt.faults .caller (orFail attempt.faults .commit (.commit .done))))
  rw [dumped, createFullActivityDump, built]
  simp only [publishSnapshot]
  rw [exec_guarded, reached]
  simp only [orFail, quiet, Bool.false_eq_true, if_false, ite_self]
  cases attempt.faults .commit with
  | true => rfl
  | false => rfl

theorem attempt_settled (attempt : Attempt K) (store : FadStore) :
    ((dumped settings urlPath attempt store).2 = none → ∃ payload,
        (dumped settings urlPath attempt store).1.committed = publishedStore (store.freshId attempt.skipped) payload store) ∧
      ((dumped settings urlPath attempt store).2 ≠ none → (dumped settings urlPath attempt store).1.committed = store) := by
  rcases attempt_outcome settings urlPath attempt store with ⟨fails, kept, _⟩ | ⟨payload, id, _, ends, reached, fresh, _⟩
  · exact ⟨fun ends => absurd ends fails, fun _ => kept⟩
  · exact ⟨fun _ => ⟨payload, fresh ▸ reached⟩, fun fails => absurd ends fails⟩

-- The entry of a page that was built finds its row, with the digest and the times it asks for.
theorem row_verified (lawful : settings.floats.Lawful) (recordType filename timestamp : String) (records : List (Json K))
    (fine : ∀ record ∈ records, RecordFine settings record) (row : FileRow)
    (isRow : row = makeDumpFile settings recordType filename records timestamp)
    (path : urlPath (.text row.entry.url) = .ok row.urlPath) (files : List FadFile) (id : Nat) (file : FadFile)
    (content : file.contentJson = row.content)
    (found : (files.find? fun file => file.dumpId = id ∧ file.urlPath = row.urlPath) = some file) :
    verifyEntry settings urlPath files id (.text timestamp) row.entry.toJson = .ok none := by
  have named : missingName (row.entry.toJson : Json K) ["url", "checksum", "size", "version", "recordType"] = .ok none := rfl
  have isObject : (row.entry.toJson : Json K).isObject = true := rfl
  have url : (row.entry.toJson : Json K).field "url" = .text row.entry.url := rfl
  have checksum : (row.entry.toJson : Json K).field "checksum" = .text row.entry.checksum := rfl
  have size : (row.entry.toJson : Json K).field "size" = .int row.entry.size := rfl
  have isRooted : rooted row.urlPath = row.urlPath := by
    rw [rooted, if_pos]
    simp [isRow, makeDumpFile, String.toList_append]
  have matching : assertEntryMatchesContent settings (.text row.entry.checksum) (.int row.entry.size) row.content = .ok none :=
    entry_matches settings recordType filename timestamp records row isRow
  have starts : ((envelopeOf timestamp records).field "startTime").equal (.text timestamp) = true := beq_self_eq_true timestamp
  have ends : ((envelopeOf timestamp records).field "endTime").equal (.text timestamp) = true := beq_self_eq_true timestamp
  have envelope : (envelopeOf timestamp records).isObject = true := rfl
  have loaded : loads settings.floats row.content = some (envelopeOf timestamp records) := by
    rw [isRow]
    exact loads_dumps settings.floats lawful _ (envelope_plain settings timestamp records fine)
  rw [verifyEntry, named]
  simp only [isObject, Bool.not_true, Bool.false_eq_true, if_false, url, path, isRooted, found, verifyFile, checksum, size, content,
    matching, loaded, envelope, starts, ends, Bool.and_self, if_true]

theorem entries_verified (files : List FadFile) (id : Nat) (generation : Json K) (entries : List (Json K))
    (each : ∀ entry ∈ entries, verifyEntry settings urlPath files id generation entry = .ok none) :
    verifyEntries settings urlPath files id generation entries = .ok none := by
  induction entries with
  | nil => rfl
  | cons first rest ih =>
      rw [List.forall_mem_cons] at each
      simp only [verifyEntries, each.1, ih each.2]

-- Among files of other dumps a row of a path of its own is found.
theorem row_looked_up (files : List FadFile) (id : Nat) (payload : FadSnapshotPayload) (others : ∀ file ∈ files, file.dumpId ≠ id)
    (distinct : (payload.fileRows.map (·.urlPath)).Nodup) (row : FileRow) (member : row ∈ payload.fileRows) :
    ((files ++ fileRowsOf id payload).find? fun file => file.dumpId = id ∧ file.urlPath = row.urlPath) =
      some ⟨id, row.recordType, row.urlPath, row.entry.checksum, row.entry.size, row.content⟩ := by
  have elsewhere : (files.find? fun file => decide (file.dumpId = id ∧ file.urlPath = row.urlPath)) = none :=
    List.find?_eq_none.mpr fun file isFile same => others file isFile (of_decide_eq_true same).1
  rw [List.find?_append, elsewhere, Option.none_or, fileRowsOf]
  generalize payload.fileRows = rows at distinct member
  induction rows with
  | nil => cases member
  | cons first rest ih =>
      rw [List.map_cons, List.nodup_cons] at distinct
      rw [List.map_cons, List.find?_cons]
      rcases List.mem_cons.mp member with here | later
      · rw [here, decide_eq_true ⟨rfl, rfl⟩]
      · have apart : ¬ first.urlPath = row.urlPath := fun same => distinct.1 (same ▸ List.mem_map_of_mem later)
        rw [decide_eq_false fun both => apart both.2]
        exact ih distinct.2 later

section Built

variable (lawful : settings.floats.Lawful) (tables : FadTables K) (pageSize : Nat) (now : Int) (payload : FadSnapshotPayload)
variable (built : buildSnapshotPayload settings pageSize now (buildRecords settings tables) = .ok payload)

include lawful built

theorem built_manifest_loads : loads settings.floats (if payload.manifestJson = "" then "{}" else payload.manifestJson) =
    some (manifestOf payload.timestamp payload.description (payload.fileRows.map (·.entry))) := by
  have shape := built_from settings pageSize now (buildRecords settings tables) payload built
  have written : payload.manifestJson ≠ "" := by
    intro empty
    rw [shape.manifest] at empty
    have chars := congrArg String.toList empty
    rw [dumps, String.toList_ofList] at chars
    cases chars
  rw [if_neg written, shape.manifest, shape.timestamp, shape.description]
  exact loads_dumps settings.floats lawful _ (manifest_plain _ _ _)

theorem built_entry_verified (positive : 0 < pageSize) (paths : ∀ row ∈ payload.fileRows, urlPath (.text row.entry.url) = .ok row.urlPath)
    (distinct : (payload.fileRows.map (·.urlPath)).Nodup) (files : List FadFile) (id : Nat) (others : ∀ file ∈ files, file.dumpId ≠ id)
    (row : FileRow) (member : row ∈ payload.fileRows) :
    verifyEntry settings urlPath (files ++ fileRowsOf id payload) id (.text payload.timestamp) row.entry.toJson = .ok none := by
  have shape := built_from settings pageSize now (buildRecords settings tables) payload built
  have inTypes := member
  rw [exported_rows settings tables pageSize now payload shape] at inTypes
  obtain ⟨recordType, _, inType⟩ := List.mem_flatMap.mp inTypes
  obtain ⟨page, inPages, made⟩ := List.mem_map.mp inType
  exact row_verified settings urlPath lawful recordType (dumpFileName recordType page.2) payload.timestamp page.1
    (fun record inPage => exported_fine settings tables recordType record
      (page_records _ pageSize positive page.1 (List.fst_mem_of_mem_zipIdx inPages) record inPage))
    row made.symm (paths row member) _ id _ rfl (row_looked_up files id payload others distinct row member)

omit lawful

theorem built_types_present : (recordTypes.all fun recordType =>
    (payload.fileRows.map fun row => (.text row.entry.recordType : Json K)).any (·.isText recordType)) = true := by
  have shape := built_from settings pageSize now (buildRecords settings tables) payload built
  rw [List.all_eq_true]
  intro recordType known
  obtain ⟨page, rest, pages⟩ := List.exists_cons_of_ne_nil (chunks_some (exported settings tables recordType) pageSize)
  have first : makeDumpFile settings recordType (dumpFileName recordType 0) page payload.timestamp ∈ payload.fileRows := by
    rw [exported_rows settings tables pageSize now payload shape]
    refine List.mem_flatMap.mpr ⟨recordType, known, ?_⟩
    rw [typeRows, pages, List.zipIdx_cons, List.map_cons]
    exact List.mem_cons_self
  rw [List.any_map, List.any_eq_true]
  exact ⟨_, first, beq_self_eq_true recordType⟩

end Built

-- A dump that was built passes beside the files of other dumps, as far as its URLs lead to its paths.
theorem built_verified (lawful : settings.floats.Lawful) (tables : FadTables K) (pageSize : Nat) (positive : 0 < pageSize) (now : Int)
    (payload : FadSnapshotPayload) (built : buildSnapshotPayload settings pageSize now (buildRecords settings tables) = .ok payload)
    (paths : ∀ row ∈ payload.fileRows, urlPath (.text row.entry.url) = .ok row.urlPath)
    (distinct : (payload.fileRows.map (·.urlPath)).Nodup) (files : List FadFile) (id : Nat) (others : ∀ file ∈ files, file.dumpId ≠ id) :
    verifyReadyDumpIntegrity settings urlPath (files ++ fileRowsOf id payload) (readyDump id payload) = .ok none := by
  have notEmpty := rows_not_empty settings tables pageSize payload
    (exported_rows settings tables pageSize now payload (built_from settings pageSize now (buildRecords settings tables) payload built))
  have object : (manifestOf payload.timestamp payload.description (payload.fileRows.map (·.entry)) : Json K).isObject = true := rfl
  have listed : ((manifestOf payload.timestamp payload.description (payload.fileRows.map (·.entry)) : Json K).field "files").items =
      (payload.fileRows.map (·.entry)).map ManifestEntry.toJson := rfl
  have generation : (manifestOf payload.timestamp payload.description (payload.fileRows.map (·.entry)) : Json K).field "generationDateTime" =
      .text payload.timestamp := rfl
  have complete : (["generationDateTime", "description"].find? fun key =>
      !(manifestOf payload.timestamp payload.description (payload.fileRows.map (·.entry)) : Json K).has key) = none := rfl
  have some_files : ((payload.fileRows.map (·.entry)).map (ManifestEntry.toJson (K := K))).isEmpty = false := by
    rw [List.isEmpty_eq_false_iff]
    simpa using notEmpty
  have entries := entries_verified settings urlPath (files ++ fileRowsOf id payload) id (.text payload.timestamp)
    ((payload.fileRows.map (·.entry)).map ManifestEntry.toJson) fun entry member => by
      obtain ⟨manifestEntry, inEntries, isEntry⟩ := List.mem_map.mp member
      obtain ⟨row, inRows, isRow⟩ := List.mem_map.mp inEntries
      rw [← isEntry, ← isRow]
      exact built_entry_verified settings urlPath lawful tables pageSize now payload built positive paths distinct files id others row inRows
  have types : ((payload.fileRows.map (·.entry)).map (ManifestEntry.toJson (K := K))).map (·.field "recordType") =
      payload.fileRows.map fun row => .text row.entry.recordType := by
    rw [List.map_map, List.map_map]
    rfl
  have hashables : (payload.fileRows.map fun row => (.text row.entry.recordType : Json K)).all hashable = true := by
    rw [List.all_map, List.all_eq_true]
    exact fun row _ => rfl
  have present := built_types_present settings tables pageSize now payload built
  rw [verifyReadyDumpIntegrity, readyDump, built_manifest_loads settings lawful tables pageSize now payload built]
  simp only [object, Bool.not_true, Bool.false_eq_true, if_false, listed, some_files, complete, generation, entries, types, hashables,
    present, if_true]

end Completing

-- The path of a URL, behind its host.
def pathBehindHost (url : Json Rat) : Except String String :=
  match url with
  | .text text => .ok (String.ofList ((text.toList.drop "https://".length).dropWhile fun c => c ≠ '/'))
  | _ => .error "AttributeError"

theorem dumped_verified (now : Int) (payload : FadSnapshotPayload)
    (built : buildSnapshotPayload dumpingSettings 1 now (buildRecords dumpingSettings dumpedTables) = .ok payload) (files : List FadFile)
    (id : Nat) (others : ∀ file ∈ files, file.dumpId ≠ id) :
    verifyReadyDumpIntegrity dumpingSettings pathBehindHost (files ++ fileRowsOf id payload) (readyDump id payload) = .ok none := by
  have shape := built_from dumpingSettings 1 now _ payload built
  have isStamp : dumpingSettings.utcText (Registry.wholeSecond now) = epochText := rfl
  have paths : (payload.fileRows.all fun row => decide (pathBehindHost (.text row.entry.url) = .ok row.urlPath)) = true := by
    rw [shape.rows, isStamp]
    decide +kernel
  have distinct : (payload.fileRows.map (·.urlPath)).Nodup := by
    rw [shape.rows, isStamp]
    decide +kernel
  exact built_verified dumpingSettings pathBehindHost pointed_lawful dumpedTables 1 (by decide) now payload built
    (fun row member => of_decide_eq_true (List.all_eq_true.mp paths row member)) distinct files id others

theorem dumped_attempt (now : Int) (faults : Place → Bool) (faultless : ∀ place, place ≠ .commit → faults place = false) (skipped : Nat)
    (commit : Bool) (store : FadStore) (owned : ∀ file ∈ store.files, ∃ dump ∈ store.dumps, dump.id = file.dumpId) :
    (dumped dumpingSettings pathBehindHost ⟨dumpedTables, now, 1, faults, skipped, commit⟩ store).2 =
      if faults .commit then some (.failed .commit) else none := by
  obtain ⟨payload, built⟩ := dumped_payload now
  refine attempt_ends dumpingSettings pathBehindHost ⟨dumpedTables, now, 1, faults, skipped, commit⟩ store faultless payload built
    (dumped_verified now payload built store.files _ fun file member same => ?_)
  obtain ⟨dump, isDump, owner⟩ := owned file member
  exact absurd (owner.trans same) (fresh_id_above store skipped dump isDump).ne

-- Three attempts; the second fails at its commit, and the third is committed by its caller.
def threeAttempts : List (Attempt Rat) :=
  [⟨dumpedTables, 0, 1, fun _ => false, 0, true⟩, ⟨dumpedTables, 1, 1, fun place => place = .commit, 0, true⟩,
    ⟨dumpedTables, 2, 1, fun _ => false, 1, false⟩]

theorem publication_atomic_sample :
    PublishedWhole dumpingSettings pathBehindHost (fun _ _ => false)
        (runAttempts dumpingSettings pathBehindHost FadStore.empty threeAttempts) ∧
      ((runAttempts dumpingSettings pathBehindHost FadStore.empty threeAttempts).dumps.map fun dump => (dump.id, dump.published)) =
        [(1, false), (3, true)] := by
  refine ⟨publication_atomic dumpingSettings pathBehindHost _ threeAttempts _
    (run_committed dumpingSettings pathBehindHost threeAttempts FadStore.empty), ?_⟩
  have settled := attempt_settled dumpingSettings pathBehindHost
  have keeps := attempt_keeps dumpingSettings pathBehindHost
  have before := coherent_empty dumpingSettings pathBehindHost
  obtain ⟨firstPayload, first⟩ := (settled ⟨dumpedTables, 0, 1, fun _ => false, 0, true⟩ FadStore.empty).1
    (dumped_attempt 0 (fun _ => false) (fun _ _ => rfl) 0 true FadStore.empty before.owned)
  have published := (keeps ⟨dumpedTables, 0, 1, fun _ => false, 0, true⟩ FadStore.empty before).1
  have failing := dumped_attempt 1 (fun place => place = .commit) (fun place other => decide_eq_false other) 0 true _ published.owned
  have second := (settled ⟨dumpedTables, 1, 1, fun place => place = .commit, 0, true⟩ _).2 (by rw [failing]; simp)
  obtain ⟨thirdPayload, third⟩ := (settled ⟨dumpedTables, 2, 1, fun _ => false, 1, false⟩ _).1
    (dumped_attempt 2 (fun _ => false) (fun _ _ => rfl) 1 false _ published.owned)
  rw [threeAttempts, runAttempts, runAttempts, runAttempts, runAttempts, second, third, first]
  rfl

end SasCore.Fad
