import SasCore.Fad.Builder
import SasCore.Lib.Txn

set_option autoImplicit false

namespace SasCore.Fad

open JsonText Txn Txn.Prog

variable {K : Type}

structure FadDump where
  id : Nat
  generationDatetime : String
  description : String
  manifestJson : String
  ready : Bool
  published : Bool
deriving DecidableEq, Repr

structure FadFile where
  dumpId : Nat
  recordType : String
  urlPath : String
  checksum : String
  size : Nat
  contentJson : String
deriving DecidableEq, Repr

structure FadStore where
  dumps : List FadDump
  files : List FadFile
deriving DecidableEq, Repr

namespace FadStore

def empty : FadStore := ⟨[], []⟩

-- Ids grow; the ones that other sessions drew and rolled back are skipped.
def freshId (store : FadStore) (skipped : Nat) : Nat :=
  (store.dumps.foldl (fun largest dump => max largest dump.id) 0) + 1 + skipped

def addDump (dump : FadDump) (store : FadStore) : FadStore := { store with dumps := store.dumps ++ [dump] }

def addFile (dumpId : Nat) (row : FileRow) (store : FadStore) : FadStore :=
  { store with
    files := store.files ++
      [⟨dumpId, row.recordType, row.urlPath, row.entry.checksum, row.entry.size, row.content⟩] }

def unpublishAll (store : FadStore) : FadStore :=
  { store with dumps := store.dumps.map fun dump => if dump.published then { dump with published := false } else dump }

def publish (id : Nat) (store : FadStore) : FadStore :=
  { store with dumps := store.dumps.map fun dump => if dump.id = id then { dump with published := true } else dump }

end FadStore

section Readers

def laterDump (best : Option FadDump) (dump : FadDump) : Option FadDump :=
  match best with
  | none => some dump
  | some held => if held.id < dump.id then some dump else some held

def getPublishedDump (store : FadStore) : Option FadDump := (store.dumps.filter (·.published)).foldl laterDump none

-- The lookup among the files of one dump; `endsLike` is the LIKE of the database with a leading wildcard.
def fileOfDump (endsLike : String → String → Bool) (files : List FadFile) (dumpId : Nat) (urlPath : String) : Option FadFile :=
  let raw := String.ofList (PyText.strip urlPath.toList)
  let parts := splitSlash raw
  if raw = "" ∨ backslash ∈ raw.toList ∨ ".." ∈ parts then none
  else
    let normalized := if raw.toList.head? = some '/' then raw else "/" ++ raw
    match files.find? fun file => file.dumpId = dumpId ∧ file.urlPath = normalized with
    | some file => some file
    | none =>
        match parts.filter fun segment => segment ≠ "" with
        | [filename] =>
            if filename = "." then none
            else
              match files.filter fun file => file.dumpId = dumpId ∧ endsLike file.urlPath ("/" ++ filename) = true with
              | [file] => some file
              | _ => none
        | _ => none

def getDumpFileByPath (endsLike : String → String → Bool) (store : FadStore) (urlPath : String) : Option FadFile :=
  (getPublishedDump store).bind fun dump => fileOfDump endsLike store.files dump.id urlPath

end Readers

structure IntegrityReport where
  reason : String
  path : Option String
deriving DecidableEq, Repr

section Integrity

variable [Field K] [DecidableEq K] (settings : FadSettings K) (urlPath : Json K → Except String String)

-- The first required name that is not in the entry.
def missingName (entry : Json K) : List String → Except String (Option String)
  | [] => .ok none
  | name :: rest =>
      match contained entry name with
      | none => .error "TypeError"
      | some false => .ok (some name)
      | some true => missingName entry rest

def rooted (path : String) : String := if path.toList.head? = some '/' then path else "/" ++ path

-- The file of an entry, its body against checksum and size, and its times. `none` is a file that passes.
def verifyFile (file : FadFile) (entry generation : Json K) (path : String) : Except String (Option IntegrityReport) :=
  match assertEntryMatchesContent settings (entry.field "checksum") (entry.field "size") file.contentJson with
  | .error error => .error error
  | .ok (some message) => .ok (some ⟨message, some path⟩)
  | .ok none =>
      match loads settings.floats file.contentJson with
      | none => .error "JSONDecodeError"
      | some body =>
          if !body.isObject then .error "AttributeError"
          else if (body.field "startTime").equal generation && (body.field "endTime").equal generation then .ok none
          else .ok (some ⟨"timestamp_mismatch", some path⟩)

def verifyEntry (files : List FadFile) (dumpId : Nat) (generation entry : Json K) : Except String (Option IntegrityReport) :=
  match missingName entry ["url", "checksum", "size", "version", "recordType"] with
  | .error error => .error error
  | .ok (some name) => .ok (some ⟨"missing_entry_" ++ name, none⟩)
  | .ok none =>
      if !entry.isObject then .error "TypeError"
      else
        match urlPath (entry.field "url") with
        | .error error => .error error
        | .ok given =>
            let path := rooted given
            match files.find? fun file => file.dumpId = dumpId ∧ file.urlPath = path with
            | none => .ok (some ⟨"file_row_missing", some path⟩)
            | some file => verifyFile settings file entry generation path

def verifyEntries (files : List FadFile) (dumpId : Nat) (generation : Json K) :
    List (Json K) → Except String (Option IntegrityReport)
  | [] => .ok none
  | entry :: rest =>
      match verifyEntry settings urlPath files dumpId generation entry with
      | .ok none => verifyEntries files dumpId generation rest
      | other => other

def hashable : Json K → Bool
  | .array _ => false
  | .object _ => false
  | _ => true

-- verify_ready_dump_integrity of one dump: `none` for a report that is ok, an error for an exception.
def verifyReadyDumpIntegrity (files : List FadFile) (dump : FadDump) : Except String (Option IntegrityReport) :=
  match loads settings.floats (if dump.manifestJson = "" then "{}" else dump.manifestJson) with
  | none => .ok (some ⟨"bad_manifest_json", none⟩)
  | some manifest =>
      if !manifest.isObject then .error "AttributeError"
      else
        let entries := (manifest.field "files").items
        if entries.isEmpty then .ok (some ⟨"missing_files", none⟩)
        else
          match ["generationDateTime", "description"].find? fun key => !manifest.has key with
          | some key => .ok (some ⟨"missing_" ++ key, none⟩)
          | none =>
              match verifyEntries settings urlPath files dump.id (manifest.field "generationDateTime") entries with
              | .ok none =>
                  let types := entries.map (·.field "recordType")
                  if !types.all hashable then .error "TypeError"
                  else if recordTypes.all fun recordType => types.any (·.isText recordType) then .ok none
                  else .ok (some ⟨"missing_record_types", none⟩)
              | other => other

end Integrity

-- The places where a publication can fail: the lock, a flush, a write of a file row, the update of the old dump,
-- what a caller does after the flush, and the commit.
inductive Place where
  | lock | dumpFlush | fileWrite (index : Nat) | fileFlush | update | flush | caller | commit
deriving DecidableEq, Repr

inductive FadError where
  | build (message : String)
  | failed (place : Place)
  | integrity (report : IntegrityReport)
  | raised (message : String)
deriving DecidableEq, Repr

section Publish

variable [Field K] [DecidableEq K] (settings : FadSettings K) (urlPath : Json K → Except String String)
variable (faults : Place → Bool)

def orFail (place : Place) (next : Prog FadStore FadError) : Prog FadStore FadError :=
  if faults place then .raise (.failed place) else next

def writeFiles (dumpId : Nat) : Nat → List FileRow → Prog FadStore FadError → Prog FadStore FadError
  | _, [], next => next
  | index, row :: rest, next =>
      .write (FadStore.addFile dumpId row) (orFail faults (.fileWrite index) (writeFiles dumpId (index + 1) rest next))

def readyDump (id : Nat) (payload : FadSnapshotPayload) : FadDump :=
  ⟨id, payload.timestamp, payload.description, payload.manifestJson, true, false⟩

-- The try body of _publish_snapshot, up to the commit or the flush that ends it.
def publishBody (payload : FadSnapshotPayload) (skipped : Nat) (ending : Prog FadStore FadError) : Prog FadStore FadError :=
  .lock (orFail faults .lock (.read fun found =>
    let id := found.freshId skipped
    .write (FadStore.addDump (readyDump id payload)) (orFail faults .dumpFlush
      (writeFiles faults id 0 payload.fileRows (orFail faults .fileFlush (.read fun written =>
        match verifyReadyDumpIntegrity settings urlPath written.files (readyDump id payload) with
        | .error message => .raise (.raised message)
        | .ok (some report) => .raise (.integrity report)
        | .ok none =>
            .write FadStore.unpublishAll (orFail faults .update (.write (FadStore.publish id) ending))))))))

-- With a commit of its own, or flushed only for a caller that commits while it holds the lock. Either way an
-- exception ends in a rollback, of the function or of its caller. The refresh after the commit reads only.
def publishSnapshot (payload : FadSnapshotPayload) (skipped : Nat) (commit : Bool) : Prog FadStore FadError :=
  let committed := orFail faults .commit (.commit .done)
  let ending := if commit then committed else orFail faults .flush (orFail faults .caller committed)
  (publishBody settings urlPath faults payload skipped ending).guarded fun error => .rollback (.raise error)

end Publish

-- One call of create_full_activity_dump: the tables and the clock it finds, where it fails, the ids it skips,
-- and who commits.
structure Attempt (K : Type) where
  tables : FadTables K
  now : Int
  pageSize : Nat
  faults : Place → Bool
  skipped : Nat
  commit : Bool

section Attempts

variable [Field K] [DecidableEq K] (settings : FadSettings K) (urlPath : Json K → Except String String)

def createFullActivityDump (attempt : Attempt K) : Prog FadStore FadError :=
  match buildSnapshotPayload settings attempt.pageSize attempt.now (buildRecords settings attempt.tables) with
  | .error message => .raise (.build message)
  | .ok payload => publishSnapshot settings urlPath attempt.faults payload attempt.skipped attempt.commit

def dumped (attempt : Attempt K) (store : FadStore) : Session FadStore × Option FadError :=
  exec (createFullActivityDump settings urlPath attempt) (Session.start store)

-- The committed state after some attempts. The lock lets one session publish at a time, so each begins where
-- the one before it ended.
def runAttempts (store : FadStore) : List (Attempt K) → FadStore
  | [] => store
  | attempt :: rest => runAttempts (dumped settings urlPath attempt store).1.committed rest

-- Every state that is committed on the way.
def committedStates (store : FadStore) : List (Attempt K) → List FadStore
  | [] => [store]
  | attempt :: rest =>
      published (createFullActivityDump settings urlPath attempt) (Session.start store) ++
        committedStates (dumped settings urlPath attempt store).1.committed rest

end Attempts

end SasCore.Fad
