import SasCore.Fad.Records

set_option autoImplicit false

namespace SasCore.Fad

open JsonText

variable {K : Type}

def manifestMaxFiles : Nat := 101

-- Pages of at most `pageSize` records, which is positive. No records make one empty page.
def pagesOf (pageSize : Nat) : Nat → List (Json K) → List (List (Json K))
  | 0, _ => []
  | _ + 1, [] => []
  | fuel + 1, record :: rest =>
      (record :: rest).take pageSize :: pagesOf pageSize fuel ((record :: rest).drop pageSize)

def chunkRecords (records : List (Json K)) (pageSize : Nat) : List (List (Json K)) :=
  match records with
  | [] => [[]]
  | _ => pagesOf pageSize records.length records

structure ManifestEntry where
  url : String
  checksum : String
  size : Nat
  version : String
  recordType : String
deriving DecidableEq, Repr

def ManifestEntry.toJson (entry : ManifestEntry) : Json K :=
  .object [("url", .text entry.url), ("checksum", .text entry.checksum), ("size", .int entry.size),
    ("version", .text entry.version), ("recordType", .text entry.recordType)]

def envelopeOf (timestamp : String) (recordData : List (Json K)) : Json K :=
  .object [("startTime", .text timestamp), ("endTime", .text timestamp), ("recordData", .array recordData)]

structure FileRow where
  recordType : String
  urlPath : String
  content : String
  entry : ManifestEntry
deriving DecidableEq, Repr

structure FadSnapshotPayload where
  timestamp : String
  description : String
  manifestJson : String
  fileRows : List FileRow
deriving DecidableEq, Repr

-- int(size or -1), `none` where it raises.
def sizeValue [Field K] [DecidableEq K] (readers : PyReaders K) (size : Json K) : Option Int :=
  (if size.truthy then size else .int (-1)).toInt readers

-- The text of the RuntimeError, `none` where the entry passes.
def assertEntryMatchesContent [Field K] [DecidableEq K] (settings : FadSettings K) (checksum size : Json K) (content : String) :
    Except String (Option String) :=
  if !checksum.isText (settings.sha1Hex content.toUTF8) then .ok (some "FAD checksum mismatch against file body")
  else
    match sizeValue settings.readers size with
    | none => .error "ValueError"
    | some value =>
        if value ≠ content.toUTF8.size then .ok (some "FAD size mismatch against file body") else .ok none

section Build

variable [Field K] [DecidableEq K] (settings : FadSettings K)

def dumpFileName (recordType : String) (pageIndex : Nat) : String :=
  "activity_dump_file_" ++ recordType ++ toString pageIndex ++ ".json"

def makeDumpFile (recordType filename : String) (recordData : List (Json K)) (timestamp : String) : FileRow :=
  let content := dumps settings.floats (envelopeOf timestamp recordData)
  let urlPath := "/" ++ settings.sasSasVersion ++ "/" ++ recordType ++ "/" ++ filename
  { recordType := recordType
    urlPath := urlPath
    content := content
    entry :=
      { url := settings.fadPublicBase ++ urlPath
        checksum := settings.sha1Hex content.toUTF8
        size := content.toUTF8.size
        version := settings.sasSasVersion
        recordType := recordType } }

-- The file of one page, checked against its own body.
def pageFile (recordType timestamp : String) (page : List (Json K) × Nat) : Except String FileRow :=
  let file := makeDumpFile settings recordType (dumpFileName recordType page.2) page.1 timestamp
  match assertEntryMatchesContent settings (.text file.entry.checksum) (.int file.entry.size) file.content with
  | .error error => .error error
  | .ok (some message) => .error message
  | .ok none => .ok file

def typeFiles (records : List (Json K)) (pageSize : Nat) (recordType timestamp : String) : Except String (List FileRow) :=
  (chunkRecords records pageSize).zipIdx.mapM (pageFile settings recordType timestamp)

-- The body of a file reads back with the timestamp of the dump.
def timesAgree (timestamp : String) (content : String) : Except String Bool :=
  match loads settings.floats content with
  | none => .error "JSONDecodeError"
  | some body =>
      if !body.isObject then .error "AttributeError"
      else .ok ((body.field "startTime").isText timestamp && (body.field "endTime").isText timestamp)

def checkTimes (timestamp : String) : List FileRow → Except String Unit
  | [] => .ok ()
  | file :: rest =>
      match timesAgree settings timestamp file.content with
      | .error error => .error error
      | .ok false => .error "FAD snapshot timestamp inconsistency"
      | .ok true => checkTimes timestamp rest

def manifestOf (timestamp description : String) (entries : List ManifestEntry) : Json K :=
  .object [("files", .array (entries.map ManifestEntry.toJson)), ("generationDateTime", .text timestamp),
    ("description", .text description)]

def dumpDescription : String := "Full activity dump files"

def filesOf (pageSize : Nat) (timestamp : String) (built : String → Except String (List (Json K))) :
    List String → Except String (List FileRow)
  | [] => .ok []
  | recordType :: rest =>
      match built recordType with
      | .error error => .error error
      | .ok records =>
          match typeFiles settings records pageSize recordType timestamp with
          | .error error => .error error
          | .ok files => (filesOf pageSize timestamp built rest).map fun others => files ++ others

-- The dump of what the builders return, at one reading of the clock.
def buildSnapshotPayload (pageSize : Nat) (now : Int) (built : String → Except String (List (Json K))) :
    Except String FadSnapshotPayload :=
  let timestamp := settings.utcText (Registry.wholeSecond now)
  match filesOf settings pageSize timestamp built recordTypes with
  | .error error => .error error
  | .ok files =>
      if manifestMaxFiles < files.length then
        .error ("FAD would emit " ++ toString files.length ++ " files (max " ++ toString manifestMaxFiles ++
          "); increase SAS_FAD_MAX_RECORDS_PER_FILE")
      else
        match checkTimes settings timestamp files with
        | .error error => .error error
        | .ok () =>
            .ok
              { timestamp := timestamp
                description := dumpDescription
                manifestJson := dumps settings.floats (manifestOf timestamp dumpDescription (files.map (·.entry)))
                fileRows := files }

end Build

end SasCore.Fad
