import SasCore.Fad.Builder

set_option autoImplicit false

namespace SasCore.Fad

open JsonText

variable {K : Type} [Field K] [DecidableEq K]

-- What a fetch takes from outside: the settings, the readers of the standard library with repr of a text, the
-- URL checks with their name resolution, and the HTTP client.
structure FadClient (K : Type) where
  sasSasVersion : String
  sasFadMaxFileBytes : Int
  readers : PyReaders K
  sha1Hex : ByteArray → String
  repr : String → String
  parseHttpsUrl : String → Except String Unit
  assertUrlAllowedForPeer : String → String → Except String Unit
  httpGetBytes : String → Except String ByteArray

structure FadFilePayload (K : Type) where
  recordType : String
  url : String
  checksum : String
  size : Int
  version : String
  content : ByteArray
  envelope : Json K

abbrev FadRecord (K : Type) := String × String × Json K

structure FadGenerationSnapshot (K : Type) where
  peerSasId : Nat
  generationDatetime : String
  description : String
  files : List (FadFilePayload K)
  records : List (FadRecord K)

structure NormalizedEntry where
  url : String
  checksum : String
  size : Int
  version : String
  recordType : String
deriving DecidableEq, Repr

section Validation

variable (client : FadClient K)

def expectedSasVersion : String := String.ofList (PyText.strip client.sasSasVersion.toList)

def isHexDigit (c : Char) : Bool := "0123456789abcdef".toList.contains c

def validateEntry (entry : Json K) : Except String NormalizedEntry :=
  if !entry.isObject then .error "FAD manifest file entry must be an object"
  else
    match ["url", "checksum", "size", "version", "recordType"].find? fun name => !entry.has name with
    | some name => .error ("FAD file entry missing " ++ name)
    | none =>
        let recordType := (entry.field "recordType").toText client.readers
        let version := (entry.field "version").toText client.readers
        if recordType ∉ recordTypes then .error ("FAD unsupported recordType=" ++ client.repr recordType)
        else if version ≠ expectedSasVersion client then
          .error ("FAD version mismatch: got " ++ client.repr version ++ " expected " ++ client.repr (expectedSasVersion client))
        else
          match (entry.field "size").toInt client.readers with
          | none => .error "FAD file size must be an integer"
          | some size =>
              if size < 0 then .error "FAD file size must be non-negative"
              else if 0 < client.sasFadMaxFileBytes ∧ client.sasFadMaxFileBytes < size then
                .error ("FAD file size " ++ toString size ++ " exceeds sas_fad_max_file_bytes=" ++
                  toString client.sasFadMaxFileBytes)
              else
                -- No character outside ASCII has a hexadecimal digit as its lower case.
                let checksum := ((entry.field "checksum").toText client.readers).toList.map Char.toLower
                if checksum.length ≠ 40 ∨ ¬ checksum.all isHexDigit = true then
                  .error "FAD checksum must be 40-char lowercase hex SHA-1"
                else .ok ⟨(entry.field "url").toText client.readers, String.ofList checksum, size, version, recordType⟩

def validateManifest (manifest : Json K) : Except String (String × String × List NormalizedEntry) :=
  if !manifest.isObject then .error "FAD manifest must be a JSON object"
  else
    match ["files", "generationDateTime", "description"].find? fun key => !manifest.has key with
    | some key => .error ("FAD manifest missing " ++ key)
    | none =>
        let files := (manifest.field "files").items
        if files.isEmpty then .error "FAD manifest files must be a non-empty list"
        else if 101 < files.length then .error "FAD manifest exceeds max files (101)"
        else
          (files.mapM (validateEntry client)).map fun normalized =>
            ((manifest.field "generationDateTime").toText client.readers,
              (manifest.field "description").toText client.readers, normalized)

def checkRecords : List (Json K) → Except String Unit
  | [] => .ok ()
  | record :: rest =>
      if !record.isObject then .error "FAD record must be an object"
      else if (record.field "id").strippedText client.readers = [] then .error "FAD record missing id"
      else checkRecords rest

def validateActivityEnvelope (envelope : Json K) (generationDatetime : String) : Except String (List (Json K)) :=
  if !envelope.isObject then .error "FAD activity file must be a JSON object"
  else
    match ["startTime", "endTime", "recordData"].find? fun key => !envelope.has key with
    | some key => .error ("FAD activity file missing " ++ key)
    | none =>
        if !(envelope.field "startTime").isText generationDatetime || !(envelope.field "endTime").isText generationDatetime then
          .error "FAD activity file timestamp does not match generationDateTime"
        else
          match envelope.field "recordData" with
          | .array records => (checkRecords client records).map fun _ => records
          | _ => .error "FAD recordData must be a list"

end Validation

section Fetch

variable (client : FadClient K)

-- peer_dump_url; the base is stripped already.
def peerDumpUrl (base : String) : Except String String :=
  let trimmed := String.ofList ((base.toList.reverse.dropWhile fun c => c = '/').reverse)
  (client.parseHttpsUrl trimmed).map fun _ => trimmed ++ "/dump"

def fetchFile (base generation : String) (entry : NormalizedEntry) :
    Except String (FadFilePayload K × List (FadRecord K)) :=
  match client.assertUrlAllowedForPeer entry.url base with
  | .error error => .error error
  | .ok () =>
      match client.httpGetBytes entry.url with
      | .error error => .error error
      | .ok content =>
          let digest := client.sha1Hex content
          if 0 < client.sasFadMaxFileBytes ∧ client.sasFadMaxFileBytes < content.size then
            .error ("FAD file body " ++ toString content.size ++ " exceeds sas_fad_max_file_bytes=" ++
              toString client.sasFadMaxFileBytes)
          else if digest ≠ entry.checksum then
            .error ("FAD checksum mismatch for " ++ entry.url ++ ": got " ++ digest ++ " expected " ++ entry.checksum)
          else if (content.size : Int) ≠ entry.size then
            .error ("FAD size mismatch for " ++ entry.url ++ ": got " ++ toString content.size ++ " expected " ++
              toString entry.size)
          else
            match (String.fromUTF8? content).bind client.readers.loads with
            | none => .error ("FAD activity file not JSON: " ++ entry.url)
            | some envelope =>
                (validateActivityEnvelope client envelope generation).map fun records =>
                  (⟨entry.recordType, entry.url, entry.checksum, entry.size, entry.version, content, envelope⟩,
                    records.map fun record => (entry.recordType, (record.field "id").toText client.readers, record))

def firstDuplicate : List (String × String) → List (FadRecord K) → Option (String × String)
  | _, [] => none
  | seen, record :: rest =>
      if (record.1, record.2.1) ∈ seen then some (record.1, record.2.1)
      else firstDuplicate ((record.1, record.2.1) :: seen) rest

def fetchPeerGeneration (peerId : Nat) (peerUrl : String) : Except String (FadGenerationSnapshot K) :=
  let base := String.ofList (PyText.strip peerUrl.toList)
  if base = "" then .error "peer URL empty"
  else
    match peerDumpUrl client base with
    | .error error => .error error
    | .ok dumpUrl =>
        match client.assertUrlAllowedForPeer dumpUrl base with
        | .error error => .error error
        | .ok () =>
            match client.httpGetBytes dumpUrl with
            | .error error => .error error
            | .ok raw =>
                match (String.fromUTF8? raw).bind client.readers.loads with
                | none => .error "FAD manifest is not valid UTF-8 JSON"
                | some manifesto =>
                    match validateManifest client manifesto with
                    | .error error => .error error
                    | .ok (generation, description, entries) =>
                        match entries.mapM (fetchFile client base generation) with
                        | .error error => .error error
                        | .ok fetched =>
                            let records := fetched.flatMap (·.2)
                            match firstDuplicate [] records with
                            | some key =>
                                .error ("FAD duplicate record id in generation: " ++ key.1 ++ "/" ++ key.2)
                            | none => .ok ⟨peerId, generation, description, fetched.map (·.1), records⟩

end Fetch

end SasCore.Fad
