import SasCore.Fad.Client
import SasCore.Fad.RecordShape
import Mathlib.Algebra.Field.Rat

set_option autoImplicit false
set_option linter.unusedSectionVars false

namespace SasCore.Fad

open Registry JsonText

variable {K : Type}

section Pages

theorem pages_flatten (pageSize : Nat) (positive : 0 < pageSize) (fuel : Nat) (records : List (Json K))
    (enough : records.length ≤ fuel) : (pagesOf pageSize fuel records).flatten = records := by
  induction fuel generalizing records with
  | zero =>
      have none : records = [] := List.length_eq_zero_iff.mp (by omega)
      rw [none]
      rfl
  | succ fuel ih =>
      cases records with
      | nil => rfl
      | cons record rest =>
          have shorter : ((record :: rest).drop pageSize).length ≤ fuel := by
            rw [List.length_drop, List.length_cons] at *
            omega
          rw [pagesOf, List.flatten_cons, ih _ shorter, List.take_append_drop]

-- However they are paginated, the pages hold the records in their order, and there is at least one page.
theorem chunks_flatten (records : List (Json K)) (pageSize : Nat) (positive : 0 < pageSize) :
    (chunkRecords records pageSize).flatten = records := by
  cases records with
  | nil => rfl
  | cons record rest => exact pages_flatten pageSize positive _ (record :: rest) (Nat.le_refl _)

theorem chunks_some (records : List (Json K)) (pageSize : Nat) : chunkRecords records pageSize ≠ [] := by
  cases records with
  | nil => exact List.cons_ne_nil _ _
  | cons record rest => exact List.cons_ne_nil _ _

theorem page_records (records : List (Json K)) (pageSize : Nat) (positive : 0 < pageSize) (page : List (Json K))
    (member : page ∈ chunkRecords records pageSize) : ∀ record ∈ page, record ∈ records := by
  intro record inPage
  rw [← chunks_flatten records pageSize positive]
  exact List.mem_flatten.mpr ⟨page, member, inPage⟩

end Pages

section Built

variable [Field K] [DecidableEq K] (settings : FadSettings K)

def typeRows (records : List (Json K)) (pageSize : Nat) (recordType timestamp : String) : List FileRow :=
  (chunkRecords records pageSize).zipIdx.map fun page =>
    makeDumpFile settings recordType (dumpFileName recordType page.2) page.1 timestamp

theorem page_file_eq (recordType timestamp : String) (page : List (Json K) × Nat) (file : FileRow)
    (made : pageFile settings recordType timestamp page = .ok file) :
    file = makeDumpFile settings recordType (dumpFileName recordType page.2) page.1 timestamp := by
  rw [pageFile] at made
  split at made
  · cases made
  · cases made
  · cases made
    rfl

theorem type_files_eq (records : List (Json K)) (pageSize : Nat) (recordType timestamp : String) (files : List FileRow)
    (made : typeFiles settings records pageSize recordType timestamp = .ok files) :
    files = typeRows settings records pageSize recordType timestamp := by
  have each := Collect.all_ok _ _ files made
  rw [typeRows]
  generalize (chunkRecords records pageSize).zipIdx = pages at each
  clear made
  induction pages generalizing files with
  | nil =>
      rw [List.map_nil, eq_comm, List.map_eq_nil_iff] at each
      exact each
  | cons page rest ih =>
      cases files with
      | nil => cases each
      | cons file others =>
          rw [List.map_cons, List.map_cons, List.cons.injEq] at each
          rw [List.map_cons, page_file_eq settings recordType timestamp page file each.1, ih others each.2]

theorem files_of_eq (pageSize : Nat) (timestamp : String) (built : String → Except String (List (Json K)))
    (types : List String) (files : List FileRow) (made : filesOf settings pageSize timestamp built types = .ok files) :
    (∀ recordType ∈ types, ∃ records, built recordType = .ok records) ∧
      files = types.flatMap fun recordType =>
        typeRows settings ((built recordType).toOption.getD []) pageSize recordType timestamp := by
  induction types generalizing files with
  | nil =>
      cases made
      exact ⟨(fun recordType member => by cases member), rfl⟩
  | cons recordType rest ih =>
      rw [filesOf] at made
      split at made
      · cases made
      · rename_i records isBuilt
        split at made
        · cases made
        · rename_i here isHere
          cases others : filesOf settings pageSize timestamp built rest with
          | error error =>
              rw [others] at made
              cases made
          | ok later =>
              rw [others] at made
              cases made
              obtain ⟨each, same⟩ := ih later others
              refine ⟨fun other member => ?_, ?_⟩
              · rcases List.mem_cons.mp member with isHead | inRest
                · exact ⟨records, isHead ▸ isBuilt⟩
                · exact each other inRest
              · rw [List.flatMap_cons, ← same, isBuilt, type_files_eq settings records pageSize recordType timestamp here isHere]
                rfl

-- What the builder of the dump returned.
structure BuiltFrom (pageSize : Nat) (stamp : String) (built : String → Except String (List (Json K)))
    (payload : FadSnapshotPayload) : Prop where
  each : ∀ recordType ∈ recordTypes, ∃ records, built recordType = .ok records
  rows : payload.fileRows = recordTypes.flatMap fun recordType =>
    typeRows settings ((built recordType).toOption.getD []) pageSize recordType stamp
  few : payload.fileRows.length ≤ manifestMaxFiles
  timestamp : payload.timestamp = stamp
  description : payload.description = dumpDescription
  manifest : payload.manifestJson = dumps settings.floats (manifestOf stamp dumpDescription (payload.fileRows.map (·.entry)))

theorem built_from (pageSize : Nat) (now : Int) (built : String → Except String (List (Json K))) (payload : FadSnapshotPayload)
    (made : buildSnapshotPayload settings pageSize now built = .ok payload) :
    BuiltFrom settings pageSize (settings.utcText (Registry.wholeSecond now)) built payload := by
  rw [buildSnapshotPayload] at made
  split at made
  · cases made
  · rename_i files isFiles
    split at made
    · cases made
    · rename_i few
      split at made
      · cases made
      · cases made
        obtain ⟨each, rows⟩ := files_of_eq settings pageSize _ built recordTypes files isFiles
        exact ⟨each, rows, Nat.le_of_not_lt few, rfl, rfl, rfl⟩

end Built

section Bytes

theorem decode_encode (text : String) : String.fromUTF8? text.toUTF8 = some text := by
  rw [String.fromUTF8?, String.toUTF8_eq_toByteArray, dif_pos text.isValidUTF8]
  rfl

end Bytes

section Served

variable [Field K] [DecidableEq K] (settings : FadSettings K) (client : FadClient K)

-- hexdigest writes 40 hexadecimal digits in lower case.
def HexDigest (sha1Hex : ByteArray → String) : Prop :=
  ∀ content, (sha1Hex content).toList.length = 40 ∧ (sha1Hex content).toList.all isHexDigit = true

-- The client of a peer with the same standard library and the same version, whose cap no file exceeds.
structure SameSide (payload : FadSnapshotPayload) : Prop where
  readers : client.readers = settings.readers
  digest : client.sha1Hex = settings.sha1Hex
  version : expectedSasVersion client = settings.sasSasVersion
  capped : 0 < client.sasFadMaxFileBytes → ∀ row ∈ payload.fileRows, (row.entry.size : Int) ≤ client.sasFadMaxFileBytes

-- The manifest at the dump URL and every file at its own, all of them URLs of the peer.
structure Serves (peerUrl dumpUrl : String) (payload : FadSnapshotPayload) : Prop where
  base : String.ofList (PyText.strip peerUrl.toList) ≠ ""
  dump : peerDumpUrl client (String.ofList (PyText.strip peerUrl.toList)) = .ok dumpUrl
  dumpAllowed : client.assertUrlAllowedForPeer dumpUrl (String.ofList (PyText.strip peerUrl.toList)) = .ok ()
  manifest : client.httpGetBytes dumpUrl = .ok payload.manifestJson.toUTF8
  fileAllowed : ∀ row ∈ payload.fileRows,
    client.assertUrlAllowedForPeer row.entry.url (String.ofList (PyText.strip peerUrl.toList)) = .ok ()
  file : ∀ row ∈ payload.fileRows, client.httpGetBytes row.entry.url = .ok row.content.toUTF8

def normalizedOf (entry : ManifestEntry) : NormalizedEntry :=
  ⟨entry.url, entry.checksum, entry.size, entry.version, entry.recordType⟩

theorem settings_loads : settings.readers.loads = loads settings.floats := rfl

theorem lower_hex (digits : List Char) (hex : digits.all isHexDigit = true) : digits.map Char.toLower = digits := by
  have each : "0123456789abcdef".toList.all (fun c => c.toLower == c) = true := by decide
  have same : ∀ c ∈ digits, c.toLower = id c := fun c member =>
    beq_iff_eq.mp (List.all_eq_true.mp each c (List.contains_iff_mem.mp (List.all_eq_true.mp hex c member)))
  rw [List.map_congr_left same, List.map_id]

theorem entry_validated (entry : ManifestEntry) (known : entry.recordType ∈ recordTypes)
    (version : entry.version = expectedSasVersion client)
    (capped : 0 < client.sasFadMaxFileBytes → (entry.size : Int) ≤ client.sasFadMaxFileBytes)
    (length : entry.checksum.toList.length = 40) (hex : entry.checksum.toList.all isHexDigit = true) :
    validateEntry client entry.toJson = .ok (normalizedOf entry) := by
  have fits : ¬ (0 < client.sasFadMaxFileBytes ∧ client.sasFadMaxFileBytes < (entry.size : Int)) := by
    intro exceeds
    have bound := capped exceeds.1
    omega
  have whole : ¬ (entry.checksum.toList.length ≠ 40 ∨ ¬ entry.checksum.toList.all isHexDigit = true) := by
    rw [not_or, not_not, not_not]
    exact ⟨length, hex⟩
  have lowered := lower_hex entry.checksum.toList hex
  have type : (entry.toJson.field "recordType" : Json K).toText client.readers = entry.recordType := rfl
  have isVersion : (entry.toJson.field "version" : Json K).toText client.readers = entry.version := rfl
  have checksum : (entry.toJson.field "checksum" : Json K).toText client.readers = entry.checksum := rfl
  have size : (entry.toJson.field "size" : Json K).toInt client.readers = some (entry.size : Int) := rfl
  have url : (entry.toJson.field "url" : Json K).toText client.readers = entry.url := rfl
  have object : (entry.toJson : Json K).isObject = true := rfl
  have complete : (["url", "checksum", "size", "version", "recordType"].find? fun name =>
      !(entry.toJson : Json K).has name) = none := rfl
  rw [validateEntry, object, complete]
  simp only [Bool.not_true, Bool.false_eq_true, if_false, type, isVersion, checksum, size, url, not_true, known, version,
    ne_eq, lowered, fits, whole]
  have natural : ¬ (entry.size : Int) < 0 := by omega
  rw [if_neg natural, String.ofList_toList, normalizedOf, version]

theorem manifest_validated (timestamp description : String) (entries : List ManifestEntry) (some : entries ≠ [])
    (few : entries.length ≤ 101)
    (each : ∀ entry ∈ entries, validateEntry client entry.toJson = .ok (normalizedOf entry)) :
    validateManifest client (manifestOf timestamp description entries) =
      .ok (timestamp, description, entries.map normalizedOf) := by
  have object : (manifestOf timestamp description entries : Json K).isObject = true := rfl
  have complete : (["files", "generationDateTime", "description"].find? fun key =>
      !(manifestOf timestamp description entries : Json K).has key) = none := rfl
  have files : ((manifestOf timestamp description entries : Json K).field "files").items = entries.map ManifestEntry.toJson := rfl
  have notEmpty : ¬ (entries.map (ManifestEntry.toJson (K := K))).isEmpty = true := by
    rw [List.isEmpty_iff, List.map_eq_nil_iff]
    exact some
  have notMany : ¬ 101 < (entries.map (ManifestEntry.toJson (K := K))).length := by
    rw [List.length_map]
    omega
  have all : (entries.map ManifestEntry.toJson).mapM (validateEntry client) = .ok (entries.map normalizedOf) := by
    rw [List.mapM_map]
    exact Collect.each_ok _ normalizedOf entries each
  rw [validateManifest, object, complete]
  simp only [Bool.not_true, Bool.false_eq_true, if_false, files, if_neg notEmpty, if_neg notMany, all]
  rfl

theorem records_checked (readers : client.readers = settings.readers) (records : List (Json K))
    (fine : ∀ record ∈ records, RecordFine settings record) : checkRecords client records = .ok () := by
  induction records with
  | nil => rfl
  | cons record rest ih =>
      have here := fine record List.mem_cons_self
      obtain ⟨written, isText, solid⟩ := here.named
      have notBlank : ¬ (record.field "id").strippedText client.readers = [] := by
        rw [isText, readers]
        exact solid
      have later := ih fun other member => fine other (List.mem_cons_of_mem record member)
      simp only [checkRecords, here.isObject, Bool.not_true, Bool.false_eq_true, if_false, if_neg notBlank, later]

theorem envelope_validated (readers : client.readers = settings.readers) (timestamp : String) (records : List (Json K))
    (fine : ∀ record ∈ records, RecordFine settings record) :
    validateActivityEnvelope client (envelopeOf timestamp records) timestamp = .ok records := by
  have object : (envelopeOf timestamp records).isObject = true := rfl
  have complete : (["startTime", "endTime", "recordData"].find? fun key => !(envelopeOf timestamp records).has key) = none := rfl
  have starts : ((envelopeOf timestamp records).field "startTime").isText timestamp = true := beq_self_eq_true timestamp
  have ends : ((envelopeOf timestamp records).field "endTime").isText timestamp = true := beq_self_eq_true timestamp
  have data : (envelopeOf timestamp records).field "recordData" = .array records := rfl
  rw [validateActivityEnvelope, object, complete]
  simp only [Bool.not_true, Bool.false_eq_true, if_false, starts, ends, Bool.or_self, data,
    records_checked settings client readers records fine]
  rfl

def recordKey (recordType : String) (record : Json K) : FadRecord K :=
  (recordType, (record.field "id").toText settings.readers, record)

theorem envelope_plain (timestamp : String) (records : List (Json K)) (fine : ∀ record ∈ records, RecordFine settings record) :
    Plain (envelopeOf timestamp records) :=
  ⟨by simp, trivial, trivial, plain_items_of records fun record member => (fine record member).plain, trivial⟩

-- One file fetched gives the records of its page.
theorem file_fetched (lawful : settings.floats.Lawful) (readers : client.readers = settings.readers)
    (digest : client.sha1Hex = settings.sha1Hex) (base recordType filename timestamp : String) (records : List (Json K))
    (fine : ∀ record ∈ records, RecordFine settings record) (row : FileRow)
    (isRow : row = makeDumpFile settings recordType filename records timestamp)
    (allowed : client.assertUrlAllowedForPeer row.entry.url base = .ok ())
    (served : client.httpGetBytes row.entry.url = .ok row.content.toUTF8)
    (capped : 0 < client.sasFadMaxFileBytes → (row.entry.size : Int) ≤ client.sasFadMaxFileBytes) :
    ∃ file, fetchFile client base timestamp (normalizedOf row.entry) =
      .ok (file, records.map (recordKey settings recordType)) := by
  have content : row.content = dumps settings.floats (envelopeOf timestamp records) := by rw [isRow, makeDumpFile]
  have size : row.entry.size = row.content.toUTF8.size := by rw [isRow, makeDumpFile]
  have checksum : row.entry.checksum = settings.sha1Hex row.content.toUTF8 := by rw [isRow, makeDumpFile]
  have type : row.entry.recordType = recordType := by rw [isRow, makeDumpFile]
  have loaded : client.readers.loads row.content = some (envelopeOf timestamp records) := by
    rw [content, readers, settings_loads]
    exact loads_dumps settings.floats lawful _ (envelope_plain settings timestamp records fine)
  have fits : ¬ (0 < client.sasFadMaxFileBytes ∧ client.sasFadMaxFileBytes < (row.content.toUTF8.size : Int)) := by
    intro exceeds
    have bound := capped exceeds.1
    rw [size] at bound
    omega
  have validated := envelope_validated settings client readers timestamp records fine
  have keyed : (records.map fun record => (row.entry.recordType, (record.field "id").toText client.readers, record)) =
      records.map (recordKey settings recordType) :=
    List.map_congr_left fun record _ => by rw [recordKey, type, readers]
  have fetched : fetchFile client base timestamp (normalizedOf row.entry) =
      .ok (⟨row.entry.recordType, row.entry.url, row.entry.checksum, row.entry.size, row.entry.version,
        row.content.toUTF8, envelopeOf timestamp records⟩,
          records.map fun record => (row.entry.recordType, (record.field "id").toText client.readers, record)) := by
    have isDigest : ¬ client.sha1Hex row.content.toUTF8 ≠ row.entry.checksum := by
      rw [digest, checksum]
      exact not_not.mpr rfl
    have isSize : ¬ (row.content.toUTF8.size : Int) ≠ row.entry.size := by
      rw [size]
      exact not_not.mpr rfl
    simp only [fetchFile, normalizedOf, allowed, served, if_neg fits, if_neg isDigest, if_neg isSize, decode_encode,
      Option.bind_some, loaded, validated, Except.map]
  rw [keyed] at fetched
  exact ⟨_, fetched⟩

-- What a fetch of a row needs: the URL is allowed and served with the content, under the cap.
structure Reachable (base : String) (row : FileRow) : Prop where
  allowed : client.assertUrlAllowedForPeer row.entry.url base = .ok ()
  served : client.httpGetBytes row.entry.url = .ok row.content.toUTF8
  capped : 0 < client.sasFadMaxFileBytes → (row.entry.size : Int) ≤ client.sasFadMaxFileBytes

def fetchRow (base timestamp : String) (row : FileRow) : Except String (FadFilePayload K × List (FadRecord K)) :=
  fetchFile client base timestamp (normalizedOf row.entry)

theorem pages_fetched (lawful : settings.floats.Lawful) (readers : client.readers = settings.readers)
    (digest : client.sha1Hex = settings.sha1Hex) (base recordType timestamp : String) (pages : List (List (Json K) × Nat))
    (fine : ∀ page ∈ pages, ∀ record ∈ page.1, RecordFine settings record)
    (reach : ∀ page ∈ pages, Reachable client base
      (makeDumpFile settings recordType (dumpFileName recordType page.2) page.1 timestamp)) :
    ∃ fetched, (pages.map fun page => makeDumpFile settings recordType (dumpFileName recordType page.2) page.1 timestamp).mapM
        (fetchRow client base timestamp) = .ok fetched ∧
      fetched.flatMap (·.2) = ((pages.map (·.1)).flatten).map (recordKey settings recordType) := by
  induction pages with
  | nil => exact ⟨[], rfl, rfl⟩
  | cons page rest ih =>
      obtain ⟨others, later, records⟩ := ih (fun other member => fine other (List.mem_cons_of_mem page member))
        fun other member => reach other (List.mem_cons_of_mem page member)
      have here := reach page List.mem_cons_self
      obtain ⟨file, fetched⟩ := file_fetched settings client lawful readers digest base recordType
        (dumpFileName recordType page.2) timestamp page.1 (fine page List.mem_cons_self) _ rfl here.allowed here.served here.capped
      refine ⟨(file, page.1.map (recordKey settings recordType)) :: others, ?_, ?_⟩
      · rw [List.map_cons, List.mapM_cons, later]
        rw [fetchRow, fetched]
        rfl
      · rw [List.flatMap_cons, records, List.map_cons, List.flatten_cons, List.map_append]

theorem types_fetched (lawful : settings.floats.Lawful) (readers : client.readers = settings.readers)
    (digest : client.sha1Hex = settings.sha1Hex) (base timestamp : String) (pageSize : Nat) (positive : 0 < pageSize)
    (recordsOf : String → List (Json K)) (types : List String)
    (fine : ∀ recordType ∈ types, ∀ record ∈ recordsOf recordType, RecordFine settings record)
    (reach : ∀ row ∈ types.flatMap (fun recordType => typeRows settings (recordsOf recordType) pageSize recordType timestamp),
      Reachable client base row) :
    ∃ fetched, (types.flatMap fun recordType => typeRows settings (recordsOf recordType) pageSize recordType timestamp).mapM
        (fetchRow client base timestamp) = .ok fetched ∧
      fetched.flatMap (·.2) = types.flatMap fun recordType => (recordsOf recordType).map (recordKey settings recordType) := by
  induction types with
  | nil => exact ⟨[], rfl, rfl⟩
  | cons recordType rest ih =>
      rw [List.flatMap_cons] at reach
      obtain ⟨others, later, records⟩ := ih (fun other member => fine other (List.mem_cons_of_mem recordType member))
        fun row member => reach row (List.mem_append_right _ member)
      have pages : ((chunkRecords (recordsOf recordType) pageSize).zipIdx.map (·.1)).flatten = recordsOf recordType := by
        rw [List.zipIdx_map_fst]
        exact chunks_flatten (recordsOf recordType) pageSize positive
      have inType : ∀ page ∈ (chunkRecords (recordsOf recordType) pageSize).zipIdx, ∀ record ∈ page.1,
          RecordFine settings record := fun page member record inPage =>
        fine recordType List.mem_cons_self record
          (page_records (recordsOf recordType) pageSize positive page.1 (List.fst_mem_of_mem_zipIdx member) record inPage)
      obtain ⟨first, here, firstRecords⟩ := pages_fetched settings client lawful readers digest base recordType timestamp
        (chunkRecords (recordsOf recordType) pageSize).zipIdx inType
        fun page member => reach _ (List.mem_append_left _ (List.mem_map_of_mem member))
      refine ⟨first ++ others, ?_, ?_⟩
      · rw [List.flatMap_cons, List.mapM_append, typeRows, here, later]
        rfl
      · rw [List.flatMap_append, firstRecords, pages, records, List.flatMap_cons]

theorem no_duplicate (seen : List (String × String)) (records : List (FadRecord K))
    (distinct : (records.map fun record => (record.1, record.2.1)).Nodup)
    (fresh : ∀ record ∈ records, (record.1, record.2.1) ∉ seen) : firstDuplicate seen records = none := by
  induction records generalizing seen with
  | nil => rfl
  | cons record rest ih =>
      rw [List.map_cons, List.nodup_cons] at distinct
      rw [firstDuplicate, if_neg (fresh record List.mem_cons_self)]
      refine ih _ distinct.2 fun other member known => ?_
      rcases List.mem_cons.mp known with same | old
      · exact distinct.1 (same ▸ List.mem_map_of_mem member)
      · exact fresh other (List.mem_cons_of_mem record member) old

theorem keys_distinct (recordsOf : String → List (Json K)) (types : List String) (distinctTypes : types.Nodup)
    (distinct : ∀ recordType ∈ types, ((recordsOf recordType).map fun record =>
      (record.field "id").toText settings.readers).Nodup) :
    ((types.flatMap fun recordType => (recordsOf recordType).map (recordKey settings recordType)).map fun record =>
      (record.1, record.2.1)).Nodup := by
  have keys : ((types.flatMap fun recordType => (recordsOf recordType).map (recordKey settings recordType)).map fun record =>
      (record.1, record.2.1)) = types.flatMap fun recordType => (recordsOf recordType).map fun record =>
        (recordType, (record.field "id").toText settings.readers) := by
    rw [List.map_flatMap]
    exact List.flatMap_congr fun recordType _ => by rw [List.map_map]; rfl
  rw [keys, List.nodup_flatMap]
  refine ⟨fun recordType member => ?_, distinctTypes.imp fun {first second} apart key inFirst inSecond => ?_⟩
  · have ids := distinct recordType member
    rw [List.Nodup, List.pairwise_map] at ids ⊢
    exact ids.imp fun different same => different (congrArg Prod.snd same)
  · obtain ⟨_, _, one⟩ := List.mem_map.mp inFirst
    obtain ⟨_, _, two⟩ := List.mem_map.mp inSecond
    exact apart ((congrArg Prod.fst one).trans (congrArg Prod.fst two).symm)

end Served

section Builds

variable [Field K] [DecidableEq K] (settings : FadSettings K)

theorem content_written (timestamp : String) (records : List (Json K)) :
    (dumps settings.floats (envelopeOf timestamp records)).toUTF8.size ≠ 0 := by
  intro empty
  rw [String.toUTF8_eq_toByteArray, String.size_toByteArray, String.utf8ByteSize_eq_zero_iff] at empty
  have chars := congrArg String.toList empty
  rw [dumps, String.toList_ofList] at chars
  cases chars

theorem entry_matches (recordType filename timestamp : String) (records : List (Json K)) (row : FileRow)
    (isRow : row = makeDumpFile settings recordType filename records timestamp) :
    assertEntryMatchesContent settings (.text row.entry.checksum) (.int row.entry.size) row.content = .ok none := by
  have written := content_written settings timestamp records
  have truthy : ((Json.int (dumps settings.floats (envelopeOf timestamp records)).toUTF8.size : Json K)).truthy = true := by
    rw [Json.truthy, bne_iff_ne]
    exact_mod_cast written
  have same : (Json.text (settings.sha1Hex (dumps settings.floats (envelopeOf timestamp records)).toUTF8) : Json K).isText
      (settings.sha1Hex (dumps settings.floats (envelopeOf timestamp records)).toUTF8) = true := beq_self_eq_true _
  rw [isRow]
  simp only [makeDumpFile, assertEntryMatchesContent, same, sizeValue, truthy, Json.toInt, ne_eq, not_true, Bool.not_true,
    Bool.false_eq_true, if_false, if_true]

theorem page_file_made (recordType timestamp : String) (page : List (Json K) × Nat) :
    pageFile settings recordType timestamp page =
      .ok (makeDumpFile settings recordType (dumpFileName recordType page.2) page.1 timestamp) := by
  simp only [pageFile, entry_matches settings recordType (dumpFileName recordType page.2) timestamp page.1 _ rfl]

theorem type_files_made (records : List (Json K)) (pageSize : Nat) (recordType timestamp : String) :
    typeFiles settings records pageSize recordType timestamp = .ok (typeRows settings records pageSize recordType timestamp) :=
  Collect.each_ok _ _ _ fun page _ => page_file_made settings recordType timestamp page

theorem files_made (pageSize : Nat) (timestamp : String) (built : String → Except String (List (Json K)))
    (recordsOf : String → List (Json K)) (types : List String)
    (each : ∀ recordType ∈ types, built recordType = .ok (recordsOf recordType)) :
    filesOf settings pageSize timestamp built types =
      .ok (types.flatMap fun recordType => typeRows settings (recordsOf recordType) pageSize recordType timestamp) := by
  induction types with
  | nil => rfl
  | cons recordType rest ih =>
      have later := ih fun other member => each other (List.mem_cons_of_mem recordType member)
      simp only [filesOf, each recordType List.mem_cons_self, type_files_made, later, List.flatMap_cons]
      rfl

theorem times_agree (lawful : settings.floats.Lawful) (timestamp : String) (records : List (Json K))
    (fine : ∀ record ∈ records, RecordFine settings record) :
    timesAgree settings timestamp (dumps settings.floats (envelopeOf timestamp records)) = .ok true := by
  have starts : ((envelopeOf timestamp records).field "startTime").isText timestamp = true := beq_self_eq_true timestamp
  have ends : ((envelopeOf timestamp records).field "endTime").isText timestamp = true := beq_self_eq_true timestamp
  have object : (envelopeOf timestamp records).isObject = true := rfl
  rw [timesAgree, loads_dumps settings.floats lawful _ (envelope_plain settings timestamp records fine)]
  simp only [object, Bool.not_true, Bool.false_eq_true, if_false, starts, ends, Bool.and_self]

theorem times_checked (timestamp : String) (files : List FileRow)
    (each : ∀ file ∈ files, timesAgree settings timestamp file.content = .ok true) : checkTimes settings timestamp files = .ok () := by
  induction files with
  | nil => rfl
  | cons file rest ih =>
      have later := ih fun other member => each other (List.mem_cons_of_mem file member)
      simp only [checkTimes, each file List.mem_cons_self, later]

theorem rows_counted (pageSize : Nat) (timestamp : String) (recordsOf : String → List (Json K)) (types : List String) :
    (types.flatMap fun recordType => typeRows settings (recordsOf recordType) pageSize recordType timestamp).length =
      (types.flatMap fun recordType => chunkRecords (recordsOf recordType) pageSize).length := by
  induction types with
  | nil => rfl
  | cons recordType rest ih =>
      rw [List.flatMap_cons, List.flatMap_cons, List.length_append, List.length_append, ih, typeRows, List.length_map,
        List.length_zipIdx]

theorem rows_agree (lawful : settings.floats.Lawful) (pageSize : Nat) (positive : 0 < pageSize) (timestamp : String)
    (recordsOf : String → List (Json K)) (types : List String)
    (fine : ∀ recordType ∈ types, ∀ record ∈ recordsOf recordType, RecordFine settings record) :
    ∀ file ∈ types.flatMap (fun recordType => typeRows settings (recordsOf recordType) pageSize recordType timestamp),
      timesAgree settings timestamp file.content = .ok true := by
  intro file member
  obtain ⟨recordType, known, inType⟩ := List.mem_flatMap.mp member
  obtain ⟨page, inPages, same⟩ := List.mem_map.mp inType
  rw [← same]
  exact times_agree settings lawful timestamp page.1 fun record inPage => fine recordType known record
    (page_records (recordsOf recordType) pageSize positive page.1 (List.fst_mem_of_mem_zipIdx inPages) record inPage)

-- The builder fails on its records or on the number of their pages, on nothing else.
theorem dump_built (lawful : settings.floats.Lawful) (pageSize : Nat) (positive : 0 < pageSize) (now : Int)
    (built : String → Except String (List (Json K))) (recordsOf : String → List (Json K))
    (each : ∀ recordType ∈ recordTypes, built recordType = .ok (recordsOf recordType))
    (fine : ∀ recordType ∈ recordTypes, ∀ record ∈ recordsOf recordType, RecordFine settings record)
    (few : (recordTypes.flatMap fun recordType => chunkRecords (recordsOf recordType) pageSize).length ≤ manifestMaxFiles) :
    ∃ payload, buildSnapshotPayload settings pageSize now built = .ok payload := by
  have made := files_made settings pageSize (settings.utcText (Registry.wholeSecond now)) built recordsOf recordTypes each
  have checked := times_checked settings _ _ (rows_agree settings lawful pageSize positive
    (settings.utcText (Registry.wholeSecond now)) recordsOf recordTypes fine)
  rw [← rows_counted settings pageSize (settings.utcText (Registry.wholeSecond now)) recordsOf recordTypes] at few
  revert made checked few
  generalize (recordTypes.flatMap fun recordType => typeRows settings (recordsOf recordType) pageSize recordType
    (settings.utcText (Registry.wholeSecond now))) = files
  intro few made checked
  rw [buildSnapshotPayload, made]
  dsimp only
  rw [if_neg (Nat.not_lt.mpr few), checked]
  exact ⟨_, rfl⟩

end Builds

section Export

variable [Field K] [DecidableEq K] (settings : FadSettings K) (client : FadClient K) (tables : FadTables K)

-- The records that the server exports under a type.
def exported (recordType : String) : List (Json K) := (buildRecords settings tables recordType).toOption.getD []

theorem exported_fine (recordType : String) : ∀ record ∈ exported settings tables recordType, RecordFine settings record := by
  intro record member
  rw [exported] at member
  cases built : buildRecords settings tables recordType with
  | error error =>
      rw [built] at member
      cases member
  | ok records =>
      rw [built] at member
      exact built_records_fine settings tables recordType records built record member

theorem type_row (records : List (Json K)) (pageSize : Nat) (recordType timestamp : String) (row : FileRow)
    (member : row ∈ typeRows settings records pageSize recordType timestamp) :
    row.entry.recordType = recordType ∧ row.entry.version = settings.sasSasVersion ∧
      row.entry.checksum = settings.sha1Hex row.content.toUTF8 := by
  obtain ⟨page, _, made⟩ := List.mem_map.mp member
  rw [← made]
  exact ⟨rfl, rfl, rfl⟩

theorem manifest_plain (timestamp description : String) (entries : List ManifestEntry) :
    Plain (manifestOf (K := K) timestamp description entries) := by
  have each : ∀ entry ∈ entries.map (ManifestEntry.toJson (K := K)), Plain entry := by
    intro item member
    obtain ⟨entry, _, same⟩ := List.mem_map.mp member
    rw [← same]
    exact ⟨by simp, trivial, trivial, trivial, trivial, trivial, trivial⟩
  exact ⟨by simp, plain_items_of _ each, trivial, trivial, trivial⟩

section Whole

variable (pageSize : Nat) (now : Int) (payload : FadSnapshotPayload)

theorem exported_rows (shape : BuiltFrom settings pageSize (settings.utcText (Registry.wholeSecond now))
      (buildRecords settings tables) payload) :
    payload.fileRows = recordTypes.flatMap fun recordType =>
      typeRows settings (exported settings tables recordType) pageSize recordType payload.timestamp := by
  rw [shape.timestamp]
  exact shape.rows

-- Every type has a page, so the manifest is never without files.
theorem rows_not_empty (rows : payload.fileRows = recordTypes.flatMap fun recordType =>
      typeRows settings (exported settings tables recordType) pageSize recordType payload.timestamp) :
    payload.fileRows ≠ [] := by
  intro absent
  rw [rows, List.flatMap_eq_nil_iff] at absent
  have first := absent "cbsd" (by decide)
  rw [typeRows, List.map_eq_nil_iff, List.zipIdx_eq_nil_iff] at first
  exact chunks_some _ pageSize first

theorem rows_validated (hex : HexDigest settings.sha1Hex) (alike : SameSide settings client payload)
    (rows : payload.fileRows = recordTypes.flatMap fun recordType =>
      typeRows settings (exported settings tables recordType) pageSize recordType payload.timestamp) :
    ∀ entry ∈ payload.fileRows.map (·.entry), validateEntry client entry.toJson = .ok (normalizedOf entry) := by
  intro entry member
  obtain ⟨row, inRows, same⟩ := List.mem_map.mp member
  have listed := inRows
  rw [rows] at listed
  obtain ⟨recordType, known, inType⟩ := List.mem_flatMap.mp listed
  obtain ⟨type, version, checksum⟩ := type_row settings _ pageSize recordType payload.timestamp row inType
  obtain ⟨length, digits⟩ := hex row.content.toUTF8
  rw [← checksum] at length digits
  rw [← type] at known
  rw [← same]
  exact entry_validated client row.entry known (version.trans alike.version.symm)
    (fun bounded => alike.capped bounded row inRows) length digits

theorem manifest_loads (lawful : settings.floats.Lawful) (alike : SameSide settings client payload)
    (shape : BuiltFrom settings pageSize (settings.utcText (Registry.wholeSecond now)) (buildRecords settings tables) payload) :
    client.readers.loads payload.manifestJson =
      some (manifestOf payload.timestamp payload.description (payload.fileRows.map (·.entry))) := by
  rw [alike.readers, settings_loads, shape.manifest, shape.timestamp, shape.description]
  exact loads_dumps settings.floats lawful _ (manifest_plain _ _ _)

end Whole

-- A client that is served a dump gets every record of it once, in the order of the export, however it is paginated.
theorem fad_round_trip (lawful : settings.floats.Lawful) (hex : HexDigest settings.sha1Hex) (pageSize : Nat)
    (positive : 0 < pageSize) (now : Int) (payload : FadSnapshotPayload)
    (built : buildSnapshotPayload settings pageSize now (buildRecords settings tables) = .ok payload)
    (distinct : ∀ recordType ∈ recordTypes, ((exported settings tables recordType).map fun record =>
      (record.field "id").toText settings.readers).Nodup)
    (alike : SameSide settings client payload) (peerId : Nat) (peerUrl dumpUrl : String)
    (serves : Serves client peerUrl dumpUrl payload) :
    ∃ snapshot, fetchPeerGeneration client peerId peerUrl = .ok snapshot ∧
      snapshot.generationDatetime = payload.timestamp ∧ snapshot.description = payload.description ∧
      snapshot.records = recordTypes.flatMap fun recordType =>
        (exported settings tables recordType).map (recordKey settings recordType) := by
  have shape := built_from settings pageSize now (buildRecords settings tables) payload built
  have rows := exported_rows settings tables pageSize now payload shape
  have notEmpty := rows_not_empty settings tables pageSize payload rows
  have validated := rows_validated settings client tables pageSize payload hex alike rows
  have loaded := manifest_loads settings client tables pageSize now payload lawful alike shape
  have manifest := manifest_validated client payload.timestamp payload.description (payload.fileRows.map (·.entry))
    (by rwa [ne_eq, List.map_eq_nil_iff]) (by rw [List.length_map]; exact shape.few) validated
  have reach : ∀ row ∈ payload.fileRows, Reachable client (String.ofList (PyText.strip peerUrl.toList)) row :=
    fun row member => ⟨serves.fileAllowed row member, serves.file row member, fun bounded => alike.capped bounded row member⟩
  rw [rows] at reach
  obtain ⟨fetched, all, records⟩ := types_fetched settings client lawful alike.readers alike.digest _ payload.timestamp
    pageSize positive (exported settings tables) recordTypes (fun recordType _ => exported_fine settings tables recordType) reach
  rw [← rows] at all
  have each : ((payload.fileRows.map (·.entry)).map normalizedOf).mapM
      (fetchFile client (String.ofList (PyText.strip peerUrl.toList)) payload.timestamp) = .ok fetched := by
    rw [List.map_map, List.mapM_map]
    exact all
  have unique : firstDuplicate [] (fetched.flatMap (·.2)) = none := by
    rw [records]
    exact no_duplicate [] _ (keys_distinct settings (exported settings tables) recordTypes (by decide) distinct)
      fun record _ => List.not_mem_nil
  refine ⟨⟨peerId, payload.timestamp, payload.description, fetched.map (·.1), fetched.flatMap (·.2)⟩, ?_, rfl, rfl, records⟩
  rw [fetchPeerGeneration]
  simp only [if_neg serves.base, serves.dump, serves.dumpAllowed, serves.manifest, decode_encode, Option.bind_some, loaded,
    manifest, each, unique]

end Export

section Sample

-- Python writes a float that is whole as its digits with one zero behind the point.
def pointed : FloatText Rat where
  shown value := printInt value.num ++ '.' :: Nat.toDigits 10 (value.den - 1)
  read chars :=
    some (mkRat (readInt (chars.takeWhile fun c => c ≠ '.'))
      (Nat.ofDigitChars 10 ((chars.dropWhile fun c => c ≠ '.').drop 1) 0 + 1))

theorem point_apart (value : Int) : ∀ c ∈ printInt value, decide (c ≠ '.') = true := by
  intro c member
  rw [decide_eq_true_iff]
  intro point
  rw [point] at member
  cases value with
  | ofNat n => cases digit_chars n '.' member
  | negSucc n =>
      rcases List.mem_cons.mp member with minus | digits
      · cases minus
      · cases digit_chars (n + 1) '.' digits

theorem pointed_back (value : Rat) : pointed.read (pointed.shown value) = some value := by
  have positive := value.den_pos
  have whole : value.den - 1 + 1 = value.den := by omega
  have before : (printInt value.num ++ '.' :: Nat.toDigits 10 (value.den - 1)).takeWhile (fun c => c ≠ '.') =
      printInt value.num := by
    rw [List.takeWhile_append_of_pos (point_apart value.num), List.takeWhile_cons_of_neg (by decide), List.append_nil]
  have after : (printInt value.num ++ '.' :: Nat.toDigits 10 (value.den - 1)).dropWhile (fun c => c ≠ '.') =
      '.' :: Nat.toDigits 10 (value.den - 1) := by
    rw [List.dropWhile_append_of_pos (point_apart value.num), List.dropWhile_cons_of_neg (by decide)]
  rw [pointed]
  dsimp only
  rw [before, after, read_int, List.drop_one, List.tail_cons, Nat.ofDigitChars_ten_toDigits, whole, Rat.mkRat_self]

theorem scan_pointed_digits (n : Nat) (rest : List Char) :
    scanInteger (Nat.toDigits 10 n ++ '.' :: rest) = some (Nat.toDigits 10 n, '.' :: rest) := by
  by_cases zero : n = 0
  · rw [zero, Nat.toDigits_zero]
    rfl
  · obtain ⟨c, others, split, head⟩ := digits_head n (by omega)
    have digits := digit_chars n
    rw [split] at digits ⊢
    have all : ∀ c ∈ others, c.isDigit = true := fun other member => digits other (List.mem_cons_of_mem c member)
    rw [List.cons_append, scanInteger, if_neg head, if_pos (digits c List.mem_cons_self), List.takeWhile_append_of_pos all,
      List.dropWhile_append_of_pos all, List.takeWhile_cons_of_neg (by decide), List.dropWhile_cons_of_neg (by decide),
      List.append_nil]

theorem scan_pointed_minus (n : Nat) (rest : List Char) :
    scanMinus (Nat.toDigits 10 n ++ rest) = ([], Nat.toDigits 10 n ++ rest) := by
  have plain := minus_digits n
  cases split : Nat.toDigits 10 n with
  | nil => exact absurd split Nat.toDigits_ne_nil
  | cons c others =>
      rw [split, scanMinus] at plain
      rw [List.cons_append, scanMinus]
      by_cases minus : c = '-'
      · rw [if_pos minus] at plain
        cases plain
      · rw [if_neg minus]

theorem scan_pointed_fraction (n : Nat) : scanFraction ('.' :: Nat.toDigits 10 n) = ('.' :: Nat.toDigits 10 n, []) := by
  have all := digit_chars n
  rw [scanFraction, List.takeWhile_eq_self_iff.mpr all, List.dropWhile_eq_nil_iff.mpr all, if_pos ⟨rfl, Nat.toDigits_ne_nil⟩]

theorem scan_pointed (value : Int) (n : Nat) :
    scanNumber (printInt value ++ '.' :: Nat.toDigits 10 n) = some (⟨printInt value, '.' :: Nat.toDigits 10 n, []⟩, []) := by
  cases value with
  | ofNat whole =>
      simp only [printInt, scanNumber, scan_pointed_minus, scan_pointed_digits, Option.map_some, scan_pointed_fraction]
      rfl
  | negSucc whole =>
      have minus : scanMinus ('-' :: (Nat.toDigits 10 (whole + 1) ++ '.' :: Nat.toDigits 10 n)) =
          (['-'], Nat.toDigits 10 (whole + 1) ++ '.' :: Nat.toDigits 10 n) := by
        rw [scanMinus, if_pos rfl]
      simp only [printInt, scanNumber, List.cons_append, minus, scan_pointed_digits, Option.map_some, scan_pointed_fraction]
      rfl

theorem pointed_lawful : pointed.Lawful :=
  ⟨pointed_back, fun value => .inl ⟨_, scan_pointed value.num (value.den - 1), List.append_nil _, rfl⟩⟩

def dumpedCbsd : Cbsd Rat := ⟨0, "f/s", "f", "user", "s", none, none, some .registered, ⟨none, none, []⟩⟩

def idleCbsd : Cbsd Rat := ⟨1, "f/t", "f", "user", "t", none, none, some .registered, ⟨none, none, []⟩⟩

def dumpedGrant : Grant Rat :=
  ⟨0, "g", 0, "f/s", .gaa, 3550000000, 3560000000, some 10, 100, 60, none, false, false, false, none, ⟨⟨0, 0, 0, 0⟩, none⟩⟩

def dumpedTables : FadTables Rat := ⟨[(dumpedCbsd, ""), (idleCbsd, "")], [(dumpedGrant, "")], [], []⟩

def epochText : String := "1970-01-01T00:00:00Z"

def dumpedRecord (digest : String) (grants : List (Json Rat)) : Json Rat :=
  .object [("id", .text ("cbsd/f/" ++ digest)), ("registration", .object []), ("grants", .array grants)]

def dumpedParam : Json Rat :=
  .object [("maxEirp", .float 10),
    ("operationFrequencyRange", .object [("lowFrequency", .int 3550000000), ("highFrequency", .int 3560000000)])]

def dumpedGrantRecord : Json Rat :=
  .object [("id", .text "g"), ("channelType", .text "GAA"), ("grantExpireTime", .text epochText), ("operationParam", dumpedParam),
    ("requestedOperationParam", dumpedParam), ("terminated", .bool false)]

def dumpedPage (records : List (Json Rat)) : String := dumps pointed (envelopeOf epochText records)

def idleRecord : Json Rat := dumpedRecord "8efd86fb78a56a5145ed7739dcb00c78581c5375" []

def grantedRecord : Json Rat := dumpedRecord "a0f1490a20d0211c997b44bc357e1972deab8ae3" [dumpedGrantRecord]

-- What hashlib gives for the serial numbers and for the pages of the tables, else the digest of no bytes.
def dumpedDigests : List (String × String) :=
  [("s", "a0f1490a20d0211c997b44bc357e1972deab8ae3"), ("t", "8efd86fb78a56a5145ed7739dcb00c78581c5375"),
    (dumpedPage [], "2dd874743a962054cb26bde1cd1d2d3d46d0c646"),
    (dumpedPage [idleRecord], "dd7bad4a0b290eb6aed10144d717665256357bf9"),
    (dumpedPage [grantedRecord], "9fe23eef40b281d4f776bba5c2cf7fbbaec0be55")]

def tableSha1Hex (bytes : ByteArray) : String :=
  match (String.fromUTF8? bytes).bind (PyDict.lookup dumpedDigests) with
  | some digest => digest
  | none => "da39a3ee5e6b4b0d3255bfef95601890afd80709"

theorem table_hex : HexDigest tableSha1Hex := by
  have listed : ∀ digest ∈ dumpedDigests.map (·.2), digest.toList.length = 40 ∧ digest.toList.all isHexDigit = true := by
    simp only [dumpedDigests, List.map_cons, List.map_nil, List.forall_mem_cons]
    decide +kernel
  intro bytes
  rw [tableSha1Hex]
  split
  · rename_i digest found
    obtain ⟨text, _, inTable⟩ := Option.bind_eq_some_iff.mp found
    obtain ⟨entry, isEntry, same⟩ := Option.map_eq_some_iff.mp inTable
    exact listed digest (List.mem_map.mpr ⟨entry, List.mem_of_find?_eq_some isEntry, same⟩)
  · decide +kernel

theorem table_reads (text digest : String) (listed : PyDict.lookup dumpedDigests text = some digest) :
    tableSha1Hex text.toUTF8 = digest := by
  rw [tableSha1Hex, decode_encode, Option.bind_some, listed]

-- Pages that differ as values differ as texts, and none is a single letter.
theorem page_text_apart (first second : List (Json Rat)) (one : PlainItems first) (two : PlainItems second) (apart : first ≠ second) :
    ¬ dumpedPage first = dumpedPage second := by
  intro same
  have back := fun (records : List (Json Rat)) (plain : PlainItems records) =>
    loads_dumps pointed pointed_lawful (envelopeOf epochText records) ⟨by simp, trivial, trivial, plain, trivial⟩
  have read := (back first one).symm.trans ((congrArg (loads pointed) same).trans (back second two))
  simp only [envelopeOf, Option.some.injEq, Json.object.injEq, List.cons.injEq, Prod.mk.injEq, Json.array.injEq, true_and, and_true] at read
  exact apart read

theorem page_not_letter (records : List (Json Rat)) (text : String) (other : text.toList.head? ≠ some '\x7b') :
    ¬ text = dumpedPage records := by
  intro same
  rw [same, dumpedPage, dumps, String.toList_ofList] at other
  exact other rfl

theorem page_digests : tableSha1Hex (dumpedPage []).toUTF8 = "2dd874743a962054cb26bde1cd1d2d3d46d0c646" ∧
    tableSha1Hex (dumpedPage [idleRecord]).toUTF8 = "dd7bad4a0b290eb6aed10144d717665256357bf9" ∧
    tableSha1Hex (dumpedPage [grantedRecord]).toUTF8 = "9fe23eef40b281d4f776bba5c2cf7fbbaec0be55" := by
  have idle : PlainItems [idleRecord] := by
    simp [PlainItems, Plain, PlainFields, idleRecord, dumpedRecord]
  have granted : PlainItems [grantedRecord] := by
    simp [PlainItems, Plain, PlainFields, grantedRecord, dumpedRecord, dumpedGrantRecord, dumpedParam]
  have differ : [idleRecord] ≠ [grantedRecord] := by
    simp [idleRecord, grantedRecord, dumpedRecord]
  have letters := fun records : List (Json Rat) =>
    And.intro (page_not_letter records "s" (by decide)) (page_not_letter records "t" (by decide))
  have first := page_text_apart [] [idleRecord] trivial idle (List.cons_ne_nil _ _).symm
  have second := page_text_apart [] [grantedRecord] trivial granted (List.cons_ne_nil _ _).symm
  have third := page_text_apart [idleRecord] [grantedRecord] idle granted differ
  refine ⟨table_reads _ _ ?_, table_reads _ _ ?_, table_reads _ _ ?_⟩ <;>
    simp [PyDict.lookup, dumpedDigests, letters, first, second, third]

def dumpingSettings : FadSettings Rat :=
  ⟨"admin", "https://peer", "v1.3", pointed, tableSha1Hex, fun _ => none, fun value => value.floor, fun _ => "", fun _ => epochText⟩

theorem dumped_checksum (recordType filename : String) (records : List (Json Rat)) :
    (makeDumpFile dumpingSettings recordType filename records epochText).entry.checksum = tableSha1Hex (dumpedPage records).toUTF8 :=
  rfl

-- A client that finds the manifest and the files of a dump at their URLs.
def servedBy (payload : FadSnapshotPayload) : FadClient Rat where
  sasSasVersion := "v1.3"
  sasFadMaxFileBytes := 0
  readers := dumpingSettings.readers
  sha1Hex := dumpingSettings.sha1Hex
  repr := id
  parseHttpsUrl _ := .ok ()
  assertUrlAllowedForPeer _ _ := .ok ()
  httpGetBytes url :=
    if url = "https://peer/dump" then .ok payload.manifestJson.toUTF8
    else
      match payload.fileRows.find? fun row => row.entry.url = url with
      | some row => .ok row.content.toUTF8
      | none => .error "peer HTTP 404"

theorem row_found (rows : List FileRow) (distinct : (rows.map (·.entry.url)).Nodup) (row : FileRow) (member : row ∈ rows) :
    rows.find? (fun other => other.entry.url = row.entry.url) = some row := by
  induction rows with
  | nil => cases member
  | cons first rest ih =>
      rw [List.map_cons, List.nodup_cons] at distinct
      rcases List.mem_cons.mp member with isFirst | later
      · rw [isFirst]
        exact List.find?_cons_of_pos (decide_eq_true rfl)
      · have apart : ¬ first.entry.url = row.entry.url := fun same => distinct.1 (same ▸ List.mem_map_of_mem later)
        rw [List.find?_cons_of_neg (by simpa using apart)]
        exact ih distinct.2 later

theorem dumped_cbsds : buildRecords dumpingSettings dumpedTables "cbsd" = .ok [grantedRecord, idleRecord] := by
  have granted : tableSha1Hex "s".toUTF8 = "a0f1490a20d0211c997b44bc357e1972deab8ae3" := table_reads "s" _ rfl
  have idle : tableSha1Hex "t".toUTF8 = "8efd86fb78a56a5145ed7739dcb00c78581c5375" := table_reads "t" _ (by decide +kernel)
  have shape : buildRecords dumpingSettings dumpedTables "cbsd" =
      .ok [dumpedRecord (tableSha1Hex "s".toUTF8) [dumpedGrantRecord], dumpedRecord (tableSha1Hex "t".toUTF8) []] := by
    rfl
  rw [shape, granted, idle]
  rfl

theorem dumped_records (recordType : String) (member : recordType ∈ recordTypes) : buildRecords dumpingSettings dumpedTables recordType =
    .ok (exported dumpingSettings dumpedTables recordType) := by
  have known : recordType = "cbsd" ∨ recordType = "zone" ∨ recordType = "esc_sensor" ∨ recordType = "coordination" := by
    simpa [recordTypes] using member
  rcases known with same | same | same | same
  all_goals
    rw [same]
    rfl

theorem dumped_payload (now : Int) :
    ∃ payload, buildSnapshotPayload dumpingSettings 1 now (buildRecords dumpingSettings dumpedTables) = .ok payload :=
  dump_built dumpingSettings pointed_lawful 1 (by decide) now _ _ dumped_records
    (fun recordType _ => exported_fine dumpingSettings dumpedTables recordType) (by decide +kernel)

-- Two pages of the CBSDs, with the digests of their bodies in the manifest.
theorem fad_round_trip_sample :
    ∃ payload snapshot, buildSnapshotPayload dumpingSettings 1 0 (buildRecords dumpingSettings dumpedTables) = .ok payload ∧
      payload.fileRows.map (·.entry.checksum) = ["9fe23eef40b281d4f776bba5c2cf7fbbaec0be55",
        "dd7bad4a0b290eb6aed10144d717665256357bf9", "2dd874743a962054cb26bde1cd1d2d3d46d0c646",
        "2dd874743a962054cb26bde1cd1d2d3d46d0c646", "2dd874743a962054cb26bde1cd1d2d3d46d0c646"] ∧
      fetchPeerGeneration (servedBy payload) 1 "https://peer" = .ok snapshot ∧
      snapshot.records.map (fun record => (record.1, record.2.1)) =
        [("cbsd", "cbsd/f/a0f1490a20d0211c997b44bc357e1972deab8ae3"), ("cbsd", "cbsd/f/8efd86fb78a56a5145ed7739dcb00c78581c5375")] := by
  obtain ⟨payload, built⟩ := dumped_payload 0
  have shape := built_from dumpingSettings 1 0 _ payload built
  have urls : payload.fileRows.map (·.entry.url) =
      ["https://peer/v1.3/cbsd/activity_dump_file_cbsd0.json", "https://peer/v1.3/cbsd/activity_dump_file_cbsd1.json",
        "https://peer/v1.3/zone/activity_dump_file_zone0.json",
        "https://peer/v1.3/esc_sensor/activity_dump_file_esc_sensor0.json",
        "https://peer/v1.3/coordination/activity_dump_file_coordination0.json"] := by
    rw [shape.rows]
    decide +kernel
  have checksums : payload.fileRows.map (·.entry.checksum) = ["9fe23eef40b281d4f776bba5c2cf7fbbaec0be55",
      "dd7bad4a0b290eb6aed10144d717665256357bf9", "2dd874743a962054cb26bde1cd1d2d3d46d0c646",
      "2dd874743a962054cb26bde1cd1d2d3d46d0c646", "2dd874743a962054cb26bde1cd1d2d3d46d0c646"] := by
    have cbsds : (buildRecords dumpingSettings dumpedTables "cbsd").toOption.getD [] = [grantedRecord, idleRecord] := by
      rw [dumped_cbsds]
      rfl
    have zones : (buildRecords dumpingSettings dumpedTables "zone").toOption.getD [] = [] := rfl
    have sensors : (buildRecords dumpingSettings dumpedTables "esc_sensor").toOption.getD [] = [] := rfl
    have coordination : (buildRecords dumpingSettings dumpedTables "coordination").toOption.getD [] = [] := rfl
    have isStamp : dumpingSettings.utcText (wholeSecond 0) = epochText := rfl
    have pages : chunkRecords [grantedRecord, idleRecord] 1 = [[grantedRecord], [idleRecord]] := rfl
    have page : chunkRecords ([] : List (Json Rat)) 1 = [[]] := rfl
    obtain ⟨empty, idle, granted⟩ := page_digests
    rw [shape.rows, isStamp]
    simp only [recordTypes, List.flatMap_cons, List.flatMap_nil, cbsds, zones, sensors, coordination, typeRows, pages, page,
      List.zipIdx_cons, List.zipIdx_nil, List.map_cons, List.map_nil, List.cons_append, List.nil_append, dumped_checksum, empty, idle,
      granted]
  have file : ∀ row ∈ payload.fileRows, (servedBy payload).httpGetBytes row.entry.url = .ok row.content.toUTF8 := by
    intro row member
    have elsewhere : ¬ row.entry.url = "https://peer/dump" := by
      intro same
      have listed : row.entry.url ∈ payload.fileRows.map (·.entry.url) := List.mem_map_of_mem member
      rw [urls, same] at listed
      exact absurd listed (by decide)
    have found := row_found payload.fileRows (by rw [urls]; decide) row member
    simp only [servedBy, if_neg elsewhere, found]
  have version : String.ofList (PyText.strip "v1.3".toList) = "v1.3" := by decide +kernel
  have alike : SameSide dumpingSettings (servedBy payload) payload :=
    ⟨rfl, rfl, version, fun bounded => absurd bounded (Int.lt_irrefl 0)⟩
  have dump : String.ofList (((String.ofList (PyText.strip "https://peer".toList)).toList.reverse.dropWhile
      fun c => c = '/').reverse) ++ "/dump" = "https://peer/dump" := by decide +kernel
  have serves : Serves (servedBy payload) "https://peer" "https://peer/dump" payload :=
    ⟨by decide +kernel, congrArg Except.ok dump, rfl, rfl, fun _ _ => rfl, file⟩
  obtain ⟨snapshot, fetched, _, _, records⟩ := fad_round_trip dumpingSettings (servedBy payload) dumpedTables pointed_lawful
    table_hex 1 (by decide) 0 payload built (by decide +kernel) alike 1 "https://peer" "https://peer/dump" serves
  refine ⟨payload, snapshot, built, checksums, fetched, ?_⟩
  rw [records]
  decide +kernel

end Sample

end SasCore.Fad
