import SasCore.Federal.FssGwbl
import SasCore.Federal.ExclusionZones
import SasCore.Federal.Pal
import SasCore.Federal.ScheduledDpa
import Mathlib.Algebra.Order.Field.Rat

set_option autoImplicit false

namespace SasCore.Federal

open Injection Dpa

variable {K : Type} [Field K] [LinearOrder K]

-- The types of a database URL that are synced.
inductive DatabaseType where
  | pal | cpi | exclusionZone | scheduledDpa | fss | gwbl
deriving DecidableEq, Repr

def DatabaseType.text : DatabaseType → String
  | .pal => "PAL"
  | .cpi => "CPI"
  | .exclusionZone => "EXCLUSION_ZONE"
  | .scheduledDpa => "SCHEDULED_DPA"
  | .fss => "FSS"
  | .gwbl => "GWBL"

def databaseTypes : List DatabaseType := [.pal, .cpi, .exclusionZone, .scheduledDpa, .fss, .gwbl]

-- What a sync takes from outside beside the feeds: the HTTP client, with or without credentials, and what a CPI feed
-- does to the keys of the CPI users, which nothing here reads.
structure SyncEnv (K : Type) where
  dpa : DpaEnv K
  httpGet : String → Bool → Except String ByteArray
  syncCpiUsers : ByteArray → Except String Unit

def SyncEnv.feeds (env : SyncEnv K) : FeedEnv K := env.dpa.feeds

structure SyncReport where
  ok : Nat
  failed : Nat
  errors : List String
deriving DecidableEq, Repr

-- The committed tables between two URLs, and the exception that ended the loop, if one did.
structure SyncState (K : Type) where
  tables : Tables K
  report : SyncReport
  raised : Option String

section Url

variable (env : SyncEnv K)

-- No digest has a letter whose lower case depends on more than ASCII.
def verifyOptionalChecksum (body : ByteArray) (expected : Json K) : Bool :=
  !expected.truthy || PyText.lower (env.feeds.injection.settings.sha1Hex body).toList =
    PyText.lower (PyText.strip (expected.toText env.feeds.readers).toList)

def verifyChecksum (body : ByteArray) (checksum : Json K) (label : String) : Except String Unit :=
  if checksum.isNull || checksum.isText "" || verifyOptionalChecksum env body checksum then .ok ()
  else .error ("checksum_mismatch:" ++ label)

def loadsBody (body : ByteArray) : Option (Json K) := (String.fromUTF8? body).bind env.feeds.readers.loads

-- What is done with the body of a URL.
def applyBody (databaseType : DatabaseType) (body : ByteArray) (tables : Tables K) : Except String (Tables K) :=
  match databaseType with
  | .pal =>
      match loadsBody env body with
      | none => .error "pal_invalid_json"
      | some records => replacePalRecords env.feeds records tables
  | .cpi => (env.syncCpiUsers body).map fun _ => bumpInjectionGeneration .cpi tables
  | .exclusionZone => applyExclusionZoneKml env.feeds body tables
  | .scheduledDpa => applyScheduledDpa env.dpa body tables
  | .fss =>
      match loadsBody env body with
      | none => .error "JSONDecodeError"
      | some payload => replaceFssFromFederalPayload env.feeds payload tables
  | .gwbl => replaceGwblFromZip env.feeds body tables

def syncDatabase (databaseType : DatabaseType) (url : String) (checksum : Json K) (tables : Tables K) : Except String (Tables K) :=
  match env.httpGet url (databaseType = .fss) with
  | .error error => .error error
  | .ok body =>
      match verifyChecksum env body checksum databaseType.text with
      | .error error => .error error
      | .ok _ => applyBody env databaseType body tables

def recordFailure (error : String) (state : SyncState K) : SyncState K :=
  { state with report := ⟨state.report.ok, state.report.failed + 1, state.report.errors ++ [error]⟩ }

def syncUrl (row : Json K) (state : SyncState K) : SyncState K :=
  let url := row.field "url"
  match orValue (row.field "type") (.text "") with
  | .text typeText =>
      if !url.truthy then state
      else
        match databaseTypes.find? fun databaseType => PyText.upper typeText.toList = databaseType.text.toList with
        | none => state
        | some databaseType =>
            match syncDatabase env databaseType (url.toText env.feeds.readers) (row.field "checksum") state.tables with
            | .error error => recordFailure (databaseType.text ++ ":" ++ error) state
            | .ok written => { state with tables := written.flush, report := { state.report with ok := state.report.ok + 1 } }
  | _ => { state with raised := some "AttributeError" }

-- One round of the loop over the rows.
def syncRow (state : SyncState K) (row : Option (Json K)) : SyncState K :=
  if state.raised.isSome then state
  else
    match row with
    | none => recordFailure "invalid_database_url_json" state
    | some row => if row.isObject then syncUrl env row state else { state with raised := some "AttributeError" }

def syncRows (rows : List (Option (Json K))) (state : SyncState K) : SyncState K := rows.foldl (syncRow env) state

def syncInjectedDatabaseUrls (committed : Tables K) : SyncState K :=
  syncRows env (committed.records .databaseUrl).all ⟨committed, ⟨0, 0, []⟩, none⟩

end Url

-- Every URL answers with one body, and no document is readable.
def syncSampleEnv (body : ByteArray) : SyncEnv Rat where
  dpa :=
    { feeds :=
        { injection :=
            { settings := ⟨"admin", "https://peer", "v1.3", ⟨fun _ => [], fun _ => none⟩, fun _ => "", fun _ => none,
                fun value => value.floor, fun _ => "", fun _ => ""⟩
              upper := id
              sortedDumps := fun _ => ""
              urlparse := fun _ => none }
          hzOfMhz := fun _ => .ok none
          decodeReplacing := fun _ => ""
          zipNames := fun _ => .error .badZipFile
          zipRead := fun _ _ => .error .badZipFile
          parseXml := fun _ => none
          isDecimal := Char.isDigit
          columnText := fun _ => none
          geometryUsable := fun _ => true }
      kmlRoots := .ok []
      now := 0
      movelistOf := fun _ _ => .ok none
      activeGrants := .ok [] }
  httpGet := fun _ _ => .ok body
  syncCpiUsers := fun _ => .ok ()

end SasCore.Federal
