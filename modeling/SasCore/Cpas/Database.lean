import SasCore.Lib.PyDict
import SasCore.Dpa.Protection
import SasCore.Registry.CpasApply

set_option autoImplicit false

namespace SasCore.Cpas

open Registry

variable {K : Type}

-- JSON columns are kept as their text.
structure PeerFadRecord where
  recordType : String
  recordId : String
  dataJson : String
deriving DecidableEq, Repr

-- A peer with its rows of the record table.
structure PeerSas where
  id : Nat
  lastFadGeneration : Option String
  records : List PeerFadRecord
deriving DecidableEq, Repr

structure KeyedRow where
  key : Option String
  dataJson : String
deriving DecidableEq, Repr

structure FssRow where
  key : Option String
  dataJson : String
  federalSync : Bool
deriving DecidableEq, Repr

-- What the protection points are built from, and the records that only the pre-IAP rules read.
structure ProtectionTables where
  fss : List FssRow
  wisp : List KeyedRow
  zones : List KeyedRow
  escSensors : List (String × String)
  pals : List (String × String)
  gwbl : List KeyedRow
  exclusionZones : List String
  scheduledDpa : List String
deriving DecidableEq, Repr

structure Fingerprint where
  peerGenerations : List (Nat × Option String)
  injectionGenerations : List (String × Nat)
deriving DecidableEq, Repr

structure Reevaluation where
  reason : String
  markedAt : Int
deriving DecidableEq, Repr

structure FadPayload where
  timestamp : String
  manifestJson : String
  fileRows : List (String × String)
deriving DecidableEq, Repr

structure FadDump where
  id : Nat
  payload : FadPayload
  ready : Bool
  published : Bool
deriving DecidableEq, Repr

structure Activation where
  dpaId : String
  lowHz : Int
  highHz : Int
  movelist : List String
  activatedAt : Int
  source : Option String
deriving DecidableEq, Repr

structure DpaDefinition (K : Type) where
  dpaId : String
  geometry : Option (Dpa.Geometry K)
  neighborhoodKm : List (String × K)
  thresholdDbmPer10mhz : K
  refHeightM : K

structure ScheduleMeta where
  lastSuccessfulLocalDate : Option String
  lastSuccessfulAt : Option Int
deriving DecidableEq, Repr

inductive CpasError where
  | generationDrift
  | rfEvaluation (message : String)
  | invalidTimezone
  | fadPublish (message : String)
  | database (message : String)
deriving DecidableEq, Repr

structure CompletedRun where
  dumpId : Nat
  terminatedGrants : Nat
  decisions : List (String × String × String)
  iapAdmissionGeneration : Fingerprint
  writtenAt : Int
deriving DecidableEq, Repr

inductive CpasAudit where
  | completed (run : CompletedRun)
  | failed (error : CpasError) (writtenAt : Int)
deriving DecidableEq, Repr

-- The tables that daily activities read and write.
structure Database (K : Type) where
  store : Store K
  catalogue : List (DpaDefinition K)
  activations : List Activation
  dumps : List FadDump
  nextDumpId : Nat
  scheduleEnabled : Bool
  scheduleMeta : ScheduleMeta
  scheduleAudit : List (String × String)
  reevaluation : Option Reevaluation
  admission : Option Fingerprint
  cpasAudit : List CpasAudit
  peers : List PeerSas
  injectionGenerations : List (String × Nat)
  federalMeta : SyncStamp
  tables : ProtectionTables

namespace Database

def empty : Database K :=
  ⟨Store.empty, [], [], [], 0, false, ⟨none, none⟩, [], none, none, [], [], [], ⟨0, 0, 0, 0⟩, ⟨[], [], [], [], [], [], [], []⟩⟩

end Database

def peerGenerations (peers : List PeerSas) : List (Nat × Option String) :=
  peers.map fun peer => (peer.id, peer.lastFadGeneration)

def peerRecords (peers : List PeerSas) : List (Nat × PeerFadRecord) :=
  peers.flatMap fun peer => peer.records.map fun record => (peer.id, record)

def currentGenerationFingerprint (db : Database K) : Fingerprint :=
  ⟨peerGenerations db.peers, db.injectionGenerations⟩

def authorizationGenerationMatches (frozen live : Fingerprint) : Bool :=
  PyDict.same frozen.peerGenerations live.peerGenerations &&
    PyDict.same frozen.injectionGenerations live.injectionGenerations

def cpasReevaluationRequired (db : Database K) : Bool := db.reevaluation.isSome

def markCpasReevaluationRequired (reason : String) (now : Int) (db : Database K) : Database K :=
  { db with reevaluation := some ⟨reason, now⟩ }

def clearCpasReevaluationRequired (db : Database K) : Database K := { db with reevaluation := none }

def recordIapAdmissionGeneration (fingerprint : Fingerprint) (db : Database K) : Database K :=
  { db with admission := some fingerprint }

def coherentGenerationAvailable (db : Database K) : Bool :=
  if cpasReevaluationRequired db then false
  else
    match db.admission with
    | none => false
    | some marker => authorizationGenerationMatches marker (currentGenerationFingerprint db)

def bumpedGenerations (key : String) (generations : List (String × Nat)) : List (String × Nat) :=
  PyDict.set "schemaVersion" 1 (PyDict.set key ((PyDict.lookup generations key).getD 0 + 1) generations)

def bumpInjectionGeneration (key : String) (db : Database K) : Database K :=
  { db with injectionGenerations := bumpedGenerations key db.injectionGenerations }

inductive SyncKey where
  | fss | gwbl | exz | dpa
deriving DecidableEq, Repr

def bumpSyncMeta (key : SyncKey) (db : Database K) : Database K :=
  let stamp := db.federalMeta
  let bumped :=
    match key with
    | .fss => { stamp with fss := stamp.fss + 1 }
    | .gwbl => { stamp with gwbl := stamp.gwbl + 1 }
    | .exz => { stamp with exz := stamp.exz + 1 }
    | .dpa => { stamp with dpa := stamp.dpa + 1 }
  { db with federalMeta := bumped }

def appendCpasAudit (row : CpasAudit) (db : Database K) : Database K := { db with cpasAudit := db.cpasAudit ++ [row] }

-- The flushed part of _publish_snapshot: the one published dump is the new one.
def publishSnapshot (payload : FadPayload) (db : Database K) : Database K :=
  { db with
    dumps := db.dumps.map (fun dump => { dump with published := false }) ++ [⟨db.nextDumpId, payload, true, true⟩]
    nextDumpId := db.nextDumpId + 1 }

def sameActivation (dpaId : String) (lowHz highHz : Int) (row : Activation) : Bool :=
  row.dpaId = dpaId && row.lowHz = lowHz && row.highHz = highHz

-- _upsert_activation without a source: the first row with the key keeps its own.
def upsertActivation (dpaId : String) (lowHz highHz : Int) (movelist : List String) (now : Int) :
    List Activation → List Activation
  | [] => [⟨dpaId, lowHz, highHz, movelist, now, none⟩]
  | row :: rest =>
      if sameActivation dpaId lowHz highHz row then ⟨dpaId, lowHz, highHz, movelist, now, row.source⟩ :: rest
      else row :: upsertActivation dpaId lowHz highHz movelist now rest

end SasCore.Cpas
