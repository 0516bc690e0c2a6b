import SasCore.Fad.Client
import SasCore.Lib.Atomic

set_option autoImplicit false

namespace SasCore.Fad

open JsonText Txn Txn.Prog

variable {K : Type} [Field K] [DecidableEq K]

structure PeerSas where
  id : Nat
  url : String
  lastFadGeneration : Option String
deriving DecidableEq, Repr

structure PeerFadRecord where
  peerSasId : Nat
  recordType : String
  recordId : String
  dataJson : String
deriving DecidableEq, Repr

structure PeerStore where
  peers : List PeerSas
  records : List PeerFadRecord
deriving DecidableEq, Repr

namespace PeerStore

def peerRow (store : PeerStore) (id : Nat) : Option PeerSas := store.peers.find? fun peer => peer.id = id

def recordsOf (store : PeerStore) (id : Nat) : List PeerFadRecord := store.records.filter fun record => record.peerSasId = id

def clearPeer (id : Nat) (store : PeerStore) : PeerStore :=
  { store with records := store.records.filter fun record => record.peerSasId ≠ id }

def addRecord (record : PeerFadRecord) (store : PeerStore) : PeerStore := { store with records := store.records ++ [record] }

def setGeneration (id : Nat) (generation : String) (store : PeerStore) : PeerStore :=
  { store with peers := store.peers.map fun peer => if peer.id = id then { peer with lastFadGeneration := some generation } else peer }

end PeerStore

-- What a peer has in the database: its row and its records.
abbrev PeerView := Option PeerSas × List PeerFadRecord

def peerView (id : Nat) (store : PeerStore) : PeerView := (store.peerRow id, store.recordsOf id)

section Fingerprints

variable (floats : FloatText K)

def snapshotRows (snapshot : FadGenerationSnapshot K) : List PeerFadRecord :=
  snapshot.records.map fun record => ⟨snapshot.peerSasId, record.1, record.2.1, dumps floats record.2.2⟩

def fingerprint (rows : List PeerFadRecord) : List (String × String × String) :=
  rows.map fun row => (row.recordType, row.recordId, row.dataJson)

-- Equality of two frozensets.
def sameFingerprint (first second : List (String × String × String)) : Bool :=
  first.all second.contains && second.all first.contains

-- Without a generation or with an empty one nothing counts as applied.
def peerGenerationAlreadyApplied (found : PeerStore) (peer : PeerSas) (snapshot : FadGenerationSnapshot K) : Bool :=
  peer.lastFadGeneration.getD "" != "" && peer.lastFadGeneration == some snapshot.generationDatetime &&
    sameFingerprint (fingerprint (found.recordsOf peer.id)) (fingerprint (snapshotRows floats snapshot))

end Fingerprints

-- The places where the sync of a peer can fail in the database, in their order.
inductive SyncPlace where
  | prior | lock | row | fingerprint | delete | add (index : Nat) | peerRow | flush | commit
deriving DecidableEq, Repr

inductive SyncError where
  | client (message : String)
  | failed (place : SyncPlace)
deriving DecidableEq, Repr

-- What the sync of one peer meets: the server behind its URL, and where the database fails.
structure SyncInput (K : Type) where
  client : FadClient K
  faults : SyncPlace → Bool

section Sync

variable (floats : FloatText K) (input : SyncInput K)

def orFault (place : SyncPlace) (next : Prog PeerStore SyncError) : Prog PeerStore SyncError :=
  failIf (input.faults place) (.failed place) next

def committing : Prog PeerStore SyncError := orFault input .commit (.commit .done)

def applyPeerGeneration (snapshot : FadGenerationSnapshot K) (ending : Prog PeerStore SyncError) : Prog PeerStore SyncError :=
  .write (PeerStore.clearPeer snapshot.peerSasId) (orFault input .delete
    (writeEach PeerStore.addRecord (fun index => input.faults (.add index)) (fun index => .failed (.add index)) 0
      (snapshotRows floats snapshot)
      (orFault input .peerRow (.write (PeerStore.setGeneration snapshot.peerSasId snapshot.generationDatetime)
        (orFault input .flush ending)))))

-- The section under the locks.
def publishGeneration (id : Nat) (snapshot : FadGenerationSnapshot K) (found : PeerStore) : Prog PeerStore SyncError :=
  match found.peerRow id with
  | none => .raise (.client ("peer SAS id=" ++ toString id ++ " disappeared during sync"))
  | some locked =>
      orFault input .fingerprint
        (if peerGenerationAlreadyApplied floats found locked snapshot then committing input
        else applyPeerGeneration floats input snapshot (committing input))

def syncBody (peer : PeerSas) : Prog PeerStore SyncError :=
  match fetchPeerGeneration input.client peer.id peer.url with
  | .error message => .raise (.client message)
  | .ok snapshot => .lock (orFault input .lock (orFault input .row (.read (publishGeneration floats input peer.id snapshot))))

def syncOnePeer (peer : PeerSas) : Prog PeerStore SyncError :=
  if PyText.strip peer.url.toList = [] then .done
  else (syncBody floats input peer).guarded fun error => .rollback (.raise error)

-- One round of the loop: what is there before is read first, and only counts for the report.
def syncRound (peer : PeerSas) : Prog PeerStore SyncError := orFault input .prior (syncOnePeer floats input peer)

end Sync

structure PeerSyncReport where
  peers : Nat
  ok : Nat
  failed : Nat
  skippedSameGeneration : Nat
  errors : List (Nat × SyncError)
deriving DecidableEq, Repr

section Run

variable (floats : FloatText K) (inputs : Nat → SyncInput K)

def skipsSameGeneration (found : PeerStore) (peer : PeerSas) : Bool :=
  match found.peerRow peer.id, fetchPeerGeneration (inputs peer.id).client peer.id peer.url with
  | some row, .ok snapshot => PyText.strip peer.url.toList ≠ [] && peerGenerationAlreadyApplied floats found row snapshot
  | _, _ => false

def reportRound (found : PeerStore) (peer : PeerSas) (outcome : Option SyncError) (report : PeerSyncReport) : PeerSyncReport :=
  match outcome with
  | some error => { report with failed := report.failed + 1, errors := report.errors ++ [(peer.id, error)] }
  | none =>
      { report with
        ok := report.ok + 1
        skippedSameGeneration := report.skippedSameGeneration + (if skipsSameGeneration floats inputs found peer then 1 else 0) }

-- The session goes from one peer to the next.
def syncNext (state : Session PeerStore × PeerSyncReport) (peer : PeerSas) : Session PeerStore × PeerSyncReport :=
  let ran := exec (syncRound floats (inputs peer.id) peer) state.1
  (ran.1, reportRound floats inputs state.1.view peer ran.2 state.2)

def syncPeers (order : List PeerSas) (session : Session PeerStore) : Session PeerStore × PeerSyncReport :=
  order.foldl (syncNext floats inputs) (session, ⟨order.length, 0, 0, 0, []⟩)

def byId (first second : PeerSas) : Bool := first.id ≤ second.id

def runPeerFadSync (store : PeerStore) : Session PeerStore × PeerSyncReport :=
  syncPeers floats inputs (store.peers.mergeSort byId) (Session.start store)

-- All that is committed on the way.
def syncStates : List PeerSas → Session PeerStore → List PeerStore
  | [], session => [session.committed]
  | peer :: rest, session =>
      published (syncRound floats (inputs peer.id) peer) session ++
        syncStates rest (exec (syncRound floats (inputs peer.id) peer) session).1

end Run

end SasCore.Fad
