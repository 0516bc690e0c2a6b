import SasCore.Cpas.Database

set_option autoImplicit false

namespace SasCore.Cpas

open Registry

variable {K : Type}

-- The keys of the injection generations.
inductive InjectionKind where
  | fss | wisp | gwbl | zone | escZone | clusterList | sasAdmin | databaseUrl | escSensor | pal | cpi
deriving DecidableEq, Repr

def InjectionKind.key : InjectionKind → String
  | .fss => "fss"
  | .wisp => "wisp"
  | .gwbl => "gwbl"
  | .zone => "zone"
  | .escZone => "esc_zone"
  | .clusterList => "cluster_list"
  | .sasAdmin => "sas_admin"
  | .databaseUrl => "database_url"
  | .escSensor => "esc_sensor"
  | .pal => "pal"
  | .cpi => "cpi"

-- _upsert: in place of the first row with the natural key, else a new row.
def upsertRow (key : Option String) (dataJson : String) : List KeyedRow → List KeyedRow
  | [] => [⟨key, dataJson⟩]
  | row :: rest => if key.isSome && row.key = key then ⟨key, dataJson⟩ :: rest else row :: upsertRow key dataJson rest

-- The same on the FSS rows, whose provenance becomes the injection.
def upsertInjectedFss (key : Option String) (dataJson : String) (rows : List FssRow) : List FssRow :=
  let written := upsertRow key dataJson (rows.map fun row => ⟨row.key, row.dataJson⟩)
  let federal := (rows.filter (·.federalSync)).filterMap (·.key)
  written.map fun row => ⟨row.key, row.dataJson, row.key.any fun id => row.key ≠ key && federal.contains id⟩

-- A write of protection records that bumps a generation of its own.
def injected (kind : InjectionKind) (write : ProtectionTables → ProtectionTables) (db : Database K) : Database K :=
  bumpInjectionGeneration kind.key { db with tables := write db.tables }

def upsertFssRecord (key : Option String) (dataJson : String) (db : Database K) : Database K :=
  injected .fss (fun tables => { tables with fss := upsertInjectedFss key dataJson tables.fss }) (bumpSyncMeta .fss db)

def upsertWispRecord (key : Option String) (dataJson : String) : Database K → Database K :=
  injected .wisp fun tables => { tables with wisp := upsertRow key dataJson tables.wisp }

-- upsert_wisp_record of a point without a zone.
def upsertWispPoint (key : Option String) (dataJson : String) (db : Database K) : Database K :=
  injected .gwbl (fun tables => { tables with gwbl := upsertRow key dataJson tables.gwbl }) (bumpSyncMeta .gwbl db)

def persistZoneData (zoneId dataJson : String) : Database K → Database K :=
  injected .zone fun tables => { tables with zones := upsertRow (some zoneId) dataJson tables.zones }

def injectEscSensor (recordId dataJson : String) : Database K → Database K :=
  injected .escSensor fun tables => { tables with escSensors := PyDict.set recordId dataJson tables.escSensors }

def createPpa (zoneId dataJson : String) : Database K → Database K :=
  injected .zone fun tables => { tables with zones := tables.zones ++ [⟨some zoneId, dataJson⟩] }

-- The kinds of persist_esc_zone, persist_cluster_list, persist_sas_admin and persist_database_url, whose
-- rows no evaluation reads.
inductive UnreadKind where
  | escZone | clusterList | sasAdmin | databaseUrl
deriving DecidableEq, Repr

def UnreadKind.kind : UnreadKind → InjectionKind
  | .escZone => .escZone
  | .clusterList => .clusterList
  | .sasAdmin => .sasAdmin
  | .databaseUrl => .databaseUrl

def persistUnread (unread : UnreadKind) : Database K → Database K := injected unread.kind id

def putPals (records : List (String × String)) (pals : List (String × String)) : List (String × String) :=
  records.foldl (fun held record => PyDict.set record.1 record.2 held) pals

def upsertPalRecords (records : List (String × String)) (db : Database K) : Database K :=
  { db with tables := { db.tables with pals := putPals records db.tables.pals } }

def replacePalRecords (records : List (String × String)) : Database K → Database K :=
  injected .pal fun tables =>
    { tables with pals := (putPals records tables.pals).filter fun pal => (records.map (·.1)).contains pal.1 }

def revokePalRecord (palId : String) (db : Database K) : Database K :=
  if db.tables.pals.any (·.1 = palId) then
    injected .pal (fun tables => { tables with pals := tables.pals.filter fun pal => pal.1 ≠ palId }) db
  else db

def persistExclusionZone (dataJson : String) (db : Database K) : Database K :=
  { db with tables := { db.tables with exclusionZones := db.tables.exclusionZones ++ [dataJson] } }

-- upsert_fss_payload: the first row with the id is kept and rewritten, the others with it are deleted.
def rewriteFss (id dataJson : String) : List FssRow → List FssRow
  | [] => []
  | row :: rest =>
      if row.key = some id then ⟨some id, dataJson, true⟩ :: rest.filter (·.key ≠ some id)
      else row :: rewriteFss id dataJson rest

def upsertFssPayload (rows : List FssRow) (site : Option String × String) : List FssRow :=
  match site.1 with
  | none => rows ++ [⟨none, site.2, false⟩]
  | some id =>
      if rows.any (·.key = some id) then rewriteFss id site.2 rows else rows ++ [⟨some id, site.2, true⟩]

def replaceFssFromFederalPayload (sites : List (Option String × String)) (db : Database K) : Database K :=
  bumpSyncMeta .fss
    { db with tables := { db.tables with fss := sites.foldl upsertFssPayload (db.tables.fss.filter (!·.federalSync)) } }

def replaceGwblFromZip (records : List KeyedRow) (db : Database K) : Database K :=
  bumpSyncMeta .gwbl { db with tables := { db.tables with gwbl := records } }

def applyExclusionZoneKml (records : List String) (db : Database K) : Database K :=
  bumpSyncMeta .exz { db with tables := { db.tables with exclusionZones := records } }

def putDefinition (catalogue : List (DpaDefinition K)) (definition : DpaDefinition K) : List (DpaDefinition K) :=
  if catalogue.any (·.dpaId = definition.dpaId) then
    catalogue.map fun held => if held.dpaId = definition.dpaId then definition else held
  else catalogue ++ [definition]

-- A scheduled DPA feed: its row, the definitions it brings, its channels, and what the refresh of the
-- movelists makes of the activation rows.
structure ScheduledDpaFeed (K : Type) where
  row : String
  definitions : List (DpaDefinition K)
  channels : List (String × Int × Int)
  refresh : List Activation → List Activation

def activateScheduled (now : Int) (rows : List Activation) (channel : String × Int × Int) : List Activation :=
  (upsertActivation channel.1 channel.2.1 channel.2.2 [] now rows).map fun row =>
    if sameActivation channel.1 channel.2.1 channel.2.2 row then { row with source := some "scheduled_dpa" } else row

def applyScheduledDpa (feed : ScheduledDpaFeed K) (now : Int) (db : Database K) : Database K :=
  bumpSyncMeta .dpa
    { db with
      tables := { db.tables with scheduledDpa := [feed.row] }
      catalogue := feed.definitions.foldl putDefinition db.catalogue
      activations := feed.refresh
        (feed.channels.foldl (activateScheduled now) (db.activations.filter fun row => row.source ≠ some "scheduled_dpa")) }

-- A database_url that was fetched, verified and parsed.
inductive Feed (K : Type) where
  | pal (records : List (String × String))
  | cpi
  | exclusionZone (records : List String)
  | scheduledDpa (feed : ScheduledDpaFeed K)
  | fss (sites : List (Option String × String))
  | gwbl (records : List KeyedRow)

-- One turn of sync_injected_database_urls: apply, mark, commit.
def syncDatabaseUrl (feed : Feed K) (now : Int) (db : Database K) : Database K :=
  match feed with
  | .pal records => markCpasReevaluationRequired "pal_sync" now (replacePalRecords records db)
  | .cpi => markCpasReevaluationRequired "cpi_sync" now (injected .cpi id db)
  | .exclusionZone records => markCpasReevaluationRequired "exz_sync" now (applyExclusionZoneKml records db)
  | .scheduledDpa dpa => markCpasReevaluationRequired "scheduled_dpa_sync" now (applyScheduledDpa dpa now db)
  | .fss sites => markCpasReevaluationRequired "fss_sync" now (replaceFssFromFederalPayload sites db)
  | .gwbl records => markCpasReevaluationRequired "gwbl_sync" now (replaceGwblFromZip records db)

def nextPeerId (peers : List PeerSas) : Nat := (peers.map (·.id)).foldr max 0 + 1

def injectPeerSas (db : Database K) : Database K :=
  { db with peers := db.peers ++ [⟨nextPeerId db.peers, none, []⟩] }

structure FadGenerationSnapshot where
  peerSasId : Nat
  generationDatetime : String
  records : List PeerFadRecord
deriving DecidableEq, Repr

-- Equality of the two sets of records.
def sameRecords (first second : List PeerFadRecord) : Bool :=
  first.all second.contains && second.all first.contains

def peerGenerationAlreadyApplied (peer : PeerSas) (snapshot : FadGenerationSnapshot) : Bool :=
  peer.lastFadGeneration.any (fun generation => generation ≠ "" && generation = snapshot.generationDatetime) &&
    sameRecords peer.records snapshot.records

def applyPeerGeneration (snapshot : FadGenerationSnapshot) (peer : PeerSas) : PeerSas :=
  { peer with lastFadGeneration := some snapshot.generationDatetime, records := snapshot.records }

-- The locked part of sync_one_peer, on the row of the peer.
def syncedPeer (snapshot : FadGenerationSnapshot) (peer : PeerSas) : PeerSas :=
  if peer.id = snapshot.peerSasId then
    if peerGenerationAlreadyApplied peer snapshot then peer else applyPeerGeneration snapshot peer
  else peer

def syncOnePeer (snapshot : FadGenerationSnapshot) (db : Database K) : Database K :=
  { db with peers := db.peers.map (syncedPeer snapshot) }

-- The commits that other sessions make to what a CPAS run evaluates. A rejected body makes none.
inductive ProtectionOp (K : Type) where
  | fss (key : Option String) (dataJson : String)
  | wisp (key : Option String) (dataJson : String)
  | wispPoint (key : Option String) (dataJson : String)
  | zone (zoneId dataJson : String)
  | escSensor (recordId dataJson : String)
  | ppa (zoneId dataJson : String)
  | unread (kind : UnreadKind)
  | pal (records : List (String × String))
  | revokePal (palId : String)
  | exclusionZone (dataJson : String)
  | databaseUrl (feed : Feed K) (now : Int)
  | peerSas
  | peerSync (snapshot : FadGenerationSnapshot)

namespace ProtectionOp

def act : ProtectionOp K → Database K → Database K
  | fss key dataJson => upsertFssRecord key dataJson
  | wisp key dataJson => upsertWispRecord key dataJson
  | wispPoint key dataJson => upsertWispPoint key dataJson
  | zone zoneId dataJson => persistZoneData zoneId dataJson
  | escSensor recordId dataJson => injectEscSensor recordId dataJson
  | ppa zoneId dataJson => createPpa zoneId dataJson
  | unread kind => persistUnread kind
  | pal records => upsertPalRecords records
  | revokePal palId => revokePalRecord palId
  | exclusionZone dataJson => persistExclusionZone dataJson
  | databaseUrl feed now => syncDatabaseUrl feed now
  | peerSas => injectPeerSas
  | peerSync snapshot => syncOnePeer snapshot

-- Whether the operation takes the IAP admission lock.
def waits : ProtectionOp K → Bool
  | unread kind => kind = .escZone || kind = .clusterList
  | pal _ | exclusionZone _ | databaseUrl _ _ | peerSas => false
  | _ => true

def marks : ProtectionOp K → Bool
  | databaseUrl _ _ => true
  | _ => false

-- The injection generation that the operation bumps on this database.
def bumps (op : ProtectionOp K) (db : Database K) : Option InjectionKind :=
  match op with
  | fss _ _ => some .fss
  | wisp _ _ => some .wisp
  | wispPoint _ _ => some .gwbl
  | zone _ _ | ppa _ _ => some .zone
  | escSensor _ _ => some .escSensor
  | unread kind => some kind.kind
  | revokePal palId => if db.tables.pals.any (·.1 = palId) then some .pal else none
  | databaseUrl (.pal _) _ => some .pal
  | databaseUrl .cpi _ => some .cpi
  | _ => none

end ProtectionOp

end SasCore.Cpas
