import SasCore.Lib.Register
import SasCore.Lib.Json
import SasCore.Cpas.Database

set_option autoImplicit false

namespace SasCore.Injection

open Registry
open Cpas (SyncKey bumpedGenerations)

-- The kinds of admin_injected_data that hold one JSON record in each row.
inductive Kind where
  | zone | fss | wisp | gwbl | databaseUrl | escZone | clusterList | sasAdmin | exclusionZone
deriving DecidableEq, Repr

-- The keys of the generation map.
inductive Counter where
  | zone | fss | wisp | gwbl | databaseUrl | escZone | clusterList | sasAdmin | pal | cpi
deriving DecidableEq, Repr

def Counter.text : Counter → String
  | .zone => "zone"
  | .fss => "fss"
  | .wisp => "wisp"
  | .gwbl => "gwbl"
  | .databaseUrl => "database_url"
  | .escZone => "esc_zone"
  | .clusterList => "cluster_list"
  | .sasAdmin => "sas_admin"
  | .pal => "pal"
  | .cpi => "cpi"

inductive FssSource where
  | federalDbSync | adminInjected
deriving DecidableEq, Repr

structure PalRow (K : Type) where
  palId : String
  userId : String
  lowFrequency : Int
  highFrequency : Int
  licenseStatus : String
  licenseExpiration : Option String
  record : Json K

structure DpaDefinition where
  dpaId : String
  freqLowHz : Int
  freqHighHz : Int
  escMonitored : Bool
deriving DecidableEq, Repr

-- The tables of a session. A row of a record kind is `none` where json.loads rejects its text; the rows of
-- the other kinds are written by one function each and hold what it writes.
structure Tables (K : Type) where
  records : Kind → Orm.Table (Option (Json K))
  generations : Orm.Table (List (String × Nat))
  federal : Orm.Table SyncStamp
  provenance : Orm.Table (List (String × FssSource))
  pals : Orm.Table (PalRow K)
  activations : Orm.Table Cpas.Activation
  catalogue : Orm.Table (List DpaDefinition)

namespace Tables

variable {K : Type}

def empty : Tables K :=
  ⟨fun _ => .stored [], .stored [], .stored [], .stored [], .stored [], .stored [], .stored []⟩

-- db.flush, which also ends a commit.
def flush (tables : Tables K) : Tables K where
  records kind := (tables.records kind).flush
  generations := tables.generations.flush
  federal := tables.federal.flush
  provenance := tables.provenance.flush
  pals := tables.pals.flush
  activations := tables.activations.flush
  catalogue := tables.catalogue.flush

def setRecords (kind : Kind) (change : Orm.Table (Option (Json K)) → Orm.Table (Option (Json K))) (tables : Tables K) :
    Tables K :=
  { tables with records := fun other => if other = kind then change (tables.records other) else tables.records other }

section Fields

variable (kind other : Kind) (change : Orm.Table (Option (Json K)) → Orm.Table (Option (Json K))) (tables : Tables K)

@[simp] theorem set_records_same : (tables.setRecords kind change).records kind = change (tables.records kind) := if_pos rfl

theorem set_records_other (apart : other ≠ kind) : (tables.setRecords kind change).records other = tables.records other :=
  if_neg apart

@[simp] theorem flush_records : tables.flush.records kind = (tables.records kind).flush := rfl

@[simp] theorem flush_generations : tables.flush.generations = tables.generations.flush := rfl

@[simp] theorem flush_federal : tables.flush.federal = tables.federal.flush := rfl

@[simp] theorem flush_provenance : tables.flush.provenance = tables.provenance.flush := rfl

end Fields

end Tables

section Counters

variable {K : Type}

def getInjectionGenerations (tables : Tables K) : List (String × Nat) := tables.generations.current []

def bumpInjectionGeneration (counter : Counter) (tables : Tables K) : Tables K :=
  { tables with generations := tables.generations.rewrite [] (bumpedGenerations counter.text) }

def noSync : SyncStamp := ⟨0, 0, 0, 0⟩

def getSyncMeta (tables : Tables K) : SyncStamp := tables.federal.current noSync

def stampOf (stamp : SyncStamp) : SyncKey → Nat
  | .fss => stamp.fss
  | .gwbl => stamp.gwbl
  | .exz => stamp.exz
  | .dpa => stamp.dpa

def bumpStamp (stamp : SyncStamp) : SyncKey → SyncStamp
  | .fss => { stamp with fss := stamp.fss + 1 }
  | .gwbl => { stamp with gwbl := stamp.gwbl + 1 }
  | .exz => { stamp with exz := stamp.exz + 1 }
  | .dpa => { stamp with dpa := stamp.dpa + 1 }

def bumpSyncMeta (feed : SyncKey) (tables : Tables K) : Tables K :=
  { tables with federal := tables.federal.rewrite noSync fun stamp => bumpStamp stamp feed }

theorem stamp_bumped (stamp : SyncStamp) (feed other : SyncKey) :
    stampOf (bumpStamp stamp feed) other = if feed = other then stampOf stamp other + 1 else stampOf stamp other := by
  cases feed <;> cases other <;> rfl

end Counters

end SasCore.Injection
