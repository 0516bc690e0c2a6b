import Mathlib.Data.List.Basic
import Mathlib.Data.List.Nodup

set_option autoImplicit false

namespace SasCore.Registry

-- Times are UTC instants in microseconds; replace(microsecond=0) keeps the whole second.
def wholeSecond (t : Int) : Int := t - t % 1000000

theorem whole_second_below (t : Int) : wholeSecond t ≤ t := by
  unfold wholeSecond
  omega

theorem whole_second_whole (t : Int) : wholeSecond (wholeSecond t) = wholeSecond t := by
  unfold wholeSecond
  omega

theorem whole_second_le (a b : Int) (le : a ≤ b) : wholeSecond a ≤ wholeSecond b := by
  unfold wholeSecond
  omega

inductive CbsdState where
  | unregistered | registered | deregistered
deriving DecidableEq, Repr

inductive GrantState where
  | requested | granted | authorized | suspended | terminated | expired | relinquished
deriving DecidableEq, Repr

inductive ChannelType where
  | gaa | pal
deriving DecidableEq, Repr

structure InstallationParam (K : Type) where
  latitude : Option K
  longitude : Option K
  height : Option K
  heightType : Option String
  indoorDeployment : Option Bool
  antennaAzimuth : Option K
  antennaBeamwidth : Option K
  antennaGain : Option K
  eirpCapability : Option K
  cbsdCategory : Option String
deriving DecidableEq, Repr

-- What is read back from registration_json. An absent and an empty installationParam are the same.
structure Registration (K : Type) where
  cbsdCategory : Option String
  installationParam : Option (InstallationParam K)
  measCapability : List String
deriving DecidableEq, Repr

-- A lifecycle column is `none` when its text names no state.
structure Cbsd (K : Type) where
  id : Nat
  cbsdId : String
  fccId : String
  userId : String
  cbsdSerialNumber : String
  cbsdCategory : Option String
  certificateHash : Option String
  lifecycleState : Option CbsdState
  registration : Registration K
deriving DecidableEq, Repr

structure SyncStamp where
  fss : Nat
  gwbl : Nat
  exz : Nat
  dpa : Nat
deriving DecidableEq, Repr

structure AuthContext where
  channelType : ChannelType
  palId : Option String
  palLicenseExpiration : Option Int
deriving DecidableEq, Repr

-- What later requests read back from grant_json: the stamps and the authorization context.
structure GrantMeta where
  stamp : SyncStamp
  authContext : Option AuthContext
deriving DecidableEq, Repr

structure Grant (K : Type) where
  id : Nat
  grantId : String
  cbsdPk : Nat
  cbsdId : String
  channelType : ChannelType
  lowFrequency : Int
  highFrequency : Int
  maxEirp : Option K
  grantExpireTime : Int
  heartbeatInterval : Nat
  transmitExpireTime : Option Int
  authorized : Bool
  measReportRequested : Bool
  terminated : Bool
  lifecycleState : Option GrantState
  grantJson : GrantMeta
deriving DecidableEq, Repr

-- The two tables with the next free primary key of each.
structure Store (K : Type) where
  cbsds : List (Cbsd K)
  grants : List (Grant K)
  nextCbsdPk : Nat
  nextGrantPk : Nat
deriving DecidableEq, Repr

variable {K : Type}

namespace Store

def empty : Store K := ⟨[], [], 0, 0⟩

def findCbsd (store : Store K) (cbsdId : String) : Option (Cbsd K) :=
  store.cbsds.find? fun cbsd => cbsd.cbsdId = cbsdId

def findGrant (store : Store K) (grantId cbsdId : String) : Option (Grant K) :=
  store.grants.find? fun grant => grant.grantId = grantId ∧ grant.cbsdId = cbsdId

def findGrantPk (store : Store K) (pk : Nat) : Option (Grant K) := store.grants.find? fun grant => grant.id = pk

def activeGrants (store : Store K) (cbsdId : String) : List (Grant K) :=
  store.grants.filter fun grant => grant.cbsdId = cbsdId && !grant.terminated

-- An UPDATE of one row, addressed by its primary key.
def putGrant (store : Store K) (row : Grant K) : Store K :=
  { store with grants := store.grants.map fun grant => if grant.id = row.id then row else grant }

def putCbsd (store : Store K) (row : Cbsd K) : Store K :=
  { store with cbsds := store.cbsds.map fun cbsd => if cbsd.id = row.id then row else cbsd }

-- One and the same change of every grant of a CBSD.
def mapGrantsOf (store : Store K) (cbsdId : String) (change : Grant K → Grant K) : Store K :=
  { store with grants := store.grants.map fun grant => if grant.cbsdId = cbsdId then change grant else grant }

def addCbsd (store : Store K) (row : Cbsd K) : Store K :=
  { store with cbsds := store.cbsds ++ [{ row with id := store.nextCbsdPk }], nextCbsdPk := store.nextCbsdPk + 1 }

def addGrant (store : Store K) (row : Grant K) : Store K :=
  { store with grants := store.grants ++ [{ row with id := store.nextGrantPk }], nextGrantPk := store.nextGrantPk + 1 }

-- DELETE of a CBSD with the cascade over its grants.
def deleteCbsd (store : Store K) (pk : Nat) : Store K :=
  { store with
    cbsds := store.cbsds.filter fun cbsd => cbsd.id ≠ pk
    grants := store.grants.filter fun grant => grant.cbsdPk ≠ pk }

end Store

end SasCore.Registry
