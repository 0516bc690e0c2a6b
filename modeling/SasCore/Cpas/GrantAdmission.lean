import SasCore.Cpas.IapStage
import SasCore.Iap.Admission
import SasCore.Registry.Operations

set_option autoImplicit false

namespace SasCore.Cpas

open Registry

variable {K : Type} [Field K] [LinearOrder K]

def proposedGrantId : String := "__proposed__/iap_admission"

-- What the admission of a grant takes from the records other than grants: the protection points left for a
-- CBSD (`none` where building them raises), the peer grants (`none` for a malformed record), the coupling with the
-- points it comes with (`none` where it cannot be had), and the arithmetic of doubles.
structure GrantAdmissionEnv (K : Type) [Field K] [LinearOrder K] where
  iapEnabled : Bool
  resolvedPoints : Cbsd K → Option (List (Iap.ProtectionPoint K))
  peerGrants : Option (List (Iap.GrantRfInfo K))
  coupling : List (Iap.ProtectionPoint K) → Option (Iap.InterferenceCoupling K × List (Iap.ProtectionPoint K))
  model : Iap.RadioModel K
  arith : Rounding.RoundedArith K
  backends : Dpa.DpaBackends K
  channels : List (Dpa.ProtectedDpaChannel K)

section Admission

variable (env : GrantAdmissionEnv K)

def localRf (store : Store K) (grant : Grant K) : Option (Iap.GrantRfInfo K) :=
  (store.findCbsd grant.cbsdId).bind fun cbsd => frozenToIapGrantRf (frozenLocalGrantFromOrm grant cbsd)

def collectLocalAuthorizedGrants (store : Store K) : List (Iap.GrantRfInfo K) :=
  (store.grants.filter fun grant => !grant.terminated).filterMap (localRf store)

def proposedCategory (cbsd : Cbsd K) : Option String :=
  match PyText.stripUpper ((textOr cbsd.registration.cbsdCategory cbsd.cbsdCategory).getD "") with
  | ['A'] => some "A"
  | ['B'] => some "B"
  | _ => none

def proposedGrantRfInfo (cbsd : Cbsd K) (lowHz highHz : Int) (maxEirp : K) : Option (Iap.GrantRfInfo K) :=
  (Dpa.installedAt cbsd).map fun (inst, lat, lon, height) =>
    { grantId := proposedGrantId
      cbsdId := cbsd.cbsdId
      latitude := lat
      longitude := lon
      heightM := height
      heightIsAgl := upperOf (Dpa.heightTypeOf inst) != ['A', 'M', 'S', 'L']
      indoor := inst.indoorDeployment.getD false
      lowHz := lowHz
      highHz := highHz
      maxEirpDbmMhz := maxEirp
      cbsdCategory := proposedCategory cbsd
      antennaAzimuthDeg := inst.antennaAzimuth
      antennaBeamwidthDeg := inst.antennaBeamwidth
      antennaGainDbi := inst.antennaGain }

def proposalHasApplicableIapConstraint (proposed : Iap.GrantRfInfo K) (points : List (Iap.ProtectionPoint K)) : Bool :=
  points.any fun point =>
    (Iap.grantsInNeighborhood env.model point [proposed]).any (fun g => g.grantId == proposed.grantId) &&
      (Iap.iapChannels env.model point).any fun channel => Iap.grantOverlapsChannel proposed channel point.entityKind

-- Local grants of the same CBSD on frequencies of the proposal do not count.
def admissionBaseline (locals peers : List (Iap.GrantRfInfo K)) (proposed : Iap.GrantRfInfo K) : List (Iap.GrantRfInfo K) :=
  (locals ++ peers).filter fun g =>
    !(g.isManagingSas && g.cbsdId == proposed.cbsdId && (g.lowHz < proposed.highHz && g.highHz > proposed.lowHz))

def headroomDenies (proposed : Iap.GrantRfInfo K) (points : List (Iap.ProtectionPoint K)) (locals peers : List (Iap.GrantRfInfo K)) :
    Bool :=
  match env.coupling points with
  | none => true
  | some (coupling, ctxPoints) =>
      match Iap.evaluateProposalAgainstHeadroom env.arith env.model coupling proposed (admissionBaseline locals peers proposed)
        (if ctxPoints.isEmpty then points else ctxPoints) with
      | .error _ => true
      | .ok decision => !decision.allow

def proposedGrantViolatesIap (db : Database K) (cbsd : Cbsd K) (lowHz highHz : Int) (maxEirp : K) : Bool :=
  if !env.iapEnabled then false
  else
    match env.resolvedPoints cbsd with
    | none => true
    | some points =>
        if points.isEmpty then false
        else
          match proposedGrantRfInfo cbsd lowHz highHz maxEirp with
          | none => true
          | some proposed =>
              if !proposalHasApplicableIapConstraint env proposed points then false
              else if !coherentGenerationAvailable db then true
              else
                match env.peerGrants with
                | none => true
                | some peers => headroomDenies env proposed points (collectLocalAuthorizedGrants db.store) peers

-- The checks of process_grant with the two that read the grants.
def admissionChecks (db : Database K) (checks : GrantChecks K) : GrantChecks K :=
  { checks with
    dpa := Dpa.proposedGrantViolatesDpa env.backends env.channels
    iap := fun store => proposedGrantViolatesIap env { db with store := store } }

def admissionItem (db : Database K) (item : GrantItem K) : GrantItem K :=
  { item with checks := admissionChecks env db item.checks }

end Admission

end SasCore.Cpas
