import SasCore.Lib.Collect
import SasCore.Lib.Json
import SasCore.Iap.Models

set_option autoImplicit false

namespace SasCore.Iap

variable {K : Type} [Field K] [LinearOrder K]

def peerGrantRfId (sourceSasId grantId : String) : String := "peer/" ++ sourceSasId ++ "/" ++ grantId

def peerRegistration (record : Json K) : Option (Json K) := record.dictField "registration"

-- registration.installationParam when it is an object, else the top-level one.
def peerInstallationParam (record : Json K) : Option (Json K) :=
  match (peerRegistration record).bind (·.dictField "installationParam") with
  | some install => some install
  | none => record.dictField "installationParam"

def peerCbsdCategoryRaw (record : Json K) : Json K :=
  match peerRegistration record with
  | some reg => if reg.has "cbsdCategory" then reg.field "cbsdCategory" else record.field "cbsdCategory"
  | none => record.field "cbsdCategory"

section Readers

variable (readers : PyReaders K)

def peerCategory (raw : Json K) : Option String :=
  if raw.isNull then none
  else
    let category := PyText.upper (PyText.strip (raw.toText readers).toList)
    if category = ['A'] ∨ category = ['B'] then some (String.ofList category) else none

def optAnt (install : Json K) (key : String) : Option K :=
  if (install.field key).isNull then none else (install.field key).toFloat readers

-- One entry of `grants`, or `none` where the loop goes on with the next.
def peerGrantRange (grant : Json K) : Option (String × K × Int × Int) :=
  if !grant.isObject || (grant.field "terminated").isTrue then none
  else
    let rawId := (grant.field "id").strippedText readers
    if rawId = [] then none
    else
      (grant.dictField "operationParam").bind fun op =>
        ((op.field "maxEirp").toFloat readers).bind fun eirp =>
          let freq := op.field "operationFrequencyRange"
          ((freq.field "lowFrequency").toInt readers).bind fun lowHz =>
            ((freq.field "highFrequency").toInt readers).bind fun highHz =>
              if highHz ≤ lowHz then none else some (String.ofList rawId, eirp, lowHz, highHz)

-- The height is read outside the try block: `none` where float raises.
def grantRfInfosFromPeerCbsdRecord (record : Json K) (sourceSasId : String) : Option (List (GrantRfInfo K)) :=
  let cbsdId := (record.field "id").strippedText readers
  if cbsdId = [] then some []
  else
    match peerInstallationParam record with
    | none => some []
    | some install =>
        match (install.field "latitude").toFloat readers, (install.field "longitude").toFloat readers with
        | some lat, some lon =>
            let rawHeight := install.field "height"
            (if rawHeight.truthy then rawHeight.toFloat readers else some 0).map fun height =>
              ((record.field "grants").items.filterMap (peerGrantRange readers)).map fun (rawId, eirp, lowHz, highHz) =>
                { grantId := peerGrantRfId sourceSasId rawId
                  cbsdId := String.ofList cbsdId
                  latitude := lat
                  longitude := lon
                  heightM := height
                  heightIsAgl := !(install.field "heightType").isText "AMSL"
                  indoor := (install.field "indoorDeployment").truthy
                  lowHz := lowHz
                  highHz := highHz
                  maxEirpDbmMhz := eirp
                  isManagingSas := false
                  grantPk := none
                  sourceSasId := some sourceSasId
                  cbsdCategory := peerCategory readers (peerCbsdCategoryRaw record)
                  antennaAzimuthDeg := optAnt readers install "antennaAzimuth"
                  antennaBeamwidthDeg := optAnt readers install "antennaBeamwidth"
                  antennaGainDbi := optAnt readers install "antennaGain" }
        | _, _ => some []

-- Tuples (source_sas_id or "", grant_id) in the order of Python.
def peerKeyLe (a b : GrantRfInfo K) : Bool :=
  let first := a.sourceSasId.getD ""
  let second := b.sourceSasId.getD ""
  first < second || (first == second && decide (a.grantId ≤ b.grantId))

def grantRfInfosFromFrozenPeerCbsds (rows : List (Nat × Json K)) : Option (List (GrantRfInfo K)) :=
  ((rows.filter (·.2.isObject)).mapM fun row => grantRfInfosFromPeerCbsdRecord readers row.2 (toString row.1)).map
    fun collected => collected.flatten.mergeSort peerKeyLe

end Readers

theorem peer_record_foreign (readers : PyReaders K) (record : Json K) (sourceSasId : String) (infos : List (GrantRfInfo K))
    (parsed : grantRfInfosFromPeerCbsdRecord readers record sourceSasId = some infos) :
    ∀ info ∈ infos, info.isManagingSas = false ∧ info.grantPk = none := by
  rw [grantRfInfosFromPeerCbsdRecord] at parsed
  intro info member
  dsimp only at parsed
  split at parsed
  · cases parsed
    cases member
  · split at parsed
    · cases parsed
      cases member
    · split at parsed
      · obtain ⟨height, _, same⟩ := Option.map_eq_some_iff.mp parsed
        rw [← same] at member
        obtain ⟨entry, _, isInfo⟩ := List.mem_map.mp member
        rw [← isInfo]
        exact ⟨rfl, rfl⟩
      · cases parsed
        cases member

-- No peer row becomes a grant of the managing SAS.
theorem peer_infos_foreign (readers : PyReaders K) (rows : List (Nat × Json K)) (infos : List (GrantRfInfo K))
    (parsed : grantRfInfosFromFrozenPeerCbsds readers rows = some infos) :
    ∀ info ∈ infos, info.isManagingSas = false ∧ info.grantPk = none := by
  obtain ⟨collected, all, same⟩ := Option.map_eq_some_iff.mp parsed
  intro info member
  rw [← same, List.mem_mergeSort] at member
  obtain ⟨group, groupMember, inGroup⟩ := List.mem_flatten.mp member
  obtain ⟨row, _, found⟩ := Collect.mem_source _ _ _ all group groupMember
  exact peer_record_foreign readers row.2 (toString row.1) group found info inGroup

end SasCore.Iap
