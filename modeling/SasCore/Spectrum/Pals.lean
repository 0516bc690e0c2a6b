import SasCore.Federal.Pal
import SasCore.Iap.ProtectionPoints

set_option autoImplicit false
set_option linter.unusedSectionVars false

namespace SasCore.Spectrum

open Injection Federal

variable {K : Type} [Field K] [LinearOrder K] (env : FeedEnv K)

def primaryAssignment (low high : Int) : Json K :=
  .object [("primaryAssignment", .object [("lowFrequency", .int low), ("highFrequency", .int high)])]

-- The expiration column fills a missing license, or a license object without it.
def setLicense (expiration : String) (data : Json K) : Json K :=
  if !data.has "license" then data.put "license" (.object [("licenseExpiration", .text expiration)])
  else if (data.field "license").isObject then
    data.put "license" ((data.field "license").setDefault "licenseExpiration" (.text expiration))
  else data

def palRecordToDict (row : PalRow K) : Json K :=
  let data := if row.record.isObject then row.record else .object []
  let named := (data.setDefault "palId" (.text row.palId)).setDefault "userId" (.text row.userId)
  let assigned := named.setDefault "channelAssignment" (primaryAssignment row.lowFrequency row.highFrequency)
  let listed := assigned.setDefault "licenseStatus" (.text row.licenseStatus)
  match row.licenseExpiration.filter (· ≠ "") with
  | none => listed
  | some expiration => setLicense expiration listed

-- The PAL rows, and then the records injected before there was a table of them.
def loadPalRecords (rows : List (PalRow K)) (legacy : List (Option (Json K))) : Except String (List (Json K)) :=
  let stored := (rows.map palRecordToDict).filter fun record => (record.field "palId").truthy
  let injected := (legacy.filterMap id).filter fun record => record.isObject && (record.field "palId").truthy
  if (stored ++ injected).all fun record => (record.field "palId").hashable then
    .ok (stored ++ injected.filter fun record => !stored.any fun seen => (seen.field "palId").equal (record.field "palId"))
  else .error "TypeError"

-- spectrum_inquiry_service._pal_freq, which does not look at palBlock.
def inquiryPalFreq (pal : Json K) : Except String (Option (Int × Int)) :=
  match blockFrequencies pal "channelAssignment" "primaryAssignment" with
  | .error error => .error error
  | .ok none => .ok none
  | .ok (some pair) => toRange env pair

-- ppa_service._pal_freq, which takes what int rejects for no range.
def ppaPalFreq (pal : Json K) : Except String (Option (Int × Int)) :=
  match blockFrequencies pal "channelAssignment" "primaryAssignment" with
  | .error error => .error error
  | .ok (some pair) => .ok ((toRange env pair).toOption.getD none)
  | .ok none =>
      match palBlock pal with
      | .error error => .error error
      | .ok none => .ok none
      | .ok (some pair) => .ok ((toRange env pair).toOption.getD none)

section Dictionary

variable (row : PalRow K) (isDict : row.record.isObject = true)

include isDict

theorem license_keeps (expiration key : String) (data : Json K) (dict : data.isObject = true) (apart : "license" ≠ key) :
    (setLicense expiration data).field key = data.field key := by
  rw [setLicense]
  split
  · rw [Json.field_put _ _ _ _ dict, if_neg apart]
  · split
    · rw [Json.field_put _ _ _ _ dict, if_neg apart]
    · rfl

-- A key that the columns do not fill in is read as in the record.
theorem dict_field (key : String) (palId : "palId" ≠ key) (userId : "userId" ≠ key) (assignment : "channelAssignment" ≠ key)
    (status : "licenseStatus" ≠ key) (license : "license" ≠ key) : (palRecordToDict row).field key = row.record.field key := by
  have listed : ((((row.record.setDefault "palId" (.text row.palId)).setDefault "userId" (.text row.userId)).setDefault
      "channelAssignment" (primaryAssignment row.lowFrequency row.highFrequency)).setDefault "licenseStatus"
        (.text row.licenseStatus)).field key = row.record.field key := by
    simp [Json.field_set_default, Json.set_default_object, isDict, palId, userId, assignment, status]
  rw [palRecordToDict]
  simp only [isDict, if_true]
  split
  · exact listed
  · rw [license_keeps row isDict _ _ _ (by simp [Json.set_default_object, isDict]) license]
    exact listed

-- The assignment of the record, or that of the columns where the record has none.
theorem dict_assignment : (palRecordToDict row).field "channelAssignment" =
    if row.record.has "channelAssignment" then row.record.field "channelAssignment"
    else primaryAssignment row.lowFrequency row.highFrequency := by
  have listed : ((((row.record.setDefault "palId" (.text row.palId)).setDefault "userId" (.text row.userId)).setDefault
      "channelAssignment" (primaryAssignment row.lowFrequency row.highFrequency)).setDefault "licenseStatus"
        (.text row.licenseStatus)).field "channelAssignment" =
      if row.record.has "channelAssignment" then row.record.field "channelAssignment"
      else primaryAssignment row.lowFrequency row.highFrequency := by
    by_cases known : row.record.has "channelAssignment" = true
    · simp [Json.field_set_default, Json.has_set_default, Json.set_default_object, isDict, known]
    · simp [Json.field_set_default, Json.has_set_default, Json.set_default_object, isDict, known]
  rw [palRecordToDict]
  simp only [isDict, if_true]
  split
  · exact listed
  · rw [license_keeps row isDict _ _ _ (by simp [Json.set_default_object, isDict]) (by decide)]
    exact listed

end Dictionary

end SasCore.Spectrum
