import SasCore.Federal.Feeds

set_option autoImplicit false

namespace SasCore.Federal

open Injection

variable {K : Type} [Field K] [LinearOrder K] (env : FeedEnv K)

-- (record.get(key) or {}).get(inner), an error where what is read has no fields.
def innerField (record : Json K) (key inner : String) : Except String (Json K) :=
  match (record.field key).orEmpty with
  | none => .error "AttributeError"
  | some held => .ok (held.field inner)

def blockFrequencies (record : Json K) (key inner : String) : Except String (Option (Json K × Json K)) :=
  match innerField record key inner with
  | .error error => .error error
  | .ok held =>
      match held.orEmpty with
      | none => .error "AttributeError"
      | some block =>
          let low := block.field "lowFrequency"
          let high := block.field "highFrequency"
          .ok (if low.isNull || high.isNull then none else some (low, high))

def palBlock (record : Json K) : Except String (Option (Json K × Json K)) :=
  match (record.field "palBlock").orEmpty with
  | none => .error "AttributeError"
  | some block =>
      let low := block.field "lowFrequency"
      let high := block.field "highFrequency"
      .ok (if low.isNull || high.isNull then none else some (low, high))

def toRange (pair : Json K × Json K) : Except String (Option (Int × Int)) :=
  match pair.1.toInt env.readers, pair.2.toInt env.readers with
  | some low, some high => .ok (some (low, high))
  | _, _ => .error "ValueError"

def palFrequencies (record : Json K) : Except String (Option (Int × Int)) :=
  match blockFrequencies record "channelAssignment" "primaryAssignment" with
  | .error error => .error error
  | .ok (some pair) => toRange env pair
  | .ok none =>
      match palBlock record with
      | .error error => .error error
      | .ok none => .ok none
      | .ok (some pair) => toRange env pair

def licenseExpiration (record : Json K) : Except String (Option String) :=
  match innerField record "license" "licenseExpiration" with
  | .error error => .error error
  | .ok value =>
      if value.isNull then .ok none
      else
        match env.columnText value with
        | none => .error "InterfaceError"
        | some text => .ok (some text)

-- The row of a record, `ok none` for one that is skipped.
def palRow (record : Json K) : Except String (Option (PalRow K)) :=
  if !(record.field "palId").truthy then .ok none
  else
    match palFrequencies env record with
    | .error error => .error error
    | .ok none => .ok none
    | .ok (some (low, high)) =>
        match licenseExpiration env record, env.columnText (record.field "palId") with
        | .ok expiration, some palId =>
            .ok (some ⟨palId, (orValue (record.field "userId") (.text "")).toText env.readers, low, high,
              env.injection.upper ((orValue (record.field "licenseStatus") (.text "VALID")).toText env.readers), expiration, record⟩)
        | .error error, _ => .error error
        | _, none => .error "InterfaceError"

def upsertPalRow (row : PalRow K) (tables : Tables K) : Tables K :=
  { tables with pals := tables.pals.put (fun held => held.palId = row.palId) (fun _ => row) row }

def upsertPals : List (Json K) → Tables K × List String → Except String (Tables K × List String)
  | [], held => .ok held
  | record :: rest, held =>
      if !record.isObject then upsertPals rest held
      else
        match palRow env record with
        | .error error => .error error
        | .ok none => upsertPals rest held
        | .ok (some row) => upsertPals rest (upsertPalRow row held.1, held.2 ++ [row.palId])

def palRecords : Json K → List (Json K)
  | .array records => records
  | payload => [payload]

-- Two new rows of one id break the unique index at the next flush, which ends the transaction.
def replacePalRecords (payload : Json K) (tables : Tables K) : Except String (Tables K) :=
  if payload.isNull then .error "pal_payload_required"
  else
    match upsertPals env (palRecords payload) (tables, []) with
    | .error error => .error error
    | .ok (written, keep) =>
        if (written.pals.pending.map (·.palId)).Nodup then
          .ok (bumpInjectionGeneration .pal { written with pals := written.pals.doom fun row => row.palId ∉ keep })
        else .error "IntegrityError"

end SasCore.Federal
