import SasCore.Dpa.Activations

set_option autoImplicit false

namespace SasCore.Federal

open Injection Dpa

variable {K : Type} [Field K] [LinearOrder K] (env : DpaEnv K)

def isLeading (c : Char) : Bool := c = '\ufeff' || c = ' ' || c = '\t' || c = '\r' || c = '\n'

def scheduledDpaLooksLikeKml (text : List Char) : Bool := (text.dropWhile isLeading).head? = some '<'

-- The activations of a document, `none` for another shape.
def scheduledActivations (payload : Json K) : Option (List (Json K)) :=
  match payload, payload.field "activations" with
  | .object _, .array activations => some (activations.filter (·.isObject))
  | .array activations, _ => some (activations.filter (·.isObject))
  | payload, _ => if (payload.field "dpaId").truthy then some [payload] else none

def scheduledChannel (tables : Tables K) (activation : Json K) : Except String (String × Int × Int) :=
  let dpaId := String.ofList ((activation.field "dpaId").strippedText env.feeds.readers)
  let range := orElseEmpty (activation.field "frequencyRange")
  match (range.field "lowFrequency").toInt env.feeds.readers, (range.field "highFrequency").toInt env.feeds.readers with
  | some low, some high =>
      if dpaId = "" ∨ high ≤ low then .error "scheduled_dpa_invalid_activation"
      else
        match getCatalogueDefinition tables dpaId with
        | none => .error ("scheduled_dpa_unknown_dpaId:" ++ dpaId)
        | some definition =>
            if channelInDefinition definition (low, high) then .ok (dpaId, low, high)
            else .error ("scheduled_dpa_channel_not_in_catalogue:" ++ dpaId)
  | _, _ => .error "scheduled_dpa_invalid_frequency"

def applyScheduledDpaJson (text : String) (tables : Tables K) : Except String (Tables K × List (String × Int × Int)) :=
  match env.feeds.readers.loads text with
  | none => .error "scheduled_dpa_invalid_json"
  | some payload =>
      match scheduledActivations payload with
      | none => .error "scheduled_dpa_missing_activations"
      | some [] => .error "scheduled_dpa_empty_activations"
      | some activations => (activations.mapM (scheduledChannel env tables)).map fun channels => (tables, channels)

def definitionChannels (definition : DpaDefinition) : Except String (List (String × Int × Int)) :=
  match channelize definition.freqLowHz definition.freqHighHz with
  | [] => .error ("scheduled_dpa_kml_no_channels:" ++ definition.dpaId)
  | channels => .ok (channels.map fun channel => (definition.dpaId, channel))

def applyScheduledDpaKml (text : String) (tables : Tables K) : Except String (Tables K × List (String × Int × Int)) :=
  match env.feeds.parseXml text with
  | none => .error "scheduled_dpa_invalid_kml"
  | some root =>
      match definitionsFromKmlRoot env.feeds root with
      | [] => .error "scheduled_dpa_kml_empty"
      | definitions =>
          (definitions.mapM definitionChannels).map fun channels =>
            (upsertCatalogueDefinitions definitions tables, channels.flatten)

def scheduledSource : String := "scheduled_dpa"

def dropScheduled (tables : Tables K) : Tables K :=
  setActivations (·.doom fun row => row.source = some scheduledSource) tables

def activateScheduled (channels : List (String × Int × Int)) (tables : Tables K) : Tables K :=
  channels.foldl (fun held channel => upsertActivation env.now channel.1 channel.2 [] (some scheduledSource) held) tables

def applyScheduledDpa (body : ByteArray) (tables : Tables K) : Except String (Tables K) :=
  match String.fromUTF8? body with
  | none => .error "UnicodeDecodeError"
  | some text =>
      match (if scheduledDpaLooksLikeKml text.toList then applyScheduledDpaKml env text tables
        else applyScheduledDpaJson env text tables) with
      | .error error => .error error
      | .ok (stored, channels) =>
          (refreshOrFailClosedMovelists env channels (activateScheduled env channels (dropScheduled stored))).map
            (bumpSyncMeta .dpa)

end SasCore.Federal
