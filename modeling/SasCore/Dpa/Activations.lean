import SasCore.Federal.Feeds

set_option autoImplicit false

namespace SasCore.Dpa

open Injection Federal Cpas

variable {K : Type} [Field K] [LinearOrder K]

def channelHz : Int := 10000000

inductive MovelistFault where
  | evaluation | other
deriving DecidableEq, Repr

-- What the service takes from outside: the parsed KML files of the catalogue, the clock, the movelist of an
-- activation (`ok none` when its channel is not protected, the evaluation faults being those that are caught) and
-- the grants with their ranges.
structure DpaEnv (K : Type) where
  feeds : FeedEnv K
  kmlRoots : Except String (List Xml)
  now : Int
  movelistOf : Tables K → Activation → Except MovelistFault (Option (List String))
  activeGrants : Except String (List (String × Int × Int))

section Channels

-- while cur + step_hz <= high_hz, with the number of rounds bounded by fuel
def channelsFrom (high : Int) : Nat → Int → List (Int × Int)
  | 0, cur => if cur < high then [(cur, high)] else []
  | fuel + 1, cur =>
      if cur + channelHz ≤ high then (cur, cur + channelHz) :: channelsFrom high fuel (cur + channelHz)
      else if cur < high then [(cur, high)]
      else []

-- The first bound of the channel grid that is not below low.
def channelStart (low : Int) : Int :=
  let aligned := if low % channelHz ≠ 0 then low - low % channelHz else low
  if aligned < low then aligned + channelHz else aligned

def channelize (low high : Int) : List (Int × Int) :=
  let start := channelStart low
  if high ≤ low then []
  else if high ≤ start then [(low, high)]
  else (if low < start then [(low, start)] else []) ++ channelsFrom high (high - start).toNat start

end Channels

section Catalogue

variable (env : FeedEnv K)

def trimmed (text : String) : String := String.ofList (PyText.strip text.toList)

def extendedDataMap (placemark : Xml) : List (String × String) :=
  (((placemark.inside (kml "ExtendedData")).flatMap (·.inside (kml "Data"))).filterMap fun node =>
    match node.get "name", (node.find (kml "value")).bind (·.text) with
    | some key, some value => if key = "" then none else some (key, trimmed value)
    | _, _ => none).foldl (fun dict entry => PyDict.set entry.1 entry.2 dict) []

-- The bounds of a range such as 3550-3650, in Hz.
def parseFreqRangeMHz (raw : Option String) : Option (Int × Int) :=
  let text := (raw.getD "").toList
  if '-' ∈ text then
    let left := text.takeWhile fun c => c != '-'
    let right := (text.dropWhile fun c => c != '-').drop 1
    match env.readFloat (PyText.strip left), env.readFloat (PyText.strip right) with
    | some low, some high =>
        if high ≤ low then none
        else some (env.readers.truncate (low * (1000000 : Nat)), env.readers.truncate (high * (1000000 : Nat)))
    | _, _ => none
  else none

def placemarkDefinition (placemark : Xml) : Option DpaDefinition :=
  match placemark.find (kml "name") with
  | none => none
  | some name =>
      let dpaId := trimmed (name.text.getD "")
      if dpaId = "" then none
      else
        (parseFreqRangeMHz env (PyDict.lookup (extendedDataMap placemark) "freqRangeMHz")).map fun range =>
          ⟨dpaId, range.1, range.2, true⟩

def definitionsFromKmlRoot (root : Xml) : List DpaDefinition :=
  (root.iter (kml "Placemark")).filterMap (placemarkDefinition env)

-- by_id[definition.dpa_id] = definition
def byId (definitions : List DpaDefinition) (known : List (String × DpaDefinition)) : List (String × DpaDefinition) :=
  definitions.foldl (fun dict definition => PyDict.set definition.dpaId definition dict) known

def loadCatalogueFromPaths (roots : List Xml) : List DpaDefinition :=
  (byId (roots.flatMap (definitionsFromKmlRoot env)) []).map (·.2)

def listCatalogue (tables : Tables K) : List DpaDefinition := tables.catalogue.all.head?.getD []

def getCatalogueDefinition (tables : Tables K) (dpaId : String) : Option DpaDefinition :=
  (listCatalogue tables).find? fun definition => definition.dpaId = dpaId

def persistCatalogue (definitions : List DpaDefinition) (tables : Tables K) : Tables K :=
  { tables with catalogue := tables.catalogue.put (fun _ => true) (fun _ => definitions) definitions }

def upsertCatalogueDefinitions (definitions : List DpaDefinition) (tables : Tables K) : Tables K :=
  let known := (listCatalogue tables).filter fun definition => definition.dpaId != ""
  persistCatalogue ((byId definitions (byId known [])).map (·.2)) tables

def channelInDefinition (definition : DpaDefinition) (channel : Int × Int) : Bool :=
  (channelize definition.freqLowHz definition.freqHighHz).contains channel

end Catalogue

section Rows

def clearActivations (tables : Tables K) : Tables K := { tables with activations := tables.activations.clear }

def setActivations (change : Orm.Table Activation → Orm.Table Activation) (tables : Tables K) : Tables K :=
  { tables with activations := change tables.activations }

-- An empty source is left out.
def activationRow (now : Int) (dpaId : String) (channel : Int × Int) (movelist : List String) (source : Option String) :
    Activation := ⟨dpaId, channel.1, channel.2, movelist, now, source.filter (· ≠ "")⟩

def upsertActivation (now : Int) (dpaId : String) (channel : Int × Int) (movelist : List String) (source : Option String)
    (tables : Tables K) : Tables K :=
  let flushed := tables.flush
  let found := sameActivation dpaId channel.1 channel.2
  let written := setActivations (·.put found (fun held => activationRow now dpaId channel movelist (source.or held.source))
    (activationRow now dpaId channel movelist source)) flushed
  if flushed.activations.all.any found then written else written.flush

def insertActivation (now : Int) (dpaId : String) (channel : Int × Int) (tables : Tables K) : Tables K :=
  setActivations (·.add ⟨dpaId, channel.1, channel.2, [], now, none⟩) tables

def removeActivation (dpaId : String) (channel : Int × Int) (tables : Tables K) : Tables K :=
  setActivations (·.doom (sameActivation dpaId channel.1 channel.2)) tables

def activateAllEscMonitored (now : Int) (definitions : List DpaDefinition) (tables : Tables K) : Tables K :=
  ((definitions.filter (·.escMonitored)).flatMap fun definition =>
    (channelize definition.freqLowHz definition.freqHighHz).map fun channel => (definition.dpaId, channel)).foldl
      (fun held entry => insertActivation now entry.1 entry.2 held) tables

end Rows

section Service

variable (env : DpaEnv K)

def pendingMovelists (tables : Tables K) : Except MovelistFault (List ((String × Int × Int) × List String)) :=
  (tables.activations.all.mapM fun row =>
    (env.movelistOf tables row).map fun moved => moved.map fun list => ((trimmed row.dpaId, row.lowHz, row.highHz), list)).map
      fun entries => entries.filterMap id

-- Every channel is evaluated before a row is updated.
def refreshActivationMovelists (tables : Tables K) : Except MovelistFault (Tables K) :=
  (pendingMovelists env tables).map fun entries =>
    entries.foldl (fun held entry => upsertActivation env.now entry.1.1 entry.1.2 entry.2 none held) tables

-- The grants that overlap a channel, all of which have to move.
def overlappingGrants (grants : List (String × Int × Int)) (channel : String × Int × Int) : List String :=
  (grants.filter fun grant => grant.2.1 < channel.2.2 && channel.2.1 < grant.2.2).map (·.1)

def refreshOrFailClosedMovelists (channels : List (String × Int × Int)) (tables : Tables K) : Except String (Tables K) :=
  match refreshActivationMovelists env tables with
  | .ok refreshed => .ok refreshed
  | .error .other => .error "movelist"
  | .error .evaluation =>
      env.activeGrants.map fun grants =>
        channels.foldl (fun held channel =>
          upsertActivation env.now channel.1 channel.2 (overlappingGrants grants channel) none held) tables

def loadDpas (committed : Tables K) : Except String (Tables K) :=
  match env.kmlRoots with
  | .error error => .error error
  | .ok roots =>
      let definitions := loadCatalogueFromPaths env.feeds roots
      if definitions = [] then .error "DPA KML parsed zero placemarks"
      else .ok (activateAllEscMonitored env.now definitions (persistCatalogue definitions (clearActivations committed))).flush

def bulkDpaActivation (activate : Option Bool) (committed : Tables K) : Except String (Tables K) :=
  match activate with
  | none => .ok committed
  | some false => .ok (clearActivations committed).flush
  | some true =>
      let catalogue := listCatalogue committed
      if catalogue = [] then loadDpas env committed
      else
        let definitions := catalogue.filter fun definition => definition.dpaId != ""
        .ok (activateAllEscMonitored env.now definitions (clearActivations committed)).flush

def parseRequestFreq (body : Json K) : Option (Int × Int) :=
  let range := body.field "frequencyRange"
  match (range.field "lowFrequency").toInt env.feeds.readers, (range.field "highFrequency").toInt env.feeds.readers with
  | some low, some high => if high ≤ low then none else some (low, high)
  | _, _ => none

-- The DPA and the channel a request names.
def requestedChannel (body : Json K) : Option (String × Int × Int) :=
  match body.field "dpaId", parseRequestFreq env body with
  | .text dpaId, some channel => if trimmed dpaId = "" then none else some (trimmed dpaId, channel)
  | _, _ => none

def activateDpa (body : Json K) (committed : Tables K) : Except String (Tables K) :=
  match requestedChannel env body with
  | none => .ok committed
  | some (dpaId, channel) =>
      match getCatalogueDefinition committed dpaId with
      | none => .ok committed
      | some definition =>
          if channelInDefinition definition channel then
            (refreshOrFailClosedMovelists env [(dpaId, channel)] (upsertActivation env.now dpaId channel [] none committed)).map
              (·.flush)
          else .ok committed

def deactivateDpa (body : Json K) (committed : Tables K) : Tables K :=
  match requestedChannel env body with
  | none => committed
  | some (dpaId, channel) => (removeActivation dpaId channel committed).flush

end Service

end SasCore.Dpa
