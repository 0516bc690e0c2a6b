import SasCore.Dpa.Protection
import SasCore.Lib.FirstMatch
import SasCore.Lib.Json
import Mathlib.Data.Fintype.EquivFin

set_option autoImplicit false
set_option linter.unusedSectionVars false

-- The movelist refresh on the activation rows as they are stored.
namespace SasCore.Dpa.StoredRows

variable {K : Type} [Field K] [LinearOrder K]

inductive PathLossFault where
  | unavailable
  | other (message : String)
deriving DecidableEq, Repr

-- The last two are what reading a stored range raises: fr.get on a value that is no object, int on one that is no number.
inductive RefreshFault where
  | collection (message : String)
  | pathLoss (message : String)
  | attributeError
  | intError
deriving DecidableEq, Repr

abbrev PathLossFn (K : Type) := DpaGrantRf K → K → K → K → Except PathLossFault K

-- A row by the value its text parses to, `none` where json.loads refuses it.
abbrev Row (K : Type) := Option (Json K)

structure RangeKey where
  dpaId : String
  lowHz : Int
  highHz : Int
deriving DecidableEq, Repr

structure MovelistWrite where
  key : RangeKey
  movelist : List String
  writtenAt : String
deriving DecidableEq, Repr

-- The arguments of a refresh, with what collect_active_dpa_grants gives for them and the clock at each update.
structure RefreshArguments (K : Type) where
  pathLoss : PathLossFn K
  localGrants : Option (List (DpaGrantRf K))
  peerGrants : List (DpaGrantRf K)
  eirpByGrantId : List (String × K)
  excludeGrantIds : List String
  collected : Except String (List (DpaGrantRf K))
  clock : Nat → String

def defaultThresholdDbmPer10mhz : K := -(144 : Nat)
def defaultRefHeightM : K := (50 : Nat)

section Rows

variable (readers : PyReaders K)

def parseActivationRow (row : Row K) : Option (Json K) := row.filter (·.isObject)

-- The rows that both loops look at: a row that is no object or has no field is passed over.
def activation (row : Row K) : Option (Json K) := (parseActivationRow row).filter (·.truthy)

def listActiveActivations (rows : List (Row K)) : List (Json K) := rows.filterMap activation

def dpaIdOf (data : Json K) : String := String.ofList ((data.field "dpaId").strippedText readers)

-- `none` where the evaluation skips the row.
def rangeOf (act : Json K) : Option (Int × Int) :=
  match (act.field "frequencyRange").orEmpty with
  | none => none
  | some fr =>
      match (fr.field "lowFrequency").toInt readers, (fr.field "highFrequency").toInt readers with
      | some low, some high => some (low, high)
      | _, _ => none

def rangeKey (act : Json K) : Option RangeKey :=
  (rangeOf readers act).map fun range => ⟨dpaIdOf readers act, range.1, range.2⟩

-- fr.get(bound, -1)
def boundOr (fr : Json K) (bound : String) : Json K := if fr.has bound then fr.field bound else .int (-1)

-- The test of the update: it compares the stored name as it is and reads both bounds without a guard.
def sameKey (key : RangeKey) (row : Row K) : Except RefreshFault Bool :=
  match activation row with
  | none => .ok false
  | some data =>
      if !(data.field "dpaId").isText key.dpaId then .ok false
      else
        match (data.field "frequencyRange").orEmpty with
        | none => .error .attributeError
        | some fr =>
            match (boundOr fr "lowFrequency").toInt readers with
            | none => .error .intError
            | some low =>
                if low ≠ key.lowHz then .ok false
                else
                  match (boundOr fr "highFrequency").toInt readers with
                  | none => .error .intError
                  | some high => .ok (decide (high = key.highHz))

def activationKey (key : RangeKey) : String := key.dpaId ++ "|" ++ toString key.lowHz ++ "|" ++ toString key.highHz

def activationPayload (write : MovelistWrite) (source : Json K) : Json K :=
  .object ([("dpaId", .text write.key.dpaId),
    ("frequencyRange", .object [("lowFrequency", .int write.key.lowHz), ("highFrequency", .int write.key.highHz)]),
    ("activationKey", .text (activationKey write.key)),
    ("movelist", .array (write.movelist.map .text)),
    ("activatedAt", .text write.writtenAt),
    ("active", .bool true)] ++ if source.truthy then [("source", source)] else [])

def rewritten (write : MovelistWrite) (row : Row K) : Row K :=
  some (activationPayload write ((activation row).elim .null (·.field "source")))

def upsertActivation (write : MovelistWrite) (rows : List (Row K)) : Except RefreshFault (List (Row K)) :=
  FirstMatch.upsert (sameKey readers write.key) (rewritten write) (some (activationPayload write .null)) rows

end Rows

section Channels

variable (readers : PyReaders K) (geometryOf : Json K → Geometry K)

def byId (catalogue : List (Json K)) : List (String × Json K) :=
  PyDict.update (catalogue.filterMap fun item =>
    match item.field "dpaId" with
    | .text dpaId => some (dpaId, item)
    | _ => none) []

def neighborhoodOf (item : Json K) : List (String × K) :=
  match item.field "neighborhoodKm" with
  | .object fields => fields.filterMap fun entry => (entry.2.toFloat readers).map fun km => (entry.1, km)
  | _ => []

def activeChannel (item : Json K) (key : RangeKey) : ProtectedDpaChannel K :=
  let params := (item.dictField "protectionParams").getD (.object [])
  { dpaId := key.dpaId
    lowHz := key.lowHz
    highHz := key.highHz
    reason := .active
    geometry := (item.dictField "geometry").map geometryOf
    neighborhoodKm := neighborhoodOf readers item
    thresholdDbmPer10mhz := ((params.field "protectionCritDbmPer10MHz").toFloat readers).getD defaultThresholdDbmPer10mhz
    refHeightM := ((params.field "refHeightMeters").toFloat readers).getD defaultRefHeightM }

def addChannel (item : Json K) (range : Int × Int) (out : List (RangeKey × ProtectedDpaChannel K)) :
    List (RangeKey × ProtectedDpaChannel K) :=
  let key : RangeKey := ⟨dpaIdOf readers item, range.1, range.2⟩
  if key.dpaId = "" ∨ (PyDict.lookup out key).isSome then out
  else PyDict.set key (activeChannel readers geometryOf item key) out

def addActivation (catalogue : List (Json K)) (out : List (RangeKey × ProtectedDpaChannel K)) (act : Json K) :
    List (RangeKey × ProtectedDpaChannel K) :=
  match PyDict.lookup (byId catalogue) (dpaIdOf readers act), rangeOf readers act with
  | some item, some range => addChannel readers geometryOf item range out
  | _, _ => out

def channelKey (channel : ProtectedDpaChannel K) : RangeKey := ⟨channel.dpaId, channel.lowHz, channel.highHz⟩

def channelOrder (first second : ProtectedDpaChannel K) : Bool :=
  first.dpaId < second.dpaId || (first.dpaId = second.dpaId &&
    (first.lowHz < second.lowHz || (first.lowHz = second.lowHz && first.highHz ≤ second.highHz)))

-- list_protected_dpa_channels as far as the refresh keeps it: the active ones, which are listed before any other and so
-- never give way to one that only an ESC rule protects.
def listProtectedDpaChannels (catalogue : List (Json K)) (rows : List (Row K)) : List (ProtectedDpaChannel K) :=
  (((listActiveActivations rows).foldl (addActivation readers geometryOf catalogue) []).map (·.2)).mergeSort channelOrder

def byKey (catalogue : List (Json K)) (rows : List (Row K)) : List (RangeKey × ProtectedDpaChannel K) :=
  PyDict.update ((listProtectedDpaChannels readers geometryOf catalogue rows).map fun channel => (channelKey channel, channel)) []

end Channels

section Evaluation

variable (backends : DpaBackends K) (args : RefreshArguments K)

def adjusted (eirpByGrantId : List (String × K)) (grant : DpaGrantRf K) : DpaGrantRf K :=
  match PyDict.lookup eirpByGrantId grant.grantId with
  | some eirp => { grant with maxEirpDbmMhz := eirp }
  | none => grant

def refreshGrants : Except RefreshFault (List (DpaGrantRf K)) :=
  match args.localGrants, args.collected with
  | some grants, _ =>
      .ok ((grants.map (adjusted args.eirpByGrantId)).filter (fun grant => !args.excludeGrantIds.contains grant.grantId)
        ++ args.peerGrants)
  | none, .ok grants => .ok (grants ++ args.peerGrants)
  | none, .error message => .error (.collection message)

-- evaluate_protected_channel where the path loss may raise: the first grant without a path loss decides, and only a path
-- loss that is unavailable is caught.
def evaluateOrRaise (pathLoss : PathLossFn K) (channel : ProtectedDpaChannel K) (grants : List (DpaGrantRf K)) :
    Except RefreshFault (ChannelEvaluation K) :=
  let quiet := { backends with pathLoss := fun grant lat lon height => (pathLoss grant lat lon height).toOption }
  let evaluation := evaluateProtectedChannel quiet channel grants defaultDpaMarginDb
  match channel.geometry.bind polygonRepresentativePoint with
  | none => .ok evaluation
  | some (latRx, lonRx) =>
      match (grants.filter fun g => overlapsChannel g.lowHz g.highHz channel).findSome? fun g =>
          match pathLoss g latRx lonRx channel.refHeightM with
          | .ok _ => none
          | .error fault => some fault with
      | some (.other message) => .error (.pathLoss message)
      | _ => .ok evaluation

def movedLocal (grants : List (DpaGrantRf K)) (channel : ProtectedDpaChannel K) : Except RefreshFault (List String) :=
  let neighborhood := filterGrantsInNeighborhood backends channel grants
  (evaluateOrRaise backends args.pathLoss channel neighborhood).map fun evaluation =>
    evaluation.movelist.filter fun grantId => ((neighborhood.filter (·.isManagingSas)).map (·.grantId)).contains grantId

end Evaluation

section Refresh

variable (readers : PyReaders K) (backends : DpaBackends K) (args : RefreshArguments K)
variable (channels : List (RangeKey × ProtectedDpaChannel K))

-- The key and the channel of a row that is evaluated.
def evaluated (act : Json K) : Option (RangeKey × ProtectedDpaChannel K) :=
  (rangeKey readers act).bind fun key => (PyDict.lookup channels key).map fun channel => (key, channel)

def pendingFrom (grants : List (DpaGrantRf K)) : List (Json K) → Except RefreshFault (List (RangeKey × List String))
  | [] => .ok []
  | act :: rest =>
      match evaluated readers channels act with
      | none => pendingFrom grants rest
      | some (key, channel) =>
          match movedLocal backends args grants channel with
          | .error fault => .error fault
          | .ok moved => (pendingFrom grants rest).map fun pending => (key, moved) :: pending

def writes (pending : List (RangeKey × List String)) : List MovelistWrite :=
  pending.zipIdx.map fun entry => ⟨entry.1.1, entry.1.2, args.clock entry.2⟩

def updateRows (pending : List (RangeKey × List String)) (rows : List (Row K)) :
    List (Row K) × Except RefreshFault Unit := FirstMatch.writeAll (upsertActivation readers) (writes args pending) rows

variable (geometryOf : Json K → Geometry K) (catalogue : List (Json K)) (rows : List (Row K))

-- The rows in the session where the refresh ended, with the number it returns or what it raised.
def refreshActivationMovelists : List (Row K) × Except RefreshFault Nat :=
  match refreshGrants args with
  | .error fault => (rows, .error fault)
  | .ok grants =>
      match pendingFrom readers backends args (byKey readers geometryOf catalogue rows) grants (listActiveActivations rows) with
      | .error fault => (rows, .error fault)
      | .ok pending =>
          let run := updateRows readers args pending rows
          (run.1, run.2.map fun _ => pending.length)

end Refresh

section Listing

variable (readers : PyReaders K) (geometryOf : Json K → Geometry K) (catalogue : List (Json K))

theorem by_id_name (name : String) (item : Json K) (known : PyDict.lookup (byId catalogue) name = some item) :
    item.field "dpaId" = .text name := by
  have entry := PyDict.mem_update _ _ _ (PyDict.lookup_entry _ _ _ known)
  rcases entry with listed | held
  · obtain ⟨held, _, same⟩ := List.mem_filterMap.mp listed
    cases stored : held.field "dpaId" with
    | text dpaId =>
        rw [stored] at same
        cases same
        exact stored
    | _ =>
        rw [stored] at same
        cases same
  · cases held

theorem dpa_id_stripped (data : Json K) : PyText.strip (dpaIdOf readers data).toList = (dpaIdOf readers data).toList := by
  unfold dpaIdOf Json.strippedText
  split
  · rw [String.toList_ofList, PyText.strip_strip]
  · rfl

theorem by_id_same (act item : Json K) (known : PyDict.lookup (byId catalogue) (dpaIdOf readers act) = some item) :
    dpaIdOf readers item = dpaIdOf readers act := by
  have stripped := dpa_id_stripped readers act
  rw [dpaIdOf, Json.strippedText, by_id_name catalogue _ item known]
  by_cases empty : dpaIdOf readers act = ""
  · simp [Json.truthy, empty]
  · simp [Json.truthy, empty, Json.toText, stripped]

-- What the listing holds: channels under their own keys, each of a DPA of the catalogue.
def Listed (out : List (RangeKey × ProtectedDpaChannel K)) : Prop :=
  ∀ entry ∈ out, channelKey entry.2 = entry.1 ∧ entry.1.dpaId ≠ "" ∧ (PyDict.lookup (byId catalogue) entry.1.dpaId).isSome

theorem add_activation_listed (out : List (RangeKey × ProtectedDpaChannel K)) (act : Json K) (listed : Listed catalogue out) :
    Listed catalogue (addActivation readers geometryOf catalogue out act) := by
  rw [addActivation]
  cases known : PyDict.lookup (byId catalogue) (dpaIdOf readers act) with
  | none => exact listed
  | some item =>
      cases rangeOf readers act with
      | none => exact listed
      | some range =>
          dsimp only
          rw [addChannel]
          dsimp only
          split
          · exact listed
          · rename_i absent
            rw [not_or] at absent
            intro entry member
            rcases PyDict.mem_set _ _ _ entry member with fresh | old
            · rw [fresh]
              refine ⟨rfl, absent.1, ?_⟩
              rw [by_id_same readers catalogue act item known, known]
              rfl
            · exact listed entry old

theorem add_activation_known (out : List (RangeKey × ProtectedDpaChannel K)) (act : Json K) (key : RangeKey)
    (held : (PyDict.lookup out key).isSome) :
    (PyDict.lookup (addActivation readers geometryOf catalogue out act) key).isSome := by
  rw [addActivation]
  split
  · rw [addChannel]
    dsimp only
    split
    · exact held
    · rw [PyDict.lookup_set]
      split
      · rfl
      · exact held
  · exact held

theorem add_activation_own (out : List (RangeKey × ProtectedDpaChannel K)) (act : Json K) (key : RangeKey)
    (own : rangeKey readers act = some key) (named : key.dpaId ≠ "")
    (catalogued : (PyDict.lookup (byId catalogue) key.dpaId).isSome) :
    (PyDict.lookup (addActivation readers geometryOf catalogue out act) key).isSome := by
  obtain ⟨range, isRange, same⟩ := Option.map_eq_some_iff.mp own
  subst same
  obtain ⟨item, known⟩ := Option.isSome_iff_exists.mp catalogued
  rw [addActivation, known, isRange]
  dsimp only
  rw [addChannel, by_id_same readers catalogue act item known]
  dsimp only at named ⊢
  split
  · rename_i blocked
    exact blocked.resolve_left named
  · rw [PyDict.lookup_set, if_pos rfl]
    rfl

theorem listing_listed (acts : List (Json K)) (out : List (RangeKey × ProtectedDpaChannel K)) (listed : Listed catalogue out) :
    Listed catalogue (acts.foldl (addActivation readers geometryOf catalogue) out) := by
  induction acts generalizing out with
  | nil => exact listed
  | cons act rest ih => exact ih _ (add_activation_listed readers geometryOf catalogue out act listed)

theorem listing_known (acts : List (Json K)) (out : List (RangeKey × ProtectedDpaChannel K)) (key : RangeKey)
    (named : key.dpaId ≠ "") (catalogued : (PyDict.lookup (byId catalogue) key.dpaId).isSome)
    (held : (PyDict.lookup out key).isSome ∨ ∃ act ∈ acts, rangeKey readers act = some key) :
    (PyDict.lookup (acts.foldl (addActivation readers geometryOf catalogue) out) key).isSome := by
  induction acts generalizing out with
  | nil => exact held.resolve_right (by simp)
  | cons act rest ih =>
      apply ih
      rcases held with held | ⟨later, member, own⟩
      · exact .inl (add_activation_known readers geometryOf catalogue out act key held)
      · rcases List.mem_cons.mp member with here | among
        · exact .inl (add_activation_own readers geometryOf catalogue out act key (here ▸ own) named catalogued)
        · exact .inr ⟨later, among, own⟩

-- A row is evaluated when its range can be read and its trimmed name is one of the catalogue.
theorem by_key_catalogued (rows : List (Row K)) (act : Json K) (key : RangeKey) (member : act ∈ listActiveActivations rows)
    (own : rangeKey readers act = some key) :
    (PyDict.lookup (byKey readers geometryOf catalogue rows) key).isSome ↔
      key.dpaId ≠ "" ∧ (PyDict.lookup (byId catalogue) key.dpaId).isSome := by
  have listed := listing_listed readers geometryOf catalogue (listActiveActivations rows) [] (by simp [Listed])
  rw [byKey, PyDict.lookup_update_known, List.map_map]
  constructor
  · rintro (among | none)
    · obtain ⟨channel, isChannel, same⟩ := List.mem_map.mp among
      obtain ⟨entry, isEntry, isValue⟩ := List.mem_map.mp ((List.mergeSort_perm _ _).mem_iff.mp isChannel)
      obtain ⟨ownKey, named, catalogued⟩ := listed entry isEntry
      have isKey : entry.1 = key := by
        rw [← ownKey, isValue]
        exact same
      exact isKey ▸ ⟨named, catalogued⟩
    · cases none
  · rintro ⟨named, catalogued⟩
    have known := listing_known readers geometryOf catalogue (listActiveActivations rows) [] key named catalogued
      (.inr ⟨act, member, own⟩)
    obtain ⟨channel, found⟩ := Option.isSome_iff_exists.mp known
    have isEntry := PyDict.lookup_entry _ _ _ found
    refine .inl (List.mem_map.mpr ⟨channel, ?_, (listed _ isEntry).1⟩)
    exact (List.mergeSort_perm _ _).mem_iff.mpr (List.mem_map.mpr ⟨_, isEntry, rfl⟩)

end Listing

section Payload

def tagOf (source : Json K) : Json K := if source.truthy then source else .null

theorem tag_of_tag (source : Json K) : tagOf (tagOf source) = tagOf source := by
  by_cases tagged : source.truthy = true
  · simp [tagOf, tagged]
  · simp [tagOf, tagged]

variable (write : MovelistWrite) (source : Json K)

theorem payload_activation : activation (some (activationPayload write source)) = some (activationPayload write source) := by
  simp [activation, parseActivationRow, activationPayload, Json.isObject, Json.truthy]

theorem payload_name : (activationPayload write source).field "dpaId" = .text write.key.dpaId := by
  simp [activationPayload, Json.field, PyDict.lookup]

theorem payload_range :
    (activationPayload write source).field "frequencyRange" =
      .object [("lowFrequency", .int write.key.lowHz), ("highFrequency", .int write.key.highHz)] := by
  simp [activationPayload, Json.field, PyDict.lookup]

theorem payload_movelist : (activationPayload write source).field "movelist" = .array (write.movelist.map .text) := by
  simp [activationPayload, Json.field, PyDict.lookup]

theorem payload_stamp : (activationPayload write source).field "activatedAt" = .text write.writtenAt := by
  simp [activationPayload, Json.field, PyDict.lookup]

theorem payload_source : (activationPayload write source).field "source" = tagOf source := by
  by_cases tagged : source.truthy = true
  · simp [activationPayload, Json.field, PyDict.lookup, tagOf, tagged]
  · simp [activationPayload, Json.field, PyDict.lookup, tagOf, tagged]

end Payload

section Keys

variable (readers : PyReaders K)

theorem is_text_iff (data : Json K) (value : String) : data.isText value = true ↔ data = .text value := by
  cases data with
  | text held => simp [Json.isText]
  | _ => simp [Json.isText]

-- What the test reads of a row that meets a key.
structure Meets (key : RangeKey) (data fr : Json K) : Prop where
  name : data.field "dpaId" = .text key.dpaId
  range : (data.field "frequencyRange").orEmpty = some fr
  low : (boundOr fr "lowFrequency").toInt readers = some key.lowHz
  high : (boundOr fr "highFrequency").toInt readers = some key.highHz

theorem same_key_meets (key : RangeKey) (row : Row K) (met : sameKey readers key row = .ok true) :
    ∃ data fr, activation row = some data ∧ Meets readers key data fr := by
  rw [sameKey] at met
  cases held : activation row with
  | none =>
      rw [held] at met
      cases met
  | some data =>
      rw [held] at met
      by_cases named : (data.field "dpaId").isText key.dpaId = true
      · simp only [named, Bool.not_true, Bool.false_eq_true, if_false] at met
        cases range : (data.field "frequencyRange").orEmpty with
        | none =>
            rw [range] at met
            cases met
        | some fr =>
            rw [range] at met
            dsimp only at met
            cases lows : (boundOr fr "lowFrequency").toInt readers with
            | none =>
                rw [lows] at met
                cases met
            | some low =>
                rw [lows] at met
                dsimp only at met
                by_cases isLow : low = key.lowHz
                · simp only [isLow, ne_eq, not_true_eq_false, if_false] at met
                  cases highs : (boundOr fr "highFrequency").toInt readers with
                  | none =>
                      rw [highs] at met
                      cases met
                  | some high =>
                      rw [highs] at met
                      have isHigh : high = key.highHz := by simpa using met
                      have name := (is_text_iff (data.field "dpaId") key.dpaId).mp named
                      exact ⟨data, fr, rfl, name, range, isLow ▸ lows, isHigh ▸ highs⟩
                · rw [if_pos isLow] at met
                  cases met
      · rw [Bool.not_eq_true] at named
        simp only [named, Bool.not_false, if_true] at met
        cases met

theorem meets_same_key (key other : RangeKey) (row : Row K) (data fr : Json K) (held : activation row = some data)
    (meets : Meets readers key data fr) : sameKey readers other row = .ok (decide (other = key)) := by
  obtain ⟨name, range, low, high⟩ := meets
  rw [sameKey, held]
  dsimp only
  rw [name, range]
  dsimp only
  rw [low, high]
  obtain ⟨otherName, otherLow, otherHigh⟩ := other
  obtain ⟨keyName, keyLow, keyHigh⟩ := key
  simp only [RangeKey.mk.injEq, Json.isText]
  by_cases sameName : otherName = keyName
  · by_cases sameLow : otherLow = keyLow
    · by_cases sameHigh : otherHigh = keyHigh
      · simp [sameName, sameLow, sameHigh]
      · simp [sameName, sameLow, sameHigh, Ne.symm sameHigh]
    · simp [sameName, sameLow, Ne.symm sameLow]
  · simp [sameName, Ne.symm sameName]

-- A row that meets one key meets no other, and the test raises for none.
theorem same_key_one (key other : RangeKey) (row : Row K) (met : sameKey readers key row = .ok true) :
    sameKey readers other row = .ok (decide (other = key)) := by
  obtain ⟨data, fr, held, meets⟩ := same_key_meets readers key row met
  exact meets_same_key readers key other row data fr held meets

theorem payload_meets (write : MovelistWrite) (source : Json K) :
    Meets readers write.key (activationPayload write source)
      (.object [("lowFrequency", .int write.key.lowHz), ("highFrequency", .int write.key.highHz)]) where
  name := payload_name write source
  range := by
    rw [payload_range]
    simp [Json.orEmpty, Json.truthy, Json.isObject]
  low := by simp [boundOr, Json.has, Json.field, PyDict.lookup, Json.toInt]
  high := by simp [boundOr, Json.has, Json.field, PyDict.lookup, Json.toInt]

theorem same_key_steady :
    FirstMatch.Steady (fun write : MovelistWrite => sameKey readers write.key) (rewritten (K := K)) := by
  intro write other row met
  dsimp only at met ⊢
  rw [rewritten, same_key_one readers write.key other.key row met]
  exact meets_same_key readers write.key other.key _ _ _ (payload_activation write _) (payload_meets readers write _)

theorem row_key_stripped (act : Json K) (key : RangeKey) (held : rangeKey readers act = some key) :
    PyText.strip key.dpaId.toList = key.dpaId.toList := by
  obtain ⟨range, _, same⟩ := Option.map_eq_some_iff.mp held
  rw [← same]
  exact dpa_id_stripped readers act

theorem bound_or_read (fr : Json K) (bound : String) (value : Int) (read : (fr.field bound).toInt readers = some value) :
    (boundOr fr bound).toInt readers = some value := by
  by_cases known : fr.has bound = true
  · rw [boundOr, if_pos known, read]
  · have absent : fr.field bound = .null := by
      cases fr with
      | object fields =>
          have missing : PyDict.lookup fields bound = none := by simpa [Json.has] using known
          simp [Json.field, missing]
      | _ => rfl
    rw [absent] at read
    cases read

theorem range_read (act : Json K) (low high : Int) (read : rangeOf readers act = some (low, high)) :
    ∃ fr, (act.field "frequencyRange").orEmpty = some fr ∧ (boundOr fr "lowFrequency").toInt readers = some low ∧
      (boundOr fr "highFrequency").toInt readers = some high := by
  rw [rangeOf] at read
  cases range : (act.field "frequencyRange").orEmpty with
  | none =>
      rw [range] at read
      cases read
  | some fr =>
      rw [range] at read
      dsimp only at read
      cases lows : (fr.field "lowFrequency").toInt readers with
      | none =>
          rw [lows] at read
          cases read
      | some l =>
          cases highs : (fr.field "highFrequency").toInt readers with
          | none =>
              rw [lows, highs] at read
              cases read
          | some h =>
              rw [lows, highs] at read
              cases read
              exact ⟨fr, rfl, bound_or_read readers fr "lowFrequency" low lows,
                bound_or_read readers fr "highFrequency" high highs⟩

-- The name that the update compares with is the trimmed one, so that a row it meets is evaluated under that very key.
theorem met_own_key (row : Row K) (act : Json K) (own key : RangeKey) (held : activation row = some act)
    (ownKey : rangeKey readers act = some own) (stripped : PyText.strip key.dpaId.toList = key.dpaId.toList)
    (met : sameKey readers key row = .ok true) : key = own := by
  obtain ⟨⟨low, high⟩, read, same⟩ := Option.map_eq_some_iff.mp ownKey
  obtain ⟨data, fr, isData, name, range, lows, highs⟩ := same_key_meets readers key row met
  cases held.symm.trans isData
  obtain ⟨fr', range', lows', highs'⟩ := range_read readers act low high read
  cases range.symm.trans range'
  have isLow : low = key.lowHz := Option.some.inj (lows'.symm.trans lows)
  have isHigh : high = key.highHz := Option.some.inj (highs'.symm.trans highs)
  have isName : dpaIdOf readers act = key.dpaId := by
    rw [dpaIdOf, name, Json.strippedText]
    by_cases empty : key.dpaId = ""
    · simp [Json.truthy, empty]
    · simp [Json.truthy, empty, Json.toText, stripped]
  rw [← same, isName, isLow, isHigh]

end Keys

end SasCore.Dpa.StoredRows
