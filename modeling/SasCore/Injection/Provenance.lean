import SasCore.Injection.Tables

set_option autoImplicit false

namespace SasCore.Injection

variable {K : Type} (readers : PyReaders K)

def fssRecordId (payload : Json K) : Option String :=
  if !payload.isObject then none
  else
    let record := if (payload.field "record").isObject then payload.field "record" else payload
    let id := record.field "id"
    let stripped := PyText.strip (id.toText readers).toList
    if id.isNull || stripped = [] then none else some (String.ofList stripped)

def loadFssProvenanceMap (tables : Tables K) : List (String × FssSource) :=
  tables.provenance.all.foldl (fun merged row => row.foldl (fun dict entry => PyDict.set entry.1 entry.2 dict) merged) []

-- One row holds the whole map; an empty map has none.
def persistFssProvenanceMap (mapping : List (String × FssSource)) (tables : Tables K) : Tables K :=
  let written :=
    if mapping.isEmpty then tables.provenance.doom fun _ => true
    else tables.provenance.supersede (fun _ => true) mapping
  { tables with provenance := written }.flush

def setFssProvenance (fssId : String) (source : FssSource) (tables : Tables K) : Tables K :=
  persistFssProvenanceMap (PyDict.set fssId source (loadFssProvenanceMap tables)) tables

def isFederalSyncFss (fssId : Option String) (tables : Tables K) : Bool :=
  match fssId with
  | none => false
  | some id => if id = "" then false else PyDict.lookup (loadFssProvenanceMap tables) id = some .federalDbSync

def storedFssId (row : Option (Json K)) : Option String := row.bind (fssRecordId readers)

def upsertFssPayload (payload : Json K) (tables : Tables K) : Tables K × Option String :=
  match fssRecordId readers payload with
  | some id =>
      ((tables.setRecords .fss (·.supersede (fun row => storedFssId readers row = some id) (some payload))).flush, some id)
  | none => ((tables.setRecords .fss (·.add (some payload))).flush, none)

def federalIds (mapping : List (String × FssSource)) : List String :=
  (mapping.filter fun entry => entry.2 = .federalDbSync).map (·.1)

def deleteFederalSyncFssRows (tables : Tables K) : Tables K :=
  let mapping := loadFssProvenanceMap tables
  let federal := federalIds mapping
  if federal.isEmpty then tables
  else
    let deleted := tables.setRecords .fss (·.doom fun row => (storedFssId readers row).any fun id => federal.contains id)
    persistFssProvenanceMap (mapping.filter fun entry => !federal.contains entry.1) deleted

end SasCore.Injection
