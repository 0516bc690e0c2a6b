import SasCore.Lib.PyDict
import SasCore.Lib.PyText
import Mathlib.Algebra.Field.Defs

set_option autoImplicit false

namespace SasCore

-- A JSON value as json.loads returns it. The keys of an object are distinct.
inductive Json (K : Type) where
  | null
  | bool (value : Bool)
  | int (value : Int)
  | float (value : K)
  | text (value : String)
  | array (items : List (Json K))
  | object (fields : List (String × Json K))

-- What Python reads out of texts and numbers: json.loads, float and int of a text, int of a float,
-- and str of a value that is no text. The first three give `none` where they raise.
structure PyReaders (K : Type) where
  loads : String → Option (Json K)
  floatOfText : String → Option K
  intOfText : String → Option Int
  truncate : K → Int
  str : Json K → String

namespace Json

variable {K : Type}

-- data.get(key) where data is an object; an absent key reads as null.
def field (data : Json K) (key : String) : Json K :=
  match data with
  | .object fields => (PyDict.lookup fields key).getD .null
  | _ => .null

def has (data : Json K) (key : String) : Bool :=
  match data with
  | .object fields => (PyDict.lookup fields key).isSome
  | _ => false

def isObject : Json K → Bool
  | .object _ => true
  | _ => false

def isNull : Json K → Bool
  | .null => true
  | _ => false

def isText (data : Json K) (value : String) : Bool :=
  match data with
  | .text held => held == value
  | _ => false

def isTrue : Json K → Bool
  | .bool value => value
  | _ => false

-- The items of a list; anything else has none.
def items : Json K → List (Json K)
  | .array held => held
  | _ => []

-- The field when it is an object.
def dictField (data : Json K) (key : String) : Option (Json K) :=
  match data.field key with
  | .object fields => some (.object fields)
  | _ => none

def put (data : Json K) (key : String) (value : Json K) : Json K :=
  match data with
  | .object fields => .object (PyDict.set key value fields)
  | other => other

-- data.setdefault(key, value)
def setDefault (data : Json K) (key : String) (value : Json K) : Json K := if data.has key then data else data.put key value

-- A list or an object has no hash.
def hashable : Json K → Bool
  | .array _ => false
  | .object _ => false
  | _ => true

section Fields

theorem put_object (key : String) (value data : Json K) : (data.put key value).isObject = data.isObject := by
  cases data <;> rfl

theorem field_put (key other : String) (value data : Json K) (isDict : data.isObject = true) :
    (data.put key value).field other = if key = other then value else data.field other := by
  cases data with
  | object fields =>
      simp only [put, field, PyDict.lookup_set]
      by_cases here : key = other
      · simp only [here, if_true, Option.getD_some]
      · simp only [here, if_false]
  | _ => cases isDict

theorem has_put (key other : String) (value data : Json K) (isDict : data.isObject = true) :
    (data.put key value).has other = (decide (key = other) || data.has other) := by
  cases data with
  | object fields =>
      simp only [put, has, PyDict.lookup_set]
      by_cases here : key = other
      · simp [here]
      · simp [here]
  | _ => cases isDict

theorem set_default_object (key : String) (value data : Json K) : (data.setDefault key value).isObject = data.isObject := by
  rw [setDefault]
  split
  · rfl
  · exact put_object key value data

theorem field_set_default (key other : String) (value data : Json K) (isDict : data.isObject = true) :
    (data.setDefault key value).field other = if key = other ∧ data.has key = false then value else data.field other := by
  rw [setDefault]
  by_cases known : data.has key = true
  · simp [known]
  · rw [if_neg known, field_put key other value data isDict]
    simp [known]

theorem has_set_default (key other : String) (value data : Json K) (isDict : data.isObject = true) (apart : key ≠ other) :
    (data.setDefault key value).has other = data.has other := by
  rw [setDefault]
  split
  · rfl
  · rw [has_put key other value data isDict]
    simp [apart]

end Fields

section Numbers

variable [Field K] [DecidableEq K]

def truthy : Json K → Bool
  | .null => false
  | .bool value => value
  | .int value => value != 0
  | .float value => value != 0
  | .text value => value != ""
  | .array held => !held.isEmpty
  | .object fields => !fields.isEmpty

end Numbers

section Equality

variable [Field K] [DecidableEq K]

def number : Json K → Option K
  | .bool value => some (if value then 1 else 0)
  | .int value => some value
  | .float value => some value
  | _ => none

mutual

-- first == second: numbers by value, objects whatever the order of their fields.
def equal : Json K → Json K → Bool
  | .null, .null => true
  | .text first, .text second => first == second
  | .array first, .array second => equalItems first second
  | .object first, .object second => first.length == second.length && equalFields first second
  | first, second =>
      match first.number, second.number with
      | some a, some b => a == b
      | _, _ => false

def equalItems : List (Json K) → List (Json K) → Bool
  | [], [] => true
  | first :: others, second :: rest => equal first second && equalItems others rest
  | _, _ => false

def equalFields : List (String × Json K) → List (String × Json K) → Bool
  | [], _ => true
  | (key, value) :: rest, fields =>
      (match PyDict.lookup fields key with
        | some other => equal value other
        | none => false) && equalFields rest fields

end

-- What a loop over data or [] runs through, `none` where it raises.
def iterated (data : Json K) : Option (List (Json K)) :=
  if !data.truthy then some []
  else
    match data with
    | .array held => some held
    | .text value => some (value.toList.map fun char => .text (String.singleton char))
    | .object fields => some (fields.map fun entry => .text entry.1)
    | _ => none

-- data or {} where fields are read from it, `none` where reading one raises.
def orEmpty (data : Json K) : Option (Json K) :=
  if !data.truthy then some (.object [])
  else if data.isObject then some data
  else none

end Equality

variable (readers : PyReaders K)

-- float(data), `none` where it raises.
def toFloat [Field K] : Json K → Option K
  | .bool value => some (if value then 1 else 0)
  | .int value => some value
  | .float value => some value
  | .text value => readers.floatOfText value
  | _ => none

-- int(data), `none` where it raises.
def toInt : Json K → Option Int
  | .bool value => some (if value then 1 else 0)
  | .int value => some value
  | .float value => some (readers.truncate value)
  | .text value => readers.intOfText value
  | _ => none

-- str(data)
def toText : Json K → String
  | .text value => value
  | other => readers.str other

-- str(data or "").strip()
def strippedText [Field K] [DecidableEq K] (data : Json K) : List Char :=
  if data.truthy then PyText.strip (data.toText readers).toList else []

end Json

end SasCore
