import SasCore.Lib.JsonRoundTrip
import Mathlib.Data.String.Basic

set_option autoImplicit false
set_option linter.unusedSectionVars false

namespace SasCore.JsonText

variable {K : Type}

def byKey (fields : List (String × Json K)) : List (String × Json K) :=
  fields.mergeSort fun first second => decide (first.1 ≤ second.1)

mutual

-- The value with the fields of its objects in the order of their keys, at every depth.
def sortKeys : Json K → Json K
  | .array items => .array (sortItems items)
  | .object fields => .object (byKey (sortFields fields))
  | .null => .null
  | .bool value => .bool value
  | .int value => .int value
  | .float value => .float value
  | .text value => .text value

def sortItems : List (Json K) → List (Json K)
  | [] => []
  | item :: rest => sortKeys item :: sortItems rest

def sortFields : List (String × Json K) → List (String × Json K)
  | [] => []
  | (key, value) :: rest => (key, sortKeys value) :: sortFields rest

end

section Lists

theorem sort_items_map (items : List (Json K)) : sortItems items = items.map sortKeys := by
  induction items with
  | nil => rfl
  | cons item rest ih => rw [sortItems, ih, List.map_cons]

theorem sort_fields_map (fields : List (String × Json K)) :
    sortFields fields = fields.map fun entry => (entry.1, sortKeys entry.2) := by
  induction fields with
  | nil => rfl
  | cons entry rest ih => rw [sortFields, ih, List.map_cons]

theorem by_key_perm (fields : List (String × Json K)) : (byKey fields).Perm fields := List.mergeSort_perm _ _

theorem sort_fields_keys (fields : List (String × Json K)) : (sortFields fields).map (·.1) = fields.map (·.1) := by
  rw [sort_fields_map, List.map_map]
  rfl

theorem lookup_sort_fields (fields : List (String × Json K)) (key : String) :
    PyDict.lookup (sortFields fields) key = (PyDict.lookup fields key).map sortKeys := by
  induction fields with
  | nil => rfl
  | cons entry rest ih =>
      rw [sortFields, PyDict.lookup_cons, PyDict.lookup_cons, ih]
      by_cases here : entry.1 = key
      · rw [if_pos here, if_pos here]
        rfl
      · rw [if_neg here, if_neg here]

theorem lookup_perm {α β : Type} [DecidableEq α] (first second : List (α × β)) (distinct : (first.map (·.1)).Nodup)
    (perm : first.Perm second) (key : α) : PyDict.lookup second key = PyDict.lookup first key := by
  have otherDistinct : (second.map (·.1)).Nodup := (perm.map _).nodup_iff.mp distinct
  by_cases known : key ∈ first.map (·.1)
  · obtain ⟨entry, member, same⟩ := List.mem_map.mp known
    rw [← same, PyDict.lookup_mem first distinct entry.1 entry.2 member,
      PyDict.lookup_mem second otherDistinct entry.1 entry.2 (perm.mem_iff.mp member)]
  · have absent : key ∉ second.map (·.1) := fun member => known ((perm.map _).mem_iff.mpr member)
    rw [PyDict.lookup_absent first key known, PyDict.lookup_absent second key absent]

theorem lookup_sorted (fields : List (String × Json K)) (distinct : (fields.map (·.1)).Nodup) (key : String) :
    PyDict.lookup (byKey (sortFields fields)) key = (PyDict.lookup fields key).map sortKeys := by
  rw [lookup_perm (sortFields fields) (byKey (sortFields fields)) (by rwa [sort_fields_keys]) (by_key_perm _).symm,
    lookup_sort_fields]

end Lists

section Readers

variable (data : Json K) (plain : Plain data) (key : String)

theorem is_object_sorted : (sortKeys data).isObject = data.isObject := by
  cases data <;> rfl

theorem is_true_sorted : (sortKeys data).isTrue = data.isTrue := by
  cases data <;> rfl

theorem is_text_sorted (value : String) : (sortKeys data).isText value = data.isText value := by
  cases data <;> rfl

theorem items_sorted : (sortKeys data).items = data.items.map sortKeys := by
  cases data with
  | array items => rw [sortKeys, Json.items, sort_items_map]; rfl
  | _ => rfl

include plain in
theorem field_sorted : (sortKeys data).field key = sortKeys (data.field key) := by
  cases data with
  | object fields =>
      rw [sortKeys, Json.field, lookup_sorted fields plain.1, Json.field]
      cases PyDict.lookup fields key <;> rfl
  | _ => rfl

include plain in
theorem has_sorted : (sortKeys data).has key = data.has key := by
  cases data with
  | object fields =>
      rw [sortKeys, Json.has, lookup_sorted fields plain.1, Json.has]
      cases PyDict.lookup fields key <;> rfl
  | _ => rfl

include plain in
theorem dict_field_sorted : (sortKeys data).dictField key = (data.dictField key).map sortKeys := by
  rw [Json.dictField, field_sorted data plain key, Json.dictField]
  cases data.field key <;> rfl

variable (readers : PyReaders K) [Field K]

theorem to_int_sorted : (sortKeys data).toInt readers = data.toInt readers := by
  cases data <;> rfl

theorem to_float_sorted : (sortKeys data).toFloat readers = data.toFloat readers := by
  cases data <;> rfl

variable [DecidableEq K]

theorem truthy_sorted : (sortKeys data).truthy = data.truthy := by
  have lengths : ∀ fields : List (String × Json K), (byKey (sortFields fields)).isEmpty = fields.isEmpty := by
    intro fields
    have same : (byKey (sortFields fields)).length = fields.length := by
      rw [(by_key_perm _).length_eq, sort_fields_map, List.length_map]
    rw [Bool.eq_iff_iff, List.isEmpty_iff_length_eq_zero, List.isEmpty_iff_length_eq_zero, same]
  cases data with
  | object fields => rw [sortKeys, Json.truthy, lengths, Json.truthy]
  | array items =>
      rw [sortKeys, Json.truthy, sort_items_map, Json.truthy]
      cases items <;> rfl
  | _ => rfl

theorem or_empty_sorted : (sortKeys data).orEmpty = data.orEmpty.map sortKeys := by
  rw [Json.orEmpty, Json.orEmpty, truthy_sorted, is_object_sorted]
  by_cases falsy : (!data.truthy) = true
  · rw [if_pos falsy, if_pos falsy]
    simp [sortKeys, sortFields, byKey]
  · rw [if_neg falsy, if_neg falsy]
    split <;> rfl

end Readers

section Depth

theorem plain_object_sorted (fields : List (String × Json K)) (distinct : (fields.map (·.1)).Nodup)
    (each : PlainFields (sortFields fields)) : Plain (.object (byKey (sortFields fields))) := by
  have keys : ((byKey (sortFields fields)).map (·.1)).Nodup := by
    rw [((by_key_perm (sortFields fields)).map _).nodup_iff, sort_fields_keys]
    exact distinct
  refine ⟨keys, plain_fields_of _ fun entry member => ?_⟩
  exact fields_plain_each _ each entry ((by_key_perm _).mem_iff.mp member)

mutual

theorem plain_sorted : (value : Json K) → Plain value → Plain (sortKeys value)
  | .array items, plain => items_plain_sorted items plain
  | .object fields, plain => plain_object_sorted fields plain.1 (fields_plain_sorted fields plain.2)
  | .null, _ => trivial
  | .bool _, _ => trivial
  | .int _, _ => trivial
  | .float _, _ => trivial
  | .text _, _ => trivial

theorem items_plain_sorted : (items : List (Json K)) → PlainItems items → PlainItems (sortItems items)
  | [], _ => trivial
  | item :: rest, plain => ⟨plain_sorted item plain.1, items_plain_sorted rest plain.2⟩

theorem fields_plain_sorted : (fields : List (String × Json K)) → PlainFields fields → PlainFields (sortFields fields)
  | [], _ => trivial
  | (_, value) :: rest, plain => ⟨plain_sorted value plain.1, fields_plain_sorted rest plain.2⟩

end

variable [Field K] [DecidableEq K]

def fieldEqual (fields : List (String × Json K)) (entry : String × Json K) : Bool :=
  match PyDict.lookup fields entry.1 with
  | some other => entry.2.equal other
  | none => false

theorem equal_fields_all (entries fields : List (String × Json K)) :
    Json.equalFields entries fields = entries.all (fieldEqual fields) := by
  induction entries with
  | nil => rfl
  | cons entry rest ih =>
      rw [Json.equalFields, ih, List.all_cons]
      rfl

theorem field_equal_sorted (key : String) (value : Json K) (fields : List (String × Json K)) (plain : Plain (.object fields))
    (inner : ∀ other, Plain other → (sortKeys value).equal (sortKeys other) = value.equal other) :
    fieldEqual (byKey (sortFields fields)) (key, sortKeys value) = fieldEqual fields (key, value) := by
  rw [fieldEqual, lookup_sorted fields plain.1, fieldEqual]
  cases found : PyDict.lookup fields key with
  | none => rfl
  | some other =>
      have plainOther := plain_field fields plain.2 key
      rw [found] at plainOther
      exact inner other plainOther

mutual

theorem equal_sorted : (first second : Json K) → Plain second → (sortKeys first).equal (sortKeys second) = first.equal second
  | .array items, second, plain => by
      cases second with
      | array others => exact items_equal_sorted items others plain
      | _ => rfl
  | .object fields, second, plain => by
      cases second with
      | object others =>
          have perm := by_key_perm (sortFields fields)
          have lengths : (byKey (sortFields fields)).length = fields.length := by
            rw [perm.length_eq, sort_fields_map, List.length_map]
          have otherLengths : (byKey (sortFields others)).length = others.length := by
            rw [(by_key_perm _).length_eq, sort_fields_map, List.length_map]
          rw [sortKeys, sortKeys, Json.equal, Json.equal, lengths, otherLengths, equal_fields_all, equal_fields_all, perm.all_eq,
            fields_equal_sorted fields others plain]
      | _ => rfl
  | .null, second, _ => by cases second <;> rfl
  | .bool _, second, _ => by cases second <;> rfl
  | .int _, second, _ => by cases second <;> rfl
  | .float _, second, _ => by cases second <;> rfl
  | .text _, second, _ => by cases second <;> rfl

theorem items_equal_sorted : (items others : List (Json K)) → PlainItems others →
    Json.equalItems (sortItems items) (sortItems others) = Json.equalItems items others
  | [], others, _ => by cases others <;> rfl
  | item :: rest, others, plain => by
      cases others with
      | nil => rfl
      | cons other more =>
          rw [sortItems, sortItems, Json.equalItems, equal_sorted item other plain.1, items_equal_sorted rest more plain.2,
            Json.equalItems]

theorem fields_equal_sorted : (entries fields : List (String × Json K)) → Plain (.object fields) →
    (sortFields entries).all (fieldEqual (byKey (sortFields fields))) = entries.all (fieldEqual fields)
  | [], _, _ => rfl
  | (key, value) :: rest, fields, plain => by
      rw [sortFields, List.all_cons, List.all_cons, fields_equal_sorted rest fields plain,
        field_equal_sorted key value fields plain fun other inner => equal_sorted value other inner]

end

end Depth

end SasCore.JsonText
