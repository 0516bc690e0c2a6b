import SasCore.Iap.FrozenCapture

set_option autoImplicit false
set_option linter.unusedSectionVars false

-- The index of the PALs, live and read back from a freeze.
namespace SasCore.Iap

open Federal Injection JsonText Spectrum

variable {K : Type} [Field K] [LinearOrder K]

section Rows

theorem license_plain (expiration : String) (data : Json K) (plain : Plain data) : Plain (setLicense expiration data) := by
  have dated : Plain (.object [("licenseExpiration", .text expiration)] : Json K) := ⟨by simp, trivial, trivial⟩
  rw [setLicense]
  split
  · exact plain_put data plain "license" _ dated
  · split
    · exact plain_put data plain "license" _
        (plain_set_default _ (plain_of_field data plain "license") "licenseExpiration" _ trivial)
    · exact plain

theorem license_object (expiration : String) (data : Json K) : (setLicense expiration data).isObject = data.isObject := by
  rw [setLicense]
  split
  · exact Json.put_object _ _ _
  · split
    · exact Json.put_object _ _ _
    · rfl

theorem pal_dict_plain (row : Injection.PalRow K) (plain : Plain row.record) :
    Plain (palRecordToDict row) ∧ (palRecordToDict row).isObject = true := by
  have assignment : Plain (primaryAssignment row.lowFrequency row.highFrequency : Json K) := by
    simp [primaryAssignment, Plain, PlainFields]
  have start : Plain (if row.record.isObject then row.record else .object []) ∧
      (if row.record.isObject then row.record else .object []).isObject = true := by
    by_cases isDict : row.record.isObject = true
    · rw [if_pos isDict]
      exact ⟨plain, isDict⟩
    · rw [if_neg isDict]
      exact ⟨empty_plain, rfl⟩
  have listed := plain_set_default _ (plain_set_default _ (plain_set_default _ (plain_set_default _ start.1 "palId"
    (.text row.palId) trivial) "userId" (.text row.userId) trivial) "channelAssignment" _ assignment) "licenseStatus"
    (.text row.licenseStatus) trivial
  rw [palRecordToDict]
  split
  · exact ⟨listed, by simp only [Json.set_default_object, start.2]⟩
  · exact ⟨license_plain _ _ listed, by simp only [license_object, Json.set_default_object, start.2]⟩

-- A PAL that building takes up: an object with an id that has a hash.
structure Indexed (pal : Json K) : Prop where
  plain : Plain pal
  isDict : pal.isObject = true
  named : (pal.field "palId").truthy = true
  hashable : (pal.field "palId").hashable = true

theorem pals_indexed (floats : FloatText K) (tables : EntityTables K) (pals : List (Json K))
    (loaded : loadPals floats tables = .ok pals) : ∀ pal ∈ pals, Indexed pal := by
  intro pal member
  rw [loadPals, loadPalRecords] at loaded
  split at loaded
  · cases loaded
  · rename_i listed isListed
    cases loaded
    split at isListed
    · rename_i hashes
      cases isListed
      rcases List.mem_append.mp member with stored | injected
      · obtain ⟨inRows, named⟩ := List.mem_filter.mp stored
        obtain ⟨source, sourceMember, same⟩ := List.mem_map.mp inRows
        obtain ⟨plain, isDict⟩ := pal_dict_plain source (tables.plainPals source sourceMember)
        exact ⟨same ▸ plain, same ▸ isDict, named, List.all_eq_true.mp hashes pal (List.mem_append_left _ stored)⟩
      · obtain ⟨inLegacy, _⟩ := List.mem_filter.mp injected
        obtain ⟨inTexts, filled⟩ := List.mem_filter.mp inLegacy
        rw [Bool.and_eq_true] at filled
        obtain ⟨held, heldMember, same⟩ := List.mem_filterMap.mp inTexts
        obtain ⟨text, _, read⟩ := List.mem_map.mp heldMember
        exact ⟨loads_plain floats _ pal (read.trans same), filled.1, filled.2,
          List.all_eq_true.mp hashes pal (List.mem_append_right _ inLegacy)⟩
    · cases isListed

end Rows

section Index

variable (source : PointSource K)

def palKey (pal : Json K) : String := (pal.field "palId").toText source.readers

def palIndex (pals : List (Json K)) (index : List (String × Json K)) : List (String × Json K) :=
  pals.foldl (fun held pal => PyDict.set (palKey source pal) pal held) index

theorem index_built (pals : List (Json K)) (each : ∀ pal ∈ pals, Indexed pal) :
    indexPals source pals = .ok (palIndex source pals []) := by
  have run : ∀ (pals : List (Json K)) (index : List (String × Json K)), (∀ pal ∈ pals, Indexed pal) →
      pals.foldlM (indexPal source) index = .ok (palIndex source pals index) := by
    intro pals
    induction pals with
    | nil => exact fun index _ => rfl
    | cons pal rest ih =>
        intro index each
        have first := each pal List.mem_cons_self
        have entry : indexPal source index pal = .ok (PyDict.set (palKey source pal) pal index) := by
          simp [indexPal, palIdOf, first.isDict, first.named, Except.map, palKey]
        rw [List.foldlM_cons, entry]
        exact ih _ fun other member => each other (List.mem_cons_of_mem pal member)
  exact run pals [] each

-- The last PAL of a name is the one found under it.
theorem lookup_index (pals : List (Json K)) (index : List (String × Json K)) (key : String) :
    PyDict.lookup (palIndex source pals index) key =
      ((pals.filter fun pal => palKey source pal = key).getLast?).or (PyDict.lookup index key) := by
  induction pals generalizing index with
  | nil => rfl
  | cons pal rest ih =>
      change PyDict.lookup (palIndex source rest (PyDict.set (palKey source pal) pal index)) key = _
      rw [ih, PyDict.lookup_set]
      by_cases here : palKey source pal = key
      · rw [if_pos here, List.filter_cons_of_pos (by simpa using here), List.getLast?_cons]
        cases (rest.filter fun pal => palKey source pal = key).getLast? <;> rfl
      · rw [if_neg here, List.filter_cons_of_neg (by simpa using here)]

theorem indexed_plain (pals : List (Json K)) (each : ∀ pal ∈ pals, Indexed pal) (key : String) (pal : Json K)
    (found : PyDict.lookup (palIndex source pals []) key = some pal) : Plain pal := by
  rw [lookup_index, PyDict.lookup_nil, Option.or_none] at found
  exact (each pal (List.mem_filter.mp (List.mem_of_getLast? found)).1).plain

theorem key_sorted (pal : Json K) (indexed : Indexed pal) : palKey source (sortKeys pal) = palKey source pal := by
  have hashable := indexed.hashable
  rw [palKey, field_sorted pal indexed.plain, palKey]
  cases id : pal.field "palId" with
  | array items => rw [id] at hashable; cases hashable
  | object fields => rw [id] at hashable; cases hashable
  | _ => rfl

theorem indexed_sorted (pal : Json K) (indexed : Indexed pal) : Indexed (sortKeys pal) := by
  have field := field_sorted pal indexed.plain "palId"
  refine ⟨plain_sorted pal indexed.plain, by rw [is_object_sorted, indexed.isDict], by rw [field, truthy_sorted, indexed.named], ?_⟩
  have hashable := indexed.hashable
  rw [field]
  cases id : pal.field "palId" with
  | array items => rw [id] at hashable; cases hashable
  | object fields => rw [id] at hashable; cases hashable
  | _ => rfl

theorem named_by_key (pals : List (Json K)) (each : ∀ pal ∈ pals, Indexed pal) :
    namedPals source.readers pals = pals.map fun pal => (palKey source pal, pal) := by
  have zipped : pals.map (fun pal => (palKey source pal, pal)) = pals.zipIdx.map fun entry => (palKey source entry.1, entry.1) := by
    conv_lhs => rw [← List.zipIdx_map_fst 0 pals, List.map_map]
    rfl
  rw [zipped]
  refine List.map_congr_left fun entry member => ?_
  have indexed := each entry.1 (List.fst_mem_of_mem_zipIdx member)
  rw [capturedPalId, orValue, if_pos indexed.named, palKey]

-- A name finds the same PAL in a freeze, with its keys sorted.
theorem frozen_lookup (pals : List (Json K)) (each : ∀ pal ∈ pals, Indexed pal) (key : String) :
    PyDict.lookup (palIndex source ((capturedPals source.readers pals).map sortKeys) []) key =
      (PyDict.lookup (palIndex source pals []) key).map sortKeys := by
  have perm : ((namedPals source.readers pals).mergeSort idBefore).Perm (pals.map fun pal => (palKey source pal, pal)) :=
    named_by_key source pals each ▸ List.mergeSort_perm _ _
  have keys : ∀ entry ∈ (namedPals source.readers pals).mergeSort idBefore,
      palKey source (sortKeys entry.2) = entry.1 := by
    intro entry member
    obtain ⟨pal, inPals, same⟩ := List.mem_map.mp (perm.mem_iff.mp member)
    rw [← same]
    exact key_sorted source pal (each pal inPals)
  have selected : (((capturedPals source.readers pals).map sortKeys).filter fun pal => palKey source pal = key) =
      (pals.filter fun pal => palKey source pal = key).map sortKeys := by
    have stable := StableSort.filter_sort_equal idBefore id_trans id_total (fun entry => entry.1 = key)
      (namedPals source.readers pals) fun first _ second _ isFirst isSecond => by
        rw [decide_eq_true_iff] at isFirst isSecond
        rw [idBefore, decide_eq_true_iff, isFirst, isSecond]
    have byName : ((namedPals source.readers pals).mergeSort idBefore).filter
        ((fun pal => decide (palKey source pal = key)) ∘ (sortKeys ∘ fun entry => entry.2)) =
        ((namedPals source.readers pals).mergeSort idBefore).filter fun entry => entry.1 = key := by
      refine List.filter_congr fun entry member => ?_
      rw [Function.comp_apply, Function.comp_apply, keys entry member]
    rw [capturedPals, List.map_map, List.filter_map, byName, stable, named_by_key source pals each, List.filter_map, List.map_map]
    rfl
  rw [lookup_index, lookup_index, selected, List.getLast?_map]
  cases (pals.filter fun pal => palKey source pal = key).getLast? <;> rfl

end Index

end SasCore.Iap
