import SasCore.Spectrum.Pals
import SasCore.Federal.Sites
import SasCore.Lib.Collect

set_option autoImplicit false
set_option linter.unusedSectionVars false

namespace SasCore.Spectrum

open Injection Federal Iap

variable {K : Type} [Field K] [LinearOrder K]

section Blocks

-- The pair of a block with both bounds.
def boundsOf (block : Json K) : Option (Json K × Json K) :=
  if (block.field "lowFrequency").isNull || (block.field "highFrequency").isNull then none
  else some (block.field "lowFrequency", block.field "highFrequency")

theorem or_empty_field (data held : Json K) (read : data.orEmpty = some held) (key : String) : held.field key = data.field key := by
  rw [Json.orEmpty] at read
  by_cases falsy : (!data.truthy) = true
  · rw [if_pos falsy] at read
    cases read
    cases data with
    | object fields =>
        have empty : fields = [] := by simpa [Json.truthy] using falsy
        rw [empty]
    | _ => rfl
  · rw [if_neg falsy] at read
    split at read
    · cases read
      rfl
    · cases read

theorem block_bounds (record : Json K) (key inner : String) (found : Option (Json K × Json K))
    (read : blockFrequencies record key inner = .ok found) : found = boundsOf ((record.field key).field inner) := by
  rw [blockFrequencies, innerField] at read
  cases outer : (record.field key).orEmpty with
  | none =>
      rw [outer] at read
      cases read
  | some held =>
      rw [outer] at read
      simp only at read
      cases block : (held.field inner).orEmpty with
      | none =>
          rw [block] at read
          cases read
      | some content =>
          rw [block] at read
          simp only [or_empty_field _ _ block, or_empty_field _ _ outer] at read
          cases read
          rfl

theorem pal_block_bounds (record : Json K) (found : Option (Json K × Json K)) (read : palBlock record = .ok found) :
    found = boundsOf (record.field "palBlock") := by
  rw [palBlock] at read
  cases block : (record.field "palBlock").orEmpty with
  | none =>
      rw [block] at read
      cases read
  | some held =>
      rw [block] at read
      simp only [or_empty_field _ _ block] at read
      cases read
      rfl

theorem block_congr (first second : Json K) (key inner : String) (same : first.field key = second.field key) :
    blockFrequencies first key inner = blockFrequencies second key inner := by
  simp only [blockFrequencies, innerField, same]

theorem freq_pair_some (source : PointSource K) (range : Json K) (pair : Int × Int) :
    freqPair source range = some pair ↔ (range.field "lowFrequency").toInt source.readers = some pair.1 ∧
      (range.field "highFrequency").toInt source.readers = some pair.2 ∧ pair.1 < pair.2 := by
  obtain ⟨first, last⟩ := pair
  rw [freqPair]
  cases isLow : (range.field "lowFrequency").toInt source.readers with
  | none => simp
  | some low =>
      cases isHigh : (range.field "highFrequency").toInt source.readers with
      | none => simp
      | some high =>
          simp only [Option.bind_some]
          by_cases empty : high ≤ low
          · rw [if_pos empty]
            simp
            omega
          · rw [if_neg empty]
            simp
            omega

theorem to_range_some (env : FeedEnv K) (pair : Json K × Json K) (range : Int × Int) (read : toRange env pair = .ok (some range)) :
    pair.1.toInt env.readers = some range.1 ∧ pair.2.toInt env.readers = some range.2 := by
  rw [toRange] at read
  split at read
  · rename_i isLow isHigh
    cases read
    exact ⟨isLow, isHigh⟩
  · cases read

-- A block whose bounds are integers has both of them.
theorem bounds_read (block : Json K) (readers : PyReaders K) (low high : Int)
    (isLow : (block.field "lowFrequency").toInt readers = some low)
    (isHigh : (block.field "highFrequency").toInt readers = some high) :
    boundsOf block = some (block.field "lowFrequency", block.field "highFrequency") := by
  have given : ∀ data : Json K, ∀ value : Int, data.toInt readers = some value → data.isNull = false := by
    intro data value read
    cases data with
    | null => cases read
    | _ => rfl
  rw [boundsOf, given _ low isLow, given _ high isHigh]
  rfl

end Blocks

section Readers

variable (env : FeedEnv K) (source : PointSource K) (record : Json K) (row : PalRow K)

-- The record carries the range in one place only, in order: in the primary assignment, without another range in its
-- operationFrequencyRange, or in palBlock with no channelAssignment at all.
def OneReading (source : PointSource K) (record : Json K) : Prop :=
  let primary := (record.field "channelAssignment").field "primaryAssignment"
  (∃ range, freqPair source primary = some range ∧
      (freqPair source (primary.field "operationFrequencyRange") = none ∨
        freqPair source (primary.field "operationFrequencyRange") = some range)) ∨
    (record.has "channelAssignment" = false ∧ (freqPair source (record.field "palBlock")).isSome)

-- What an accepted record says: its range stands in the primary assignment, or in palBlock when that is incomplete.
theorem accepted_row (accepted : palRow env record = .ok (some row)) :
    record.isObject = true ∧ row.record = record ∧
      ∃ pair, toRange env pair = .ok (some (row.lowFrequency, row.highFrequency)) ∧
        (blockFrequencies record "channelAssignment" "primaryAssignment" = .ok (some pair) ∨
          (blockFrequencies record "channelAssignment" "primaryAssignment" = .ok none ∧ palBlock record = .ok (some pair))) := by
  rw [palRow] at accepted
  split at accepted
  · cases accepted
  · rename_i given
    have isDict : record.isObject = true := by
      cases record with
      | object fields => rfl
      | _ => exact absurd rfl given
    split at accepted
    · cases accepted
    · cases accepted
    · rename_i low high frequencies
      split at accepted
      · cases accepted
        refine ⟨isDict, rfl, ?_⟩
        rw [palFrequencies] at frequencies
        split at frequencies
        · cases frequencies
        · rename_i pair block
          exact ⟨pair, frequencies, .inl block⟩
        · rename_i block
          split at frequencies
          · cases frequencies
          · cases frequencies
          · rename_i pair legacy
            exact ⟨pair, frequencies, .inr ⟨block, legacy⟩⟩
      · cases accepted
      · cases accepted

theorem has_of_field (key : String) (given : (record.field key).isNull = false) : record.has key = true := by
  cases record with
  | object fields =>
      simp only [Json.field, Json.has] at given ⊢
      cases found : PyDict.lookup fields key with
      | none =>
          rw [found] at given
          cases given
      | some value => rfl
  | _ => cases given

theorem pal_freq_ordered (pal : Json K) (pair : Int × Int) (read : palFreqFromRecord source pal = some pair) : pair.1 < pair.2 := by
  have ordered : ∀ range, freqPair source range = some pair → pair.1 < pair.2 := by
    intro range found
    exact ((freq_pair_some source range pair).mp found).2.2
  simp only [palFreqFromRecord] at read
  rcases (Option.orElse_eq_some _ _ _).mp read with here | ⟨_, rest⟩
  · exact ordered _ here
  · rcases (Option.orElse_eq_some _ _ _).mp rest with here | ⟨_, rest⟩
    · exact ordered _ here
    · rcases (Option.orElse_eq_some _ _ _).mp rest with here | ⟨_, rest⟩
      · exact ordered _ here
      · rcases (Option.orElse_eq_some _ _ _).mp rest with here | ⟨_, rest⟩
        · exact ordered _ here
        · exact ordered _ rest

variable (source : PointSource K) (sameReaders : source.readers = env.readers)

include sameReaders

-- With both bounds in the primary assignment only the point builder can read another range.
theorem assigned_point_iff (range : Int × Int) (pal : Json K)
    (isLow : (((pal.field "channelAssignment").field "primaryAssignment").field "lowFrequency").toInt env.readers = some range.1)
    (isHigh : (((pal.field "channelAssignment").field "primaryAssignment").field "highFrequency").toInt env.readers = some range.2) :
    palFreqFromRecord source pal = some range ↔ ∃ found,
      freqPair source ((pal.field "channelAssignment").field "primaryAssignment") = some found ∧
      (freqPair source (((pal.field "channelAssignment").field "primaryAssignment").field "operationFrequencyRange") = none ∨
        freqPair source (((pal.field "channelAssignment").field "primaryAssignment").field "operationFrequencyRange") = some found) := by
  constructor
  · intro read
    have ordered := pal_freq_ordered source pal range read
    have own : freqPair source ((pal.field "channelAssignment").field "primaryAssignment") = some range :=
      (freq_pair_some source _ range).mpr ⟨sameReaders ▸ isLow, sameReaders ▸ isHigh, ordered⟩
    refine ⟨range, own, ?_⟩
    simp only [palFreqFromRecord] at read
    rcases (Option.orElse_eq_some _ _ _).mp read with here | ⟨missing, _⟩
    · exact .inr here
    · exact .inl missing
  · rintro ⟨found, own, inner⟩
    obtain ⟨foundLow, foundHigh, _⟩ := (freq_pair_some source _ found).mp own
    have same : found = range := by
      rw [sameReaders, isLow] at foundLow
      rw [sameReaders, isHigh] at foundHigh
      exact Prod.ext (Option.some.inj foundLow).symm (Option.some.inj foundHigh).symm
    rw [same] at own inner
    simp only [palFreqFromRecord]
    rcases inner with missing | isSame
    · rw [missing, own]
      rfl
    · rw [isSame]
      rfl

end Readers

section Agreement

variable (env : FeedEnv K) (source : PointSource K) (record : Json K) (row : PalRow K)

-- The four readers of a stored PAL: its columns and the three that read its dictionary.
def ReadersAgree (row : PalRow K) : Prop :=
  inquiryPalFreq env (palRecordToDict row) = .ok (some (row.lowFrequency, row.highFrequency)) ∧
    ppaPalFreq env (palRecordToDict row) = .ok (some (row.lowFrequency, row.highFrequency)) ∧
    palFreqFromRecord { source with readers := env.readers } (palRecordToDict row) = some (row.lowFrequency, row.highFrequency)

theorem assigned_agree_iff (pal : Json K) (pair : Json K × Json K) (range : Int × Int)
    (block : blockFrequencies pal "channelAssignment" "primaryAssignment" = .ok (some pair))
    (read : toRange env pair = .ok (some range)) :
    inquiryPalFreq env pal = .ok (some range) ∧ ppaPalFreq env pal = .ok (some range) := by
  rw [inquiryPalFreq, ppaPalFreq, block]
  simp only [read, true_and]
  rfl

-- Without a channelAssignment the dictionary takes that of the columns.
theorem filled_agree_iff (isDict : row.record.isObject = true) (absent : row.record.has "channelAssignment" = false)
    (isLow : ((row.record.field "palBlock").field "lowFrequency").toInt env.readers = some row.lowFrequency)
    (isHigh : ((row.record.field "palBlock").field "highFrequency").toInt env.readers = some row.highFrequency) :
    ReadersAgree env source row ↔ (freqPair { source with readers := env.readers } (row.record.field "palBlock")).isSome := by
  have assignment : (palRecordToDict row).field "channelAssignment" = primaryAssignment row.lowFrequency row.highFrequency := by
    rw [dict_assignment row isDict, absent]
    rfl
  have block : blockFrequencies (palRecordToDict row) "channelAssignment" "primaryAssignment" =
      .ok (some (.int row.lowFrequency, .int row.highFrequency)) := by
    rw [blockFrequencies, innerField, assignment]
    rfl
  obtain ⟨inquiry, ppa⟩ := assigned_agree_iff env (palRecordToDict row) _ (row.lowFrequency, row.highFrequency) block rfl
  have primary : ((palRecordToDict row).field "channelAssignment").field "primaryAssignment" =
      .object [("lowFrequency", .int row.lowFrequency), ("highFrequency", .int row.highFrequency)] := by
    rw [assignment]
    rfl
  have point := assigned_point_iff env { source with readers := env.readers } rfl (row.lowFrequency, row.highFrequency)
    (palRecordToDict row) (by rw [primary]; rfl) (by rw [primary]; rfl)
  have legacy : (freqPair { source with readers := env.readers } (row.record.field "palBlock")).isSome ↔
      row.lowFrequency < row.highFrequency := by
    constructor
    · intro given
      obtain ⟨pair, found⟩ := Option.isSome_iff_exists.mp given
      obtain ⟨low, high, ordered⟩ := (freq_pair_some _ _ pair).mp found
      rw [Option.some.inj (isLow.symm.trans low), Option.some.inj (isHigh.symm.trans high)]
      exact ordered
    · intro ordered
      have found := (freq_pair_some { source with readers := env.readers } (row.record.field "palBlock")
        (row.lowFrequency, row.highFrequency)).mpr ⟨isLow, isHigh, ordered⟩
      rw [found]
      rfl
  rw [ReadersAgree, legacy]
  constructor
  · rintro ⟨_, _, read⟩
    exact pal_freq_ordered _ _ _ read
  · intro ordered
    refine ⟨inquiry, ppa, point.mpr ⟨(row.lowFrequency, row.highFrequency), ?_, .inl ?_⟩⟩
    · rw [primary]
      exact (freq_pair_some _ _ _).mpr ⟨rfl, rfl, ordered⟩
    · rw [primary]
      rfl

theorem pal_readers_agree_iff (accepted : palRow env record = .ok (some row)) :
    ReadersAgree env source row ↔ OneReading { source with readers := env.readers } record := by
  obtain ⟨isDict, same, pair, read, place⟩ := accepted_row env record row accepted
  obtain ⟨isLow, isHigh⟩ := to_range_some env pair _ read
  subst same
  have kept : (palRecordToDict row).field "palBlock" = row.record.field "palBlock" :=
    dict_field row isDict "palBlock" (by decide) (by decide) (by decide) (by decide) (by decide)
  rcases place with block | ⟨block, legacy⟩
  · have bounds := block_bounds row.record _ _ _ block
    have complete : boundsOf ((row.record.field "channelAssignment").field "primaryAssignment") = some pair := bounds.symm
    rw [boundsOf] at complete
    split at complete
    · cases complete
    · rename_i given
      cases complete
      have known : row.record.has "channelAssignment" = true := by
        apply has_of_field
        cases shape : row.record.field "channelAssignment" with
        | null =>
            rw [shape] at given
            exact absurd rfl given
        | _ => rfl
      have assignment : (palRecordToDict row).field "channelAssignment" = row.record.field "channelAssignment" := by
        rw [dict_assignment row isDict, known]
        rfl
      obtain ⟨inquiry, ppa⟩ := assigned_agree_iff env (palRecordToDict row) _ (row.lowFrequency, row.highFrequency)
        ((block_congr _ _ _ _ assignment).trans block) read
      have point := assigned_point_iff env { source with readers := env.readers } rfl (row.lowFrequency, row.highFrequency)
        (palRecordToDict row) (by rw [assignment]; exact isLow) (by rw [assignment]; exact isHigh)
      rw [assignment] at point
      rw [ReadersAgree, OneReading, known]
      simp only [inquiry, ppa, true_and, point, Bool.true_eq_false, false_and, or_false]
  · have incomplete : boundsOf ((row.record.field "channelAssignment").field "primaryAssignment") = none :=
      (block_bounds row.record _ _ _ block).symm
    have unread : ∀ range, freqPair { source with readers := env.readers }
        ((row.record.field "channelAssignment").field "primaryAssignment") ≠ some range := by
      intro range found
      obtain ⟨low, high, _⟩ := (freq_pair_some _ _ range).mp found
      rw [bounds_read _ _ _ _ low high] at incomplete
      cases incomplete
    have bounds := pal_block_bounds row.record _ legacy
    rw [boundsOf] at bounds
    split at bounds
    · cases bounds
    · cases bounds
      cases known : row.record.has "channelAssignment" with
      | false =>
          rw [filled_agree_iff env source row isDict known isLow isHigh, OneReading, known]
          constructor
          · exact fun given => .inr ⟨rfl, given⟩
          · rintro (⟨range, found, _⟩ | ⟨_, given⟩)
            · exact absurd found (unread range)
            · exact given
      | true =>
          have assignment : (palRecordToDict row).field "channelAssignment" = row.record.field "channelAssignment" := by
            rw [dict_assignment row isDict, known]
            rfl
          have skipped : inquiryPalFreq env (palRecordToDict row) = .ok none := by
            rw [inquiryPalFreq, block_congr _ _ _ _ assignment, block]
          rw [ReadersAgree, skipped, OneReading, known]
          constructor
          · rintro ⟨inquiry, _⟩
            cases inquiry
          · rintro (⟨range, found, _⟩ | ⟨absent, _⟩)
            · exact absurd found (unread range)
            · cases absent

end Agreement

def textColumn : Json Rat → Option String
  | .text value => some value
  | _ => none

def palEnv : FeedEnv Rat := { siteEnv with columnText := textColumn }

def palSource : PointSource Rat := ⟨palEnv.readers, 3550000000, 3700000000, fun _ => ""⟩

def lowBlock : Json Rat := .object [("lowFrequency", .int 3550000000), ("highFrequency", .int 3560000000)]

def palFields (fields : List (String × Json Rat)) : Json Rat := .object ([("palId", .text "pal/1"), ("userId", .text "user")] ++ fields)

def blockPal : Json Rat := palFields [("channelAssignment", .object []), ("palBlock", lowBlock)]

def assignedPal : Json Rat := palFields [("channelAssignment", .object [("primaryAssignment", lowBlock)])]

def lowPalRow (record : Json Rat) : PalRow Rat := ⟨"pal/1", "user", 3550000000, 3560000000, "VALID", none, record⟩

theorem block_pal_unread :
    ¬ ∀ (record : Json Rat) (row : PalRow Rat), palRow palEnv record = .ok (some row) → ReadersAgree palEnv palSource row := by
  intro claim
  have inquiry := (claim blockPal (lowPalRow blockPal) rfl).1
  have unread : inquiryPalFreq palEnv (palRecordToDict (lowPalRow blockPal)) = .ok none := rfl
  rw [unread] at inquiry
  cases inquiry

theorem pal_readers_agree_iff_sample : ReadersAgree palEnv palSource (lowPalRow assignedPal) :=
  (pal_readers_agree_iff palEnv palSource assignedPal (lowPalRow assignedPal) rfl).mpr
    (.inl ⟨(3550000000, 3560000000), by decide +kernel, .inl (by decide +kernel)⟩)

end SasCore.Spectrum
