import Mathlib.Data.List.Basic

set_option autoImplicit false

-- URL-safe base64 as the Python library reads and writes it.
namespace SasCore.Base64

def pad : Char := '='

def charOf (value : Nat) : Char :=
  if value < 26 then Char.ofNat (65 + value)
  else if value < 52 then Char.ofNat (71 + value)
  else if value < 62 then Char.ofNat (value - 4)
  else if value = 62 then '-'
  else '_'

-- The reader takes the two characters of the plain alphabet as well.
def valueOf (c : Char) : Option Nat :=
  let code := c.toNat
  if 65 ≤ code ∧ code ≤ 90 then some (code - 65)
  else if 97 ≤ code ∧ code ≤ 122 then some (code - 71)
  else if 48 ≤ code ∧ code ≤ 57 then some (code + 4)
  else if c = '-' ∨ c = '+' then some 62
  else if c = '_' ∨ c = '/' then some 63
  else none

section Write

def tripleChars (first second third : UInt8) : List Char :=
  [charOf (first.toNat / 4), charOf (first.toNat % 4 * 16 + second.toNat / 16),
    charOf (second.toNat % 16 * 4 + third.toNat / 64), charOf (third.toNat % 64)]

def encode : List UInt8 → List Char
  | [] => []
  | [first] => [charOf (first.toNat / 4), charOf (first.toNat % 4 * 16), pad, pad]
  | [first, second] =>
      [charOf (first.toNat / 4), charOf (first.toNat % 4 * 16 + second.toNat / 16), charOf (second.toNat % 16 * 4), pad]
  | first :: second :: third :: rest => tripleChars first second third ++ encode rest

-- .rstrip("=")
def stripPads (chars : List Char) : List Char := (chars.reverse.dropWhile fun c => c = pad).reverse

end Write

section Read

-- a2b_base64 is lenient: it skips what is no base64 character, and a pad only counts from the second place of a quad on.
def scan (place left pads : Nat) : List Char → Option (List UInt8)
  | [] => if place = 0 then some [] else none
  | c :: rest =>
      if c = pad then
        if 2 ≤ place then
          if 4 ≤ place + (pads + 1) then some [] else scan place left (pads + 1) rest
        else scan place left pads rest
      else
        match valueOf c with
        | none => scan place left pads rest
        | some value =>
            match place with
            | 0 => scan 1 value 0 rest
            | 1 => (scan 2 (value % 16) 0 rest).map (UInt8.ofNat (left * 4 + value / 16) :: ·)
            | 2 => (scan 3 (value % 4) 0 rest).map (UInt8.ofNat (left * 16 + value / 4) :: ·)
            | _ => (scan 0 0 0 rest).map (UInt8.ofNat (left * 64 + value) :: ·)

def isAscii (c : Char) : Bool := c.toNat < 128

def decode (chars : List Char) : Option (List UInt8) := if chars.all isAscii then scan 0 0 0 chars else none

-- "=" * (-len(chars) % 4)
def padding (chars : List Char) : List Char := List.replicate ((4 - chars.length % 4) % 4) pad

end Read

section Characters

theorem char_table : ∀ value < 64, valueOf (charOf value) = some value ∧ charOf value ≠ pad ∧ isAscii (charOf value) = true := by
  decide

theorem scan_first (left pads value : Nat) (small : value < 64) (rest : List Char) :
    scan 0 left pads (charOf value :: rest) = scan 1 value 0 rest := by
  obtain ⟨known, noPad, _⟩ := char_table value small
  simp only [scan, if_neg noPad, known]

-- From the second place of a quad on each character completes a byte.
theorem scan_second (left pads value : Nat) (small : value < 64) (byte : UInt8) (same : left * 4 + value / 16 = byte.toNat)
    (rest : List Char) : scan 1 left pads (charOf value :: rest) = (scan 2 (value % 16) 0 rest).map (byte :: ·) := by
  obtain ⟨known, noPad, _⟩ := char_table value small
  rw [scan, if_neg noPad, known]
  simp only [same, UInt8.ofNat_toNat]

theorem scan_third (left pads value : Nat) (small : value < 64) (byte : UInt8) (same : left * 16 + value / 4 = byte.toNat)
    (rest : List Char) : scan 2 left pads (charOf value :: rest) = (scan 3 (value % 4) 0 rest).map (byte :: ·) := by
  obtain ⟨known, noPad, _⟩ := char_table value small
  rw [scan, if_neg noPad, known]
  simp only [same, UInt8.ofNat_toNat]

theorem scan_fourth (left pads value : Nat) (small : value < 64) (byte : UInt8) (same : left * 64 + value = byte.toNat)
    (rest : List Char) : scan 3 left pads (charOf value :: rest) = (scan 0 0 0 rest).map (byte :: ·) := by
  obtain ⟨known, noPad, _⟩ := char_table value small
  rw [scan, if_neg noPad, known]
  simp only [same, UInt8.ofNat_toNat]

theorem scan_triple (first second third : UInt8) (rest : List Char) :
    scan 0 0 0 (tripleChars first second third ++ rest) = (scan 0 0 0 rest).map (first :: second :: third :: ·) := by
  have bounds := And.intro first.toNat_lt (And.intro second.toNat_lt third.toNat_lt)
  simp only [tripleChars, List.cons_append, List.nil_append]
  rw [scan_first _ _ _ (by omega), scan_second _ _ _ (by omega) first (by omega),
    scan_third _ _ _ (by omega) second (by omega), scan_fourth _ _ _ (by omega) third (by omega)]
  cases scan 0 0 0 rest <;> rfl

theorem scan_encode (bytes : List UInt8) : scan 0 0 0 (encode bytes) = some bytes := by
  fun_induction encode bytes with
  | case1 => rfl
  | case2 first =>
      have bound := first.toNat_lt
      rw [scan_first _ _ _ (by omega), scan_second _ _ _ (by omega) first (by omega)]
      rfl
  | case3 first second =>
      have bounds := And.intro first.toNat_lt second.toNat_lt
      rw [scan_first _ _ _ (by omega), scan_second _ _ _ (by omega) first (by omega),
        scan_third _ _ _ (by omega) second (by omega)]
      rfl
  | case4 first second third rest ih => rw [scan_triple, ih, Option.map_some]

theorem encode_chars (bytes : List UInt8) : ∀ c ∈ encode bytes, c = pad ∨ ∃ value < 64, c = charOf value := by
  have char : ∀ value < 64, charOf value = pad ∨ ∃ other < 64, charOf value = charOf other := fun value small =>
    .inr ⟨value, small, rfl⟩
  fun_induction encode bytes with
  | case1 =>
      intro c member
      cases member
  | case2 first =>
      have bound := first.toNat_lt
      simp only [List.forall_mem_cons, List.not_mem_nil, false_implies, implies_true, and_true]
      exact ⟨char _ (by omega), char _ (by omega), .inl trivial, .inl trivial⟩
  | case3 first second =>
      have bounds := And.intro first.toNat_lt second.toNat_lt
      simp only [List.forall_mem_cons, List.not_mem_nil, false_implies, implies_true, and_true]
      exact ⟨char _ (by omega), char _ (by omega), char _ (by omega), .inl trivial⟩
  | case4 first second third rest ih =>
      have bounds := And.intro first.toNat_lt (And.intro second.toNat_lt third.toNat_lt)
      simp only [tripleChars, List.forall_mem_append, List.forall_mem_cons, List.not_mem_nil, false_implies, implies_true, and_true]
      exact ⟨⟨char _ (by omega), char _ (by omega), char _ (by omega), char _ (by omega)⟩, ih⟩

theorem encode_ascii (bytes : List UInt8) : (encode bytes).all isAscii = true := by
  refine List.all_eq_true.mpr fun c member => ?_
  rcases encode_chars bytes c member with isPad | ⟨value, small, isChar⟩
  · rw [isPad]
    rfl
  · rw [isChar]
    exact (char_table value small).2.2

end Characters

section Pads

-- A text in front of its pads: whole quads, or a last one that is short by as many as there are pads.
structure Padded (chars : List Char) (body : List Char) : Prop where
  whole : chars = body ++ padding body
  bare : pad ∉ body

theorem strip_padded (chars body : List Char) (padded : Padded chars body) : stripPads chars = body := by
  have noHead : body.reverse.dropWhile (fun c => c = pad) = body.reverse := by
    cases shape : body.reverse with
    | nil => rfl
    | cons c rest =>
        have member : c ∈ body := List.mem_reverse.mp (shape ▸ List.mem_cons_self)
        have other : ¬c = pad := fun same => padded.bare (same ▸ member)
        rw [List.dropWhile_cons, if_neg (by simpa using other)]
  have pads : ∀ count, (List.replicate count pad ++ body.reverse).dropWhile (fun c => c = pad) = body.reverse := by
    intro count
    induction count with
    | zero => exact noHead
    | succ count ih => rw [List.replicate_succ, List.cons_append, List.dropWhile_cons, if_pos (by simp), ih]
  rw [stripPads, padded.whole, List.reverse_append, padding, List.reverse_replicate, pads, List.reverse_reverse]

theorem padded_append (quad chars body : List Char) (four : quad.length = 4) (bare : pad ∉ quad) (padded : Padded chars body) :
    Padded (quad ++ chars) (quad ++ body) := by
  refine ⟨?_, fun member => (List.mem_append.mp member).elim bare padded.bare⟩
  have same : padding (quad ++ body) = padding body := by
    rw [padding, padding, List.length_append, four, Nat.add_mod_left]
  rw [same, List.append_assoc, ← padded.whole]

theorem encode_padded (bytes : List UInt8) : ∃ body, Padded (encode bytes) body := by
  have noPad : ∀ value < 64, charOf value ≠ pad := fun value below => (char_table value below).2.1
  fun_induction encode bytes with
  | case1 => exact ⟨[], rfl, List.not_mem_nil⟩
  | case2 first =>
      have bound := first.toNat_lt
      refine ⟨[charOf (first.toNat / 4), charOf (first.toNat % 4 * 16)], rfl, ?_⟩
      simp only [List.mem_cons, List.not_mem_nil, or_false, not_or]
      exact ⟨(noPad _ (by omega)).symm, (noPad _ (by omega)).symm⟩
  | case3 first second =>
      have bounds := And.intro first.toNat_lt second.toNat_lt
      refine ⟨[charOf (first.toNat / 4), charOf (first.toNat % 4 * 16 + second.toNat / 16), charOf (second.toNat % 16 * 4)], rfl, ?_⟩
      simp only [List.mem_cons, List.not_mem_nil, or_false, not_or]
      exact ⟨(noPad _ (by omega)).symm, (noPad _ (by omega)).symm, (noPad _ (by omega)).symm⟩
  | case4 first second third rest ih =>
      have bounds := And.intro first.toNat_lt (And.intro second.toNat_lt third.toNat_lt)
      obtain ⟨body, padded⟩ := ih
      refine ⟨tripleChars first second third ++ body, padded_append _ _ _ rfl ?_ padded⟩
      simp only [tripleChars, List.mem_cons, List.not_mem_nil, or_false, not_or]
      exact ⟨(noPad _ (by omega)).symm, (noPad _ (by omega)).symm, (noPad _ (by omega)).symm, (noPad _ (by omega)).symm⟩

theorem encode_nonempty (bytes : List UInt8) (some : bytes ≠ []) : stripPads (encode bytes) ≠ [] := by
  obtain ⟨body, padded⟩ := encode_padded bytes
  rw [strip_padded _ body padded]
  intro none
  have whole := padded.whole
  rw [none] at whole
  have back := scan_encode bytes
  rw [whole] at back
  exact some (Option.some.inj back).symm

-- The text that is left without its pads reads back once they are filled in again.
theorem decode_unpadded (bytes : List UInt8) :
    decode (stripPads (encode bytes) ++ padding (stripPads (encode bytes))) = some bytes := by
  obtain ⟨body, padded⟩ := encode_padded bytes
  rw [strip_padded _ body padded, ← padded.whole, decode, if_pos (encode_ascii bytes), scan_encode]

theorem unpadded_ascii (bytes : List UInt8) : (stripPads (encode bytes)).all isAscii = true := by
  obtain ⟨body, padded⟩ := encode_padded bytes
  have whole := encode_ascii bytes
  rw [padded.whole, List.all_append, Bool.and_eq_true] at whole
  rw [strip_padded _ body padded]
  exact whole.1

end Pads

end SasCore.Base64
