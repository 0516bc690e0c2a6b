import SasCore.Lib.JsonText
import Mathlib.Data.List.Nodup
import Mathlib.Data.List.TakeWhile

set_option autoImplicit false

namespace SasCore.JsonText

variable {K : Type}

-- What stands behind a value inside a document.
def Closes : List Char → Prop
  | [] => True
  | c :: _ => c = comma ∨ c = closeBracket ∨ c = closeBrace

section Text

theorem hex_value_char (n : Nat) (small : n < 16) : hexValue (hexChar n) = some n := by
  have each : ∀ n < 16, hexValue (hexChar n) = some n := by decide
  exact each n small

theorem scan_control (c : Char) (control : c.toNat < 32) (rest : List Char) :
    scanUnicode ('0' :: '0' :: hexChar (c.toNat / 16) :: hexChar (c.toNat % 16) :: rest) = some (c, rest) := by
  have high := hex_value_char (c.toNat / 16) (by omega)
  have low := hex_value_char (c.toNat % 16) (by omega)
  have zero : hexValue '0' = some 0 := by decide
  have whole : ((0 * 16 + 0) * 16 + c.toNat / 16) * 16 + c.toNat % 16 = c.toNat := by omega
  simp only [scanUnicode, scanHex, zero, high, low, Option.bind_some, whole]
  rw [if_neg (by omega), if_neg (by omega), Char.ofNat_toNat]

-- A character reads back from what it is printed as.
theorem scan_char (c : Char) (fuel : Nat) (rest : List Char) :
    scanText (fuel + 1) (escapeChar c ++ rest) = (scanText fuel rest).map fun tail => (c :: tail.1, tail.2) := by
  have notQuote : ¬ backslash = quote := by decide
  have escaped : ∀ char, simpleEscape char = some c → char ≠ 'u' →
      scanText (fuel + 1) ([backslash, char] ++ rest) = (scanText fuel rest).map fun tail => (c :: tail.1, tail.2) := by
    intro char simple plain
    rw [List.cons_append, List.cons_append, List.nil_append, scanText, if_neg notQuote, if_pos rfl, unescape, if_neg plain,
      simple]
    rfl
  have code : ∀ n, c.toNat = n → c = Char.ofNat n := fun n same => by rw [← same, Char.ofNat_toNat]
  rw [escapeChar]
  by_cases isQuote : c = quote
  · rw [if_pos isQuote]
    exact escaped quote (by rw [isQuote]; decide) (by decide)
  rw [if_neg isQuote]
  by_cases isBackslash : c = backslash
  · rw [if_pos isBackslash]
    exact escaped backslash (by rw [isBackslash]; decide) (by decide)
  rw [if_neg isBackslash]
  by_cases newline : c.toNat = 10
  · rw [if_pos newline]
    exact escaped 'n' (by rw [code 10 newline]; decide) (by decide)
  rw [if_neg newline]
  by_cases carriage : c.toNat = 13
  · rw [if_pos carriage]
    exact escaped 'r' (by rw [code 13 carriage]; decide) (by decide)
  rw [if_neg carriage]
  by_cases tab : c.toNat = 9
  · rw [if_pos tab]
    exact escaped 't' (by rw [code 9 tab]; decide) (by decide)
  rw [if_neg tab]
  by_cases feed : c.toNat = 12
  · rw [if_pos feed]
    exact escaped 'f' (by rw [code 12 feed]; decide) (by decide)
  rw [if_neg feed]
  by_cases back : c.toNat = 8
  · rw [if_pos back]
    exact escaped 'b' (by rw [code 8 back]; decide) (by decide)
  rw [if_neg back]
  by_cases control : c.toNat < 32
  · rw [if_pos control]
    simp only [List.cons_append, List.nil_append, scanText, if_neg notQuote, if_pos, unescape, scan_control c control,
      Option.bind_some]
  · rw [if_neg control, List.cons_append, List.nil_append, scanText, if_neg isQuote, if_neg isBackslash, if_neg control]

theorem scan_text_printed (text : List Char) (fuel : Nat) (enough : text.length < fuel) (rest : List Char) :
    scanText fuel (text.flatMap escapeChar ++ quote :: rest) = some (text, rest) := by
  induction text generalizing fuel with
  | nil =>
      cases fuel with
      | zero => cases enough
      | succ fuel => exact if_pos rfl
  | cons c others ih =>
      cases fuel with
      | zero => cases enough
      | succ fuel =>
          rw [List.length_cons] at enough
          rw [List.flatMap_cons, List.append_assoc, scan_char, ih fuel (by omega)]
          rfl

theorem escape_char_length (c : Char) : 1 ≤ (escapeChar c).length := by
  unfold escapeChar
  split_ifs <;> simp

theorem escaped_length (text : List Char) : text.length ≤ (text.flatMap escapeChar).length := by
  induction text with
  | nil => exact Nat.le_refl 0
  | cons c others ih =>
      have one := escape_char_length c
      rw [List.flatMap_cons, List.length_append, List.length_cons]
      omega

end Text

section Numbers

theorem closes_head (c : Char) (rest : List Char) (closes : Closes (c :: rest)) :
    c.isDigit = false ∧ c ≠ '.' ∧ c ≠ 'e' ∧ c ≠ 'E' ∧ c ≠ '+' ∧ c ≠ '-' ∧ c ≠ '0' := by
  rcases closes with here | here | here
  all_goals
    rw [here]
    decide

theorem take_digits (chars rest : List Char) (closes : Closes rest) :
    (chars ++ rest).takeWhile Char.isDigit = chars.takeWhile Char.isDigit ∧
      (chars ++ rest).dropWhile Char.isDigit = chars.dropWhile Char.isDigit ++ rest := by
  induction chars with
  | nil =>
      cases rest with
      | nil => exact ⟨rfl, rfl⟩
      | cons c after =>
          have head := (closes_head c after closes).1
          rw [List.nil_append, List.takeWhile_cons_of_neg (by simp [head]), List.dropWhile_cons_of_neg (by simp [head])]
          exact ⟨rfl, rfl⟩
  | cons c others ih =>
      rw [List.cons_append]
      cases digit : c.isDigit with
      | true =>
          rw [List.takeWhile_cons_of_pos digit, List.dropWhile_cons_of_pos digit, List.takeWhile_cons_of_pos digit,
            List.dropWhile_cons_of_pos digit, ih.1, ih.2]
          exact ⟨rfl, rfl⟩
      | false =>
          rw [List.takeWhile_cons_of_neg (by simp [digit]), List.dropWhile_cons_of_neg (by simp [digit]),
            List.takeWhile_cons_of_neg (by simp [digit]), List.dropWhile_cons_of_neg (by simp [digit])]
          exact ⟨rfl, rfl⟩

theorem scan_minus_append (chars rest : List Char) (closes : Closes rest) :
    scanMinus (chars ++ rest) = ((scanMinus chars).1, (scanMinus chars).2 ++ rest) := by
  cases chars with
  | nil =>
      cases rest with
      | nil => rfl
      | cons c after =>
          obtain ⟨_, _, _, _, _, minus, _⟩ := closes_head c after closes
          exact if_neg minus
  | cons c others =>
      rw [List.cons_append, scanMinus, scanMinus]
      split <;> rfl

theorem scan_integer_append (chars rest : List Char) (closes : Closes rest) :
    scanInteger (chars ++ rest) = (scanInteger chars).map fun found => (found.1, found.2 ++ rest) := by
  cases chars with
  | nil =>
      cases rest with
      | nil => rfl
      | cons c after =>
          obtain ⟨digit, _, _, _, _, _, zero⟩ := closes_head c after closes
          have apart : ¬ c.isDigit = true := by rw [digit]; exact Bool.false_ne_true
          exact (if_neg zero).trans (if_neg apart)
  | cons c others =>
      have run := take_digits others rest closes
      rw [List.cons_append, scanInteger, scanInteger, run.1, run.2]
      split
      · rfl
      · split <;> rfl

theorem scan_fraction_append (chars rest : List Char) (closes : Closes rest) :
    scanFraction (chars ++ rest) = ((scanFraction chars).1, (scanFraction chars).2 ++ rest) := by
  cases chars with
  | nil =>
      cases rest with
      | nil => rfl
      | cons c after =>
          obtain ⟨_, point, _⟩ := closes_head c after closes
          exact if_neg fun both => point both.1
  | cons c others =>
      have run := take_digits others rest closes
      rw [List.cons_append, scanFraction, scanFraction, run.1, run.2]
      split <;> rfl

theorem scan_sign_append (chars rest : List Char) (closes : Closes rest) :
    scanSign (chars ++ rest) = ((scanSign chars).1, (scanSign chars).2 ++ rest) := by
  cases chars with
  | nil =>
      cases rest with
      | nil => rfl
      | cons c after =>
          obtain ⟨_, _, _, _, plus, minus, _⟩ := closes_head c after closes
          exact if_neg (not_or.mpr ⟨plus, minus⟩)
  | cons c others =>
      rw [List.cons_append, scanSign, scanSign]
      split <;> rfl

theorem scan_exponent_append (chars rest : List Char) (closes : Closes rest) :
    scanExponent (chars ++ rest) = ((scanExponent chars).1, (scanExponent chars).2 ++ rest) := by
  cases chars with
  | nil =>
      cases rest with
      | nil => rfl
      | cons c after =>
          obtain ⟨_, _, small, large, _⟩ := closes_head c after closes
          exact if_neg fun both => both.1.elim small large
  | cons c others =>
      have sign := scan_sign_append others rest closes
      have run := take_digits (scanSign others).2 rest closes
      rw [List.cons_append, scanExponent, scanExponent, sign]
      dsimp only
      rw [run.1, run.2]
      split <;> rfl

-- A number token ends where it ends on its own.
theorem scan_number_append (chars rest : List Char) (closes : Closes rest) :
    scanNumber (chars ++ rest) = (scanNumber chars).map fun found => (found.1, found.2 ++ rest) := by
  have minus := scan_minus_append chars rest closes
  have integer := scan_integer_append (scanMinus chars).2 rest closes
  rw [scanNumber, scanNumber, minus]
  dsimp only
  rw [integer]
  cases scanInteger (scanMinus chars).2 with
  | none => rfl
  | some found =>
      simp only [Option.map_some, scan_fraction_append found.2 rest closes,
        scan_exponent_append (scanFraction found.2).2 rest closes]

end Numbers

section Ints

theorem digits_head (n : Nat) (positive : 0 < n) : ∃ c rest, Nat.toDigits 10 n = c :: rest ∧ c ≠ '0' := by
  induction n using Nat.strongRecOn with
  | ind n ih =>
      by_cases small : n < 10
      · refine ⟨n.digitChar, [], Nat.toDigits_of_lt_base small, ?_⟩
        have each : ∀ n < 10, 0 < n → n.digitChar ≠ '0' := by decide
        exact each n small positive
      · obtain ⟨c, rest, split, head⟩ := ih (n / 10) (by omega) (by omega)
        refine ⟨c, rest ++ [(n % 10).digitChar], ?_, head⟩
        rw [Nat.toDigits_of_base_le (by omega) (by omega), split]
        rfl

theorem digit_chars (n : Nat) : ∀ c ∈ Nat.toDigits 10 n, c.isDigit = true := fun _ member =>
  Nat.isDigit_of_mem_toDigits (by omega) (by omega) member

theorem scan_digits (n : Nat) : scanInteger (Nat.toDigits 10 n) = some (Nat.toDigits 10 n, []) := by
  by_cases zero : n = 0
  · rw [zero, Nat.toDigits_zero]
    rfl
  · obtain ⟨c, rest, split, head⟩ := digits_head n (by omega)
    have digits := digit_chars n
    rw [split] at digits ⊢
    have all : ∀ c ∈ rest, c.isDigit = true := fun other member => digits other (List.mem_cons_of_mem c member)
    rw [scanInteger, if_neg head, if_pos (digits c List.mem_cons_self), List.takeWhile_eq_self_iff.mpr all,
      List.dropWhile_eq_nil_iff.mpr all]

theorem minus_digits (n : Nat) : scanMinus (Nat.toDigits 10 n) = ([], Nat.toDigits 10 n) := by
  have digits := digit_chars n
  cases split : Nat.toDigits 10 n with
  | nil => rfl
  | cons c rest =>
      rw [split] at digits
      have digit := digits c List.mem_cons_self
      refine if_neg fun minus => ?_
      rw [minus] at digit
      cases digit

theorem scan_int (value : Int) : scanNumber (printInt value) = some (⟨printInt value, [], []⟩, []) := by
  cases value with
  | ofNat n =>
      rw [printInt, scanNumber, minus_digits]
      dsimp only
      rw [scan_digits]
      rfl
  | negSucc n =>
      have minus : scanMinus ('-' :: Nat.toDigits 10 (n + 1)) = (['-'], Nat.toDigits 10 (n + 1)) := by
        rw [scanMinus, if_pos rfl]
      rw [printInt, scanNumber, minus]
      dsimp only
      rw [scan_digits]
      rfl

theorem read_int (value : Int) : readInt (printInt value) = value := by
  cases value with
  | ofNat n =>
      rw [printInt]
      have back : (Nat.ofDigitChars 10 (Nat.toDigits 10 n) 0 : Int) = n := by rw [Nat.ofDigitChars_ten_toDigits]
      have digits := digit_chars n
      cases split : Nat.toDigits 10 n with
      | nil => exact absurd split Nat.toDigits_ne_nil
      | cons c rest =>
          rw [split] at digits back
          have digit := digits c List.mem_cons_self
          have plain : ¬ c = '-' := by
            intro minus
            rw [minus] at digit
            cases digit
          exact (if_neg plain).trans back
  | negSucc n =>
      have back : readInt ('-' :: Nat.toDigits 10 (n + 1)) = -(Nat.ofDigitChars 10 (Nat.toDigits 10 (n + 1)) 0 : Int) := by
        rw [readInt, if_pos rfl]
      rw [printInt, back, Nat.ofDigitChars_ten_toDigits]
      omega

end Ints

section Scalars

variable (floats : FloatText K)

-- float.__repr__ writes a number with a fraction or an exponent, or one of the constants, that float reads back.
structure FloatText.Lawful : Prop where
  back : ∀ value, floats.read (floats.shown value) = some value
  shape : ∀ value, (∃ token, scanNumber (floats.shown value) = some (token, []) ∧ token.text = floats.shown value ∧
      token.isInt = false) ∨ floats.shown value ∈ constants

theorem number_head (chars : List Char) (token : NumberToken) (rest : List Char)
    (scanned : scanNumber chars = some (token, rest)) : ∃ c others, chars = c :: others ∧ (c = '-' ∨ c.isDigit = true) := by
  cases chars with
  | nil => cases scanned
  | cons c others =>
      refine ⟨c, others, rfl, ?_⟩
      by_contra neither
      rw [not_or] at neither
      have minus : scanMinus (c :: others) = ([], c :: others) := if_neg neither.1
      have zero : ¬ c = '0' := by
        intro same
        rw [same] at neither
        exact neither.2 rfl
      have integer : scanInteger (c :: others) = none := (if_neg zero).trans (if_neg neither.2)
      rw [scanNumber, minus] at scanned
      dsimp only at scanned
      rw [integer] at scanned
      cases scanned

theorem number_apart (c letter : Char) (head : c = '-' ∨ c.isDigit = true) (noMinus : letter ≠ '-')
    (noDigit : letter.isDigit = false) : c ≠ letter := by
  intro same
  rw [same] at head
  rcases head with minus | digit
  · exact noMinus minus
  · rw [noDigit] at digit
    cases digit

theorem number_no_word (chars : List Char) (token : NumberToken) (rest : List Char)
    (scanned : scanNumber chars = some (token, rest)) : scanWord chars (words : List (List Char × Json K)) = none := by
  obtain ⟨c, others, same, head⟩ := number_head chars token rest scanned
  have n := (number_apart c 'n' head (by decide) (by decide)).symm
  have t := (number_apart c 't' head (by decide) (by decide)).symm
  have f := (number_apart c 'f' head (by decide) (by decide)).symm
  rw [same]
  simp [scanWord, words, List.isPrefixOf?, n, t, f]

theorem scan_scalar_number (chars : List Char) (token : NumberToken) (rest : List Char) (value : Json K)
    (scanned : scanNumber chars = some (token, rest)) (reads : readToken floats token = some value) :
    scanScalar floats chars = some (value, rest) := by
  rw [scanScalar, number_no_word chars token rest scanned, scanned]
  dsimp only
  rw [reads]
  rfl

theorem scan_scalar_constant (name rest : List Char) (known : name ∈ constants) (value : K)
    (reads : floats.read name = some value) : scanScalar floats (name ++ rest) = some (.float value, rest) := by
  simp only [constants, List.map_cons, List.map_nil, List.mem_cons, List.not_mem_nil, or_false] at known
  rcases known with same | same | same
  all_goals
    subst same
    simpa [scanScalar, scanWord, words, scanNumber, scanMinus, scanInteger, scanConstant, constants, List.isPrefixOf?]
      using reads

end Scalars

mutual

-- Objects with distinct keys, at every depth.
def Plain : Json K → Prop
  | .array items => PlainItems items
  | .object fields => (fields.map (·.1)).Nodup ∧ PlainFields fields
  | _ => True

def PlainItems : List (Json K) → Prop
  | [] => True
  | item :: rest => Plain item ∧ PlainItems rest

def PlainFields : List (String × Json K) → Prop
  | [] => True
  | (_, value) :: rest => Plain value ∧ PlainFields rest

end

section Documents

variable (floats : FloatText K)

theorem set_fresh (key : String) (value : Json K) (dict : List (String × Json K)) (fresh : key ∉ dict.map (·.1)) :
    PyDict.set key value dict = dict ++ [(key, value)] := by
  induction dict with
  | nil => rfl
  | cons entry rest ih =>
      rw [List.map_cons, List.mem_cons, not_or] at fresh
      rw [PyDict.set, if_neg fun same => fresh.1 same.symm, ih fresh.2]
      rfl

theorem dict_of_distinct (pairs : List (String × Json K)) (distinct : (pairs.map (·.1)).Nodup) : dictOf pairs = pairs := by
  have grown : ∀ pairs dict : List (String × Json K), ((dict ++ pairs).map (·.1)).Nodup →
      pairs.foldl (fun dict entry => PyDict.set entry.1 entry.2 dict) dict = dict ++ pairs := by
    intro pairs
    induction pairs with
    | nil => exact fun dict _ => (List.append_nil dict).symm
    | cons entry rest ih =>
        intro dict nodup
        have fresh : entry.1 ∉ dict.map (·.1) := by
          rw [List.map_append, List.map_cons] at nodup
          exact fun known => (List.nodup_append.mp nodup).2.2 entry.1 known entry.1 List.mem_cons_self rfl
        rw [List.foldl_cons, set_fresh entry.1 entry.2 dict fresh, ih]
        · rw [List.append_assoc]
          rfl
        · rw [List.append_assoc]
          exact nodup
  exact grown pairs [] distinct

-- The first character of a value is no space and closes nothing.
def Opens (chars : List Char) : Prop :=
  ∃ c rest, chars = c :: rest ∧ isSpace c = false ∧ c ≠ closeBracket ∧ c ≠ closeBrace

theorem opens_append (chars rest : List Char) (opens : Opens chars) : Opens (chars ++ rest) := by
  obtain ⟨c, others, split, facts⟩ := opens
  exact ⟨c, others ++ rest, by rw [split]; rfl, facts⟩

theorem opens_skip (chars : List Char) (opens : Opens chars) : skipSpace chars = chars := by
  obtain ⟨c, rest, split, solid, _⟩ := opens
  rw [split, skipSpace, List.dropWhile_cons_of_neg (by simp [solid])]

theorem number_opens (chars : List Char) (token : NumberToken) (rest : List Char)
    (scanned : scanNumber chars = some (token, rest)) :
    ∃ c others, chars = c :: others ∧ isSpace c = false ∧
      ∀ mark ∈ [quote, openBrace, openBracket, closeBracket, closeBrace], c ≠ mark := by
  obtain ⟨c, others, same, head⟩ := number_head chars token rest scanned
  refine ⟨c, others, same, ?_, ?_⟩
  · have code : ∀ n, (Char.ofNat n).isDigit = false → Char.ofNat n ≠ '-' → c.toNat ≠ n := fun n noDigit noMinus isCode =>
      number_apart c (Char.ofNat n) head noMinus noDigit (by rw [← isCode, Char.ofNat_toNat])
    have blank := number_apart c ' ' head (by decide) (by decide)
    have tab := code 9 (by decide) (by decide)
    have newline := code 10 (by decide) (by decide)
    have carriage := code 13 (by decide) (by decide)
    simp [isSpace, blank, tab, newline, carriage]
  · intro mark member
    have each : [quote, openBrace, openBracket, closeBracket, closeBrace].all
        (fun mark => mark != '-' && !mark.isDigit) = true := by decide
    have here := List.all_eq_true.mp each mark member
    rw [Bool.and_eq_true, bne_iff_ne, Bool.not_eq_true'] at here
    exact number_apart c mark head here.1 here.2

theorem print_opens (lawful : floats.Lawful) (value : Json K) : Opens (print floats value) := by
  have number : ∀ chars token rest, scanNumber chars = some (token, rest) → Opens chars := by
    intro chars token rest scanned
    obtain ⟨c, others, same, solid, apart⟩ := number_opens chars token rest scanned
    exact ⟨c, others, same, solid, apart closeBracket (by simp), apart closeBrace (by simp)⟩
  cases value with
  | null => exact ⟨'n', ['u', 'l', 'l'], rfl, by decide⟩
  | bool value =>
      cases value with
      | true => exact ⟨'t', ['r', 'u', 'e'], rfl, by decide⟩
      | false => exact ⟨'f', ['a', 'l', 's', 'e'], rfl, by decide⟩
  | int value => exact number _ _ _ (scan_int value)
  | float value =>
      rcases lawful.shape value with ⟨token, scanned, _, _⟩ | known
      · exact number _ _ _ scanned
      · have each : ∀ name ∈ constants, Opens name := by
          intro name member
          simp only [constants, List.map_cons, List.map_nil, List.mem_cons, List.not_mem_nil, or_false] at member
          rcases member with same | same | same
          · exact ⟨'N', ['a', 'N'], same, by decide⟩
          · exact ⟨'I', ['n', 'f', 'i', 'n', 'i', 't', 'y'], same, by decide⟩
          · exact ⟨'-', ['I', 'n', 'f', 'i', 'n', 'i', 't', 'y'], same, by decide⟩
        exact each _ known
  | text value => exact ⟨quote, _, rfl, by decide⟩
  | array items => exact ⟨openBracket, _, rfl, by decide⟩
  | object fields => exact ⟨openBrace, _, rfl, by decide⟩

theorem scan_value_scalar (fuel : Nat) (chars : List Char)
    (head : ∃ c others, chars = c :: others ∧ c ≠ quote ∧ c ≠ openBrace ∧ c ≠ openBracket) :
    scanValue floats (fuel + 1) chars = scanScalar floats chars := by
  obtain ⟨c, others, same, noText, noObject, noArray⟩ := head
  rw [same, scanValue, if_neg noText, if_neg noObject, if_neg noArray]

theorem scan_value_number (fuel : Nat) (chars rest : List Char) (closes : Closes rest) (token : NumberToken) (value : Json K)
    (scanned : scanNumber chars = some (token, [])) (reads : readToken floats token = some value) :
    scanValue floats (fuel + 1) (chars ++ rest) = some (value, rest) := by
  have whole : scanNumber (chars ++ rest) = some (token, rest) := by
    rw [scan_number_append chars rest closes, scanned]
    rfl
  obtain ⟨c, others, same, _, apart⟩ := number_opens (chars ++ rest) token rest whole
  rw [scan_value_scalar floats fuel (chars ++ rest)
    ⟨c, others, same, apart quote (by simp), apart openBrace (by simp), apart openBracket (by simp)⟩]
  exact scan_scalar_number floats (chars ++ rest) token rest value whole reads

theorem scan_value_float (lawful : floats.Lawful) (fuel : Nat) (value : K) (rest : List Char) (closes : Closes rest) :
    scanValue floats (fuel + 1) (floats.shown value ++ rest) = some (.float value, rest) := by
  have back := lawful.back value
  rcases lawful.shape value with ⟨token, scanned, isText, notInt⟩ | known
  · refine scan_value_number floats fuel _ rest closes token (.float value) scanned ?_
    rw [readToken, notInt, isText, back]
    rfl
  · have head : ∀ name ∈ constants, ∃ c others, name ++ rest = c :: others ∧ c ≠ quote ∧ c ≠ openBrace ∧ c ≠ openBracket := by
      intro name member
      simp only [constants, List.map_cons, List.map_nil, List.mem_cons, List.not_mem_nil, or_false] at member
      rcases member with same | same | same
      · exact ⟨'N', 'a' :: 'N' :: rest, by rw [same]; rfl, by decide⟩
      · exact ⟨'I', 'n' :: 'f' :: 'i' :: 'n' :: 'i' :: 't' :: 'y' :: rest, by rw [same]; rfl, by decide⟩
      · exact ⟨'-', 'I' :: 'n' :: 'f' :: 'i' :: 'n' :: 'i' :: 't' :: 'y' :: rest, by rw [same]; rfl, by decide⟩
    rw [scan_value_scalar floats fuel _ (head _ known)]
    exact scan_scalar_constant floats (floats.shown value) rest known value back

theorem opens_marks (chars : List Char) (opens : Opens chars) :
    1 ≤ chars.length ∧ chars.head? ≠ some closeBracket ∧ chars.head? ≠ some closeBrace := by
  obtain ⟨c, rest, same, _, noBracket, noBrace⟩ := opens
  rw [same]
  exact ⟨Nat.succ_le_succ (Nat.zero_le _), fun head => noBracket (Option.some.inj head),
    fun head => noBrace (Option.some.inj head)⟩

-- One level of the scan: values read back with this much fuel, and so do the insides of arrays and of objects.
structure ReadsBack (fuel : Nat) : Prop where
  value : ∀ value rest, Plain value → 2 * (print floats value).length ≤ fuel → Closes rest →
    scanValue floats fuel (print floats value ++ rest) = some (value, rest)
  items : ∀ items rest, items ≠ [] → PlainItems items → 2 * (printItems floats items).length + 1 ≤ fuel →
    scanItems floats fuel (printItems floats items ++ closeBracket :: rest) = some (items, rest)
  fields : ∀ fields rest, fields ≠ [] → PlainFields fields → 2 * (printFields floats fields).length + 1 ≤ fuel →
    scanFields floats fuel (printFields floats fields ++ closeBrace :: rest) = some (fields, rest)

theorem skip_comma (rest : List Char) : skipSpace (comma :: rest) = comma :: rest := rfl

theorem skip_brace (rest : List Char) : skipSpace (closeBrace :: rest) = closeBrace :: rest := rfl

theorem skip_colon (rest : List Char) : skipSpace (colon :: rest) = colon :: rest := rfl

theorem items_open (lawful : floats.Lawful) (items : List (Json K)) (some : items ≠ []) : Opens (printItems floats items) := by
  cases items with
  | nil => exact absurd rfl some
  | cons item rest => exact opens_append _ _ (print_opens floats lawful item)

theorem fields_open (fields : List (String × Json K)) (some : fields ≠ []) : Opens (printFields floats fields) := by
  cases fields with
  | nil => exact absurd rfl some
  | cons entry rest => exact ⟨quote, _, rfl, by decide⟩

theorem scan_array (lawful : floats.Lawful) (fuel : Nat) (back : ReadsBack floats fuel) (items : List (Json K))
    (rest : List Char) (plain : PlainItems items) (enough : 2 * (print floats (.array items)).length ≤ fuel + 1) :
    scanValue floats (fuel + 1) (print floats (.array items) ++ rest) = some (.array items, rest) := by
  have shape : print floats (.array items) ++ rest = openBracket :: (printItems floats items ++ closeBracket :: rest) := by
    rw [print, List.cons_append, List.append_assoc]
    rfl
  have length : (print floats (.array items)).length = (printItems floats items).length + 2 := by
    rw [print, List.length_cons, List.length_append]
    rfl
  have noText : ¬ openBracket = quote := by decide
  have noObject : ¬ openBracket = openBrace := by decide
  rw [shape, scanValue, if_neg noText, if_neg noObject, if_pos rfl]
  by_cases none : items = []
  · rw [none]
    exact if_pos rfl
  · have opens := opens_append _ (closeBracket :: rest) (items_open floats lawful items none)
    rw [opens_skip _ opens, if_neg (opens_marks _ opens).2.1, back.items items rest none plain (by omega)]
    rfl

theorem scan_object (fuel : Nat) (back : ReadsBack floats fuel) (fields : List (String × Json K)) (rest : List Char)
    (distinct : (fields.map (·.1)).Nodup) (plain : PlainFields fields)
    (enough : 2 * (print floats (.object fields)).length ≤ fuel + 1) :
    scanValue floats (fuel + 1) (print floats (.object fields) ++ rest) = some (.object fields, rest) := by
  have shape : print floats (.object fields) ++ rest = openBrace :: (printFields floats fields ++ closeBrace :: rest) := by
    rw [print, List.cons_append, List.append_assoc]
    rfl
  have length : (print floats (.object fields)).length = (printFields floats fields).length + 2 := by
    rw [print, List.length_cons, List.length_append]
    rfl
  have noText : ¬ openBrace = quote := by decide
  rw [shape, scanValue, if_neg noText, if_pos rfl]
  by_cases none : fields = []
  · rw [none]
    exact if_pos rfl
  · have opens := opens_append _ (closeBrace :: rest) (fields_open floats fields none)
    rw [opens_skip _ opens, if_neg (opens_marks _ opens).2.2, back.fields fields rest none plain (by omega), Option.map_some,
      dict_of_distinct fields distinct]

theorem scan_text_value (fuel : Nat) (value : String) (rest : List Char)
    (enough : 2 * (print floats (.text value)).length ≤ fuel + 1) :
    scanText fuel (value.toList.flatMap escapeChar ++ quote :: rest) = some (value.toList, rest) := by
  have escaped := escaped_length value.toList
  have length : (print floats (.text value)).length = (value.toList.flatMap escapeChar).length + 2 := by
    rw [print, printText, List.length_cons, List.length_append]
    rfl
  exact scan_text_printed value.toList fuel (by omega) rest

theorem reads_value (lawful : floats.Lawful) (fuel : Nat) (back : ReadsBack floats fuel) (value : Json K) (rest : List Char)
    (plain : Plain value) (enough : 2 * (print floats value).length ≤ fuel + 1) (closes : Closes rest) :
    scanValue floats (fuel + 1) (print floats value ++ rest) = some (value, rest) := by
  cases value with
  | null => rfl
  | bool value =>
      cases value with
      | true => rfl
      | false => rfl
  | int value =>
      refine scan_value_number floats fuel (printInt value) rest closes _ (.int value) (scan_int value) ?_
      have whole : (⟨printInt value, [], []⟩ : NumberToken).isInt = true := rfl
      rw [readToken, if_pos whole]
      exact congrArg (fun read => some (Json.int read)) (read_int value)
  | float value => exact scan_value_float floats lawful fuel value rest closes
  | text value =>
      have shape : print floats (.text value) ++ rest = quote :: (value.toList.flatMap escapeChar ++ quote :: rest) := by
        rw [print, printText, List.cons_append, List.append_assoc]
        rfl
      rw [shape, scanValue, if_pos rfl, scan_text_value floats fuel value rest enough, Option.map_some, String.ofList_toList]
  | array items => exact scan_array floats lawful fuel back items rest plain enough
  | object fields => exact scan_object floats fuel back fields rest plain.1 plain.2 enough

theorem reads_items (lawful : floats.Lawful) (fuel : Nat) (back : ReadsBack floats fuel) (items : List (Json K))
    (rest : List Char) (some : items ≠ []) (plain : PlainItems items)
    (enough : 2 * (printItems floats items).length + 1 ≤ fuel + 1) :
    scanItems floats (fuel + 1) (printItems floats items ++ closeBracket :: rest) = .some (items, rest) := by
  cases items with
  | nil => exact absurd rfl some
  | cons item others =>
      have length : (printItems floats (item :: others)).length = (print floats item).length +
          (if others.isEmpty then [] else comma :: printItems floats others).length := by
        rw [printItems, List.length_append]
      cases others with
      | nil =>
          have first := back.value item (closeBracket :: rest) plain.1 (by simp at length; omega) (Or.inr (Or.inl rfl))
          have shape : printItems floats [item] = print floats item := by
            rw [printItems, List.isEmpty_nil, if_pos rfl, List.append_nil]
          rw [shape, scanItems, first, Option.bind_some]
          rfl
      | cons next more =>
          have first := back.value item (comma :: (printItems floats (next :: more) ++ closeBracket :: rest)) plain.1
            (by simp at length; omega) (Or.inl rfl)
          have later := back.items (next :: more) rest (List.cons_ne_nil next more) plain.2 (by simp at length; omega)
          have opens := opens_append _ (closeBracket :: rest)
            (items_open floats lawful (next :: more) (List.cons_ne_nil next more))
          have shape : printItems floats (item :: next :: more) ++ closeBracket :: rest =
              print floats item ++ comma :: (printItems floats (next :: more) ++ closeBracket :: rest) := by
            rw [printItems, List.isEmpty_cons, if_neg Bool.false_ne_true, List.append_assoc, List.cons_append]
          rw [shape, scanItems, first, Option.bind_some]
          dsimp only
          rw [skip_comma]
          dsimp only
          rw [if_pos rfl, opens_skip _ opens, later]
          rfl

theorem reads_fields (fuel : Nat) (lawful : floats.Lawful) (back : ReadsBack floats fuel) (fields : List (String × Json K))
    (rest : List Char) (some : fields ≠ []) (plain : PlainFields fields)
    (enough : 2 * (printFields floats fields).length + 1 ≤ fuel + 1) :
    scanFields floats (fuel + 1) (printFields floats fields ++ closeBrace :: rest) = .some (fields, rest) := by
  cases fields with
  | nil => exact absurd rfl some
  | cons entry others =>
      obtain ⟨key, value⟩ := entry
      have escaped := escaped_length key.toList
      have length : (printFields floats ((key, value) :: others)).length = (key.toList.flatMap escapeChar).length + 3 +
          (print floats value).length + (if others.isEmpty then [] else comma :: printFields floats others).length := by
        simp only [printFields, printText, List.length_append, List.length_cons, List.length_nil]
        omega
      have shape : ∀ tail, printFields floats ((key, value) :: others) ++ tail =
          quote :: (key.toList.flatMap escapeChar ++ quote :: (colon :: (print floats value ++
            ((if others.isEmpty then [] else comma :: printFields floats others) ++ tail)))) := by
        intro tail
        simp only [printFields, printText, List.cons_append, List.append_assoc, List.nil_append]
      have named := fun tail => scan_text_printed key.toList fuel (by omega) tail
      have entered : ∀ tail, skipSpace (print floats value ++ tail) = print floats value ++ tail := fun tail =>
        opens_skip _ (opens_append _ tail (print_opens floats lawful value))
      cases others with
      | nil =>
          have first := back.value value (closeBrace :: rest) plain.1 (by omega) (Or.inr (Or.inr rfl))
          rw [shape, scanFields, if_pos rfl, named, Option.bind_some]
          dsimp only
          rw [skip_colon]
          dsimp only
          rw [if_pos rfl, entered, List.isEmpty_nil, if_pos rfl, List.nil_append, first, Option.bind_some]
          dsimp only
          rw [skip_brace, String.ofList_toList]
          rfl
      | cons next more =>
          rw [List.isEmpty_cons, if_neg Bool.false_ne_true, List.length_cons] at length
          have first := back.value value (comma :: (printFields floats (next :: more) ++ closeBrace :: rest)) plain.1
            (by omega) (Or.inl rfl)
          have later := back.fields (next :: more) rest (List.cons_ne_nil next more) plain.2 (by omega)
          have opens := opens_append _ (closeBrace :: rest) (fields_open floats (next :: more) (List.cons_ne_nil next more))
          rw [shape, scanFields, if_pos rfl, named, Option.bind_some]
          dsimp only
          rw [skip_colon]
          dsimp only
          rw [if_pos rfl, entered, List.isEmpty_cons, if_neg Bool.false_ne_true, List.cons_append, first, Option.bind_some]
          dsimp only
          rw [skip_comma]
          dsimp only
          rw [if_pos rfl, opens_skip _ opens, later, String.ofList_toList]
          rfl

theorem reads_back (lawful : floats.Lawful) (fuel : Nat) : ReadsBack floats fuel := by
  induction fuel with
  | zero =>
      refine ⟨fun value rest plain enough => ?_, fun items rest some plain enough => ?_, fun fields rest some plain enough => ?_⟩
      · have opens := (opens_marks _ (print_opens floats lawful value)).1
        omega
      · omega
      · omega
  | succ fuel back =>
      exact ⟨fun value rest plain enough closes => reads_value floats lawful fuel back value rest plain enough closes,
        fun items rest some plain enough => reads_items floats lawful fuel back items rest some plain enough,
        fun fields rest some plain enough => reads_fields floats fuel lawful back fields rest some plain enough⟩

-- json.loads(json.dumps(value)) == value
theorem loads_dumps (lawful : floats.Lawful) (value : Json K) (plain : Plain value) :
    loads floats (dumps floats value) = some value := by
  have opens := opens_skip _ (print_opens floats lawful value)
  have read := (reads_back floats lawful (2 * (print floats value).length + 2)).value value [] plain (by omega) trivial
  rw [List.append_nil] at read
  rw [loads, dumps, String.toList_ofList, opens, read]
  rfl

end Documents

section Loaded

variable (floats : FloatText K)

theorem set_plain (key : String) (value : Json K) (dict : List (String × Json K)) (plain : Plain value)
    (before : PlainFields dict) : PlainFields (PyDict.set key value dict) := by
  induction dict with
  | nil => exact ⟨plain, trivial⟩
  | cons entry rest ih =>
      rw [PyDict.set]
      split
      · exact ⟨plain, before.2⟩
      · exact ⟨before.1, ih before.2⟩

theorem dict_plain (pairs : List (String × Json K)) (plain : PlainFields pairs) : Plain (.object (dictOf pairs)) := by
  have grown : ∀ pairs dict : List (String × Json K), PlainFields pairs → Plain (.object dict) →
      Plain (.object (pairs.foldl (fun dict entry => PyDict.set entry.1 entry.2 dict) dict)) := by
    intro pairs
    induction pairs with
    | nil => exact fun dict _ before => before
    | cons entry rest ih =>
        intro dict values before
        exact ih (PyDict.set entry.1 entry.2 dict) values.2
          ⟨(PyDict.set_keys entry.1 entry.2 dict before.1).1, set_plain entry.1 entry.2 dict values.1 before.2⟩
  exact grown pairs [] plain ⟨List.nodup_nil, trivial⟩

theorem word_plain (chars : List Char) (listed : List (List Char × Json K)) (known : ∀ word ∈ listed, Plain word.2)
    (found : Json K × List Char) (scanned : scanWord chars listed = some found) : Plain found.1 := by
  induction listed with
  | nil => cases scanned
  | cons word rest ih =>
      rw [scanWord] at scanned
      split at scanned
      · cases scanned
        exact known word List.mem_cons_self
      · exact ih (fun other member => known other (List.mem_cons_of_mem word member)) scanned

theorem constant_plain (chars : List Char) (names : List (List Char)) (found : Json K × List Char)
    (scanned : scanConstant floats chars names = some found) : Plain found.1 := by
  induction names with
  | nil => cases scanned
  | cons name rest ih =>
      rw [scanConstant] at scanned
      split at scanned
      · obtain ⟨value, _, same⟩ := Option.map_eq_some_iff.mp scanned
        rw [← same]
        trivial
      · exact ih scanned

theorem scalar_plain (chars : List Char) (found : Json K × List Char) (scanned : scanScalar floats chars = some found) :
    Plain found.1 := by
  rw [scanScalar] at scanned
  split at scanned
  · rename_i isWord
    cases scanned
    refine word_plain chars words (fun entry member => ?_) found isWord
    simp only [words, List.mem_cons, List.not_mem_nil, or_false] at member
    rcases member with same | same | same
    all_goals
      rw [same]
      trivial
  · split at scanned
    · rename_i number _
      obtain ⟨value, read, same⟩ := Option.map_eq_some_iff.mp scanned
      rw [← same]
      rw [readToken] at read
      split at read
      · cases read
        trivial
      · obtain ⟨held, _, isFloat⟩ := Option.map_eq_some_iff.mp read
        rw [← isFloat]
        trivial
    · exact constant_plain floats chars constants found scanned

structure ScansPlain (fuel : Nat) : Prop where
  value : ∀ chars found, scanValue floats fuel chars = some found → Plain found.1
  items : ∀ chars found, scanItems floats fuel chars = some found → PlainItems found.1
  fields : ∀ chars found, scanFields floats fuel chars = some found → PlainFields found.1

theorem value_scans_plain (fuel : Nat) (below : ScansPlain floats fuel) (chars : List Char) (found : Json K × List Char)
    (scanned : scanValue floats (fuel + 1) chars = some found) : Plain found.1 := by
  cases chars with
  | nil => cases scanned
  | cons c rest =>
      rw [scanValue] at scanned
      split at scanned
      · obtain ⟨text, _, same⟩ := Option.map_eq_some_iff.mp scanned
        rw [← same]
        trivial
      · split at scanned
        · split at scanned
          · cases scanned
            exact ⟨List.nodup_nil, trivial⟩
          · obtain ⟨pairs, inside, same⟩ := Option.map_eq_some_iff.mp scanned
            rw [← same]
            exact dict_plain pairs.1 (below.fields _ pairs inside)
        · split at scanned
          · split at scanned
            · cases scanned
              trivial
            · obtain ⟨items, inside, same⟩ := Option.map_eq_some_iff.mp scanned
              rw [← same]
              exact below.items _ items inside
          · exact scalar_plain floats (c :: rest) found scanned

theorem items_scan_plain (fuel : Nat) (below : ScansPlain floats fuel) (chars : List Char)
    (found : List (Json K) × List Char) (scanned : scanItems floats (fuel + 1) chars = some found) : PlainItems found.1 := by
  rw [scanItems] at scanned
  obtain ⟨item, first, rest⟩ := Option.bind_eq_some_iff.mp scanned
  have plain := below.value chars item first
  split at rest
  · cases rest
  · split at rest
    · obtain ⟨others, later, same⟩ := Option.map_eq_some_iff.mp rest
      rw [← same]
      exact ⟨plain, below.items _ others later⟩
    · split at rest
      · cases rest
        exact ⟨plain, trivial⟩
      · cases rest

theorem fields_scan_plain (fuel : Nat) (below : ScansPlain floats fuel) (chars : List Char)
    (found : List (String × Json K) × List Char) (scanned : scanFields floats (fuel + 1) chars = some found) :
    PlainFields found.1 := by
  cases chars with
  | nil => cases scanned
  | cons c rest =>
      rw [scanFields] at scanned
      split at scanned
      · obtain ⟨key, _, valued⟩ := Option.bind_eq_some_iff.mp scanned
        split at valued
        · cases valued
        · split at valued
          · obtain ⟨value, first, rest⟩ := Option.bind_eq_some_iff.mp valued
            have plain := below.value _ value first
            split at rest
            · cases rest
            · split at rest
              · obtain ⟨others, later, same⟩ := Option.map_eq_some_iff.mp rest
                rw [← same]
                exact ⟨plain, below.fields _ others later⟩
              · split at rest
                · cases rest
                  exact ⟨plain, trivial⟩
                · cases rest
          · cases valued
      · cases scanned

theorem scans_plain (fuel : Nat) : ScansPlain floats fuel := by
  induction fuel with
  | zero =>
      refine ⟨fun chars found scanned => ?_, fun chars found scanned => ?_, fun chars found scanned => ?_⟩
      · cases scanned
      · cases scanned
      · cases scanned
  | succ fuel below =>
      exact ⟨value_scans_plain floats fuel below, items_scan_plain floats fuel below, fields_scan_plain floats fuel below⟩

-- What json.loads returns has distinct keys in its objects.
theorem loads_plain (text : String) (value : Json K) (loaded : loads floats text = some value) : Plain value := by
  obtain ⟨found, scanned, whole⟩ := Option.bind_eq_some_iff.mp loaded
  split at whole
  · cases whole
    exact (scans_plain floats _).value _ found scanned
  · cases whole

end Loaded

section Plainness

theorem plain_field (fields : List (String × Json K)) (plain : PlainFields fields) (key : String) :
    Plain ((PyDict.lookup fields key).getD .null) := by
  induction fields with
  | nil => trivial
  | cons entry rest ih =>
      rw [PyDict.lookup_cons]
      split
      · exact plain.1
      · exact ih plain.2

theorem plain_of_field (data : Json K) (plain : Plain data) (key : String) : Plain (data.field key) := by
  cases data with
  | object fields => exact plain_field fields plain.2 key
  | _ => trivial

theorem plain_items_of (items : List (Json K)) (each : ∀ item ∈ items, Plain item) : PlainItems items := by
  induction items with
  | nil => trivial
  | cons item rest ih =>
      exact ⟨each item List.mem_cons_self, ih fun other member => each other (List.mem_cons_of_mem item member)⟩

theorem plain_fields_of (fields : List (String × Json K)) (each : ∀ entry ∈ fields, Plain entry.2) : PlainFields fields := by
  induction fields with
  | nil => trivial
  | cons entry rest ih =>
      exact ⟨each entry List.mem_cons_self, ih fun other member => each other (List.mem_cons_of_mem entry member)⟩

theorem fields_plain_each (fields : List (String × Json K)) (plain : PlainFields fields) : ∀ entry ∈ fields, Plain entry.2 := by
  induction fields with
  | nil => exact fun entry member => by cases member
  | cons first rest ih =>
      intro entry member
      rcases List.mem_cons.mp member with here | later
      · exact here ▸ plain.1
      · exact ih plain.2 entry later

theorem set_object_plain (key : String) (value : Json K) (fields : List (String × Json K)) (plain : Plain (.object fields))
    (inner : Plain value) : Plain (.object (PyDict.set key value fields)) :=
  ⟨(PyDict.set_keys key value fields plain.1).1, set_plain key value fields inner plain.2⟩

theorem plain_items_each (data : Json K) (plain : Plain data) : ∀ item ∈ data.items, Plain item := by
  have each : ∀ items : List (Json K), PlainItems items → ∀ item ∈ items, Plain item := by
    intro items inner
    induction items with
    | nil => exact fun item member => absurd member List.not_mem_nil
    | cons first rest ih => exact List.forall_mem_cons.mpr ⟨inner.1, ih inner.2⟩
  cases data with
  | array items => exact each items plain
  | _ => exact fun item member => absurd member List.not_mem_nil

theorem plain_dict_field (data dict : Json K) (plain : Plain data) (key : String) (found : data.dictField key = some dict) :
    Plain dict := by
  have inner := plain_of_field data plain key
  rw [Json.dictField] at found
  split at found
  · rename_i fields isDict
    cases found
    rwa [isDict] at inner
  · cases found

theorem plain_put (data : Json K) (plain : Plain data) (key : String) (value : Json K) (inner : Plain value) :
    Plain (data.put key value) := by
  cases data with
  | object fields => exact set_object_plain key value fields plain inner
  | _ => exact plain

theorem plain_set_default (data : Json K) (plain : Plain data) (key : String) (value : Json K) (inner : Plain value) :
    Plain (data.setDefault key value) := by
  rw [Json.setDefault]
  split
  · exact plain
  · exact plain_put data plain key value inner

end Plainness

end SasCore.JsonText
