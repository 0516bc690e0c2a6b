import SasCore.Lib.Json

set_option autoImplicit false

namespace SasCore.JsonText

variable {K : Type}

def quote : Char := Char.ofNat 34
def backslash : Char := Char.ofNat 92
def comma : Char := Char.ofNat 44
def colon : Char := Char.ofNat 58
def openBracket : Char := Char.ofNat 91
def closeBracket : Char := Char.ofNat 93
def openBrace : Char := Char.ofNat 123
def closeBrace : Char := Char.ofNat 125

-- float.__repr__ and float of a text.
structure FloatText (K : Type) where
  shown : K → List Char
  read : List Char → Option K

section Print

def hexChar (n : Nat) : Char := if n < 10 then Char.ofNat (48 + n) else Char.ofNat (87 + n)

-- With ensure_ascii off, only quotes, backslashes and control characters are escaped.
def escapeChar (c : Char) : List Char :=
  if c = quote then [backslash, quote]
  else if c = backslash then [backslash, backslash]
  else if c.toNat = 10 then [backslash, 'n']
  else if c.toNat = 13 then [backslash, 'r']
  else if c.toNat = 9 then [backslash, 't']
  else if c.toNat = 12 then [backslash, 'f']
  else if c.toNat = 8 then [backslash, 'b']
  else if c.toNat < 32 then [backslash, 'u', '0', '0', hexChar (c.toNat / 16), hexChar (c.toNat % 16)]
  else [c]

def printText (text : List Char) : List Char := quote :: (text.flatMap escapeChar ++ [quote])

def printInt : Int → List Char
  | .ofNat n => Nat.toDigits 10 n
  | .negSucc n => '-' :: Nat.toDigits 10 (n + 1)

mutual

def print (floats : FloatText K) : Json K → List Char
  | .null => ['n', 'u', 'l', 'l']
  | .bool true => ['t', 'r', 'u', 'e']
  | .bool false => ['f', 'a', 'l', 's', 'e']
  | .int value => printInt value
  | .float value => floats.shown value
  | .text value => printText value.toList
  | .array items => openBracket :: (printItems floats items ++ [closeBracket])
  | .object fields => openBrace :: (printFields floats fields ++ [closeBrace])

def printItems (floats : FloatText K) : List (Json K) → List Char
  | [] => []
  | item :: rest => print floats item ++ if rest.isEmpty then [] else comma :: printItems floats rest

def printFields (floats : FloatText K) : List (String × Json K) → List Char
  | [] => []
  | (key, value) :: rest =>
      printText key.toList ++ colon :: (print floats value ++
        if rest.isEmpty then [] else comma :: printFields floats rest)

end

-- json.dumps with separators (",", ":") and ensure_ascii off.
def dumps (floats : FloatText K) (value : Json K) : String := String.ofList (print floats value)

end Print

section Scan

def isSpace (c : Char) : Bool := c = ' ' || c.toNat = 9 || c.toNat = 10 || c.toNat = 13

def skipSpace (chars : List Char) : List Char := chars.dropWhile isSpace

def hexValue (c : Char) : Option Nat :=
  let n := c.toNat
  if 48 ≤ n ∧ n ≤ 57 then some (n - 48)
  else if 97 ≤ n ∧ n ≤ 102 then some (n - 87)
  else if 65 ≤ n ∧ n ≤ 70 then some (n - 55)
  else none

def scanHex : List Char → Option (Nat × List Char)
  | a :: b :: c :: d :: rest =>
      match hexValue a, hexValue b, hexValue c, hexValue d with
      | some w, some x, some y, some z => some (((w * 16 + x) * 16 + y) * 16 + z, rest)
      | _, _, _, _ => none
  | _ => none

-- The second half of a surrogate pair, with its escape.
def scanLow : List Char → Option (Nat × List Char)
  | first :: second :: rest => if first = backslash ∧ second = 'u' then scanHex rest else none
  | _ => none

-- A surrogate without its other half is no character here, and the text does not read.
def scanUnicode (chars : List Char) : Option (Char × List Char) :=
  (scanHex chars).bind fun high =>
    if 0xd800 ≤ high.1 ∧ high.1 < 0xdc00 then
      (scanLow high.2).bind fun low =>
        if 0xdc00 ≤ low.1 ∧ low.1 < 0xe000 then
          some (Char.ofNat (0x10000 + (high.1 - 0xd800) * 1024 + (low.1 - 0xdc00)), low.2)
        else none
    else if 0xdc00 ≤ high.1 ∧ high.1 < 0xe000 then none
    else some (Char.ofNat high.1, high.2)

def simpleEscape (c : Char) : Option Char :=
  if c = quote then some quote
  else if c = backslash then some backslash
  else if c = '/' then some '/'
  else if c = 'b' then some (Char.ofNat 8)
  else if c = 'f' then some (Char.ofNat 12)
  else if c = 'n' then some (Char.ofNat 10)
  else if c = 'r' then some (Char.ofNat 13)
  else if c = 't' then some (Char.ofNat 9)
  else none

-- What follows a backslash.
def unescape : List Char → Option (Char × List Char)
  | [] => none
  | c :: rest => if c = 'u' then scanUnicode rest else (simpleEscape c).map fun char => (char, rest)

def scanText : Nat → List Char → Option (List Char × List Char)
  | 0, _ => none
  | _ + 1, [] => none
  | fuel + 1, c :: rest =>
      if c = quote then some ([], rest)
      else if c = backslash then
        (unescape rest).bind fun found => (scanText fuel found.2).map fun tail => (found.1 :: tail.1, tail.2)
      else if c.toNat < 32 then none
      else (scanText fuel rest).map fun tail => (c :: tail.1, tail.2)

structure NumberToken where
  integer : List Char
  fraction : List Char
  exponent : List Char
deriving DecidableEq, Repr

def NumberToken.text (token : NumberToken) : List Char := token.integer ++ token.fraction ++ token.exponent

def NumberToken.isInt (token : NumberToken) : Bool := token.fraction.isEmpty && token.exponent.isEmpty

def scanInteger : List Char → Option (List Char × List Char)
  | [] => none
  | c :: rest =>
      if c = '0' then some ([c], rest)
      else if c.isDigit then some (c :: rest.takeWhile Char.isDigit, rest.dropWhile Char.isDigit)
      else none

def scanFraction (chars : List Char) : List Char × List Char :=
  match chars with
  | [] => ([], [])
  | c :: rest =>
      if c = '.' ∧ rest.takeWhile Char.isDigit ≠ [] then (c :: rest.takeWhile Char.isDigit, rest.dropWhile Char.isDigit)
      else ([], c :: rest)

def scanSign (chars : List Char) : List Char × List Char :=
  match chars with
  | [] => ([], [])
  | c :: rest => if c = '+' ∨ c = '-' then ([c], rest) else ([], c :: rest)

def scanExponent (chars : List Char) : List Char × List Char :=
  match chars with
  | [] => ([], [])
  | c :: rest =>
      let sign := scanSign rest
      if (c = 'e' ∨ c = 'E') ∧ sign.2.takeWhile Char.isDigit ≠ [] then
        (c :: (sign.1 ++ sign.2.takeWhile Char.isDigit), sign.2.dropWhile Char.isDigit)
      else ([], c :: rest)

def scanMinus (chars : List Char) : List Char × List Char :=
  match chars with
  | [] => ([], [])
  | c :: rest => if c = '-' then ([c], rest) else ([], c :: rest)

def scanNumber (chars : List Char) : Option (NumberToken × List Char) :=
  let minus := scanMinus chars
  (scanInteger minus.2).map fun integer =>
    let fraction := scanFraction integer.2
    let exponent := scanExponent fraction.2
    (⟨minus.1 ++ integer.1, fraction.1, exponent.1⟩, exponent.2)

def readInt : List Char → Int
  | [] => 0
  | c :: rest => if c = '-' then -(Nat.ofDigitChars 10 rest 0 : Int) else Nat.ofDigitChars 10 (c :: rest) 0

def readToken (floats : FloatText K) (token : NumberToken) : Option (Json K) :=
  if token.isInt then some (.int (readInt token.integer)) else (floats.read token.text).map .float

def constants : List (List Char) := ["NaN", "Infinity", "-Infinity"].map String.toList

def scanConstant (floats : FloatText K) (chars : List Char) : List (List Char) → Option (Json K × List Char)
  | [] => none
  | name :: rest =>
      match name.isPrefixOf? chars with
      | some after => (floats.read name).map fun value => (.float value, after)
      | none => scanConstant floats chars rest

def words : List (List Char × Json K) :=
  [("null".toList, .null), ("true".toList, .bool true), ("false".toList, .bool false)]

def scanWord (chars : List Char) : List (List Char × Json K) → Option (Json K × List Char)
  | [] => none
  | word :: rest =>
      match word.1.isPrefixOf? chars with
      | some after => some (word.2, after)
      | none => scanWord chars rest

def scanScalar (floats : FloatText K) (chars : List Char) : Option (Json K × List Char) :=
  match scanWord chars words with
  | some found => some found
  | none =>
      match scanNumber chars with
      | some found => (readToken floats found.1).map fun value => (value, found.2)
      | none => scanConstant floats chars constants

-- dict(pairs): the last value of a key, at the place of the first.
def dictOf (pairs : List (String × Json K)) : List (String × Json K) :=
  pairs.foldl (fun dict entry => PyDict.set entry.1 entry.2 dict) []

mutual

def scanValue (floats : FloatText K) : Nat → List Char → Option (Json K × List Char)
  | 0, _ => none
  | _ + 1, [] => none
  | fuel + 1, c :: rest =>
      if c = quote then (scanText fuel rest).map fun found => (.text (String.ofList found.1), found.2)
      else if c = openBrace then
        if (skipSpace rest).head? = some closeBrace then some (.object [], (skipSpace rest).tail)
        else (scanFields floats fuel (skipSpace rest)).map fun found => (.object (dictOf found.1), found.2)
      else if c = openBracket then
        if (skipSpace rest).head? = some closeBracket then some (.array [], (skipSpace rest).tail)
        else (scanItems floats fuel (skipSpace rest)).map fun found => (.array found.1, found.2)
      else scanScalar floats (c :: rest)

def scanItems (floats : FloatText K) : Nat → List Char → Option (List (Json K) × List Char)
  | 0, _ => none
  | fuel + 1, chars =>
      (scanValue floats fuel chars).bind fun item =>
        match skipSpace item.2 with
        | [] => none
        | c :: after =>
            if c = comma then
              (scanItems floats fuel (skipSpace after)).map fun others => (item.1 :: others.1, others.2)
            else if c = closeBracket then some ([item.1], after)
            else none

def scanFields (floats : FloatText K) : Nat → List Char → Option (List (String × Json K) × List Char)
  | 0, _ => none
  | _ + 1, [] => none
  | fuel + 1, c :: rest =>
      if c = quote then
        (scanText fuel rest).bind fun key =>
          match skipSpace key.2 with
          | [] => none
          | second :: valued =>
              if second = colon then
                (scanValue floats fuel (skipSpace valued)).bind fun value =>
                  match skipSpace value.2 with
                  | [] => none
                  | last :: after =>
                      if last = comma then
                        (scanFields floats fuel (skipSpace after)).map fun others =>
                          ((String.ofList key.1, value.1) :: others.1, others.2)
                      else if last = closeBrace then some ([(String.ofList key.1, value.1)], after)
                      else none
              else none
      else none

end

-- json.loads, `none` where it raises. Every level takes two units of fuel at most for each character it reads.
def loads (floats : FloatText K) (text : String) : Option (Json K) :=
  (scanValue floats (2 * text.toList.length + 2) (skipSpace text.toList)).bind fun found =>
    if skipSpace found.2 = [] then some found.1 else none

end Scan

end SasCore.JsonText
