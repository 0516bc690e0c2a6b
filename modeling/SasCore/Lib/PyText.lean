import Mathlib.Data.List.DropRight

set_option autoImplicit false

namespace SasCore.PyText

-- The code points for which str.isspace holds; strip removes runs of these at both ends.
def isSpace (c : Char) : Bool :=
  let n := c.toNat
  (9 ≤ n && n ≤ 13) || (28 ≤ n && n ≤ 32) || n == 0x85 || n == 0xa0 || n == 0x1680 ||
    (0x2000 ≤ n && n ≤ 0x200a) || n == 0x2028 || n == 0x2029 || n == 0x202f || n == 0x205f || n == 0x3000

def strip (text : List Char) : List Char :=
  ((text.dropWhile isSpace).reverse.dropWhile isSpace).reverse

theorem strip_strip (text : List Char) : strip (strip text) = strip text := by
  have trailing : ∀ held : List Char, (held.reverse.dropWhile isSpace).reverse = held.rdropWhile isSpace := fun _ => rfl
  simp only [strip, trailing]
  generalize shape : text.dropWhile isSpace = rest
  have leading : rest.dropWhile isSpace = rest := by
    rw [← shape]
    exact List.dropWhile_idempotent isSpace text
  have starts : (rest.rdropWhile isSpace).dropWhile isSpace = rest.rdropWhile isSpace := by
    rw [List.dropWhile_eq_self_iff] at leading ⊢
    intro long
    have isPrefix := List.rdropWhile_prefix isSpace rest
    have enough : 0 < rest.length := Nat.lt_of_lt_of_le long isPrefix.length_le
    have same : (rest.rdropWhile isSpace).get ⟨0, long⟩ = rest.get ⟨0, enough⟩ := by
      simp only [List.get_eq_getElem]
      exact isPrefix.getElem long
    have first := leading enough
    simp only [List.get_eq_getElem] at same first
    rw [same]
    exact first
  rw [starts]
  exact List.rdropWhile_idempotent isSpace rest

-- Only what becomes an ASCII letter is mapped: results are compared with ASCII constants. The dotless i and the
-- long s are the two code points beyond ASCII whose upper case is one letter of them.
def upper (text : List Char) : List Char :=
  text.map fun c => if c = '\u0131' then 'I' else if c = '\u017f' then 'S' else c.toUpper

def stripUpper (text : String) : List Char := upper (strip text.toList)

-- The same for the ASCII letters the other way: the Kelvin sign is the one code point beyond them whose lower
-- case is an ASCII letter.
def lower (text : List Char) : List Char := text.map fun c => if c = '\u212a' then 'k' else c.toLower

-- str.split(): the runs between white space.
def wordsFrom (current : List Char) : List Char → List (List Char)
  | [] => if current = [] then [] else [current.reverse]
  | c :: rest =>
      if isSpace c then (if current = [] then wordsFrom [] rest else current.reverse :: wordsFrom [] rest)
      else wordsFrom (c :: current) rest

def words (text : List Char) : List (List Char) := wordsFrom [] text

def isLineEnd (c : Char) : Bool :=
  let n := c.toNat
  (10 ≤ n && n ≤ 13) || (28 ≤ n && n ≤ 30) || n == 0x85 || n == 0x2028 || n == 0x2029

-- str.splitlines(): a carriage return with the line feed after it ends one line.
def linesFrom (current : List Char) : List Char → List (List Char)
  | [] => if current = [] then [] else [current.reverse]
  | '\r' :: '\n' :: rest => current.reverse :: linesFrom [] rest
  | c :: rest => if isLineEnd c then current.reverse :: linesFrom [] rest else linesFrom (c :: current) rest

def lines (text : List Char) : List (List Char) := linesFrom [] text

-- A text is cut in one way at the first separator.
theorem cut_unique {α : Type} (separator : α) (front back otherFront otherBack : List α) (whole : separator ∉ front)
    (otherWhole : separator ∉ otherFront) (same : front ++ separator :: back = otherFront ++ separator :: otherBack) :
    front = otherFront ∧ back = otherBack := by
  rcases List.append_eq_append_iff.mp same with ⟨middle, isOther, rest⟩ | ⟨middle, isFront, rest⟩
  · cases middle with
    | nil => exact ⟨by simpa using isOther.symm, (List.cons.inj rest).2⟩
    | cons first others =>
        rw [← (List.cons.inj rest).1] at isOther
        exact absurd (by simp [isOther]) otherWhole
  · cases middle with
    | nil => exact ⟨by simpa using isFront, (List.cons.inj rest).2.symm⟩
    | cons first others =>
        rw [← (List.cons.inj rest).1] at isFront
        exact absurd (by simp [isFront]) whole

end SasCore.PyText
