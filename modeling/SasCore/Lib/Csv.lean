import SasCore.Lib.PyDict

set_option autoImplicit false

-- The csv module of Python in its default dialect: a reader of records, and csv.DictReader on it.
namespace SasCore.Csv

inductive Mode where
  | startRecord | startField | inField | inQuotedField | quoteInQuotedField | eatNewline
deriving DecidableEq, Repr

-- The field that is read, its characters in reverse, and the fields before it, in reverse too.
structure Scanner where
  mode : Mode
  field : List Char
  fields : List String

def fresh : Scanner := ⟨.startRecord, [], []⟩

def fieldLimit : Nat := 131072

def Scanner.save (mode : Mode) (scanner : Scanner) : Scanner :=
  ⟨mode, [], String.ofList scanner.field.reverse :: scanner.fields⟩

def Scanner.add (mode : Mode) (c : Char) (scanner : Scanner) : Except String Scanner :=
  if fieldLimit ≤ scanner.field.length then .error "Error" else .ok { scanner with mode := mode, field := c :: scanner.field }

def isNewline (c : Char) : Bool := c = '\n' || c = '\r'

-- One character of a line; `none` is the end that follows every line.
def process (scanner : Scanner) (next : Option Char) : Except String Scanner :=
  let fieldStart : Except String Scanner :=
    match next with
    | none => .ok (scanner.save .startRecord)
    | some c =>
        if isNewline c then .ok (scanner.save .eatNewline)
        else if c = '"' then .ok { scanner with mode := .inQuotedField }
        else if c = ',' then .ok (scanner.save .startField)
        else scanner.add .inField c
  match scanner.mode, next with
  | .startRecord, none => .ok scanner
  | .startRecord, some c => if isNewline c then .ok { scanner with mode := .eatNewline } else fieldStart
  | .startField, _ => fieldStart
  | .inField, none => .ok (scanner.save .startRecord)
  | .inField, some c =>
      if isNewline c then .ok (scanner.save .eatNewline)
      else if c = ',' then .ok (scanner.save .startField)
      else scanner.add .inField c
  | .inQuotedField, none => .ok scanner
  | .inQuotedField, some c =>
      if c = '"' then .ok { scanner with mode := .quoteInQuotedField } else scanner.add .inQuotedField c
  | .quoteInQuotedField, none => .ok (scanner.save .startRecord)
  | .quoteInQuotedField, some c =>
      if c = '"' then scanner.add .inQuotedField c
      else if c = ',' then .ok (scanner.save .startField)
      else if isNewline c then .ok (scanner.save .eatNewline)
      else scanner.add .inField c
  | .eatNewline, none => .ok { scanner with mode := .startRecord }
  | .eatNewline, some c => if isNewline c then .ok scanner else .error "Error"

-- The lines of io.StringIO, each with the line feed that ends it.
def linesFrom (current : List Char) : List Char → List (List Char)
  | [] => if current = [] then [] else [current.reverse]
  | c :: rest => if c = '\n' then (c :: current).reverse :: linesFrom [] rest else linesFrom (c :: current) rest

-- The records up to the end of the text, or up to the error that ends them.
def recordsFrom (scanner : Scanner) : List (List Char) → List (List String) × Option String
  | [] =>
      if scanner.field ≠ [] ∨ scanner.mode = .inQuotedField then ([(scanner.save .startRecord).fields.reverse], none) else ([], none)
  | line :: rest =>
      match (line.map some ++ [none]).foldlM process scanner with
      | .error error => ([], some error)
      | .ok next =>
          if next.mode = .startRecord then
            let later := recordsFrom fresh rest
            (next.fields.reverse :: later.1, later.2)
          else recordsFrom next rest

def records (text : List Char) : List (List String) × Option String := recordsFrom fresh (linesFrom [] text)

-- A row under the names of the header. A missing value is None; those beyond the header, which go under the key None, are left
-- out.
def dictRow (fieldnames row : List String) : List (String × Option String) :=
  PyDict.update ((fieldnames.drop row.length).map fun name => (name, none))
    (PyDict.update ((fieldnames.zip row).map fun field => (field.1, some field.2)) [])

def dictRows (text : List Char) : List (List (String × Option String)) × Option String :=
  match records text with
  | ([], ending) => ([], ending)
  | (fieldnames :: rows, ending) => ((rows.filter (· ≠ [])).map (dictRow fieldnames), ending)

example : (records "a,\"b,\"\"c\"\r\n\n1\"2,".toList) = ([["a", "b,\"c"], [], ["1\"2", ""]], none) := by decide +kernel

end SasCore.Csv
