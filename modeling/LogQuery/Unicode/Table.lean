import LogQuery.Text.Hexadecimal

namespace LogQuery.Unicode

/-! Tables about characters are kept as texts with blanks between the entries. An
entry covers one code point or a range of them, every second one of a range if a two
stands after a slash. After a colon come the code points that belong to the entry,
with dots between them. All numbers are hexadecimal. -/

structure TableEntry where
  first : Nat
  last : Nat
  step : Nat
  values : List Nat
  deriving DecidableEq, Repr

namespace TableEntry

def covers (entry : TableEntry) (code : Nat) : Bool :=
  entry.first ≤ code && code ≤ entry.last && (code - entry.first) % entry.step = 0

/-- Where an entry stands for one code point, a range stands for a range of the same
length. -/
def valuesAt (entry : TableEntry) (code : Nat) : List Nat :=
  match entry.values with
  | [value] => [value + (code - entry.first)]
  | values => values

def readStep (span : List Char) : Nat :=
  match span.splitOn '/' with
  | [_, step] => Text.hexDigitsValue step
  | _ => 1

def readBounds (span : List Char) : Nat × Nat :=
  match (span.takeWhile (· ≠ '/')).splitOn '-' with
  | [first, last] => (Text.hexDigitsValue first, Text.hexDigitsValue last)
  | _ => (Text.hexDigitsValue span, Text.hexDigitsValue span)

def readValues (values : List Char) : List Nat :=
  ((values.splitOn '.').filter (· ≠ [])).map Text.hexDigitsValue

def read (entry : List Char) : TableEntry :=
  let span := entry.takeWhile (· ≠ ':')
  let (first, last) := readBounds span
  ⟨first, last, readStep span, readValues ((entry.dropWhile (· ≠ ':')).drop 1)⟩

end TableEntry

structure Table where
  entries : List TableEntry
  deriving Repr

namespace Table

def read (text : String) : Table :=
  ⟨((text.toList.splitOnP Char.isWhitespace).filter (· ≠ [])).map TableEntry.read⟩

def find? (table : Table) (character : Char) : Option TableEntry :=
  table.entries.find? (·.covers character.toNat)

def contains (table : Table) (character : Char) : Bool :=
  (table.find? character).isSome

end Table

end LogQuery.Unicode
