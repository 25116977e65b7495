import LogQuery.Store.Session
import LogQuery.Text.Utf8
import LogQuery.Json.Reader

namespace LogQuery

/-! A result arrives as bytes, cut into chunks at any point, and is read line by
line. Lines end with a line feed; the last one may lack it. Blanks around a line
are dropped, and lines that are blank altogether are skipped. If the connection
breaks, the line that it cut off is left, and an error is told in its place. That
is told once: whoever goes on reading then gets what is left as the last line. -/

structure ResultBody where
  buffer : List UInt8 := []
  chunks : List (List UInt8)
  broken : Bool
  deriving Repr

def lineFeed : UInt8 := 0x0A

def lineText (bytes : List UInt8) : String :=
  Text.trim (Text.utf8Decode bytes)

/-- The bytes before and after the first line feed. -/
def splitLine : List UInt8 → Option (List UInt8 × List UInt8)
  | [] => none
  | byte :: rest =>
      if byte = lineFeed then some ([], rest)
      else (splitLine rest).map fun (line, after) => (byte :: line, after)

theorem length_of_splitLine {bytes line rest : List UInt8}
    (split : splitLine bytes = some (line, rest)) :
    bytes.length = line.length + rest.length + 1 := by
  induction bytes generalizing line with
  | nil => cases split
  | cons byte bytes induction =>
      rw [splitLine] at split
      by_cases feed : byte = lineFeed
      · simp only [if_pos feed, Option.some.injEq, Prod.mk.injEq] at split
        simp [← split.1, ← split.2]
      · simp only [if_neg feed, Option.map_eq_some_iff] at split
        obtain ⟨⟨before, after⟩, found, equal⟩ := split
        simp only [Prod.mk.injEq] at equal
        obtain ⟨rfl, rfl⟩ := equal
        have := induction found
        simp only [List.length_cons]
        omega

/-- The first line that is not blank, of those that are complete, and the bytes
after it. -/
def takeLine (buffer : List UInt8) : Option String × List UInt8 :=
  match found : splitLine buffer with
  | none => (none, buffer)
  | some (line, rest) =>
      if lineText line = "" then
        have := length_of_splitLine found
        takeLine rest
      else (some (lineText line), rest)
termination_by buffer.length

theorem length_takeLine (buffer : List UInt8) :
    (takeLine buffer).2.length + (takeLine buffer).1.toList.length ≤ buffer.length := by
  fun_induction takeLine buffer with
  | case1 => simp
  | case2 buffer line rest found blank less induction => omega
  | case3 buffer line rest found blank =>
      have := length_of_splitLine found
      simp
      omega

namespace ResultBody

/-- The bytes that were not read yet, and the break. -/
def size (body : ResultBody) : Nat :=
  body.buffer.length + body.chunks.flatten.length + body.broken.toNat

/-- The line that the body ends with. -/
def lastLine (bytes : List UInt8) : Option String :=
  if lineText bytes = "" then none else some (lineText bytes)

def lineFrom (broken : Bool) (buffer : List UInt8) :
    List (List UInt8) → Except StoreError (Option String) × ResultBody
  | [] =>
      match takeLine buffer with
      | (some line, rest) => (.ok (some line), ⟨rest, [], broken⟩)
      | (none, rest) =>
          if broken then (.error .transport, ⟨rest, [], false⟩)
          else (.ok (lastLine rest), ⟨[], [], false⟩)
  | chunk :: chunks =>
      match takeLine buffer with
      | (some line, rest) => (.ok (some line), ⟨rest, chunk :: chunks, broken⟩)
      | (none, rest) => lineFrom broken (rest ++ chunk) chunks

def nextLine (body : ResultBody) : Except StoreError (Option String) × ResultBody :=
  lineFrom body.broken body.buffer body.chunks

theorem lastLine_nil : lastLine [] = none := rfl

theorem size_lineFrom_lt {broken : Bool} {buffer : List UInt8}
    {chunks : List (List UInt8)}
    (goesOn : (lineFrom broken buffer chunks).1.toOption ≠ some none) :
    (lineFrom broken buffer chunks).2.size < size ⟨buffer, chunks, broken⟩ := by
  induction chunks generalizing buffer with
  | nil =>
      have bound := length_takeLine buffer
      rw [lineFrom] at goesOn ⊢
      match found : takeLine buffer with
      | (some line, rest) =>
          simp only [found, Option.toList_some, List.length_singleton] at bound
          simp only [size]
          omega
      | (none, rest) =>
          simp only [found, Option.toList_none, List.length_nil] at bound goesOn
          cases broken with
          | true => simp [size]; omega
          | false =>
              cases rest with
              | nil => simp [lastLine_nil, Except.toOption] at goesOn
              | cons byte rest =>
                  simp only [List.length_cons] at bound
                  simp [size]
                  omega
  | cons chunk chunks induction =>
      have bound := length_takeLine buffer
      rw [lineFrom] at goesOn ⊢
      match found : takeLine buffer with
      | (some line, rest) =>
          simp only [found, Option.toList_some, List.length_singleton] at bound
          simp only [size]
          omega
      | (none, rest) =>
          simp only [found, Option.toList_none, List.length_nil] at bound goesOn
          have less := induction goesOn
          simp only [size, List.length_append, List.flatten_cons] at less ⊢
          omega

theorem size_nextLine_lt {body : ResultBody}
    (goesOn : body.nextLine.1.toOption ≠ some none) :
    body.nextLine.2.size < body.size :=
  size_lineFrom_lt goesOn

end ResultBody

/-! The first two lines are arrays with the names and the types of the columns.
Every later line is an array with the values of one row, or the report of an
error that came up while rows were written. -/

structure RowReader where
  columns : List String
  types : List String
  body : ResultBody

namespace RowReader

def textItems : List Json → Option (List String)
  | [] => some []
  | .text item :: rest => (textItems rest).map (item :: ·)
  | _ => none

def headerItems (line : String) : Except StoreError (List String) :=
  match Json.read line with
  | some (.array items) =>
      match textItems items with
      | some names => .ok names
      | none => .error (.response (.headerText line))
  | _ => .error (.response (.headerText line))

def header (columns types : List String) : Except StoreError (List String × List String) :=
  if columns.length = types.length then .ok (columns, types)
  else .error (.response (.headerLength columns.length types.length))

def openBody (body : ResultBody) : Except StoreError RowReader :=
  match body.nextLine with
  | (.error error, _) => .error error
  | (.ok none, _) => .error (.response .missingNames)
  | (.ok (some names), body) =>
      match body.nextLine with
      | (.error error, _) => .error error
      | (.ok none, _) => .error (.response .missingTypes)
      | (.ok (some types), body) => do
          let columns ← headerItems names
          let types ← headerItems types
          let (columns, types) ← header columns types
          .ok ⟨columns, types, body⟩

def errorMark : String := "Code:"

/-- The status that a reported error counts as. -/
def reportedStatus : Nat := 500

def decodeCell (value : Json) (type : String) : Except StoreError Cell :=
  (Cell.decode type value).mapError fun error => .response (.cell error)

def decodeCells : List Json → List String → Except StoreError Row
  | value :: values, type :: types => do
      let cell ← decodeCell value type
      let cells ← decodeCells values types
      .ok (cell :: cells)
  | _, _ => .ok []

def decodeRow (types : List String) (line : String) : Except StoreError Row :=
  if line.startsWith errorMark then .error (.status reportedStatus line)
  else
    match Json.read line with
    | some (.array values) =>
        if values.length = types.length then decodeCells values types
        else .error (.response (.rowLength values.length types.length))
    | _ => .error (.response (.rowText line))

/-- A line that is no row does not keep later lines from being read. -/
def nextRow (reader : RowReader) : Option (Except StoreError Row) × RowReader :=
  match reader.body.nextLine with
  | (.error error, body) => (some (.error error), { reader with body })
  | (.ok none, body) => (none, { reader with body })
  | (.ok (some line), body) =>
      (some (decodeRow reader.types line), { reader with body })

theorem size_nextRow_lt {reader next : RowReader} {row : Except StoreError Row}
    (read : reader.nextRow = (some row, next)) : next.body.size < reader.body.size := by
  unfold nextRow at read
  have bound := @ResultBody.size_nextLine_lt reader.body
  match found : reader.body.nextLine with
  | (.error error, body) =>
      rw [found] at read bound
      cases read
      exact bound (by simp [Except.toOption])
  | (.ok none, body) =>
      rw [found] at read
      cases read
  | (.ok (some line), body) =>
      rw [found] at read bound
      cases read
      exact bound (by simp [Except.toOption])

def isBreak : Except StoreError Row → Bool
  | .error .transport => true
  | _ => false

/-- Everything that is left, up to the end or to the break of the connection. -/
def drain (reader : RowReader) : List (Except StoreError Row) × RowReader :=
  match read : reader.nextRow with
  | (none, next) => ([], next)
  | (some row, next) =>
      if isBreak row then ([row], next)
      else
        have := size_nextRow_lt read
        let (rows, last) := drain next
        (row :: rows, last)
termination_by reader.body.size

/-- The result as it is met by whoever reads it without waiting. -/
def toStream (reader : RowReader) : RowStream where
  columns := reader.columns
  steps := reader.drain.1.map fun row => ⟨0, row⟩
  endWait := 0

end RowReader

end LogQuery
