import LogQuery.Proofs.Outcome
import LogQuery.Store.RowReader

namespace LogQuery

/-! ## Results received as a whole

What a result holds is said here of its bytes at once, without a buffer: they are cut at
every line feed, and each piece that is not blank is a line. What comes after the last
line feed counts only if the connection did not break. If it did, that piece is cut off
wherever the break fell, and it should be lost. -/

def bodyPieces (broken : Bool) (bytes : List UInt8) : List (List UInt8) :=
  if broken then (bytes.splitOn lineFeed).dropLast else bytes.splitOn lineFeed

def bodyLines (broken : Bool) (bytes : List UInt8) : List String :=
  ((bodyPieces broken bytes).map lineText).filter (· ≠ "")

/-- The line that a break cut off, if it is not blank. -/
def cutLines (broken : Bool) (bytes : List UInt8) : List String :=
  if broken then ((bytes.splitOn lineFeed).getLast?.toList.map lineText).filter (· ≠ "") else []

/-- One row or error for each line, which depends on no other line, and then the break. -/
def rowsOfLines (types : List String) (broken : Bool) (lines : List String) :
    List (Except StoreError Row) :=
  lines.map (RowReader.decodeRow types) ++ if broken then [.error .transport] else []

/-- The columns that two lines announce, and their types. -/
def headerOfLines (names typeNames : String) : Except StoreError (List String × List String) := do
  let columns ← RowReader.headerItems names
  let types ← RowReader.headerItems typeNames
  RowReader.header columns types

/-- The columns of a result and all that is read after its first two lines. -/
def readWhole (broken : Bool) (bytes : List UInt8) :
    Except StoreError (List String × List (Except StoreError Row)) :=
  match bodyLines broken bytes with
  | [] => .error (if broken then .transport else .response .missingNames)
  | [_] => .error (if broken then .transport else .response .missingTypes)
  | names :: typeNames :: lines =>
      (headerOfLines names typeNames).map fun (columns, types) =>
        (columns, rowsOfLines types broken lines)

namespace RowReader

/-- What a reader gives at a call of `nextRow`, counted from zero, whatever it gave before. -/
def call : RowReader → Nat → Option (Except StoreError Row)
  | reader, 0 => reader.nextRow.1
  | reader, place + 1 => reader.nextRow.2.call place

/-- Calls give these rows and errors one by one, and from then on nothing. -/
def Gives (reader : RowReader) (rows : List (Except StoreError Row)) : Prop :=
  ∀ place, reader.call place = rows[place]?

end RowReader

/-! ## Cutting at line feeds -/

theorem splitLine_eq_none {bytes : List UInt8} (uncut : splitLine bytes = none) :
    lineFeed ∉ bytes := by
  induction bytes with
  | nil => exact List.not_mem_nil
  | cons byte bytes induction =>
      rw [splitLine] at uncut
      split at uncut
      · contradiction
      · next other =>
          rw [Option.map_eq_none_iff] at uncut
          rintro (_ | ⟨_, later⟩)
          · exact other rfl
          · exact induction uncut later

theorem splitLine_eq_some {bytes line rest : List UInt8}
    (cut : splitLine bytes = some (line, rest)) :
    bytes = line ++ lineFeed :: rest ∧ lineFeed ∉ line := by
  induction bytes generalizing line with
  | nil => contradiction
  | cons byte bytes induction =>
      rw [splitLine] at cut
      split at cut
      · next feed =>
          cases cut
          exact ⟨by rw [feed, List.nil_append], List.not_mem_nil⟩
      · next other =>
          rcases Option.map_eq_some_iff.mp cut with ⟨⟨front, after⟩, found, same⟩
          cases same
          rcases induction found with ⟨split, unfed⟩
          refine ⟨by rw [split, List.cons_append], ?_⟩
          rintro (_ | ⟨_, later⟩)
          · exact other rfl
          · exact unfed later

theorem splitLine_append {bytes line rest : List UInt8}
    (cut : splitLine bytes = some (line, rest)) (more : List UInt8) :
    splitLine (bytes ++ more) = some (line, rest ++ more) := by
  induction bytes generalizing line with
  | nil => contradiction
  | cons byte bytes induction =>
      rw [splitLine] at cut
      rw [List.cons_append, splitLine]
      split at cut
      · next feed =>
          cases cut
          rw [if_pos feed]
      · next other =>
          rcases Option.map_eq_some_iff.mp cut with ⟨⟨front, after⟩, found, same⟩
          cases same
          rw [if_neg other, induction found]
          rfl

variable {buffer rest : List UInt8} {line : String}

theorem takeLine_of_cut {bytes : List UInt8} (cut : splitLine buffer = some (bytes, rest)) :
    takeLine buffer =
      if lineText bytes = "" then takeLine rest else (some (lineText bytes), rest) := by
  rw [takeLine]
  split
  · next found => exact absurd (cut.symm.trans found) (Option.some_ne_none _)
  · next found =>
      rcases Prod.mk.inj (Option.some.inj (cut.symm.trans found)) with ⟨rfl, rfl⟩
      rfl

/-- A line that is complete stays the same whatever comes after it. -/
theorem takeLine_append_of_line (taken : takeLine buffer = (some line, rest))
    (more : List UInt8) : takeLine (buffer ++ more) = (some line, rest ++ more) := by
  fun_induction takeLine buffer with
  | case1 => cases taken
  | case2 buffer bytes after cut blank _ induction =>
      rw [takeLine_of_cut (splitLine_append cut more), if_pos blank]
      exact induction taken
  | case3 buffer bytes after cut text =>
      rcases Prod.mk.inj taken with ⟨same, rfl⟩
      rw [← Option.some.inj same, takeLine_of_cut (splitLine_append cut more), if_neg text]

/-- Blank lines are dropped for good, so bytes that have no line yet can be cut down to
their last piece before more are added. -/
theorem takeLine_append_of_none (taken : takeLine buffer = (none, rest)) (more : List UInt8) :
    takeLine (buffer ++ more) = takeLine (rest ++ more) := by
  fun_induction takeLine buffer with
  | case1 =>
      cases taken
      rfl
  | case2 buffer bytes after cut blank _ induction =>
      rw [takeLine_of_cut (splitLine_append cut more), if_pos blank]
      exact induction taken
  | case3 => cases taken

theorem takeLine_of_none (taken : takeLine buffer = (none, rest)) :
    takeLine rest = (none, rest) := by
  have again := takeLine_append_of_none taken []
  rw [List.append_nil, List.append_nil, taken] at again
  exact again.symm

/-! ## The lines of a body

Taking a line passes over the blank pieces before it. The pieces of the bytes are these, then that
of the line, and then those of the bytes that are left. -/

theorem splitOn_of_cut {bytes : List UInt8} (cut : splitLine buffer = some (bytes, rest)) :
    buffer.splitOn lineFeed = bytes :: rest.splitOn lineFeed := by
  rcases splitLine_eq_some cut with ⟨rfl, unfed⟩
  exact List.splitOn_append_cons_self_of_not_mem unfed rest

theorem splitOn_of_line (taken : takeLine buffer = (some line, rest)) :
    ∃ blanks bytes, (∀ piece ∈ blanks, lineText piece = "") ∧ lineText bytes = line ∧
      line ≠ "" ∧ buffer.splitOn lineFeed = blanks ++ bytes :: rest.splitOn lineFeed := by
  fun_induction takeLine buffer with
  | case1 => cases taken
  | case2 buffer bytes after cut blank _ induction =>
      rcases induction taken with ⟨blanks, bytes', areBlank, text, nonblank, split⟩
      refine ⟨bytes :: blanks, bytes', List.forall_mem_cons.mpr ⟨blank, areBlank⟩, text,
        nonblank, ?_⟩
      rw [splitOn_of_cut cut, split, List.cons_append]
  | case3 buffer bytes after cut text =>
      rcases Prod.mk.inj taken with ⟨same, rfl⟩
      cases same
      exact ⟨[], bytes, List.forall_mem_nil _, rfl, text, splitOn_of_cut cut⟩

theorem splitOn_of_none (taken : takeLine buffer = (none, rest)) :
    ∃ blanks, (∀ piece ∈ blanks, lineText piece = "") ∧
      buffer.splitOn lineFeed = blanks ++ [rest] := by
  fun_induction takeLine buffer with
  | case1 buffer uncut =>
      cases taken
      exact ⟨[], List.forall_mem_nil _, List.splitOn_eq_singleton (splitLine_eq_none uncut)⟩
  | case2 buffer bytes after cut blank _ induction =>
      rcases induction taken with ⟨blanks, areBlank, split⟩
      refine ⟨bytes :: blanks, List.forall_mem_cons.mpr ⟨blank, areBlank⟩, ?_⟩
      rw [splitOn_of_cut cut, split, List.cons_append]
  | case3 => cases taken

theorem lines_append_of_blank {blanks : List (List UInt8)}
    (areBlank : ∀ piece ∈ blanks, lineText piece = "") (pieces : List (List UInt8)) :
    ((blanks ++ pieces).map lineText).filter (· ≠ "") =
      (pieces.map lineText).filter (· ≠ "") := by
  have none : (blanks.map lineText).filter (· ≠ "") = [] := by
    simpa [List.filter_eq_nil_iff] using areBlank
  rw [List.map_append, List.filter_append, none, List.nil_append]

theorem lines_singleton (bytes : List UInt8) :
    ([bytes].map lineText).filter (· ≠ "") = (ResultBody.lastLine bytes).toList := by
  rw [ResultBody.lastLine]
  by_cases blank : lineText bytes = "" <;> simp [blank]

theorem bodyLines_of_line (broken : Bool) (taken : takeLine buffer = (some line, rest)) :
    bodyLines broken buffer = line :: bodyLines broken rest := by
  rcases splitOn_of_line taken with ⟨blanks, bytes, areBlank, text, nonblank, split⟩
  have pieces : bodyPieces broken buffer = blanks ++ bytes :: bodyPieces broken rest := by
    rw [bodyPieces, split, List.dropLast_append_of_ne_nil (List.cons_ne_nil _ _),
      List.dropLast_cons_of_ne_nil (List.splitOn_ne_nil lineFeed rest), bodyPieces]
    cases broken <;> rfl
  rw [bodyLines, pieces, lines_append_of_blank areBlank, List.map_cons, text,
    List.filter_cons_of_pos (by simpa using nonblank), bodyLines]

theorem bodyLines_of_none (broken : Bool) (taken : takeLine buffer = (none, rest)) :
    bodyLines broken buffer = if broken then [] else (ResultBody.lastLine rest).toList := by
  rcases splitOn_of_none taken with ⟨blanks, areBlank, split⟩
  rw [bodyLines, bodyPieces, split, List.dropLast_concat]
  cases broken with
  | true =>
      have none := lines_append_of_blank areBlank []
      rw [List.append_nil] at none
      exact none
  | false => exact (lines_append_of_blank areBlank [rest]).trans (lines_singleton rest)

theorem cutLines_of_line (broken : Bool) (taken : takeLine buffer = (some line, rest)) :
    cutLines broken buffer = cutLines broken rest := by
  rcases splitOn_of_line taken with ⟨blanks, bytes, _, _, _, split⟩
  rw [cutLines, split, List.getLast?_append_of_ne_nil _ (List.cons_ne_nil _ _),
    List.getLast?_cons_of_ne_nil (List.splitOn_ne_nil lineFeed rest), cutLines]

theorem cutLines_of_none (taken : takeLine buffer = (none, rest)) :
    cutLines true buffer = (ResultBody.lastLine rest).toList := by
  rcases splitOn_of_none taken with ⟨blanks, _, split⟩
  rw [cutLines, split, List.getLast?_concat]
  exact lines_singleton rest

namespace ResultBody

/-- The bytes that were not read yet, received or not. -/
def unread (body : ResultBody) : List UInt8 :=
  body.buffer ++ body.chunks.flatten

def lines (body : ResultBody) : List String :=
  bodyLines body.broken body.unread

/-- The line that the break of this body cuts off. -/
def cut (body : ResultBody) : List String :=
  cutLines body.broken body.unread

theorem cut_of_unbroken {body : ResultBody} (unbroken : body.broken = false) : body.cut = [] := by
  rw [cut, unbroken]
  rfl

/-- A line is found wherever the chunks are cut, and what is left stays unread. -/
theorem lineFrom_of_line {broken : Bool} {chunks : List (List UInt8)}
    (taken : takeLine (buffer ++ chunks.flatten) = (some line, rest)) :
    ∃ after, lineFrom broken buffer chunks = (.ok (some line), after) ∧
      after.unread = rest ∧ after.broken = broken := by
  -- What a chunk leaves in the buffer is carried over to the next, so the buffer is general.
  induction chunks generalizing buffer with
  | nil =>
      rw [List.flatten_nil, List.append_nil] at taken
      rw [lineFrom, taken]
      exact ⟨_, rfl, List.append_nil rest, rfl⟩
  | cons chunk chunks induction =>
      rw [lineFrom]
      rcases found : takeLine buffer with ⟨_ | early, left⟩
      · rw [takeLine_append_of_none found, List.flatten_cons, ← List.append_assoc] at taken
        exact induction taken
      · rw [takeLine_append_of_line found] at taken
        cases taken
        exact ⟨_, rfl, rfl, rfl⟩

theorem lineFrom_of_none {broken : Bool} {chunks : List (List UInt8)}
    (taken : takeLine (buffer ++ chunks.flatten) = (none, rest)) :
    lineFrom broken buffer chunks =
      if broken then (.error .transport, ⟨rest, [], false⟩)
      else (.ok (lastLine rest), ⟨[], [], false⟩) := by
  induction chunks generalizing buffer with
  | nil =>
      rw [List.flatten_nil, List.append_nil] at taken
      rw [lineFrom, taken]
  | cons chunk chunks induction =>
      rw [lineFrom]
      rcases found : takeLine buffer with ⟨_ | early, left⟩
      · rw [takeLine_append_of_none found, List.flatten_cons, ← List.append_assoc] at taken
        exact induction taken
      · rw [takeLine_append_of_line found] at taken
        cases taken

/-! A body is read as the list of its lines, one after the other. Where there is none left, the
break is told once; the body then passes for one that is not broken, and what the break cut off
for its last line. -/

theorem nextLine_of_cons {body : ResultBody} {later : List String}
    (lines : body.lines = line :: later) :
    ∃ after, body.nextLine = (.ok (some line), after) ∧ after.lines = later ∧
      after.broken = body.broken ∧ after.cut = body.cut := by
  rcases body with ⟨buffer, chunks, broken⟩
  change bodyLines broken (buffer ++ chunks.flatten) = _ at lines
  rcases taken : takeLine (buffer ++ chunks.flatten) with ⟨_ | found, rest⟩
  · -- Only a body that does not break has a line that no line feed ends.
    rw [bodyLines_of_none broken taken] at lines
    cases broken with
    | true => contradiction
    | false =>
        rw [nextLine, lineFrom_of_none taken]
        rcases last : lastLine rest with _ | found
        · rw [last] at lines
          contradiction
        · rw [last] at lines
          cases lines
          exact ⟨_, rfl, rfl, rfl, rfl⟩
  · rw [bodyLines_of_line broken taken] at lines
    cases lines
    rcases lineFrom_of_line taken with ⟨after, read, unread, same⟩
    refine ⟨after, read, ?_, same, ?_⟩
    · rw [ResultBody.lines, unread, same]
    · rw [cut, unread, same]
      exact (cutLines_of_line broken taken).symm

theorem nextLine_of_nil {body : ResultBody} (lines : body.lines = []) :
    ∃ after, body.nextLine =
        (if body.broken then .error .transport else .ok none, after) ∧
      after.lines = body.cut ∧ after.broken = false := by
  rcases body with ⟨buffer, chunks, broken⟩
  change bodyLines broken (buffer ++ chunks.flatten) = _ at lines
  rcases taken : takeLine (buffer ++ chunks.flatten) with ⟨_ | found, rest⟩
  · rw [bodyLines_of_none broken taken] at lines
    rw [nextLine, lineFrom_of_none taken]
    cases broken with
    | true =>
        refine ⟨⟨rest, [], false⟩, rfl, ?_, rfl⟩
        change bodyLines false (rest ++ []) = cutLines true (buffer ++ chunks.flatten)
        rw [List.append_nil, bodyLines_of_none false (takeLine_of_none taken),
          cutLines_of_none taken]
        rfl
    | false =>
        rcases last : lastLine rest with _ | found
        · exact ⟨_, rfl, rfl, rfl⟩
        · rw [last] at lines
          contradiction
  · rw [bodyLines_of_line broken taken] at lines
    contradiction

end ResultBody

namespace RowReader

/-! ## Reading to the end -/

variable {reader : RowReader} {types : List String} {line : String} {row : Row}

/-- A cell that cannot be read has a fault of its own, and is not taken for a break. -/
theorem decodeCells_ne_transport (values : List Json) (types : List String) :
    decodeCells values types ≠ .error .transport := by
  induction values generalizing types with
  | nil => nofun
  | cons value values induction =>
      cases types with
      | nil => nofun
      | cons type types =>
          rw [decodeCells, decodeCell]
          rcases Cell.decode type value with fault | cell
          · nofun
          · rcases later : decodeCells values types with error | cells
            · intro failed
              cases failed
              exact induction types later
            · nofun

theorem isBreak_decodeRow (types : List String) (line : String) :
    isBreak (decodeRow types line) = false := by
  unfold decodeRow
  split
  · rfl
  · split
    · next values _ =>
        split
        · have unbroken := decodeCells_ne_transport values types
          unfold isBreak
          split
          · next failed => exact absurd failed unbroken
          · rfl
        · rfl
    · rfl

theorem drain_of_none {next : RowReader} (read : reader.nextRow = (none, next)) :
    reader.drain.1 = [] := by
  unfold drain
  split
  · rfl
  · next found =>
      rw [read] at found
      cases found

theorem drain_of_some {outcome : Except StoreError Row} {next : RowReader}
    (read : reader.nextRow = (some outcome, next)) :
    reader.drain.1 = if isBreak outcome then [outcome] else outcome :: next.drain.1 := by
  rw [drain]
  split
  · next found =>
      rw [read] at found
      cases found
  · next found =>
      rw [read] at found
      cases found
      split <;> rfl

theorem nextRow_of_cons {body : ResultBody} {later : List String}
    (lines : body.lines = line :: later) (columns types : List String) :
    ∃ after : ResultBody, nextRow ⟨columns, types, body⟩ =
        (some (decodeRow types line), ⟨columns, types, after⟩) ∧
      after.lines = later ∧ after.broken = body.broken ∧ after.cut = body.cut := by
  rcases ResultBody.nextLine_of_cons lines with ⟨after, read, left⟩
  refine ⟨after, ?_, left⟩
  rw [nextRow, read]

theorem nextRow_of_nil {body : ResultBody} (lines : body.lines = [])
    (columns types : List String) :
    ∃ after : ResultBody, nextRow ⟨columns, types, body⟩ =
        (if body.broken then some (.error .transport) else none, ⟨columns, types, after⟩) ∧
      after.lines = body.cut ∧ after.broken = false := by
  rcases ResultBody.nextLine_of_nil lines with ⟨after, read, left⟩
  refine ⟨after, ?_, left⟩
  rw [nextRow, read]
  cases body.broken <;> rfl

/-- What is read is a matter of the lines that are left, wherever they were cut. -/
theorem drain_eq_rowsOfLines (columns types : List String) (body : ResultBody) :
    (drain ⟨columns, types, body⟩).1 = rowsOfLines types body.broken body.lines := by
  induction lines : body.lines generalizing body with
  | nil =>
      rcases nextRow_of_nil lines columns types with ⟨after, read, _⟩
      cases broken : body.broken with
      | true =>
          rw [broken, if_pos rfl] at read
          rw [drain_of_some read]
          rfl
      | false =>
          rw [broken, if_neg Bool.false_ne_true] at read
          rw [drain_of_none read]
          rfl
  | cons line later induction =>
      rcases nextRow_of_cons lines columns types with ⟨after, read, left, same, _⟩
      rw [drain_of_some read, isBreak_decodeRow, induction after left, same]
      rfl

/-- Calls go on where a drained reader has stopped: the line that the break cut off is read as
the last one. -/
theorem gives_rowsOfLines (columns types : List String) (body : ResultBody) :
    Gives ⟨columns, types, body⟩
      (rowsOfLines types body.broken body.lines ++ body.cut.map (decodeRow types)) := by
  intro place
  induction place generalizing body with
  | zero =>
      rcases lines : body.lines with _ | ⟨line, later⟩
      · rcases nextRow_of_nil lines columns types with ⟨after, read, _⟩
        rw [call, read]
        cases broken : body.broken with
        | true => rfl
        | false =>
            rw [ResultBody.cut_of_unbroken broken]
            rfl
      · rcases nextRow_of_cons lines columns types with ⟨after, read, _⟩
        rw [call, read]
        rfl
  | succ place induction =>
      rcases lines : body.lines with _ | ⟨line, later⟩
      · rcases nextRow_of_nil lines columns types with ⟨after, read, left, unbroken⟩
        rw [call, read, induction after, left, ResultBody.cut_of_unbroken unbroken, unbroken]
        cases broken : body.broken with
        | true => simp [rowsOfLines]
        | false =>
            rw [ResultBody.cut_of_unbroken broken]
            rfl
      · rcases nextRow_of_cons lines columns types with ⟨after, read, left, same, cut⟩
        rw [call, read, induction after, left, same, cut]
        rfl

/-! ## Opening a result -/

section Opening

variable {body : ResultBody} {names typeNames : String} {later : List String}

theorem openBody_of_nil (lines : body.lines = []) :
    openBody body = .error (if body.broken then .transport else .response .missingNames) := by
  rcases ResultBody.nextLine_of_nil lines with ⟨after, read, _⟩
  rw [openBody, read]
  cases body.broken <;> rfl

theorem openBody_of_singleton (lines : body.lines = [names]) :
    openBody body = .error (if body.broken then .transport else .response .missingTypes) := by
  rcases ResultBody.nextLine_of_cons lines with ⟨first, readNames, left, same, _⟩
  rcases ResultBody.nextLine_of_nil left with ⟨after, readTypes, _⟩
  rw [openBody, readNames]
  dsimp only
  rw [readTypes, same]
  cases body.broken <;> rfl

theorem openBody_of_header (lines : body.lines = names :: typeNames :: later) :
    ∃ after : ResultBody, (after.lines = later ∧ after.broken = body.broken ∧
        after.cut = body.cut) ∧
      openBody body = (headerOfLines names typeNames).map fun (columns, types) =>
        ⟨columns, types, after⟩ := by
  rcases ResultBody.nextLine_of_cons lines with
    ⟨first, readNames, leftFirst, sameFirst, cutFirst⟩
  rcases ResultBody.nextLine_of_cons leftFirst with ⟨after, readTypes, left, same, cut⟩
  refine ⟨after, ⟨left, same.trans sameFirst, cut.trans cutFirst⟩, ?_⟩
  rw [openBody, readNames]
  dsimp only
  rw [readTypes, headerOfLines]
  dsimp only
  rcases headerItems names with error | columns
  · rfl
  · rcases headerItems typeNames with error | types
    · rfl
    · change (header columns types >>= _) = (header columns types).map _
      cases header columns types <;> rfl

end Opening

/-! Rows are as wide as the header. -/

theorem length_of_decodeCells {values : List Json} (same : values.length = types.length)
    (decoded : decodeCells values types = .ok row) : row.length = types.length := by
  induction values generalizing types row with
  | nil =>
      cases types with
      | nil =>
          cases decoded
          rfl
      | cons => contradiction
  | cons value values induction =>
      cases types with
      | nil => contradiction
      | cons type types =>
          rw [decodeCells] at decoded
          rcases bind_eq_ok_iff.mp decoded with ⟨cell, _, decodedRest⟩
          rcases bind_eq_ok_iff.mp decodedRest with ⟨cells, decodedCells, joined⟩
          cases joined
          rw [List.length_cons, List.length_cons,
            induction (Nat.succ.inj same) decodedCells]

theorem length_of_decodeRow (decoded : decodeRow types line = .ok row) :
    row.length = types.length := by
  unfold decodeRow at decoded
  split at decoded
  · contradiction
  · split at decoded
    · split at decoded
      · next same => exact length_of_decodeCells same decoded
      · contradiction
    · contradiction

theorem lengths_of_headerOfLines {names typeNames : String} {columns : List String}
    (read : headerOfLines names typeNames = .ok (columns, types)) :
    columns.length = types.length := by
  rcases bind_eq_ok_iff.mp read with ⟨_, _, readTypes⟩
  rcases bind_eq_ok_iff.mp readTypes with ⟨_, _, checked⟩
  unfold header at checked
  split at checked
  · next same =>
      cases checked
      exact same
  · contradiction

theorem header_of_openBody {body : ResultBody} (opened : openBody body = .ok reader) :
    reader.columns.length = reader.types.length ∧ reader.body.cut = body.cut := by
  match lines : body.lines with
  | [] =>
      rw [openBody_of_nil lines] at opened
      contradiction
  | [_] =>
      rw [openBody_of_singleton lines] at opened
      contradiction
  | names :: typeNames :: later =>
      rcases openBody_of_header lines with ⟨after, ⟨_, _, cut⟩, opens⟩
      rw [opens] at opened
      rcases map_eq_ok_iff.mp opened with ⟨_, read, same⟩
      cases same
      exact ⟨lengths_of_headerOfLines read, cut⟩

theorem map_openBody (body : ResultBody) :
    (openBody body).map (fun reader => (reader.columns, reader.drain.1)) =
      readWhole body.broken body.unread := by
  rw [readWhole, ← ResultBody.lines]
  rcases lines : body.lines with _ | ⟨names, _ | ⟨typeNames, later⟩⟩
  · rw [openBody_of_nil lines]
    rfl
  · rw [openBody_of_singleton lines]
    rfl
  · rcases openBody_of_header lines with ⟨after, ⟨left, same, _⟩, opens⟩
    rw [opens]
    dsimp only
    rcases headerOfLines names typeNames with error | ⟨columns, types⟩
    · rfl
    · change Except.ok (columns, (drain ⟨columns, types, after⟩).1) = _
      rw [drain_eq_rowsOfLines, left, same]
      rfl

/-- After a drained reader's rows come those of the lines that were cut off. -/
theorem gives_drain (reader : RowReader) :
    reader.Gives (reader.drain.1 ++ reader.body.cut.map (decodeRow reader.types)) := by
  rcases reader with ⟨columns, types, body⟩
  rw [drain_eq_rowsOfLines]
  exact gives_rowsOfLines columns types body

theorem length_of_call {place : Nat} (given : reader.call place = some (.ok row)) :
    row.length = reader.types.length := by
  rcases reader with ⟨columns, types, body⟩
  rw [gives_rowsOfLines] at given
  have member := List.mem_of_getElem? given
  rw [rowsOfLines, List.append_assoc, List.mem_append, List.mem_append] at member
  rcases member with complete | atBreak | cut
  · rcases List.mem_map.mp complete with ⟨line, _, decoded⟩
    exact length_of_decodeRow decoded
  · split at atBreak
    · cases List.mem_singleton.mp atBreak
    · contradiction
  · rcases List.mem_map.mp cut with ⟨line, _, decoded⟩
    exact length_of_decodeRow decoded

/-- What a reader gives cannot be cut short without a loss. -/
theorem gives_append_iff {rows more : List (Except StoreError Row)}
    (gives : reader.Gives (rows ++ more)) : reader.Gives rows ↔ more = [] := by
  constructor
  · intro alone
    have same : rows ++ more = rows := by
      apply List.ext_getElem?
      intro place
      rw [← gives place, alone place]
    exact List.append_right_eq_self.mp same
  · intro none
    rwa [none, List.append_nil] at gives

/-- A result is read as if it had come in one piece, wherever its bytes were cut, up to its end
or to the error of a break. Further calls after that error read the line that the break cut off
as one more row, so a reader gives what the result holds if and only if no line was cut off. -/
theorem reading_agrees_iff (chunks : List (List UInt8)) (broken : Bool) :
    (openBody { chunks := chunks, broken := broken }).map
        (fun reader => (reader.columns, reader.drain.1)) =
      readWhole broken chunks.flatten ∧
    ∀ reader columns rows, openBody { chunks := chunks, broken := broken } = .ok reader →
      readWhole broken chunks.flatten = .ok (columns, rows) →
        reader.columns = columns ∧
        reader.Gives (rows ++ (cutLines broken chunks.flatten).map (decodeRow reader.types)) ∧
        (reader.Gives rows ↔ cutLines broken chunks.flatten = []) ∧
        ∀ place row, reader.call place = some (.ok row) → row.length = columns.length := by
  have drained := map_openBody { chunks := chunks, broken := broken }
  refine ⟨drained, ?_⟩
  intro reader columns rows opened held
  have read : (reader.columns, reader.drain.1) = (columns, rows) := by
    rw [opened] at drained
    exact Except.ok.inj (drained.trans held)
  rcases Prod.mk.inj read with ⟨rfl, rfl⟩
  rcases header_of_openBody opened with ⟨same, cut⟩
  have gives := gives_drain reader
  rw [cut] at gives
  refine ⟨rfl, gives, ?_, ?_⟩
  · rw [gives_append_iff gives]
    exact List.map_eq_nil_iff
  · intro place row given
    exact (length_of_call given).trans same.symm

/-! A result of one column, cut inside a character. It breaks after a row that lacks its line
feed. -/

def cutChunks : List (List UInt8) :=
  [Text.utf8Bytes "[\"log\"]\n[\"Str".toList, Text.utf8Bytes "ing\"]\n\n[\"".toList ++ [0xC3],
    [0xA9] ++ Text.utf8Bytes "\"]\n[\"lost\"]".toList]

theorem bodyLines_cutChunks :
    bodyLines true cutChunks.flatten = ["[\"log\"]", "[\"String\"]", "[\"é\"]"] := by
  decide +kernel

theorem cutLines_cutChunks : cutLines true cutChunks.flatten = ["[\"lost\"]"] := by
  decide +kernel

theorem headerOfLines_cutChunks :
    headerOfLines "[\"log\"]" "[\"String\"]" = .ok (["log"], ["String"]) := by
  have names : Json.read "[\"log\"]" = some (.array [.text "log"]) := by cbv
  have types : Json.read "[\"String\"]" = some (.array [.text "String"]) := by cbv
  rw [headerOfLines, headerItems, headerItems, names, types]
  rfl

theorem decodeRow_text {text : String} (read : Json.read line = some (.array [.text text]))
    (unreported : line.startsWith errorMark = false) :
    decodeRow ["String"] line = .ok [.text text] := by
  have leaf : CellType.ofText "String" = .leaf "String" .other := by decide +kernel
  rw [decodeRow, unreported, read]
  change decodeCells [.text text] ["String"] = .ok [.text text]
  rw [decodeCells, decodeCell, Cell.decode, leaf]
  rfl

theorem decodeRow_kept : decodeRow ["String"] "[\"é\"]" = .ok [.text "é"] :=
  decodeRow_text (by cbv) (by decide +kernel)

theorem decodeRow_lost : decodeRow ["String"] "[\"lost\"]" = .ok [.text "lost"] :=
  decodeRow_text (by cbv) (by decide +kernel)

theorem readWhole_cutChunks :
    readWhole true cutChunks.flatten =
      .ok (["log"], [.ok [.text "é"], .error .transport]) := by
  rw [readWhole, bodyLines_cutChunks]
  dsimp only
  rw [headerOfLines_cutChunks, ← decodeRow_kept]
  rfl

theorem openBody_cutChunks :
    ∃ after : ResultBody, after.cut = ["[\"lost\"]"] ∧
      openBody { chunks := cutChunks, broken := true } = .ok ⟨["log"], ["String"], after⟩ := by
  have lines : ResultBody.lines { chunks := cutChunks, broken := true } =
      ["[\"log\"]", "[\"String\"]", "[\"é\"]"] := bodyLines_cutChunks
  rcases openBody_of_header lines with ⟨after, ⟨_, _, cut⟩, opens⟩
  refine ⟨after, cut.trans cutLines_cutChunks, ?_⟩
  rw [opens, headerOfLines_cutChunks]
  rfl

theorem reading_cutChunks :
    ∃ reader, openBody { chunks := cutChunks, broken := true } = .ok reader ∧
      readWhole true cutChunks.flatten =
        .ok (["log"], [.ok [.text "é"], .error .transport]) ∧
      reader.Gives [.ok [.text "é"], .error .transport, .ok [.text "lost"]] := by
  rcases openBody_cutChunks with ⟨after, _, opened⟩
  have gives := ((reading_agrees_iff cutChunks true).2 _ _ _ opened readWhole_cutChunks).2.1
  rw [cutLines_cutChunks, List.map_singleton, decodeRow_lost] at gives
  exact ⟨_, opened, readWhole_cutChunks, gives⟩

/-- The row that the break cut off is not in the result, and is given all the same. -/
theorem cutChunks_givesLostRow :
    ∃ reader rows, openBody { chunks := cutChunks, broken := true } = .ok reader ∧
      readWhole true cutChunks.flatten = .ok (["log"], rows) ∧
      reader.call 1 = some (.error .transport) ∧
      reader.call 2 = some (.ok [.text "lost"]) ∧
      rows[2]? = none ∧ ¬ reader.Gives rows := by
  rcases openBody_cutChunks with ⟨after, cut, opened⟩
  have drained := map_openBody { chunks := cutChunks, broken := true }
  rw [opened] at drained
  rcases Prod.mk.inj (Except.ok.inj (drained.trans readWhole_cutChunks)) with ⟨_, rows⟩
  have gives := gives_drain ⟨["log"], ["String"], after⟩
  rw [rows, cut, List.map_singleton, decodeRow_lost] at gives
  refine ⟨_, _, opened, readWhole_cutChunks, gives 1, gives 2, rfl, ?_⟩
  intro alone
  cases (gives 2).symm.trans (alone 2)

end RowReader

end LogQuery
