import Mathlib.Data.Nat.Find
import LogQuery.Proofs.Aggregation.ResultColumns
import LogQuery.Proofs.Service.Checked

namespace LogQuery

open Json (keysOf)

/-! ## What a chart shows of a row

Every cell is shown but a float that has no value in JSON. A name may stand at several positions
of the header; of the cells shown there the last one is kept. -/

inductive Cell.IsNonFiniteFloat : Cell → Prop where
  | nan {value : Binary64} (isNan : value.value = .nan) : IsNonFiniteFloat (.float value)
  | infinite {value : Binary64} {negative : Bool} (isInfinite : value.value = .infinite negative) :
      IsNonFiniteFloat (.float value)

theorem Cell.isNonFinite_iff {cell : Cell} :
    cell.isNonFinite = true ↔ cell.IsNonFiniteFloat := by
  cases cell with
  | float value =>
      rw [isNonFinite, Binary64.isFinite]
      constructor
      · intro nonFinite
        cases kept : value.value with
        | finite negative significand exponent => simp [kept] at nonFinite
        | infinite negative => exact .infinite kept
        | nan => exact .nan kept
      · intro nonFinite
        cases nonFinite with
        | nan isNan => simp [isNan]
        | infinite isInfinite => simp [isInfinite]
  | null | boolean | integer | natural | text | timestamp | map | array =>
      exact iff_of_false Bool.false_ne_true nofun

section

variable (columns : List String) (row : Row)

/-- The row has a cell that is shown at a position of the column's name. -/
structure Shows (column : String) (position : Nat) (cell : Cell) : Prop where
  named : columns[position]? = some column
  held : row[position]? = some cell
  finite : ¬ cell.IsNonFiniteFloat

structure ShowsLast (column : String) (position : Nat) (cell : Cell) : Prop extends
    Shows columns row column position cell where
  last : ∀ later other, Shows columns row column later other → later ≤ position

/-- What an object has of its row. -/
structure IsObjectOf (object : List (String × Json)) : Prop where
  sorted : (keysOf object).Pairwise (· < ·)
  keys : ∀ column, column ∈ keysOf object ↔ ∃ position cell, Shows columns row column position cell
  binds : ∀ column position cell, ShowsLast columns row column position cell →
    object.lookup column = some cell.toJson
  bound : ∀ column json, object.lookup column = some json →
    ∃ position cell, ShowsLast columns row column position cell ∧ json = cell.toJson
  nulls : ∀ column position, ShowsLast columns row column position .null →
    object.lookup column = some .null

end

section

variable {columns : List String} {row : Row} {column : String}

theorem Shows.exists_last {position : Nat} {cell : Cell}
    (shows : Shows columns row column position cell) :
    ∃ last other, ShowsLast columns row column last other := by
  classical
  have inside {later : Nat} {other : Cell} (shown : Shows columns row column later other) :
      later ≤ columns.length := by
    rcases List.getElem?_eq_some_iff.mp shown.named with ⟨within, _⟩
    exact Nat.le_of_lt within
  let isShown (later : Nat) : Prop := ∃ other, Shows columns row column later other
  have greatest : isShown (Nat.findGreatest isShown columns.length) :=
    Nat.findGreatest_spec (inside shows) ⟨cell, shows⟩
  rcases greatest with ⟨other, shown⟩
  refine ⟨_, other, shown, ?_⟩
  intro later held found
  exact Nat.le_findGreatest (inside found) ⟨held, found⟩

/-- Cells that are not shown leave a column as it is. -/
theorem lookup_foldl_of_hidden {cells : List (String × Cell)}
    (hidden : ∀ cell, (column, cell) ∈ cells → cell.IsNonFiniteFloat)
    (entry : List (String × Json)) :
    (cells.foldl writeChartCell entry).lookup column = entry.lookup column := by
  induction cells generalizing entry with
  | nil => rfl
  | cons named cells induction =>
      rcases named with ⟨name, cell⟩
      have rest := induction fun other member => hidden other (List.mem_cons_of_mem _ member)
      rw [List.foldl_cons, rest, lookup_writeChartCell]
      by_cases same : column = name
      · subst same
        have unshown := Cell.isNonFinite_iff.mpr (hidden cell List.mem_cons_self)
        simp [Cell.chartValue?, unshown]
      · simp [same]

theorem shows_iff {position : Nat} {cell : Cell} :
    Shows columns row column position cell ↔
      (columns.zip row)[position]? = some (column, cell) ∧ ¬ cell.IsNonFiniteFloat := by
  rw [List.getElem?_zip_eq_some, and_assoc]
  exact ⟨fun ⟨named, held, finite⟩ => ⟨named, held, finite⟩,
    fun ⟨named, held, finite⟩ => ⟨named, held, finite⟩⟩

theorem ShowsLast.lookup_chartRow {position : Nat} {cell : Cell}
    (shows : ShowsLast columns row column position cell) :
    (chartRow columns row).lookup column = some cell.toJson := by
  rcases shows_iff.mp shows.toShows with ⟨found, finite⟩
  rcases List.getElem?_eq_some_iff.mp found with ⟨inside, held⟩
  have parted : columns.zip row = (columns.zip row).take position ++
      (column, cell) :: (columns.zip row).drop (position + 1) := by
    rw [← held, List.getElem_cons_drop, List.take_append_drop]
  have hidden : ∀ other, (column, other) ∈ (columns.zip row).drop (position + 1) →
      other.IsNonFiniteFloat := by
    intro other member
    rcases List.mem_iff_getElem?.mp member with ⟨distance, later⟩
    rw [List.getElem?_drop] at later
    by_contra shown
    have before := shows.last _ other (shows_iff.mpr ⟨later, shown⟩)
    omega
  have shown : cell.chartValue? = some cell.toJson := by
    simp [Cell.chartValue?, Cell.isNonFinite_iff, finite]
  rw [chartRow, parted, List.foldl_append, List.foldl_cons, lookup_foldl_of_hidden hidden,
    lookup_writeChartCell, if_pos rfl, shown, Option.some_or]

theorem exists_shows_of_lookup_chartRow {json : Json}
    (found : (chartRow columns row).lookup column = some json) :
    ∃ position cell, Shows columns row column position cell := by
  by_contra unshown
  have hidden : ∀ cell, (column, cell) ∈ columns.zip row → cell.IsNonFiniteFloat := by
    intro cell member
    rcases List.mem_iff_getElem?.mp member with ⟨position, held⟩
    by_contra shown
    exact unshown ⟨position, cell, shows_iff.mpr ⟨held, shown⟩⟩
  rw [chartRow, lookup_foldl_of_hidden hidden] at found
  contradiction

theorem pairwise_foldl_writeChartCell (cells : List (String × Cell))
    {entry : List (String × Json)} (sorted : (keysOf entry).Pairwise (· < ·)) :
    (keysOf (cells.foldl writeChartCell entry)).Pairwise (· < ·) := by
  induction cells generalizing entry with
  | nil => exact sorted
  | cons named cells induction =>
      apply induction
      unfold writeChartCell
      split
      · exact sorted
      · exact Json.pairwise_insertField sorted _ _

end

theorem isObjectOf_chartRow (columns : List String) (row : Row) :
    IsObjectOf columns row (chartRow columns row) where
  sorted := pairwise_foldl_writeChartCell _ .nil
  keys column := by
    rw [Json.mem_keysOf_iff]
    constructor
    · intro ⟨json, found⟩
      exact exists_shows_of_lookup_chartRow found
    · intro ⟨position, cell, shows⟩
      rcases shows.exists_last with ⟨last, other, showsLast⟩
      exact ⟨other.toJson, showsLast.lookup_chartRow⟩
  binds column position cell shows := shows.lookup_chartRow
  bound column json found := by
    rcases exists_shows_of_lookup_chartRow found with ⟨position, cell, shows⟩
    rcases shows.exists_last with ⟨last, other, showsLast⟩
    refine ⟨last, other, showsLast, ?_⟩
    rw [showsLast.lookup_chartRow] at found
    exact (Option.some.inj found).symm
  nulls column position shows := shows.lookup_chartRow

/-! ## Whole charts -/

/-- The store answers the first statement with this header and these rows, to the end. -/
def Session.Drains (session : Session) (columns : List String) (rows : List Row) : Prop :=
  ∃ stream, session.answer 0 = .ok stream ∧ stream.columns = columns ∧
    stream.steps.map RowStep.row = rows.map .ok

theorem Session.exists_chart_iff {session : Session} :
    (∃ answer, (session.answer 0 >>= RowStream.chart) = .ok answer) ↔
      ∃ columns rows, session.Drains columns rows := by
  simp only [bind_eq_ok_iff, RowStream.chart, map_eq_ok_iff, RowStream.values_ok_eq_ok_iff]
  constructor
  · intro ⟨_, stream, answered, rows, drained, _⟩
    exact ⟨stream.columns, rows, stream, answered, rfl, drained⟩
  · intro ⟨_, rows, stream, answered, _, drained⟩
    exact ⟨_, stream, answered, rows, drained, rfl⟩

theorem Session.Drains.chart_eq {session : Session} {columns : List String} {rows : List Row}
    (drained : session.Drains columns rows) :
    (session.answer 0 >>= RowStream.chart) = .ok (.ofRows columns rows) := by
  rcases drained with ⟨stream, answered, header, steps⟩
  have values := RowStream.values_ok_eq_ok_iff.mpr steps
  subst header
  exact bind_eq_ok_iff.mpr ⟨stream, answered, map_eq_ok_iff.mpr ⟨rows, values, rfl⟩⟩

theorem runAggregation_eq_ok_iff {schema : Schema} {snapshot : FieldSnapshot}
    {request : AggregationRequest} {session : Session} {answer : ChartAnswer} :
    ((runAggregation schema snapshot request).execute session).1 = .ok answer ↔
      firstFault (request.checks schema snapshot) = none ∧
        (session.answer 0 >>= RowStream.chart) = .ok answer := by
  rw [← request.fault?_statement, fault?_eq_none_iff, runAggregation, Work.execute_bind,
    Work.execute_ofExcept]
  cases request.statement schema snapshot with
  | error error => simp
  | ok statement =>
      rcases asksFor_chart statement session with ⟨after, asked, _⟩
      dsimp only
      rw [asked]
      simp

/-- A chart is the header as it came and one object for each row, in their order. It is had
whenever the request has no fault and all rows are had. -/
theorem chart_isObjectOf_rows (schema : Schema) (snapshot : FieldSnapshot)
    (request : AggregationRequest) (session : Session) :
    ((∃ answer, ((runAggregation schema snapshot request).execute session).1 = .ok answer) ↔
      firstFault (request.checks schema snapshot) = none ∧
        ∃ columns rows, session.Drains columns rows) ∧
    ∀ answer columns rows,
      ((runAggregation schema snapshot request).execute session).1 = .ok answer →
      session.Drains columns rows →
      answer.columns = columns ∧ List.Forall₂ (IsObjectOf columns) rows answer.rows := by
  simp only [runAggregation_eq_ok_iff]
  constructor
  · rw [exists_and_left, Session.exists_chart_iff]
  · intro answer columns rows ⟨_, charted⟩ drained
    rw [drained.chart_eq] at charted
    cases charted
    refine ⟨rfl, ?_⟩
    rw [ChartAnswer.ofRows, List.forall₂_map_right_iff, List.forall₂_same]
    intro row _
    exact isObjectOf_chartRow columns row

/-! A header that has its names twice, and rows that are cut off or run on. -/

def repeatedColumns : List String :=
  ["app", "max_data", "app", "max_data"]

def repeatedRows : List Row :=
  [[.text "reviews", .natural 3, .null, .float .nan],
    [.text "ratings"],
    [.text "details", .float (.infinity true), .text "mongo", .float .nan, .integer 7]]

def repeatedStore : Session :=
  Session.start [⟨5, .ok ⟨repeatedColumns, repeatedRows.map fun row => ⟨1, .ok row⟩, 0⟩⟩]

def appPie : AggregationRequest where
  chart := "pie"
  times := ⟨0, 60⟩
  options := { sliceBy := "app", sizeByOperation := "count" }

/-- A cell that is not shown leaves an earlier one, and a null replaces it. -/
theorem chart_isObjectOf_rows_repeated :
    firstFault (appPie.checks ⟨"logs", []⟩ .empty) = none ∧
    repeatedStore.Drains repeatedColumns repeatedRows ∧
    ∃ answer, ((runAggregation ⟨"logs", []⟩ .empty appPie).execute repeatedStore).1 =
        .ok answer ∧
      answer.columns = repeatedColumns ∧
      List.Forall₂ (IsObjectOf repeatedColumns) repeatedRows answer.rows ∧
      answer.rows = [[("app", .null), ("max_data", .ofNat 3)], [("app", .text "ratings")],
        [("app", .text "mongo")]] := by
  have sound : firstFault (appPie.checks ⟨"logs", []⟩ .empty) = none := by rfl
  have drained : repeatedStore.Drains repeatedColumns repeatedRows := ⟨_, rfl, rfl, rfl⟩
  rcases chart_isObjectOf_rows ⟨"logs", []⟩ .empty appPie repeatedStore with ⟨had, shows⟩
  rcases had.mpr ⟨sound, _, _, drained⟩ with ⟨answer, answered⟩
  rcases shows answer _ _ answered drained with ⟨header, objects⟩
  have made := (runAggregation_eq_ok_iff.mp answered).2
  rw [drained.chart_eq] at made
  cases made
  exact ⟨sound, drained, _, answered, header, objects, by rfl⟩

end LogQuery
