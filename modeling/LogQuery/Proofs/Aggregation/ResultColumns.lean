import LogQuery.Aggregation.Run
import LogQuery.Proofs.Aggregation.Composition
import LogQuery.Proofs.Aggregation.Reserved
import LogQuery.Proofs.Json.Fields

namespace LogQuery

open Json (keysOf)

/-! ## Columns of a chart

Fields name their own columns, and all other columns are named by the plan. The plan takes its
names from the reserved ones, each only once, and a field never has a reserved name. -/

def Dimension.columnName : Dimension → String
  | .field name _ => name
  | .time _ => timeAlias

def Dimension.generatedName? : Dimension → Option String
  | .field _ _ => none
  | .time _ => some timeAlias

namespace AggregationPlan

variable (plan : AggregationPlan)

/-- The columns of the answer, in the order of the selection. -/
def columns : List String :=
  plan.dimensions.map Dimension.columnName ++ plan.aggregates.map Aggregate.columnName

/-- The columns that take their names from no field. -/
def generatedNames : List String :=
  plan.dimensions.filterMap Dimension.generatedName? ++ plan.aggregates.map Aggregate.columnName

end AggregationPlan

/-! ### Names of aggregates -/

theorem isReservedName_columnName (aggregate : Aggregate) :
    IsReservedName aggregate.columnName := by
  cases aggregate with
  | whole operation argument => exact .data (mem_operationNames_iff.mpr ⟨operation, rfl⟩)
  | filtered operation argument condition index =>
      have number : Query.IsDigits (Nat.toDigits 10 index) :=
        ⟨Nat.toDigits_ne_nil, fun _ => Nat.isDigit_of_mem_toDigits (by decide) (by decide)⟩
      have spelled : operation.filterAlias index =
          operation.name ++ "_data_filter" ++ String.ofList (Nat.toDigits 10 index) := by
        rw [Operation.filterAlias, Operation.dataAlias, Nat.repr_eq_ofList_toDigits]
        exact congrArg (· ++ _) (String.append_assoc ..)
      rw [Aggregate.columnName, spelled]
      exact .filter (mem_operationNames_iff.mpr ⟨operation, rfl⟩) number

theorem eq_of_filterAlias_eq {operation : Operation} {first second : Nat}
    (same : operation.filterAlias first = operation.filterAlias second) : first = second := by
  have digits := (String.append_right_inj _).mp same
  rw [Nat.repr_eq_ofList_toDigits, Nat.repr_eq_ofList_toDigits, String.ofList_inj] at digits
  have values := congrArg (Nat.ofDigitChars 10 · 0) digits
  simpa only [Nat.ofDigitChars_ten_toDigits] using values

theorem timeAlias_ne_columnName (aggregate : Aggregate) : timeAlias ≠ aggregate.columnName := by
  have longer (operation : Operation) : timeAlias.length < operation.dataAlias.length := by
    cases operation <;> decide
  intro same
  have lengths := congrArg String.length same
  cases aggregate with
  | whole operation => exact Nat.ne_of_lt (longer operation) lengths
  | filtered operation argument condition index =>
      have shorter := longer operation
      simp only [Aggregate.columnName, Operation.filterAlias, String.length_append] at lengths
      omega

/-! ### The columns of a plan -/

def Dimension.IsFree : Dimension → Prop
  | .field name _ => ¬IsReservedName name
  | .time _ => False

theorem Dimension.IsFree.not_isReservedName {dimension : Dimension} (free : dimension.IsFree) :
    ¬IsReservedName dimension.columnName := by
  cases dimension with
  | field name reference => exact free
  | time interval => contradiction

/-- Only the first dimension can be the time, and no two aggregates have one name. -/
structure AggregationPlan.IsNamed (plan : AggregationPlan) : Prop where
  dimensions : ∃ first rest, plan.dimensions = first :: rest ∧
    (first.IsFree ∨ ∃ interval, first = .time interval) ∧ ∀ other ∈ rest, other.IsFree
  aggregates : (plan.aggregates.map Aggregate.columnName).Nodup

namespace AggregationOptions

variable {options : AggregationOptions} {schema : Schema} {snapshot : FieldSnapshot}

theorem isFree_of_dimension {field : String} {found : Dimension}
    (checked : dimension schema snapshot field = .ok found) : found.IsFree := by
  rcases dimension_eq_ok_iff.mp checked with ⟨_, free, rfl⟩
  rw [Dimension.IsFree, ← isReserved_iff, free]
  exact Bool.false_ne_true

theorem isFree_of_breakDownDimensions {dimensions : List Dimension}
    (checked : options.breakDownDimensions schema snapshot = .ok dimensions) :
    ∀ dimension ∈ dimensions, dimension.IsFree := by
  intro dimension member
  rcases exists_of_mem_mapM checked member with ⟨field, _, found⟩
  exact isFree_of_dimension found

theorem nodup_columnName_of_aggregates {operation : Operation} {conditions : List String}
    {aggregates : List Aggregate}
    (checked : options.aggregates schema snapshot operation conditions = .ok aggregates) :
    (aggregates.map Aggregate.columnName).Nodup := by
  unfold AggregationOptions.aggregates at checked
  rcases bind_eq_ok_iff.mp checked with ⟨argument, _, built⟩
  split at built
  · cases built
    exact List.pairwise_singleton _ _
  · cases built
    rw [List.Nodup, List.pairwise_iff_getElem]
    intro first second _ _ before same
    simp only [List.getElem_map, List.getElem_mapIdx, Aggregate.columnName] at same
    exact Nat.ne_of_lt before (eq_of_filterAlias_eq same)

end AggregationOptions

namespace AggregationRequest

open AggregationOptions

theorem isNamed_of_plan {request : AggregationRequest} {schema : Schema}
    {snapshot : FieldSnapshot} {span : Int} {plan : AggregationPlan}
    (planned : request.plan schema snapshot span = .ok plan) : plan.IsNamed := by
  rcases request.plan_cases planned with ⟨_, pie⟩ | ⟨_, _, top⟩ | ⟨_, _, timeSeries⟩
  · rcases pie_eq_ok_iff.mp pie with ⟨_, _, _, _, slice, found, size, _, rfl⟩
    exact ⟨⟨slice, [], rfl, .inl (isFree_of_dimension found), List.forall_mem_nil _⟩,
      List.pairwise_singleton _ _⟩
  · rcases top_eq_ok_iff.mp top with ⟨_, _, _, _, _, first, found, breakDowns, foundRest, _, _, _,
      computed, rfl⟩
    exact ⟨⟨first, breakDowns, rfl, .inl (isFree_of_dimension found),
      isFree_of_breakDownDimensions foundRest⟩, nodup_columnName_of_aggregates computed⟩
  · rcases timeSeries_eq_ok_iff.mp timeSeries with ⟨_, _, breakDowns, foundRest, _, _, _,
      computed, rfl⟩
    exact ⟨⟨_, breakDowns, rfl, .inr ⟨_, rfl⟩, isFree_of_breakDownDimensions foundRest⟩,
      nodup_columnName_of_aggregates computed⟩

end AggregationRequest

namespace AggregationPlan.IsNamed

variable {plan : AggregationPlan} (named : plan.IsNamed)

include named

theorem isFree_of_field {field reference : String}
    (member : Dimension.field field reference ∈ plan.dimensions) : ¬IsReservedName field := by
  rcases named.dimensions with ⟨first, rest, dimensions, start, free⟩
  rw [dimensions, List.mem_cons] at member
  rcases member with rfl | later
  · rcases start with free | ⟨_, time⟩
    · exact free
    · contradiction
  · exact free _ later

/-- Where a reserved name stands among the columns, it stands only once. -/
theorem pairwise_columns :
    plan.columns.Pairwise fun first second => first = second → ¬IsReservedName first := by
  rcases named.dimensions with ⟨first, rest, dimensions, start, free⟩
  have freeNames : ∀ name ∈ rest.map Dimension.columnName, ¬IsReservedName name := by
    intro name member
    rcases List.mem_map.mp member with ⟨dimension, inRest, rfl⟩
    exact (free dimension inRest).not_isReservedName
  -- A free name is equal to no reserved one, so what is left is the time against the aggregates.
  rw [columns, List.pairwise_append, dimensions, List.map_cons, List.pairwise_cons]
  refine ⟨⟨?_, ?_⟩, ?_, ?_⟩
  · rintro name member rfl
    exact freeNames _ member
  · exact List.pairwise_of_forall_mem_list fun name member _ _ _ => freeNames name member
  · exact named.aggregates.imp fun differ same => absurd same differ
  · intro name member other inAggregates same
    rcases List.mem_cons.mp member with rfl | later
    · rcases start with free | ⟨_, rfl⟩
      · exact free.not_isReservedName
      · rcases List.mem_map.mp inAggregates with ⟨aggregate, _, rfl⟩
        exact absurd same (timeAlias_ne_columnName aggregate)
    · exact freeNames _ later

end AggregationPlan.IsNamed

/-! ### The rows of a chart -/

/-- What a cell leaves in a row. -/
def Cell.chartValue? (cell : Cell) : Option Json :=
  if cell.isNonFinite then none else some cell.toJson

theorem lookup_writeChartCell (entry : List (String × Json)) (named : String × Cell)
    (column : String) :
    (writeChartCell entry named).lookup column =
      if column = named.1 then named.2.chartValue?.or (entry.lookup column)
      else entry.lookup column := by
  unfold writeChartCell Cell.chartValue?
  split
  · simp
  · rw [Json.lookup_insertField]
    simp

theorem lookup_foldl_writeChartCell {cells : List (String × Cell)} {column : String}
    (absent : column ∉ keysOf cells) (entry : List (String × Json)) :
    (cells.foldl writeChartCell entry).lookup column = entry.lookup column := by
  induction cells generalizing entry with
  | nil => rfl
  | cons named cells induction =>
      rcases not_or.mp (mt List.mem_cons.mpr absent) with ⟨differs, later⟩
      rw [List.foldl_cons, induction later, lookup_writeChartCell, if_neg differs]

theorem zip_append (before after : List String) (row : Row) :
    (before ++ after).zip row = before.zip row ++ after.zip (row.drop before.length) := by
  induction before generalizing row with
  | nil => rfl
  | cons column before induction =>
      cases row with
      | nil => simp
      | cons cell row => simp [induction]

/-- Columns that follow leave a column as it is, unless they have its name. -/
theorem lookup_chartRow_append {before after : List String} {column : String}
    (absent : column ∉ after) (row : Row) :
    (chartRow (before ++ after) row).lookup column = (chartRow before row).lookup column := by
  have unwritten : column ∉ keysOf (after.zip (row.drop before.length)) := by
    intro member
    rcases List.mem_map.mp member with ⟨_, written, rfl⟩
    exact absent (List.of_mem_zip written).1
  rw [chartRow, zip_append, List.foldl_append, lookup_foldl_writeChartCell unwritten, chartRow]

/-- A column that occurs once holds its own cell. -/
theorem lookup_chartRow {before after : List String} {column : String}
    (first : column ∉ before) (last : column ∉ after) (row : Row) :
    (chartRow (before ++ column :: after) row).lookup column =
      (row[before.length]?).bind Cell.chartValue? := by
  have start : (chartRow before row).lookup column = none :=
    @lookup_chartRow_append [] before column first row
  have split : before ++ column :: after = (before ++ [column]) ++ after := by simp
  rw [split, lookup_chartRow_append last, chartRow, zip_append, List.foldl_append, ← chartRow,
    ← List.head?_drop]
  cases row.drop before.length with
  | nil => exact start
  | cons cell rest => simp [lookup_writeChartCell, start]

/-! ### What a plan keeps apart -/

namespace AggregationPlan.IsNamed

variable {plan : AggregationPlan} (named : plan.IsNamed)

include named

theorem lookup_of_isReservedName {index : Nat} (within : index < plan.columns.length)
    (reserved : IsReservedName plan.columns[index]) (row : Row) :
    (chartRow plan.columns row).lookup plan.columns[index] =
      (row[index]?).bind Cell.chartValue? := by
  have parted : plan.columns =
      plan.columns.take index ++ plan.columns[index] :: plan.columns.drop (index + 1) := by
    rw [List.getElem_cons_drop, List.take_append_drop]
  have once := named.pairwise_columns
  rw [parted, List.pairwise_append, List.pairwise_cons] at once
  rcases once with ⟨_, ⟨onceAfter, _⟩, onceBefore⟩
  have first : plan.columns[index] ∉ plan.columns.take index := fun also =>
    onceBefore _ also _ List.mem_cons_self rfl reserved
  have last : plan.columns[index] ∉ plan.columns.drop (index + 1) := fun also =>
    onceAfter _ also rfl reserved
  have written := lookup_chartRow first last row
  rwa [← parted, List.length_take_of_le (Nat.le_of_lt within)] at written

/-- The aggregates leave what the dimensions have written. -/
theorem lookup_columnName {dimension : Dimension} (member : dimension ∈ plan.dimensions)
    (row : Row) :
    (chartRow plan.columns row).lookup dimension.columnName =
      (chartRow (plan.dimensions.map Dimension.columnName) row).lookup
        dimension.columnName := by
  rcases List.pairwise_append.mp named.pairwise_columns with ⟨_, _, once⟩
  apply lookup_chartRow_append
  intro also
  rcases List.mem_map.mp also with ⟨aggregate, _, same⟩
  have reserved := isReservedName_columnName aggregate
  rw [same] at reserved
  exact once _ (List.mem_map_of_mem member) _ also rfl reserved

end AggregationPlan.IsNamed

theorem isReservedName_of_generated {plan : AggregationPlan} {name : String}
    (generated : name ∈ plan.generatedNames) : IsReservedName name := by
  rcases List.mem_append.mp generated with time | aggregate
  · rcases List.mem_filterMap.mp time with ⟨dimension, _, named⟩
    cases dimension with
    | field => contradiction
    | time =>
        cases named
        exact .time
  · rcases List.mem_map.mp aggregate with ⟨whose, _, rfl⟩
    exact isReservedName_columnName whose

theorem generatedNames_sublist (plan : AggregationPlan) :
    plan.generatedNames.Sublist plan.columns := by
  refine List.Sublist.append ?_ (List.Sublist.refl _)
  induction plan.dimensions with
  | nil => exact .slnil
  | cons dimension dimensions induction =>
      cases dimension with
      | field name reference => exact .cons _ induction
      | time interval => exact .cons_cons _ induction

/-- The names that a plan gives to its own columns are told apart from each other and from all
fields, so what a row holds under them is what the plan selected. -/
theorem generatedNames_distinct {request : AggregationRequest} {schema : Schema}
    {snapshot : FieldSnapshot} {span : Int} {plan : AggregationPlan}
    (planned : request.plan schema snapshot span = .ok plan) :
    plan.generatedNames.Nodup ∧
    (∀ name ∈ plan.generatedNames, ∀ field reference,
      Dimension.field field reference ∈ plan.dimensions → name ≠ field) ∧
    (∀ (index : Nat) name, plan.columns[index]? = some name → name ∈ plan.generatedNames →
      ∀ row : Row, (chartRow plan.columns row).lookup name = (row[index]?).bind Cell.chartValue?) ∧
    ∀ dimension ∈ plan.dimensions, ∀ row,
      (chartRow plan.columns row).lookup dimension.columnName =
        (chartRow (plan.dimensions.map Dimension.columnName) row).lookup
          dimension.columnName := by
  have named := request.isNamed_of_plan planned
  refine ⟨?_, ?_, ?_, ?_⟩
  · refine (named.pairwise_columns.sublist (generatedNames_sublist plan)).imp_of_mem ?_
    intro name other generated _ once same
    exact once same (isReservedName_of_generated generated)
  · rintro name generated field reference member rfl
    exact named.isFree_of_field member (isReservedName_of_generated generated)
  · intro index name found generated row
    rcases List.getElem?_eq_some_iff.mp found with ⟨within, rfl⟩
    exact named.lookup_of_isReservedName within (isReservedName_of_generated generated) row
  · intro dimension member row
    exact named.lookup_columnName member row

theorem generatedNames_distinct_ranking :
    ranking.plan ⟨"logs", []⟩ .empty 60 = .ok rankingPlan ∧
    rankingPlan.generatedNames = ["max_data_filter0", "max_data_filter1"] ∧
    rankingPlan.generatedNames.Nodup ∧
    (∀ name ∈ rankingPlan.generatedNames, ∀ field reference,
      Dimension.field field reference ∈ rankingPlan.dimensions → name ≠ field) ∧
    (∀ (index : Nat) name, rankingPlan.columns[index]? = some name →
      name ∈ rankingPlan.generatedNames → ∀ row : Row,
      (chartRow rankingPlan.columns row).lookup name =
        (row[index]?).bind Cell.chartValue?) ∧
    ∀ dimension ∈ rankingPlan.dimensions, ∀ row,
      (chartRow rankingPlan.columns row).lookup dimension.columnName =
        (chartRow (rankingPlan.dimensions.map Dimension.columnName) row).lookup
          dimension.columnName :=
  ⟨plan_ranking, by decide, generatedNames_distinct plan_ranking⟩

end LogQuery
