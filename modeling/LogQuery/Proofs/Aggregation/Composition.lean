import LogQuery.Proofs.Aggregation.Resolved

namespace LogQuery

/-! ## What a plan is composed of

The texts of a plan, spelled out from the request. A field that is no column is read from one
of the two maps and selected under its own name. -/

/-- A dimension, as it is selected and as the rows are grouped by it. -/
structure GroupColumn where
  select : String
  group : String
  deriving DecidableEq, Repr

section

variable (schema : Schema) (snapshot : FieldSnapshot)

/-- Where the values of a field are numbers. -/
def numberText (field : String) : String :=
  if schema.isColumn field then field else "fields_number['" ++ field ++ "']"

/-- Where the values of a field may be of either kind. -/
def fieldText (field : String) : String :=
  if schema.isColumn field then field
  else if snapshot.hasNumber field then "fields_number['" ++ field ++ "']"
  else "fields_string['" ++ field ++ "']"

def fieldColumn (field : String) : GroupColumn where
  select :=
    if schema.isColumn field then field
    else fieldText schema snapshot field ++ " AS `" ++ field ++ "`"
  group := fieldText schema snapshot field

def timeColumn (interval : Int) : GroupColumn where
  select := "toStartOfInterval(timestamp, INTERVAL " ++ toString interval ++ " second) AS time"
  group := "time"

def wholeText (operation : Operation) (argument : String) : String :=
  operation.name ++ "(" ++ argument ++ ") as " ++ operation.name ++ "_data"

def filteredText (operation : Operation) (arguments : String) (index : Nat) : String :=
  operation.name ++ "If(" ++ arguments ++ ") as " ++ operation.name ++ "_data_filter" ++
    index.repr

namespace AggregationOptions

variable (options : AggregationOptions)

def breakDownColumns : List GroupColumn :=
  options.breakDownNames.map (fieldColumn schema snapshot)

def sizeText (operation : Operation) : String :=
  if operation = .count then fieldText schema snapshot options.sizeName
  else numberText schema options.sizeName

def verticalText : String :=
  numberText schema (Text.trim options.verticalAxisField)

/-- One entry for all rows, or one for the rows of each filter. -/
def verticalTexts (operation : Operation) (conditions : List String) : List String :=
  if conditions = [] then
    [wholeText operation (if operation = .count then "*" else options.verticalText schema)]
  else
    conditions.mapIdx fun index condition =>
      filteredText operation
        (if operation = .count then condition
          else options.verticalText schema ++ ", " ++ condition) index

/-- The conditions of the filters, in their order. -/
def AreConditions (conditions : List String) : Prop :=
  List.Forall₂ (fun filter condition => Query.toCondition schema snapshot filter = .ok condition)
    options.breakDownByFilters conditions

def directionText : String :=
  if options.horizontalAxisOrder = "descending" then "DESC" else "ASC"

end AggregationOptions

/-- The dimensions, the aggregates, the order and the limit of the three kinds of charts. -/
inductive AggregationRequest.Composes (request : AggregationRequest) (span : Int) :
    List GroupColumn → List String → String → Option Nat → Prop
  | pie {operation : Operation}
      (chart : request.chart = "pie")
      (size : request.options.sizeByOperation = operation.name) :
      Composes request span
        [fieldColumn schema snapshot (Text.trim request.options.sliceBy)]
        [wholeText operation (request.options.sizeText schema snapshot operation)] "" none
  | top {operation : Operation} {conditions : List String} {limit : Option Nat}
      (chart : request.chart = "bar")
      (axis : request.options.horizontalAxisOperation = "top")
      (vertical : request.options.verticalAxisOperation = operation.name)
      (filters : request.options.AreConditions schema snapshot conditions)
      (limited : request.options.limit = .ok limit) :
      Composes request span
        (fieldColumn schema snapshot (Text.trim request.options.horizontalAxisField) ::
          request.options.breakDownColumns schema snapshot)
        (request.options.verticalTexts schema operation conditions)
        (if conditions = [] then
          operation.name ++ "_data " ++ request.options.directionText else "")
        limit
  | timeSeries {operation : Operation} {conditions : List String}
      (chart : request.chart ∈ ["bar", "line", "area"])
      (axis : request.options.horizontalAxisOperation = "time")
      (vertical : request.options.verticalAxisOperation = operation.name)
      (filters : request.options.AreConditions schema snapshot conditions) :
      Composes request span
        (timeColumn (timeInterval span) :: request.options.breakDownColumns schema snapshot)
        (request.options.verticalTexts schema operation conditions) "time" none

end

/-! ### The texts of the parts -/

section

variable {schema : Schema} {snapshot : FieldSnapshot}

theorem resolve_number (field : String) :
    schema.resolve snapshot .number field = numberText schema field := rfl

/-- A reference into a map is longer than the name that it is made from. -/
theorem reference_ne (kind : FieldKind) (field : String) : kind.reference field ≠ field := by
  intro same
  have lengths := congrArg String.length same
  have opening : "['".length = 2 := rfl
  simp only [FieldKind.reference, String.length_append, opening] at lengths
  omega

theorem fieldText_eq_iff (schema : Schema) (snapshot : FieldSnapshot) (field : String) :
    fieldText schema snapshot field = field ↔ schema.isColumn field = true := by
  cases column : schema.isColumn field with
  | true => simp [fieldText, column]
  | false =>
      have elsewhere : fieldText schema snapshot field = FieldKind.number.reference field ∨
          fieldText schema snapshot field = FieldKind.string.reference field := by
        cases known : snapshot.hasNumber field with
        | true => exact .inl (by simp [fieldText, column, known]; rfl)
        | false => exact .inr (by simp [fieldText, column, known]; rfl)
      rcases elsewhere with same | same <;> simp [same, reference_ne]

def Dimension.column (dimension : Dimension) : GroupColumn :=
  ⟨dimension.select, dimension.group⟩

theorem column_of_dimension {field : String} {found : Dimension}
    (checked : AggregationOptions.dimension schema snapshot field = .ok found) :
    found.column = fieldColumn schema snapshot field := by
  rcases AggregationOptions.dimension_eq_ok_iff.mp checked with ⟨_, _, rfl⟩
  have columned := fieldText_eq_iff schema snapshot field
  change GroupColumn.mk
    (if fieldText schema snapshot field = field then fieldText schema snapshot field
      else fieldText schema snapshot field ++ " AS `" ++ field ++ "`")
    (fieldText schema snapshot field) = _
  by_cases column : schema.isColumn field = true
  · change _ = GroupColumn.mk (if _ then _ else _) _
    rw [if_pos (columned.mpr column), if_pos column, columned.mpr column]
  · change _ = GroupColumn.mk (if _ then _ else _) _
    rw [if_neg (mt columned.mp column), if_neg column]

theorem column_time (interval : Int) :
    (Dimension.time interval).column = timeColumn interval := by
  have named : " second) AS " ++ timeAlias = " second) AS time" := rfl
  change GroupColumn.mk ("toStartOfInterval(timestamp, INTERVAL " ++ toString interval ++
    " second) AS " ++ timeAlias) "time" = _
  rw [String.append_assoc, named]
  rfl

theorem select_whole (operation : Operation) (argument : String) :
    (Aggregate.whole operation argument).select = wholeText operation argument := by
  simp [Aggregate.select, Aggregate.expression, Aggregate.columnName, Operation.dataAlias,
    wholeText, String.append_assoc]

theorem select_filtered (operation : Operation) (argument : Option String) (condition : String)
    (index : Nat) :
    (Aggregate.filtered operation argument condition index).select =
      filteredText operation
        (match argument with
          | none => condition
          | some argument => argument ++ ", " ++ condition) index := by
  cases argument <;>
    simp [Aggregate.select, Aggregate.expression, Aggregate.columnName, Operation.filterAlias,
      Operation.dataAlias, filteredText, String.append_assoc]

namespace AggregationOptions

variable {options : AggregationOptions}

theorem columns_of_breakDownDimensions {dimensions : List Dimension}
    (checked : options.breakDownDimensions schema snapshot = .ok dimensions) :
    dimensions.map Dimension.column = options.breakDownColumns schema snapshot :=
  map_of_mapM checked fun _ _ found => column_of_dimension found

theorem areConditions_of_breakDownConditions {conditions : List String}
    (checked : options.breakDownConditions schema snapshot = .ok conditions) :
    options.AreConditions schema snapshot conditions :=
  (mapM_eq_ok_iff.mp checked).imp fun _ _ found => toCondition_of_filterCondition found

theorem verticalArgument_eq_ok {operation : Operation} {argument : Option String}
    (checked : options.verticalArgument schema snapshot operation = .ok argument) :
    argument = if operation = .count then none else some (options.verticalText schema) := by
  unfold verticalArgument at checked
  split
  · next counted =>
      rw [if_pos counted] at checked
      cases checked
      rfl
  · next measured =>
      rw [if_neg measured] at checked
      rcases map_eq_ok_iff.mp checked with ⟨found, computed, rfl⟩
      rcases argument_eq_ok_iff.mp computed with ⟨_, resolved⟩
      rw [if_neg measured, resolve_number] at resolved
      rw [resolved, verticalText]

theorem select_of_aggregates {operation : Operation} {conditions : List String}
    {aggregates : List Aggregate}
    (checked : options.aggregates schema snapshot operation conditions = .ok aggregates) :
    aggregates.map Aggregate.select = options.verticalTexts schema operation conditions := by
  unfold AggregationOptions.aggregates at checked
  rcases bind_eq_ok_iff.mp checked with ⟨argument, found, built⟩
  have resolved := verticalArgument_eq_ok found
  subst resolved
  unfold verticalTexts
  split at built
  · cases built
    rw [if_pos rfl, List.map_singleton, select_whole]
    by_cases counted : operation = .count <;> simp [counted]
  · next nonempty =>
      cases built
      rw [if_neg nonempty]
      apply List.ext_getElem
      · simp
      · intro index _ _
        by_cases counted : operation = .count <;> simp [counted, select_filtered]

theorem sizeText_of_argument {operation : Operation} {size : String}
    (checked : argument schema snapshot operation options.sizeName = .ok size) :
    size = options.sizeText schema snapshot operation := by
  rcases argument_eq_ok_iff.mp checked with ⟨_, rfl⟩
  unfold sizeText
  split <;> rfl

theorem orderBy_top (dimensions : List Dimension) (aggregates : List Aggregate)
    (operation : Operation) (conditions : List String) (limit : Option Nat) :
    AggregationPlan.orderBy ⟨dimensions, aggregates,
        if conditions = [] then .byData operation
          (if options.horizontalAxisOrder = "descending" then .descending else .ascending)
        else .unordered, limit⟩ =
      if conditions = [] then operation.name ++ "_data " ++ options.directionText else "" := by
  unfold directionText
  split
  · split <;> simp [AggregationPlan.orderBy, Operation.dataAlias, SortDirection.keyword,
      String.append_assoc]
  · rfl

theorem verticalTexts_ne_nil (operation : Operation) (conditions : List String) :
    options.verticalTexts schema operation conditions ≠ [] := by
  unfold verticalTexts
  split <;> simp_all

end AggregationOptions

namespace AggregationRequest

open AggregationOptions

variable {request : AggregationRequest} {span : Int} {plan : AggregationPlan}

theorem composes_of_plan (planned : request.plan schema snapshot span = .ok plan) :
    request.Composes schema snapshot span (plan.dimensions.map Dimension.column)
      (plan.aggregates.map Aggregate.select) plan.orderBy plan.limit := by
  rcases plan_cases planned with ⟨chart, pie⟩ | ⟨chart, axis, top⟩ | ⟨chart, axis, timeSeries⟩
  · rcases pie_eq_ok_iff.mp pie with
      ⟨_, operation, parsed, _, slice, found, size, resolved, rfl⟩
    have named := Operation.parse?_eq_some_iff.mp parsed
    rw [List.map_singleton, List.map_singleton, column_of_dimension found, select_whole,
      sizeText_of_argument resolved]
    exact .pie chart named
  · rcases top_eq_ok_iff.mp top with ⟨_, operation, vertical, limit, limited,
      first, found, breakDowns, others, conditions, lowered, aggregates, computed, rfl⟩
    have named := operation_of_vertical vertical
    have filters := areConditions_of_breakDownConditions lowered
    rw [List.map_cons, column_of_dimension found,
      columns_of_breakDownDimensions others,
      select_of_aggregates computed, orderBy_top]
    exact .top chart axis named filters limited
  · rcases timeSeries_eq_ok_iff.mp timeSeries with ⟨operation, vertical,
      breakDowns, others, conditions, lowered, aggregates, computed, rfl⟩
    have named := operation_of_vertical vertical
    have filters := areConditions_of_breakDownConditions lowered
    rw [List.map_cons, column_time, columns_of_breakDownDimensions others,
      select_of_aggregates computed]
    exact .timeSeries chart axis named filters

namespace Composes

variable {dimensions : List GroupColumn} {aggregates : List String} {orderBy : String}
  {limit : Option Nat}

theorem dimensions_ne_nil
    (composes : request.Composes schema snapshot span dimensions aggregates orderBy limit) :
    dimensions ≠ [] := by
  cases composes <;> simp

theorem aggregates_ne_nil
    (composes : request.Composes schema snapshot span dimensions aggregates orderBy limit) :
    aggregates ≠ [] := by
  cases composes with
  | pie => simp
  | top => exact AggregationOptions.verticalTexts_ne_nil _ _
  | timeSeries => exact AggregationOptions.verticalTexts_ne_nil _ _

end Composes

end AggregationRequest

end

/-- Every plan selects its dimensions and then its aggregates, and groups by the same
dimensions in the same order. Both are those that the request names. -/
theorem plan_composed {request : AggregationRequest} {schema : Schema}
    {snapshot : FieldSnapshot} {span : Int} {plan : AggregationPlan}
    (planned : request.plan schema snapshot span = .ok plan) :
    ∃ dimensions aggregates, dimensions ≠ [] ∧ aggregates ≠ [] ∧
      plan.select = ", ".intercalate (dimensions.map GroupColumn.select ++ aggregates) ∧
      plan.groupBy = ", ".intercalate (dimensions.map GroupColumn.group) ∧
      request.Composes schema snapshot span dimensions aggregates plan.orderBy plan.limit := by
  have composed := AggregationRequest.composes_of_plan planned
  refine ⟨plan.dimensions.map Dimension.column, plan.aggregates.map Aggregate.select,
    composed.dimensions_ne_nil, composed.aggregates_ne_nil, ?_, ?_, composed⟩
  · rw [List.map_map]
    rfl
  · rw [List.map_map]
    rfl

/-! A ranking by the greatest values, for two filters and broken down by a second field. -/

def ranking : AggregationRequest :=
  { chart := "bar"
    options :=
      { horizontalAxisOperation := "top"
        horizontalAxisField := " app "
        horizontalAxisLimit := "5"
        verticalAxisOperation := "max"
        verticalAxisField := "took"
        breakDownByFields := ["host", " "]
        breakDownByFilters := ["level = 'error'", "took > 3"] } }

def rankingPlan : AggregationPlan where
  dimensions := [.field "app" "app", .field "host" "host"]
  aggregates :=
    [.filtered .max (some "fields_number['took']") "fields_string['level'] = 'error'" 0,
      .filtered .max (some "fields_number['took']") "fields_number['took'] > 3" 1]
  limit := some 5

theorem plan_ranking : ranking.plan ⟨"logs", []⟩ .empty 60 = .ok rankingPlan := by
  apply eq_ok_of_toOption
  decide +kernel

theorem plan_composed_ranking :
    ranking.plan ⟨"logs", []⟩ .empty 60 = .ok rankingPlan ∧
    ∃ dimensions aggregates, dimensions ≠ [] ∧ aggregates ≠ [] ∧
      rankingPlan.select =
        ", ".intercalate (dimensions.map GroupColumn.select ++ aggregates) ∧
      rankingPlan.groupBy = ", ".intercalate (dimensions.map GroupColumn.group) ∧
      ranking.Composes ⟨"logs", []⟩ .empty 60 dimensions aggregates rankingPlan.orderBy
        rankingPlan.limit :=
  ⟨plan_ranking, plan_composed plan_ranking⟩

/-- With filters there is no single column of data, so a ranking has no order. -/
theorem ranking_unordered :
    ¬∀ (request : AggregationRequest) (schema : Schema) (snapshot : FieldSnapshot) (span : Int)
        (plan : AggregationPlan),
      request.chart = "bar" → request.options.horizontalAxisOperation = "top" →
      request.plan schema snapshot span = .ok plan →
      ∃ (operation : Operation) (direction : SortDirection),
        plan.orderBy = operation.dataAlias ++ " " ++ direction.keyword := by
  intro ordered
  rcases ordered ranking ⟨"logs", []⟩ .empty 60 rankingPlan rfl rfl plan_ranking with
    ⟨operation, direction, order⟩
  have unordered : rankingPlan.orderBy = "" := rfl
  have lengths := congrArg String.length (unordered.symm.trans order)
  cases operation <;> cases direction <;> exact absurd lengths (by decide)

end LogQuery
