import LogQuery.Aggregation.Request
import LogQuery.Query.Condition

namespace LogQuery

/-! ## Charts and operations -/

inductive Chart where
  | pie
  | bar
  | line
  | area
  deriving DecidableEq, Repr

def Chart.parse? : String → Option Chart
  | "pie" => some .pie
  | "bar" => some .bar
  | "line" => some .line
  | "area" => some .area
  | _ => none

inductive Operation where
  | count
  | min
  | max
  | sum
  | avg
  deriving DecidableEq, Repr

namespace Operation

def all : List Operation :=
  [.count, .min, .max, .sum, .avg]

def name : Operation → String
  | .count => "count"
  | .min => "min"
  | .max => "max"
  | .sum => "sum"
  | .avg => "avg"

def parse? (text : String) : Option Operation :=
  all.find? fun operation => operation.name = text

theorem parse?_eq_some_iff {text : String} {operation : Operation} :
    parse? text = some operation ↔ text = operation.name := by
  constructor
  · intro found
    have named := List.find?_some found
    exact (of_decide_eq_true named).symm
  · rintro rfl
    cases operation <;> decide

/-- The result column of an operation. -/
def dataAlias (operation : Operation) : String :=
  operation.name ++ "_data"

/-- The result column of an operation under one of several filters. -/
def filterAlias (operation : Operation) (index : Nat) : String :=
  operation.dataAlias ++ "_filter" ++ index.repr

end Operation

/-! Names that a plan gives to its own result columns are no names of fields. -/

def timeAlias : String := "time"

def afterStart? (start text : List Char) : Option (List Char) :=
  if start.isPrefixOf text then some (text.drop start.length) else none

def isReservedBy (operation : Operation) (name : List Char) : Bool :=
  match afterStart? operation.dataAlias.toList name with
  | none => false
  | some rest =>
      match afterStart? "_filter".toList rest with
      | some index => index ≠ [] && index.all Char.isDigit
      | none => rest = []

def isReserved (name : String) : Bool :=
  name = timeAlias || Operation.all.any fun operation => isReservedBy operation name.toList

/-! ## Plans

A plan groups the rows by its dimensions and computes its aggregates for each
group. -/

inductive Dimension where
  | field (name reference : String)
  | time (interval : Int)
  deriving DecidableEq, Repr

namespace Dimension

/-- A field that is no column is named by its key in the result. -/
def select : Dimension → String
  | .field name reference =>
      if reference = name then reference else reference ++ " AS `" ++ name ++ "`"
  | .time interval =>
      "toStartOfInterval(timestamp, INTERVAL " ++ toString interval ++ " second) AS " ++
        timeAlias

def group : Dimension → String
  | .field _ reference => reference
  | .time _ => timeAlias

end Dimension

inductive Aggregate where
  | whole (operation : Operation) (argument : String)
  | filtered (operation : Operation) (argument : Option String) (condition : String)
      (index : Nat)
  deriving DecidableEq, Repr

namespace Aggregate

def columnName : Aggregate → String
  | .whole operation _ => operation.dataAlias
  | .filtered operation _ _ index => operation.filterAlias index

def expression : Aggregate → String
  | .whole operation argument => operation.name ++ "(" ++ argument ++ ")"
  | .filtered operation none condition _ => operation.name ++ "If(" ++ condition ++ ")"
  | .filtered operation (some argument) condition _ =>
      operation.name ++ "If(" ++ argument ++ ", " ++ condition ++ ")"

def select (aggregate : Aggregate) : String :=
  aggregate.expression ++ " as " ++ aggregate.columnName

end Aggregate

inductive PlanOrder where
  | unordered
  | byTime
  | byData (operation : Operation) (direction : SortDirection)
  deriving DecidableEq, Repr

structure AggregationPlan where
  dimensions : List Dimension
  aggregates : List Aggregate
  order : PlanOrder := .unordered
  limit : Option Nat := none
  deriving DecidableEq, Repr

namespace AggregationPlan

def select (plan : AggregationPlan) : String :=
  ", ".intercalate
    (plan.dimensions.map Dimension.select ++ plan.aggregates.map Aggregate.select)

def groupBy (plan : AggregationPlan) : String :=
  ", ".intercalate (plan.dimensions.map Dimension.group)

def orderBy (plan : AggregationPlan) : String :=
  match plan.order with
  | .unordered => ""
  | .byTime => timeAlias
  | .byData operation direction => operation.dataAlias ++ " " ++ direction.keyword

def limitText (plan : AggregationPlan) : String :=
  match plan.limit with
  | none => ""
  | some limit => limit.repr

end AggregationPlan

/-! ## Parts of a plan

The parts are checked in a fixed order, and the first that is wrong is
reported. -/

/-- Width of a bucket in time, for a range of `span` seconds. -/
def timeInterval (span : Int) : Int :=
  let divisor : Int :=
    if span ≤ 2 then 1
    else if span ≤ 10 then 5
    else if span ≤ 30 then 15
    else if span ≤ 60 then 30
    else if span ≤ 120 then 60
    else 100
  max (span.tdiv divisor) 1

namespace AggregationOptions

def dimension (schema : Schema) (snapshot : FieldSnapshot) (field : String) :
    Except PlanError Dimension :=
  if !Query.isIdentifier field then .error .invalid
  else if isReserved field then .error (.reservedField field)
  else .ok (.field field (schema.resolve snapshot .unknown field))

/-- Counting takes a field of either kind, all else needs numbers. -/
def argument (schema : Schema) (snapshot : FieldSnapshot) (operation : Operation)
    (field : String) : Except PlanError String :=
  if !Query.isIdentifier field then .error .invalid
  else
    let context := if operation = .count then TypeContext.unknown else .number
    .ok (schema.resolve snapshot context field)

def verticalOperation (options : AggregationOptions) : Except PlanError Operation :=
  match Operation.parse? options.verticalAxisOperation with
  | none => .error .invalidVerticalAxisOperation
  | some operation =>
      if operation ≠ .count ∧ Text.trim options.verticalAxisField = "" then
        .error .verticalAxisFieldRequired
      else .ok operation

def limit (options : AggregationOptions) : Except PlanError (Option Nat) :=
  let text := Text.trim options.horizontalAxisLimit
  if text = "" then .ok none
  else
    match Text.readNatural64 text with
    | .ok value => .ok (some value)
    | .error _ => .error .invalidHorizontalAxisLimit

def breakDownDimensions (options : AggregationOptions) (schema : Schema)
    (snapshot : FieldSnapshot) : Except PlanError (List Dimension) :=
  ((options.breakDownByFields.map Text.trim).filter (· ≠ "")).mapM
    (dimension schema snapshot)

def filterCondition (schema : Schema) (snapshot : FieldSnapshot) (filter : String) :
    Except PlanError String :=
  match Query.toCondition schema snapshot filter with
  | .ok condition =>
      if condition = "" then .error .invalidBreakDownFilter else .ok condition
  | .error _ => .error .invalidBreakDownFilter

def breakDownConditions (options : AggregationOptions) (schema : Schema)
    (snapshot : FieldSnapshot) : Except PlanError (List String) :=
  options.breakDownByFilters.mapM (filterCondition schema snapshot)

/-- The vertical field, which counting ignores. -/
def verticalArgument (options : AggregationOptions) (schema : Schema)
    (snapshot : FieldSnapshot) (operation : Operation) :
    Except PlanError (Option String) :=
  if operation = .count then .ok none
  else
    (argument schema snapshot operation (Text.trim options.verticalAxisField)).map some

/-- One aggregate, or one for each filter. -/
def aggregates (options : AggregationOptions) (schema : Schema)
    (snapshot : FieldSnapshot) (operation : Operation) (conditions : List String) :
    Except PlanError (List Aggregate) := do
  let argument ← options.verticalArgument schema snapshot operation
  match conditions with
  | [] => .ok [.whole operation (argument.getD "*")]
  | _ =>
      .ok (conditions.mapIdx fun index condition =>
        .filtered operation argument condition index)

/-! ## The three kinds of plans -/

def pie (options : AggregationOptions) (schema : Schema) (snapshot : FieldSnapshot) :
    Except PlanError AggregationPlan := do
  let slice := Text.trim options.sliceBy
  if slice = "" then
    .error .sliceByRequired
  else
    match Operation.parse? options.sizeByOperation with
    | none => .error .invalidSizeByOperation
    | some operation =>
        let named := Text.trim options.sizeByField
        if named = "" ∧ operation ≠ .count then
          .error .sizeByFieldRequired
        else
          let size := if named = "" then slice else named
          let dimension ← dimension schema snapshot slice
          let argument ← argument schema snapshot operation size
          .ok { dimensions := [dimension], aggregates := [.whole operation argument] }

def top (options : AggregationOptions) (schema : Schema) (snapshot : FieldSnapshot) :
    Except PlanError AggregationPlan := do
  let horizontal := Text.trim options.horizontalAxisField
  if horizontal = "" then
    .error .horizontalAxisFieldRequired
  else
    let operation ← options.verticalOperation
    let limit ← options.limit
    let first ← dimension schema snapshot horizontal
    let breakDowns ← options.breakDownDimensions schema snapshot
    let conditions ← options.breakDownConditions schema snapshot
    let aggregates ← options.aggregates schema snapshot operation conditions
    let direction :=
      if options.horizontalAxisOrder = "descending" then SortDirection.descending
      else .ascending
    let order :=
      if conditions = [] then PlanOrder.byData operation direction else .unordered
    .ok ⟨first :: breakDowns, aggregates, order, limit⟩

def timeSeries (options : AggregationOptions) (schema : Schema)
    (snapshot : FieldSnapshot) (span : Int) : Except PlanError AggregationPlan := do
  let operation ← options.verticalOperation
  let breakDowns ← options.breakDownDimensions schema snapshot
  let conditions ← options.breakDownConditions schema snapshot
  let aggregates ← options.aggregates schema snapshot operation conditions
  .ok ⟨.time (timeInterval span) :: breakDowns, aggregates, .byTime, none⟩

def plan (options : AggregationOptions) (schema : Schema) (snapshot : FieldSnapshot)
    (chart : Chart) (span : Int) : Except PlanError AggregationPlan :=
  match chart, options.horizontalAxisOperation with
  | .pie, _ => options.pie schema snapshot
  | .bar, "top" => options.top schema snapshot
  | _, "time" => options.timeSeries schema snapshot span
  | _, _ => .error .invalid

end AggregationOptions

/-- The plan of a request over a range of `span` seconds. -/
def AggregationRequest.plan (request : AggregationRequest) (schema : Schema)
    (snapshot : FieldSnapshot) (span : Int) : Except PlanError AggregationPlan :=
  match Chart.parse? request.chart with
  | none => .error .invalidChart
  | some chart => request.options.plan schema snapshot chart span

end LogQuery
