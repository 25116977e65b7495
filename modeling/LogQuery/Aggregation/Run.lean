import LogQuery.Aggregation.Plan
import LogQuery.Logs.Histogram

namespace LogQuery

/-! A chart is one statement. Its rows become objects with the column names as
keys; floats that are not finite are left out. -/

structure ChartAnswer where
  rows : List (List (String × Json))
  columns : List String

def chartStatement (schema : Schema) (plan : AggregationPlan) (range : TimeRange)
    (condition : String) : String :=
  "SELECT " ++ plan.select ++ " FROM " ++ schema.table ++ " WHERE timestamp >= " ++
    unixTime range.first ++ " AND timestamp <= " ++ unixTime range.last ++
    joinedCondition condition ++ " GROUP BY " ++ plan.groupBy ++
    (if plan.orderBy = "" then "" else " ORDER BY " ++ plan.orderBy) ++
    (if plan.limitText = "" then "" else " LIMIT " ++ plan.limitText) ++ " " ++
    settingsClause

def writeChartCell (entry : List (String × Json)) (named : String × Cell) :
    List (String × Json) :=
  if named.2.isNonFinite then entry
  else Json.insertField named.1 named.2.toJson entry

def chartRow (columns : List String) (row : Row) : List (String × Json) :=
  (columns.zip row).foldl writeChartCell []

def AggregationRequest.statement (request : AggregationRequest) (schema : Schema)
    (snapshot : FieldSnapshot) : Except ServiceError String := do
  let condition ←
    (Query.toCondition schema snapshot request.query).mapError ServiceError.query
  let span ← request.times.span
  let plan ← (request.plan schema snapshot span).mapError ServiceError.plan
  .ok (chartStatement schema plan request.times condition)

def runAggregation (schema : Schema) (snapshot : FieldSnapshot)
    (request : AggregationRequest) : Work ChartAnswer := do
  let statement ← Work.ofExcept (request.statement schema snapshot)
  let stream ← Work.query statement
  let reversed ← Work.foldRows stream
    (fun rows row => .ok (chartRow stream.columns row :: rows)) []
  pure ⟨reversed.reverse, stream.columns⟩

def ChartAnswer.toJson (answer : ChartAnswer) : Json :=
  Json.ofFields
    [("rows", .array (answer.rows.map .object)),
      ("columns", .ofStrings answer.columns)]

end LogQuery
