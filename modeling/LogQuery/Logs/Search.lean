import LogQuery.Query.Condition
import LogQuery.Logs.TimePredicate
import LogQuery.Logs.Document

namespace LogQuery

/-! A search asks for the histogram of the matching rows, and then for one page of
them. Everything that can be wrong with the request is found before the first
statement. How long the search took is not part of its answer here. -/

structure LogsRequest where
  query : String
  order : String
  orderBy : String
  limit : Nat
  range : TimeRange
  deriving Repr

structure LogsAnswer where
  documents : List Document
  fields : List String
  count : Int
  buckets : List Bucket

structure LogsPlan where
  condition : String
  order : LogsOrder
  interval : Int
  deriving Repr

def LogsRequest.plan (request : LogsRequest) (schema : Schema)
    (snapshot : FieldSnapshot) : Except ServiceError LogsPlan := do
  let condition ←
    (Query.toCondition schema snapshot request.query).mapError ServiceError.query
  let order ← LogsOrder.parse request.order request.orderBy
  let span ← request.range.span
  .ok ⟨condition, order, bucketInterval span⟩

def rowColumns : List String :=
  ["timestamp", "cluster", "namespace", "app", "pod_name", "container_name",
    "host", "fields_string", "fields_number", "log"]

def rowStatement (schema : Schema) (plan : LogsPlan) (limit : Nat)
    (ranges : List TimeRange) : String :=
  "SELECT " ++ ", ".intercalate rowColumns ++ " FROM " ++ schema.table ++
    " WHERE (" ++ rangesCondition ranges ++ ")" ++ joinedCondition plan.condition ++
    " ORDER BY " ++ plan.order.clause schema ++ " LIMIT " ++ limit.repr ++ " " ++
    settingsClause

def sortFields (fields : List String) : List String :=
  fields.mergeSort fun left right => !(right < left)

def collectDocument (columns : List String) (found : List Document × KeySet)
    (row : Row) : List Document × KeySet :=
  (assembleDocument columns row :: found.1,
    found.2.insertMany (dynamicKeys columns row))

def fetchDocuments (statement : String) : Work (List Document × KeySet) := do
  let stream ← Work.query statement
  let found ← Work.foldRows stream
    (fun found row => .ok (collectDocument stream.columns found row))
    ([], KeySet.ofList fixedColumns)
  pure (found.1.reverse, found.2)

/-- The page is asked for only if it can have rows. -/
def searchLogs (schema : Schema) (snapshot : FieldSnapshot) (request : LogsRequest) :
    Work LogsAnswer := do
  let plan ← Work.ofExcept (request.plan schema snapshot)
  let buckets ← fetchBuckets
    (histogramStatement schema request.range plan.interval plan.condition)
  let ranges :=
    neededRanges plan.order request.limit plan.interval request.range buckets
  let count := totalCount plan.order buckets
  if count = 0 ∨ request.limit = 0 ∨ ranges = [] then
    pure ⟨[], fixedColumns, count, buckets⟩
  else
    let (documents, fields) ←
      fetchDocuments (rowStatement schema plan request.limit ranges)
    pure ⟨documents, sortFields fields.toList, count, buckets⟩

def Bucket.toJson (bucket : Bucket) : Json :=
  Json.ofFields [("interval", .ofInt bucket.start), ("count", .ofInt bucket.count)]

def LogsAnswer.toJson (answer : LogsAnswer) : Json :=
  Json.ofFields
    [("documents", .array (answer.documents.map .object)),
      ("fields", .ofStrings answer.fields),
      ("count", .ofInt answer.count),
      ("buckets", .array (answer.buckets.map Bucket.toJson))]

end LogQuery
