import LogQuery.Time.Range
import LogQuery.Store.Session
import LogQuery.Schema

namespace LogQuery

/-! The histogram of a search counts the matching rows in some thirty buckets of
equal width. -/

structure Bucket where
  start : Int
  count : Int
  deriving DecidableEq, Repr

def bucketCount : Int := 30

def bucketInterval (span : Int) : Int :=
  max (span.tdiv bucketCount) 1

/-- A bucket cut to the requested range. -/
def bucketTimes (interval start : Int) (range : TimeRange) : TimeRange :=
  let stop := saturate (start + interval)
  if start < range.first then ⟨range.first, stop⟩
  else if range.last < stop then ⟨start, range.last⟩
  else ⟨start, stop⟩

/-- The condition of the user, joined to a condition of the statement. -/
def joinedCondition (condition : String) : String :=
  if condition = "" then "" else " AND (" ++ condition ++ ")"

def intervalStart (time : String) (interval : Int) : String :=
  "toStartOfInterval(" ++ time ++ ", INTERVAL " ++ toString interval ++ " second)"

def histogramStatement (schema : Schema) (range : TimeRange) (interval : Int)
    (condition : String) : String :=
  "SELECT " ++ intervalStart "timestamp" interval ++
    " AS interval_data, count(*) AS count_data FROM " ++ schema.table ++
    " WHERE timestamp >= " ++ unixTime range.first ++ " AND timestamp <= " ++
    unixTime range.last ++ joinedCondition condition ++
    " GROUP BY interval_data ORDER BY interval_data WITH FILL FROM " ++
    intervalStart (unixTime range.first) interval ++ " TO " ++
    intervalStart (unixTime range.last) interval ++ " STEP " ++ toString interval ++
    " " ++ settingsClause

/-- The start of a bucket is a timestamp or a count of seconds. -/
def bucketStart? (cell : Cell) : Option Int :=
  match cell.timestamp? with
  | some instant => some instant.seconds
  | none => cell.integer?

def bucketOfRow (row : Row) : Except ServiceError Bucket := do
  let startCell ← cellAt row 0 "interval_data"
  match bucketStart? startCell with
  | none => .error (.bucket (.interval startCell))
  | some start =>
      let countCell ← cellAt row 1 "count_data"
      match countCell.integer? with
      | none => .error (.bucket .count)
      | some count => .ok ⟨start, count⟩

/-- Buckets of one start keep the order in which they came. -/
def sortBuckets (buckets : List Bucket) : List Bucket :=
  buckets.mergeSort fun left right => left.start ≤ right.start

def fetchBuckets (statement : String) : Work (List Bucket) := do
  let stream ← Work.query statement
  let reversed ← Work.foldRows stream
    (fun buckets row => (bucketOfRow row).map (· :: buckets)) []
  pure (sortBuckets reversed.reverse)

end LogQuery
