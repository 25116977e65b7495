import LogQuery.Logs.Histogram
import LogQuery.Logs.Order

namespace LogQuery

/-! The rows of a page are looked for only in the buckets that can hold them. In
an order by time the buckets are walked from the end at which the page starts,
until those taken hold enough rows; in any other order every bucket with rows is
taken. -/

def walk (order : LogsOrder) (buckets : List Bucket) : List Bucket :=
  match order.timeDirection? with
  | some .descending => buckets.reverse
  | _ => buckets

def rowLimit (limit : Nat) : Int :=
  min (limit : Int) Cell.maxInteger

/-- `counted` is the number of rows in the buckets already walked. -/
def isNeeded (order : LogsOrder) (limit : Nat) (counted : Int) (bucket : Bucket) :
    Bool :=
  0 < bucket.count && (order.timeDirection?.isNone || counted < rowLimit limit)

def addCount (counted : Int) (bucket : Bucket) : Int :=
  saturate (counted + bucket.count)

def neededBuckets (order : LogsOrder) (limit : Nat) (counted : Int) :
    List Bucket → List Bucket
  | [] => []
  | bucket :: rest =>
      let later := neededBuckets order limit (addCount counted bucket) rest
      if isNeeded order limit counted bucket then bucket :: later else later

def neededRanges (order : LogsOrder) (limit : Nat) (interval : Int) (range : TimeRange)
    (buckets : List Bucket) : List TimeRange :=
  (neededBuckets order limit 0 (walk order buckets)).map fun bucket =>
    bucketTimes interval bucket.start range

def totalCount (order : LogsOrder) (buckets : List Bucket) : Int :=
  (walk order buckets).foldl addCount 0

def TimeRange.condition (range : TimeRange) : String :=
  "(timestamp >= " ++ unixTime range.first ++ " AND timestamp <= " ++
    unixTime range.last ++ ")"

def rangesCondition (ranges : List TimeRange) : String :=
  " OR ".intercalate (ranges.map TimeRange.condition)

end LogQuery
