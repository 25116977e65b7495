import LogQuery.Query.Error
import LogQuery.Aggregation.Error
import LogQuery.Store.Error
import LogQuery.Config.Fault
import LogQuery.Cell.Describe

namespace LogQuery

/-! Every way in which a request, or the start of the service, can fail. -/

inductive BadRequest where
  | timeRangeTooLarge
  | invalidOrderField
  | invalidFieldType (text : String)
  | missingTimeStart
  | missingTimeEnd
  deriving DecidableEq, Repr

def BadRequest.message : BadRequest → String
  | .timeRangeTooLarge => "time range is too large"
  | .invalidOrderField => "invalid order by field"
  | .invalidFieldType text => "invalid field type `" ++ text ++ "`"
  | .missingTimeStart => "timeStart is required"
  | .missingTimeEnd => "timeEnd is required"

/-- A histogram row that is none. -/
inductive BucketFault where
  | interval (found : Cell)
  | count
  deriving Repr

def BucketFault.message : BucketFault → String
  | .interval found => "unexpected interval_data " ++ found.describe
  | .count => "unexpected count_data"

inductive ServiceError where
  | badRequest (reason : BadRequest)
  | invalidTimeRange
  | query (error : Query.QueryError)
  | plan (error : PlanError)
  | store (error : StoreError)
  | config (fault : ConfigFault)
  | refreshTimeout
  | bucket (fault : BucketFault)
  deriving Repr

namespace ServiceError

def kind : ServiceError → String
  | .badRequest _ => "bad_data"
  | .invalidTimeRange => "bad_data"
  | .query _ => "bad_query"
  | .plan _ => "bad_aggregation"
  | .store _ => "clickhouse_error"
  | .config _ => "config"
  | .refreshTimeout => "cancelled"
  | .bucket _ => "internal"

/-- The status of the answer to a request that failed. -/
def status : ServiceError → Nat
  | .badRequest _ => 400
  | .invalidTimeRange => 400
  | .query _ => 400
  | .plan _ => 400
  | .store _ => 502
  | .refreshTimeout => 504
  | .config _ => 500
  | .bucket _ => 500

def message : ServiceError → String
  | .badRequest reason => reason.message
  | .invalidTimeRange => "invalid time range"
  | .query error => error.message
  | .plan error => error.message
  | .store error => error.message
  | .config fault => fault.message
  | .refreshTimeout => "request cancelled: field cache refresh timed out"
  | .bucket fault => fault.message

def details : ServiceError → List String
  | .query error => error.details
  | _ => []

/-- The error as the body of an answer. Details are left out if there are
none. -/
def body (error : ServiceError) : Json :=
  Json.ofFields
    ([("error", .text error.message), ("errorType", .text error.kind)] ++
      match error.details with
      | [] => []
      | details => [("details", Json.ofStrings details)])

end ServiceError

end LogQuery
