import LogQuery.Aggregation.Run
import LogQuery.Fields.Refresh
import LogQuery.Http.MediaType
import LogQuery.Service.Parameters
import LogQuery.Service.Response

namespace LogQuery

/-! The service has three endpoints. A path that is none of them is not found, and
each allows only its own methods. What the service logs about a request changes no
answer and is left out, here as elsewhere. -/

inductive Endpoint where
  | logs
  | aggregation
  | fields
  deriving DecidableEq, Repr

namespace Endpoint

def ofPath? : String → Option Endpoint
  | "/api/logs" => some .logs
  | "/api/aggregation" => some .aggregation
  | "/api/fields" => some .fields
  | _ => none

/-- What can be asked for can also be asked for without its body. -/
def allows : Endpoint → String → Bool
  | .logs, method => method = "GET" || method = "HEAD"
  | .fields, method => method = "GET" || method = "HEAD"
  | .aggregation, method => method = "POST"

end Endpoint

/-! A request, and after how many chunks of the answer the client leaves, if it does
not read all of it. -/

structure Request where
  method : String
  target : String
  contentType : Option String
  body : String
  leavesAfter : Option Nat := none
  deriving Repr

namespace Request

/-- What follows the host, if a target names one. -/
def afterHost (target : List Char) : List Char :=
  match target, target.dropWhile (· ≠ ':') with
  | '/' :: _, _ => target
  | _, ':' :: '/' :: '/' :: rest =>
      rest.dropWhile fun character => character ≠ '/' && character ≠ '?'
  | _, _ => target

/-- The path and the query. -/
def pathAndQuery (request : Request) : List Char :=
  afterHost (request.target.toList.takeWhile (· ≠ '#'))

def path (request : Request) : String :=
  String.ofList (request.pathAndQuery.takeWhile (· ≠ '?'))

def form (request : Request) : Http.Form :=
  Http.Form.read ((request.pathAndQuery.dropWhile (· ≠ '?')).drop 1)

def hasJsonBody (request : Request) : Bool :=
  (request.contentType.bind Http.MediaType.parse?).any Http.MediaType.isJson

/-- A client that wants no body leaves as soon as it has the head. -/
def chunksRead? (request : Request) : Option Nat :=
  if request.method = "HEAD" then some 0 else request.leavesAfter

end Request

/-! The state that all requests share. -/

structure Service where
  schema : Schema
  cache : FieldCache
  defaultLimit : Nat

namespace Service

def badRequest : Nat := 400
def notFound : Nat := 404
def methodNotAllowed : Nat := 405
def tooLarge : Nat := 413
def unsupportedMediaType : Nat := 415
def unprocessable : Nat := 422

/-- The most bytes that a body may have. -/
def maxBodySize : Nat := 2 * 1024 * 1024

def bodyStatus : Json.BodyFault → Nat
  | .malformed => badRequest
  | .mismatch => unprocessable

def answerLogs (service : Service) (form : Http.Form) (leavesAt? : Option Nat) :
    Response × Session :=
  let session := service.cache.session
  match SearchParameters.read form with
  | .error _ => (.refused badRequest, session)
  | .ok parameters =>
      match parameters.request service.defaultLimit with
      | .error error => (.ofError error, session)
      | .ok request =>
          withKeepAlive LogsAnswer.toJson
            (searchLogs service.schema service.cache.snapshot request) leavesAt? session

def answerAggregation (service : Service) (request : Request) : Response × Session :=
  let session := service.cache.session
  if !request.hasJsonBody then (.refused unsupportedMediaType, session)
  else if maxBodySize < request.body.utf8ByteSize then (.refused tooLarge, session)
  else
    match AggregationRequest.read request.body with
    | .error fault => (.refused (bodyStatus fault), session)
    | .ok aggregation =>
        let (result, after) :=
          (runAggregation service.schema service.cache.snapshot aggregation).execute session
        (.ofResult ChartAnswer.toJson result, after)

def answerFields (service : Service) (form : Http.Form) : Response :=
  match FieldParameters.read form with
  | .error _ => .refused badRequest
  | .ok parameters =>
      .ofResult Json.ofStrings (parameters.names service.schema service.cache.snapshot)

/-- The answer to a client that may leave at some time. -/
def answerUntil (service : Service) (request : Request) (leavesAt? : Option Nat) :
    Response × Session :=
  match Endpoint.ofPath? request.path with
  | none => (.refused notFound, service.cache.session)
  | some endpoint =>
      if endpoint.allows request.method then
        match endpoint with
        | .logs => service.answerLogs request.form leavesAt?
        | .aggregation => service.answerAggregation request
        | .fields => (service.answerFields request.form, service.cache.session)
      else (.refused methodNotAllowed, service.cache.session)

def withSession (service : Service) (session : Session) : Service :=
  { service with cache := { service.cache with session } }

def answer (service : Service) (request : Request) : Response × Service :=
  match request.chunksRead? with
  | none =>
      let (response, after) := service.answerUntil request none
      (response, service.withSession after)
  | some chunks =>
      let leavesAt := chunkTime service.cache.clock chunks
      let (response, after) := service.answerUntil request leavesAt
      (response.firstChunks chunks, service.withSession after)

end Service

end LogQuery
