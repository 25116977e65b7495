import LogQuery.Config.Options
import LogQuery.Http.Form
import LogQuery.Http.Url
import LogQuery.Store.RowReader
import LogQuery.Text.Base64

namespace LogQuery

/-! A statement is sent as the body of a request, and the answer is a result, line
by line, or a status that says that there is none. Which connection carries a
request, how long it may idle and when it is renewed changes neither and is left
out. -/

structure StatementRequest where
  target : String
  authorization : String
  body : String
  deriving DecidableEq, Repr

def StatementRequest.method : String := "POST"

def StatementRequest.contentType : String := "text/plain; charset=utf-8"

/-- What the server sends back. A truncated answer breaks off after its last
chunk. -/
structure ServerAnswer where
  status : Nat
  chunks : List (List UInt8)
  truncated : Bool
  deriving Repr

namespace ServerAnswer

def isSuccess (answer : ServerAnswer) : Bool :=
  200 ≤ answer.status && answer.status < 300

/-- Two statuses never come with a body. -/
def hasBody (answer : ServerAnswer) : Bool :=
  answer.status ≠ 204 && answer.status ≠ 304

def body (answer : ServerAnswer) : ResultBody :=
  if answer.hasBody then { chunks := answer.chunks, broken := answer.truncated }
  else { chunks := [], broken := false }

def unavailable : String := "<unavailable>"

def errorText (answer : ServerAnswer) : String :=
  if answer.body.broken then unavailable
  else Text.trim (Text.utf8Decode answer.body.chunks.flatten)

def result (answer : ServerAnswer) : Except StoreError RowReader :=
  if answer.isSuccess then RowReader.openBody answer.body
  else .error (.status answer.status answer.errorText)

def reply (answer : ServerAnswer) : Reply where
  wait := 0
  outcome := answer.result.map RowReader.toStream

end ServerAnswer

structure StoreClient where
  config : Config.StoreConfig
  endpoint : Http.Url

namespace StoreClient

def ofConfig (config : Config.StoreConfig) : Except ServiceError StoreClient :=
  match Http.Url.parse config.address with
  | .ok endpoint => .ok ⟨config, endpoint⟩
  | .error fault => .error (.config (.invalidAddress config.address fault))

/-- Statements can be sent only to a host, and only in the schemes of the web. -/
def canSend (client : StoreClient) : Bool :=
  ["http", "https"].contains client.endpoint.scheme && client.endpoint.host.isSome

def outputFormat : String := "JSONCompactEachRowWithNamesAndTypes"

/-- The fixed parameters come first. A setting of the same name does not replace
them. -/
def parameters (client : StoreClient) : Http.Form :=
  [("database", client.config.database), ("default_format", outputFormat),
    ("date_time_output_format", "iso"), ("output_format_json_quote_denormals", "1")] ++
    client.config.settings

/-- Parameters are added to those that the address has. -/
def target (client : StoreClient) : String :=
  let parameters := client.parameters.write
  client.endpoint.path ++ "?" ++
    match client.endpoint.query with
    | none => parameters
    | some "" => parameters
    | some query => query ++ "&" ++ parameters

def authorization (client : StoreClient) : String :=
  let credentials := client.config.username ++ ":" ++ client.config.password
  "Basic " ++ String.ofList (Text.base64 (Text.utf8Bytes credentials.toList))

def request (client : StoreClient) (sql : String) : StatementRequest :=
  ⟨client.target, client.authorization, sql⟩

/-- A session with a server that gives these answers and then is gone. -/
def session (client : StoreClient) (answers : List ServerAnswer) : Session :=
  Session.start (if client.canSend then answers.map ServerAnswer.reply else []) .transport

end StoreClient

def versionStatement : String := "SELECT version() AS version"

/-- The version stands in the first cell of the first row. -/
def RowReader.version (reader : RowReader) : Except StoreError String :=
  match reader.nextRow.1 with
  | none => .error (.response .missingVersion)
  | some (.error error) => .error error
  | some (.ok []) => .error (.response (.missingCell "version" 0))
  | some (.ok (cell :: _)) =>
      match cell.text? with
      | some version => .ok version
      | none => .error (.response .versionNotText)

end LogQuery
