import LogQuery.Fields.Autocomplete
import LogQuery.Http.Form
import LogQuery.Logs.Search

namespace LogQuery

/-! The parameters of a search. Texts may be left out and are empty then. -/

structure SearchParameters where
  query : String
  order : String
  orderBy : String
  limit : Option Nat
  timeStart : Option Int
  timeEnd : Option Int
  deriving DecidableEq, Repr

namespace SearchParameters

def read (form : Http.Form) : Except Http.FormFault SearchParameters := do
  let query ← form.value? "query"
  let order ← form.value? "order"
  let orderBy ← form.value? "orderBy"
  let limit ← form.number? "limit" Text.readNatural64
  let timeStart ← form.number? "timeStart" Text.readInteger64
  let timeEnd ← form.number? "timeEnd" Text.readInteger64
  .ok
    { query := query.getD ""
      order := order.getD ""
      orderBy := orderBy.getD ""
      limit, timeStart, timeEnd }

/-- A limit that asks for too much is lowered. -/
def clampLimit (defaultLimit : Nat) : Option Nat → Nat
  | some limit => min limit maxLimit
  | none => defaultLimit

def request (parameters : SearchParameters) (defaultLimit : Nat) :
    Except ServiceError LogsRequest :=
  match parameters.timeStart, parameters.timeEnd with
  | none, _ => .error (.badRequest .missingTimeStart)
  | some _, none => .error (.badRequest .missingTimeEnd)
  | some first, some last =>
      .ok
        { query := parameters.query
          order := parameters.order
          orderBy := parameters.orderBy
          limit := clampLimit defaultLimit parameters.limit
          range := ⟨first, last⟩ }

end SearchParameters

/-! The parameters of a look-up of field names. -/

structure FieldParameters where
  filter : String
  fieldType : Option String
  deriving DecidableEq, Repr

namespace FieldParameters

def read (form : Http.Form) : Except Http.FormFault FieldParameters := do
  let filter ← form.value? "filter"
  let fieldType ← form.value? "fieldType"
  .ok { filter := filter.getD "", fieldType }

def names (parameters : FieldParameters) (schema : Schema) (snapshot : FieldSnapshot) :
    Except ServiceError (List String) := do
  let type ← FieldType.parse parameters.fieldType
  .ok (findFields schema snapshot parameters.filter type)

end FieldParameters

end LogQuery
