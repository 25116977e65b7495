import LogQuery.Error
import LogQuery.Schema
import LogQuery.Text.Blank

namespace LogQuery

/-! The order of the documents. Without a field or a direction the newest come
first; any direction but the ascending one is the descending one. -/

structure LogsOrder where
  field : String
  direction : SortDirection
  deriving DecidableEq, Repr

namespace LogsOrder

def choose (direction field : String) : LogsOrder :=
  if direction = "" ∨ field = "" then ⟨"timestamp", .descending⟩
  else if direction = "ascending" then ⟨field, .ascending⟩
  else ⟨field, .descending⟩

/-- The field is written into the statement and must be an identifier. -/
def parse (direction field : String) : Except ServiceError LogsOrder :=
  let order := choose direction (Text.trim field)
  if Query.isIdentifier order.field then .ok order
  else .error (.badRequest .invalidOrderField)

def clause (schema : Schema) (order : LogsOrder) : String :=
  schema.orderClause order.field order.direction

/-- The direction in time, if the order is by time. -/
def timeDirection? (order : LogsOrder) : Option SortDirection :=
  if order.field = "timestamp" then some order.direction else none

end LogsOrder

end LogQuery
