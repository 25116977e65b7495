import LogQuery.Cell.Decode

namespace LogQuery

/-! What can be wrong with an answer of the store. -/

inductive ResponseFault where
  | missingNames
  | missingTypes
  | headerText (line : String)
  | headerLength (columns types : Nat)
  | rowText (line : String)
  | rowLength (values columns : Nat)
  | cell (error : CellError)
  | missingCell (column : String) (position : Nat)
  | missingVersion
  | versionNotText
  | reported (text : String)
  deriving Repr

def ResponseFault.message : ResponseFault → String
  | .missingNames => "response is missing column names"
  | .missingTypes => "response is missing column types"
  | .headerText line => "invalid header `" ++ line ++ "`"
  | .headerLength columns types =>
      "response announced " ++ columns.repr ++ " columns but " ++ types.repr ++ " types"
  | .rowText line => "invalid row `" ++ line ++ "`"
  | .rowLength values columns =>
      "row has " ++ values.repr ++ " values but " ++ columns.repr ++
        " columns were announced"
  | .cell error => error.message
  | .missingCell column position =>
      "row is missing column `" ++ column ++ "` at position " ++ position.repr
  | .missingVersion => "missing version in response"
  | .versionNotText => "version is not a string"
  | .reported text => text

/-! Why a statement has no result: the exchange broke off, the store refused the
statement, its answer could not be read, or no connection can be had any
more. -/

inductive StoreError where
  | transport
  | status (code : Nat) (body : String)
  | response (fault : ResponseFault)
  | closed
  deriving Repr

def StoreError.message : StoreError → String
  | .transport => "clickhouse request failed"
  | .status code body => "clickhouse returned " ++ code.repr ++ ": " ++ body
  | .response fault => "invalid clickhouse response: " ++ fault.message
  | .closed => "clickhouse connection pool is closed"

end LogQuery
