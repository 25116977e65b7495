import LogQuery.Store.Session
import LogQuery.Schema

namespace LogQuery

/-! A document is a row as one JSON object. Columns are its fields, and so are the
entries of the two map columns. Where names meet, a text entry wins over a number
entry and both win over a column. -/

abbrev Document := List (String × Json)

/-- The entries of the last cell of a column that holds a map. -/
def entriesOf (column : String) (cells : List (String × Cell)) :
    List (String × Cell) :=
  cells.foldl (fun entries named =>
    if named.1 = column then named.2.map?.getD entries else entries) []

def isMapColumn (column : String) : Bool :=
  column = FieldKind.string.mapColumn || column = FieldKind.number.mapColumn

def plainCells (cells : List (String × Cell)) : List (String × Cell) :=
  cells.filter fun named => !isMapColumn named.1

/-- The entries of both maps, in the order in which they are written. -/
def dynamicEntries (cells : List (String × Cell)) : List (String × Cell) :=
  entriesOf FieldKind.number.mapColumn cells ++
    entriesOf FieldKind.string.mapColumn cells

def writeField (document : Document) (named : String × Cell) : Document :=
  Json.insertField named.1 named.2.toJson document

def assembleDocument (columns : List String) (row : Row) : Document :=
  let cells := columns.zip row
  (plainCells cells ++ dynamicEntries cells).foldl writeField []

/-- The keys that a row adds to the fields of the answer. -/
def dynamicKeys (columns : List String) (row : Row) : List String :=
  (dynamicEntries (columns.zip row)).map (·.1)

end LogQuery
