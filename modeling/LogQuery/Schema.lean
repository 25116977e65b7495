import LogQuery.Fields.Snapshot

namespace LogQuery

/-! The logs table has eight fixed columns, two map columns for dynamic fields,
and the columns that the operator chose to materialize. -/

def fixedColumns : List String :=
  ["timestamp", "cluster", "namespace", "app", "pod_name", "container_name",
    "host", "log"]

/-! The type of a dynamic field is known only from what it is compared with. -/

inductive TypeContext where
  | string
  | number
  | unknown
  deriving DecidableEq, Repr

inductive SortDirection where
  | ascending
  | descending
  deriving DecidableEq, Repr

def SortDirection.keyword : SortDirection → String
  | .ascending => "ASC"
  | .descending => "DESC"

/-- The reference that reads one key of a map column. -/
def FieldKind.reference (kind : FieldKind) (field : String) : String :=
  kind.mapColumn ++ "['" ++ field ++ "']"

structure Schema where
  database : String
  materializedColumns : List String
  deriving Repr

namespace Schema

def table (schema : Schema) : String :=
  schema.database ++ ".logs"

def isColumn (schema : Schema) (name : String) : Bool :=
  fixedColumns.contains name || schema.materializedColumns.contains name

/-! A column is read directly and hides map keys of the same name. Any other
field is read from the map that the context calls for; without a context the
number map is used only for a key known to hold numbers. -/

def resolve (schema : Schema) (snapshot : FieldSnapshot) (context : TypeContext)
    (field : String) : String :=
  if schema.isColumn field then field
  else
    match context with
    | .number => FieldKind.number.reference field
    | .string => FieldKind.string.reference field
    | .unknown =>
        if snapshot.hasNumber field then FieldKind.number.reference field
        else FieldKind.string.reference field

def containsKey (kind : FieldKind) (field : String) : String :=
  "mapContains(" ++ kind.mapColumn ++ ", '" ++ field ++ "') = 1"

def existsClause (schema : Schema) (field : String) : String :=
  if schema.isColumn field then field ++ " IS NOT NULL"
  else
    "(" ++ containsKey .string field ++ " OR " ++ containsKey .number field ++ ")"

/-! A dynamic field may have values of either kind, so ordering by it orders by
both maps. -/

def orderClause (schema : Schema) (field : String) (direction : SortDirection) :
    String :=
  if schema.isColumn field then field ++ " " ++ direction.keyword
  else
    FieldKind.string.reference field ++ " " ++ direction.keyword ++ ", " ++
      FieldKind.number.reference field ++ " " ++ direction.keyword

end Schema

end LogQuery
