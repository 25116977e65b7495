import LogQuery.Schema
import LogQuery.Error

namespace LogQuery

/-! Which names are offered while a field is typed. -/

inductive FieldType where
  | string
  | number
  | all
  deriving DecidableEq, Repr

def FieldType.parse (text : Option String) : Except ServiceError FieldType :=
  match Text.trim (text.getD "") with
  | "" => .ok .all
  | "string" => .ok .string
  | "number" => .ok .number
  | other => .error (.badRequest (.invalidFieldType other))

/-- Whether a text occurs in another. -/
def containsText (pattern : List Char) : List Char → Bool
  | [] => pattern.isEmpty
  | first :: rest =>
      pattern.isPrefixOf (first :: rest) || containsText pattern rest

/-! Text fields include the columns, after the keys. -/

def stringNames (schema : Schema) (snapshot : FieldSnapshot) : List String :=
  snapshot.strings.toList ++ fixedColumns ++ schema.materializedColumns

def numberNames (snapshot : FieldSnapshot) : List String :=
  snapshot.numbers.toList

def namesOfType (schema : Schema) (snapshot : FieldSnapshot) : FieldType → List String
  | .string => stringNames schema snapshot
  | .number => numberNames snapshot
  | .all => stringNames schema snapshot ++ numberNames snapshot

/-- The names that contain the filter, each once. -/
def findFields (schema : Schema) (snapshot : FieldSnapshot) (filter : String)
    (type : FieldType) : List String :=
  (KeySet.ofList ((namesOfType schema snapshot type).filter fun name =>
    containsText filter.toList name.toList)).toList

end LogQuery
