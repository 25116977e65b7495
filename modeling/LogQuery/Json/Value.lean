import LogQuery.Decimal.Binary64

namespace LogQuery

/-! JSON documents. A number without fraction and exponent that fits in 64 bits,
signed or not, is kept as a whole number; every other number is a double. -/

inductive JsonNumber where
  | integer (value : Int)
  | double (value : Binary64)
  deriving DecidableEq, Repr

inductive Json where
  | null
  | boolean (value : Bool)
  | number (value : JsonNumber)
  | text (value : String)
  | array (items : List Json)
  | object (fields : List (String × Json))
  deriving Repr, Inhabited

namespace Json

def ofInt (value : Int) : Json :=
  .number (.integer value)

def ofNat (value : Nat) : Json :=
  .ofInt value

def ofStrings (values : List String) : Json :=
  .array (values.map .text)

/-! The fields of an object are sorted by key, and a key occurs once. Keys are
ordered by their bytes, which is the order of their characters. -/

def insertField (key : String) (value : α) :
    List (String × α) → List (String × α)
  | [] => [(key, value)]
  | (other, held) :: rest =>
      if key < other then (key, value) :: (other, held) :: rest
      else if key = other then (key, value) :: rest
      else (other, held) :: insertField key value rest

/-- The last of several fields with one key wins. -/
def ofFields (fields : List (String × Json)) : Json :=
  .object (fields.foldl (fun sorted field => insertField field.1 field.2 sorted) [])

def field? (key : String) : Json → Option Json
  | .object fields => (fields.find? (·.1 = key)).map (·.2)
  | _ => none

end Json

end LogQuery
