import LogQuery.Json.Value
import LogQuery.Time.Timestamp

namespace LogQuery

open Time (Instant)

/-! A cell of a result row. Entries of a map keep the order in which the store
gave them. -/

inductive Cell where
  | null
  | boolean (value : Bool)
  | integer (value : Int64)
  | natural (value : UInt64)
  | float (value : Binary64)
  | text (value : String)
  | timestamp (instant : Instant)
  | map (entries : List (String × Cell))
  | array (items : List Cell)
  deriving Repr, Inhabited

namespace Cell

/-! ## Views -/

def text? : Cell → Option String
  | .text value => some value
  | _ => none

def timestamp? : Cell → Option Instant
  | .timestamp instant => some instant
  | _ => none

def map? : Cell → Option (List (String × Cell))
  | .map entries => some entries
  | _ => none

def float? : Cell → Option Binary64
  | .integer value => some (.ofInt value.toInt)
  | .natural value => some (.ofNat value.toNat)
  | .float value => some value
  | _ => none

def minInteger : Int := -(Nat.pow 2 63 : Nat)

def maxInteger : Int := (Nat.pow 2 63 : Nat) - 1

/-- A float counts as its whole part, kept within 64 bits. -/
def integer? : Cell → Option Int
  | .integer value => some value.toInt
  | .natural value =>
      if (value.toNat : Int) ≤ maxInteger then some value.toNat else none
  | .float value =>
      if value.isFinite then some (value.truncate minInteger maxInteger) else none
  | _ => none

def isNonFinite : Cell → Bool
  | .float value => !value.isFinite
  | _ => false

/-! ## JSON

JSON has no number for a float that is not finite; it becomes null. -/

mutual
def toJson : Cell → Json
  | .null => .null
  | .boolean value => .boolean value
  | .integer value => .ofInt value.toInt
  | .natural value => .ofNat value.toNat
  | .float value => if value.isFinite then .number (.double value) else .null
  | .text value => .text value
  | .timestamp instant => .text instant.write
  | .map entries => Json.ofFields (entriesToJson entries)
  | .array items => .array (itemsToJson items)

def itemsToJson : List Cell → List Json
  | [] => []
  | item :: rest => item.toJson :: itemsToJson rest

def entriesToJson : List (String × Cell) → List (String × Json)
  | [] => []
  | (key, value) :: rest => (key, value.toJson) :: entriesToJson rest
end

def ofNumber : JsonNumber → Cell
  | .integer value =>
      if value ≤ maxInteger then .integer (.ofInt value) else .natural (.ofNat value.toNat)
  | .double value => .float value

mutual
def ofJson : Json → Cell
  | .null => .null
  | .boolean value => .boolean value
  | .number value => ofNumber value
  | .text value => .text value
  | .array items => .array (itemsOfJson items)
  | .object fields => .map (entriesOfJson fields)

def itemsOfJson : List Json → List Cell
  | [] => []
  | item :: rest => ofJson item :: itemsOfJson rest

def entriesOfJson : List (String × Json) → List (String × Cell)
  | [] => []
  | (key, value) :: rest => (key, ofJson value) :: entriesOfJson rest
end

end Cell

end LogQuery
