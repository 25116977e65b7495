import LogQuery.Fields.KeySet

namespace LogQuery

/-! Dynamic fields of a log row live in two map columns, one with text values
and one with numbers. -/

inductive FieldKind where
  | string
  | number
  deriving DecidableEq, Repr

def FieldKind.mapColumn : FieldKind → String
  | .string => "fields_string"
  | .number => "fields_number"

/-! A snapshot holds the keys known for both kinds. It only grows: merging adds
the keys not known yet and leaves the old snapshot as it is. The empty text is
never a key. -/

structure FieldSnapshot where
  strings : KeySet := .empty
  numbers : KeySet := .empty
  deriving Inhabited

namespace FieldSnapshot

def empty : FieldSnapshot := {}

def merge (snapshot : FieldSnapshot) (strings numbers : List String) :
    FieldSnapshot where
  strings := snapshot.strings.insertMany (strings.filter (· ≠ ""))
  numbers := snapshot.numbers.insertMany (numbers.filter (· ≠ ""))

def ofLists (strings numbers : List String) : FieldSnapshot :=
  empty.merge strings numbers

def keys (snapshot : FieldSnapshot) : FieldKind → KeySet
  | .string => snapshot.strings
  | .number => snapshot.numbers

def hasString (snapshot : FieldSnapshot) (key : String) : Bool :=
  snapshot.strings.contains key

def hasNumber (snapshot : FieldSnapshot) (key : String) : Bool :=
  snapshot.numbers.contains key

theorem hasString_iff_mem {snapshot : FieldSnapshot} {key : String} :
    snapshot.hasString key = true ↔ key ∈ snapshot.strings.toList :=
  KeySet.contains_iff_mem_toList

theorem hasNumber_iff_mem {snapshot : FieldSnapshot} {key : String} :
    snapshot.hasNumber key = true ↔ key ∈ snapshot.numbers.toList :=
  KeySet.contains_iff_mem_toList

end FieldSnapshot

end LogQuery
