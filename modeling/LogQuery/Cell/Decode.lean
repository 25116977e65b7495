import LogQuery.Cell.Basic
import LogQuery.Cell.Type
import LogQuery.Json.Printer
import LogQuery.Decimal.Reader

namespace LogQuery

open Time (Instant)

/-! Why a JSON value is no cell of a type. -/

inductive CellFault where
  | keylessMap
  | notArray (found : Json)
  | notObject (found : Json)
  | notTimestamp (found : Json)
  | notFloat (found : Json)
  | notInteger (found : Json)
  | notBoolean (found : Json)
  | timestampText (text : String)
  | timestampNumber (number : JsonNumber)
  | floatText (text : String) (fault : Decimal.FloatFault)
  | integerText (text : String) (fault : Text.IntegerFault)
  deriving Repr

def CellFault.reason : CellFault → String
  | .keylessMap => "map type needs key and value types"
  | .notArray found => "expected array, got " ++ found.write
  | .notObject found => "expected object, got " ++ found.write
  | .notTimestamp found => "expected timestamp, got " ++ found.write
  | .notFloat found => "expected float, got " ++ found.write
  | .notInteger found => "expected integer, got " ++ found.write
  | .notBoolean found => "expected bool, got " ++ found.write
  | .timestampText text => "invalid timestamp `" ++ text ++ "`"
  | .timestampNumber number => "invalid timestamp " ++ number.write
  | .floatText text fault => "invalid float `" ++ text ++ "`: " ++ fault.message
  | .integerText text fault => "invalid integer `" ++ text ++ "`: " ++ fault.message

structure CellError where
  type : String
  fault : CellFault
  deriving Repr

def CellError.message (error : CellError) : String :=
  "cannot decode " ++ error.type ++ ": " ++ error.fault.reason

namespace Cell

/-! ## Leaves

64-bit integers and floats may be quoted. -/

def decodeTimestamp : Json → Except CellFault Cell
  | .text quoted =>
      match Instant.read quoted with
      | some instant => .ok (.timestamp instant)
      | none => .error (.timestampText quoted)
  | .number (.integer value) =>
      match Instant.ofSeconds? value with
      | some instant => .ok (.timestamp instant)
      | none => .error (.timestampNumber (.integer value))
  | .number number => .error (.timestampNumber number)
  | found => .error (.notTimestamp found)

def decodeFloatText (text : String) : Except CellFault Cell :=
  match Decimal.read text with
  | .ok value => .ok (.float value)
  | .error fault => .error (.floatText text fault)

/-- A null float is one that the store could not write as a number. -/
def decodeFloat : Json → Except CellFault Cell
  | .number (.integer value) => .ok (.float (.ofInt value))
  | .number (.double value) => .ok (.float value)
  | .text quoted => decodeFloatText quoted
  | .null => .ok (.float .nan)
  | found => .error (.notFloat found)

def decodeNaturalText (text : String) : Except CellFault Cell :=
  match Text.readNatural64 text with
  | .ok value => .ok (.natural (.ofNat value))
  | .error fault => .error (.integerText text fault)

def decodeIntegerText (text : String) : Except CellFault Cell :=
  match Text.readInteger64 text with
  | .ok value => .ok (.integer (.ofInt value))
  | .error fault => .error (.integerText text fault)

/-- The text of an integer cell, quoted or not. A number with a fraction or an
exponent keeps it in its text and is refused by it. -/
def integerSource : Json → Except CellFault String
  | .number number => .ok number.write
  | .text quoted => .ok quoted
  | found => .error (.notInteger found)

def decodeBoolean : Json → Except CellFault Cell
  | .boolean value => .ok (.boolean value)
  | found => .error (.notBoolean found)

def decodeLeaf : LeafKind → Json → Except CellFault Cell
  | .timestamp, json => decodeTimestamp json
  | .float, json => decodeFloat json
  | .natural, json => integerSource json >>= decodeNaturalText
  | .integer, json => integerSource json >>= decodeIntegerText
  | .boolean, json => decodeBoolean json
  | .other, json => .ok (ofJson json)

/-! ## All types

The keys of a map are texts whatever type is announced for them. -/

def decodeItems (decode : Json → Except CellError Cell) :
    List Json → Except CellError (List Cell)
  | [] => .ok []
  | item :: rest => do
      let cell ← decode item
      let cells ← decodeItems decode rest
      .ok (cell :: cells)

def decodeEntries (decode : Json → Except CellError Cell) :
    List (String × Json) → Except CellError (List (String × Cell))
  | [] => .ok []
  | (key, value) :: rest => do
      let cell ← decode value
      let entries ← decodeEntries decode rest
      .ok ((key, cell) :: entries)

def decodeAs : CellType → Json → Except CellError Cell
  | .nullable _, .null => .ok .null
  | .nullable inner, json => decodeAs inner json
  | .lowCardinality inner, json => decodeAs inner json
  | .map _ value, .object fields =>
      (decodeEntries (decodeAs value) fields).map .map
  | .map type _, found => .error ⟨type, .notObject found⟩
  | .keylessMap type, _ => .error ⟨type, .keylessMap⟩
  | .array _ item, .array items => (decodeItems (decodeAs item) items).map .array
  | .array type _, found => .error ⟨type, .notArray found⟩
  | .leaf type kind, json => (decodeLeaf kind json).mapError (⟨type, ·⟩)

/-- Decodes a JSON value by the text of its type. -/
def decode (type : String) (json : Json) : Except CellError Cell :=
  decodeAs (CellType.ofText type) json

end Cell

end LogQuery
