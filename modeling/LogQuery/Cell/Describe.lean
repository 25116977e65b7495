import LogQuery.Cell.Basic
import LogQuery.Decimal.Notation
import LogQuery.Text.Visible

namespace LogQuery

/-! The diagnostic text of a cell, for messages about a cell of an unexpected
kind. -/

namespace Text

def hexText (code : Nat) : List Char :=
  Nat.toDigits 16 code

/-- A character inside a quoted diagnostic text. -/
def describeChar (character : Char) : List Char :=
  match character with
  | '"' => ['\\', '"']
  | '\\' => ['\\', '\\']
  | '\n' => ['\\', 'n']
  | '\r' => ['\\', 'r']
  | '\t' => ['\\', 't']
  | '\x00' => ['\\', '0']
  | _ =>
      if isVisible character then [character]
      else ['\\', 'u', '\x7b'] ++ hexText character.toNat ++ ['\x7d']

def describe (text : String) : String :=
  String.ofList ('"' :: text.toList.flatMap describeChar ++ ['"'])

end Text

namespace Cell

mutual
def describe : Cell → String
  | .null => "Null"
  | .boolean true => "Bool(true)"
  | .boolean false => "Bool(false)"
  | .integer value => "Int(" ++ toString value.toInt ++ ")"
  | .natural value => "UInt(" ++ toString value.toNat ++ ")"
  | .float value => "Float(" ++ Decimal.write Decimal.diagnosticLayout value ++ ")"
  | .text value => "String(" ++ Text.describe value ++ ")"
  | .timestamp instant => "Timestamp(" ++ instant.describe ++ ")"
  | .map entries => "Map([" ++ describeEntries entries ++ "])"
  | .array items => "Array([" ++ describeItems items ++ "])"

def describeItems : List Cell → String
  | [] => ""
  | [item] => item.describe
  | item :: rest => item.describe ++ ", " ++ describeItems rest

def describeEntry : String × Cell → String
  | (key, value) => "(" ++ Text.describe key ++ ", " ++ value.describe ++ ")"

def describeEntries : List (String × Cell) → String
  | [] => ""
  | [entry] => describeEntry entry
  | entry :: rest => describeEntry entry ++ ", " ++ describeEntries rest
end

end Cell

end LogQuery
