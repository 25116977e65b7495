import LogQuery.Json.Value
import LogQuery.Text.Hexadecimal
import LogQuery.Decimal.Notation

namespace LogQuery

/-! A document is written without any space. Inside a string only the quote, the
backslash and control characters are escaped. -/

def JsonNumber.write : JsonNumber → String
  | .integer value => toString value
  | .double value => Decimal.write Decimal.jsonLayout value

namespace Json

def escapeChar (character : Char) : List Char :=
  match character with
  | '"' => ['\\', '"']
  | '\\' => ['\\', '\\']
  | '\x08' => ['\\', 'b']
  | '\x0c' => ['\\', 'f']
  | '\n' => ['\\', 'n']
  | '\r' => ['\\', 'r']
  | '\t' => ['\\', 't']
  | _ =>
      let code := character.toNat
      if code < 0x20 then
        ['\\', 'u', '0', '0', Text.hexDigit (code / 16), Text.hexDigit code]
      else [character]

def quote (text : String) : String :=
  String.ofList ('"' :: text.toList.flatMap escapeChar ++ ['"'])

mutual
def write : Json → String
  | .null => "null"
  | .boolean true => "true"
  | .boolean false => "false"
  | .number value => value.write
  | .text value => quote value
  | .array items => "[" ++ writeItems items ++ "]"
  | .object fields => "\x7b" ++ writeFields fields ++ "\x7d"

def writeItems : List Json → String
  | [] => ""
  | [item] => write item
  | item :: rest => write item ++ "," ++ writeItems rest

def writeFields : List (String × Json) → String
  | [] => ""
  | [(key, value)] => quote key ++ ":" ++ write value
  | (key, value) :: rest =>
      quote key ++ ":" ++ write value ++ "," ++ writeFields rest
end

end Json

end LogQuery
