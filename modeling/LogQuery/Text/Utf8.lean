namespace LogQuery.Text

/-! Text as bytes. Decoding never fails: bytes that are no part of a character
become replacement characters, one for each longest run that starts a character
and one for each other byte. -/

def utf8Bytes (characters : List Char) : List UInt8 :=
  characters.flatMap String.utf8EncodeChar

def replacement : Char := '\uFFFD'

/-- A character of which some bytes are missing. The next byte must lie between
`low` and `high`, and later ones may be any continuation byte. -/
structure PartialChar where
  value : Nat
  missing : Nat
  low : Nat := 0x80
  high : Nat := 0xBF

/-- What a byte that starts a character gives: the character, if the byte is all
of it, or the rest to wait for. -/
def startChar (byte : Nat) : List Char × Option PartialChar :=
  if byte < 0x80 then ([Char.ofNat byte], none)
  else if byte < 0xC2 then ([replacement], none)
  else if byte < 0xE0 then ([], some { value := byte % 0x20, missing := 1 })
  else if byte < 0xF0 then
    ([], some
      { value := byte % 0x10, missing := 2
        low := if byte = 0xE0 then 0xA0 else 0x80
        high := if byte = 0xED then 0x9F else 0xBF })
  else if byte < 0xF5 then
    ([], some
      { value := byte % 0x08, missing := 3
        low := if byte = 0xF0 then 0x90 else 0x80
        high := if byte = 0xF4 then 0x8F else 0xBF })
  else ([replacement], none)

def PartialChar.extend (part : PartialChar) (byte : Nat) :
    List Char × Option PartialChar :=
  let value := 64 * part.value + byte % 0x40
  if part.missing ≤ 1 then ([Char.ofNat value], none)
  else ([], some { value, missing := part.missing - 1 })

def decodeByte : Option PartialChar → Nat → List Char × Option PartialChar
  | none, byte => startChar byte
  | some part, byte =>
      if part.low ≤ byte ∧ byte ≤ part.high then part.extend byte
      else
        let (characters, next) := startChar byte
        (replacement :: characters, next)

def decodeBytes : Option PartialChar → List UInt8 → List Char
  | none, [] => []
  | some _, [] => [replacement]
  | part, byte :: rest =>
      let (characters, next) := decodeByte part byte.toNat
      characters ++ decodeBytes next rest

def utf8Decode (bytes : List UInt8) : String :=
  String.ofList (decodeBytes none bytes)

end LogQuery.Text
