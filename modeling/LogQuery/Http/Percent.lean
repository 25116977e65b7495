import LogQuery.Text.Hexadecimal
import LogQuery.Text.Utf8

namespace LogQuery.Http

/-! Any byte may be written as a percent sign and two hexadecimal digits. A percent
sign that no two digits follow stands for itself. -/

def percentEncode (byte : UInt8) : List Char :=
  ['%', Text.upperHexDigit (byte.toNat / 16), Text.upperHexDigit byte.toNat]

def hexByte? (high low : UInt8) : Option UInt8 := do
  let high ← Text.hexValue? (Char.ofNat high.toNat)
  let low ← Text.hexValue? (Char.ofNat low.toNat)
  some (UInt8.ofNat (16 * high + low))

def percentDecode : List UInt8 → List UInt8
  | 0x25 :: high :: low :: rest =>
      match hexByte? high low with
      | some byte => byte :: percentDecode rest
      | none => 0x25 :: percentDecode (high :: low :: rest)
  | byte :: rest => byte :: percentDecode rest
  | [] => []

end LogQuery.Http
