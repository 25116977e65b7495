namespace LogQuery.Text

/-! Bytes in base 64: three bytes make four digits, and a shorter end is filled up
with equals signs. -/

def base64Alphabet : List Char :=
  "ABCDEFGHIJKLMNOPQRSTUVWXYZabcdefghijklmnopqrstuvwxyz0123456789+/".toList

def base64Digit (value : Nat) : Char :=
  base64Alphabet.getD (value % 64) 'A'

def base64Group (first second third : UInt8) : Char × Char × Char × Char :=
  let value := (first.toNat * 256 + second.toNat) * 256 + third.toNat
  (base64Digit (value / (64 * 64 * 64)), base64Digit (value / (64 * 64)), base64Digit (value / 64),
    base64Digit value)

def base64 : List UInt8 → List Char
  | [] => []
  | [first] =>
      let (one, two, _, _) := base64Group first 0 0
      [one, two, '=', '=']
  | [first, second] =>
      let (one, two, three, _) := base64Group first second 0
      [one, two, three, '=']
  | first :: second :: third :: rest =>
      let (one, two, three, four) := base64Group first second third
      one :: two :: three :: four :: base64 rest

end LogQuery.Text
