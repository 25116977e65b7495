namespace LogQuery.Text

/-! Hexadecimal digits, read in either case. -/

def hexValue? (character : Char) : Option Nat :=
  if character.isDigit then some (character.toNat - '0'.toNat)
  else if 'a' ≤ character ∧ character ≤ 'f' then
    some (character.toNat - 'a'.toNat + 10)
  else if 'A' ≤ character ∧ character ≤ 'F' then
    some (character.toNat - 'A'.toNat + 10)
  else none

def isHexDigit (character : Char) : Bool :=
  (hexValue? character).isSome

/-- The last digit of a number. -/
def hexDigit (value : Nat) : Char :=
  (Nat.toDigits 16 (value % 16)).headD '0'

def upperHexDigit (value : Nat) : Char :=
  (hexDigit value).toUpper

/-- The value of hexadecimal digits, whatever their number. -/
def hexDigitsValue (digits : List Char) : Nat :=
  digits.foldl (fun value digit => 16 * value + (hexValue? digit).getD 0) 0

end LogQuery.Text
