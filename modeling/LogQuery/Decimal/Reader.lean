import LogQuery.Decimal.Binary64
import LogQuery.Text.Integer

namespace LogQuery.Decimal

/-! The number nearest to a decimal. Decimals beyond the reach of every number
are settled by the position of their first digit, so no huge power of ten is
ever computed. -/

def ofDecimal (negative : Bool) (digits : Nat) (exponent : Int) : Binary64 :=
  let leading := Text.digitCount digits + exponent
  if digits = 0 then .zero negative
  else if 310 < leading then .infinity negative
  else if leading < -330 then .zero negative
  else
    match exponent with
    | .ofNat power => .ofQuotient negative (digits * Nat.pow 10 power) 1
    | .negSucc power => .ofQuotient negative digits (Nat.pow 10 (power + 1))

/-! The text of a number: a sign, then either a word for a number that is not
finite, in any letter case, or digits with at most one point among them and
perhaps an exponent. One digit must be there; the point may come first or
last. -/

inductive FloatFault where
  | empty
  | invalid
  deriving DecidableEq, Repr

def FloatFault.message : FloatFault → String
  | .empty => "cannot parse float from empty string"
  | .invalid => "invalid float literal"

def splitSign : List Char → Bool × List Char
  | '+' :: rest => (false, rest)
  | '-' :: rest => (true, rest)
  | rest => (false, rest)

def readExponent : List Char → Option Int
  | [] => some 0
  | mark :: rest =>
      if mark = 'e' ∨ mark = 'E' then
        let (negative, digits) := splitSign rest
        if digits ≠ [] ∧ digits.all Char.isDigit then
          let value : Int := Text.digitsValue digits
          some (if negative then -value else value)
        else none
      else none

def readFractionDigits : List Char → List Char × List Char
  | '.' :: rest => (rest.takeWhile Char.isDigit, rest.dropWhile Char.isDigit)
  | rest => ([], rest)

def readUnsigned (negative : Bool) (text : List Char) : Option Binary64 :=
  let whole := text.takeWhile Char.isDigit
  let (fraction, rest) := readFractionDigits (text.dropWhile Char.isDigit)
  if whole ++ fraction = [] then none
  else
    (readExponent rest).map fun exponent =>
      ofDecimal negative (Text.digitsValue (whole ++ fraction))
        (exponent - fraction.length)

def readChars (text : List Char) : Except FloatFault Binary64 :=
  if text = [] then .error .empty
  else
    let (negative, rest) := splitSign text
    let word := String.ofList (rest.map Char.toLower)
    if word = "inf" ∨ word = "infinity" then .ok (.infinity negative)
    else if word = "nan" then .ok .nan
    else
      match readUnsigned negative rest with
      | some number => .ok number
      | none => .error .invalid

def read (text : String) : Except FloatFault Binary64 :=
  readChars text.toList

end LogQuery.Decimal
