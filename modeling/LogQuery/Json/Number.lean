import LogQuery.Json.Value
import LogQuery.Text.Integer

namespace LogQuery.Json

/-! The parts of a number's text. -/

structure NumberText where
  negative : Bool
  whole : List Char
  fraction : Option (List Char)
  exponent : Option Int
  deriving Repr

/-- Digits of which at least one must be there, and the rest. -/
def takeDigits (input : List Char) : Option (List Char × List Char) :=
  match input.takeWhile Char.isDigit with
  | [] => none
  | digits => some (digits, input.dropWhile Char.isDigit)

/-- The whole part has no leading zeros. -/
def takeWhole (input : List Char) : Option (List Char × List Char) :=
  match takeDigits input with
  | some ('0' :: _ :: _, _) => none
  | taken => taken

def takeFraction : List Char → Option (Option (List Char) × List Char)
  | '.' :: rest => (takeDigits rest).map fun (digits, rest) => (some digits, rest)
  | rest => some (none, rest)

def takeSignedDigits : List Char → Option (Int × List Char)
  | '-' :: rest =>
      (takeDigits rest).map fun (digits, rest) => (-(Text.digitsValue digits : Int), rest)
  | '+' :: rest =>
      (takeDigits rest).map fun (digits, rest) => ((Text.digitsValue digits : Int), rest)
  | rest =>
      (takeDigits rest).map fun (digits, rest) => ((Text.digitsValue digits : Int), rest)

def takeExponent : List Char → Option (Option Int × List Char)
  | [] => some (none, [])
  | mark :: rest =>
      if mark = 'e' ∨ mark = 'E' then
        (takeSignedDigits rest).map fun (exponent, rest) => (some exponent, rest)
      else some (none, mark :: rest)

def takeMinus : List Char → Bool × List Char
  | '-' :: rest => (true, rest)
  | rest => (false, rest)

def takeNumber (input : List Char) : Option (NumberText × List Char) := do
  let (negative, rest) := takeMinus input
  let (whole, rest) ← takeWhole rest
  let (fraction, rest) ← takeFraction rest
  let (exponent, rest) ← takeExponent rest
  some (⟨negative, whole, fraction, exponent⟩, rest)

/-! The leading digits are kept as long as their value fits in 64 bits. Digits of
the whole part that are dropped count in the exponent, digits of the fraction
that are dropped do not count at all. -/

structure Significand where
  value : Nat
  exponent : Int
  full : Bool
  deriving Repr

namespace Significand

def pushWhole (significand : Significand) (digit : Char) : Significand :=
  let value := 10 * significand.value + Text.digitValue digit
  if significand.full ∨ Text.maxNatural64 < value then
    { significand with exponent := significand.exponent + 1, full := true }
  else { significand with value }

def pushFraction (significand : Significand) (digit : Char) : Significand :=
  let value := 10 * significand.value + Text.digitValue digit
  if significand.full ∨ Text.maxNatural64 < value then
    { significand with full := true }
  else { significand with value, exponent := significand.exponent - 1 }

/-- Whether the fraction may go on filling is decided anew after the whole
part. -/
def ofDigits (whole fraction : List Char) : Significand :=
  let leading := whole.foldl pushWhole ⟨0, 0, false⟩
  fraction.foldl pushFraction { leading with full := false }

end Significand

/-! A double is reached in steps that each round: the kept digits, then a power
of ten that is itself a double, by which they are multiplied or divided. What
grows beyond every double is no number. -/

def maxPower : Nat := 308

def multiplyByPower (number : Binary64) (power : Nat) : Option Binary64 :=
  let (numerator, denominator) := (Binary64.ofNat (Nat.pow 10 power)).magnitude
  let product := number.scale numerator denominator
  if product.isFinite then some product else none

def divideByPower (number : Binary64) (power : Nat) : Binary64 :=
  let (numerator, denominator) := (Binary64.ofNat (Nat.pow 10 power)).magnitude
  number.scale denominator numerator

/-- Divides by at most `10 ^ 308` at a time until nothing is left of the power or
of the number. -/
def divideByLargePower (number : Binary64) (power : Nat) : Binary64 :=
  if power ≤ maxPower then divideByPower number power
  else if number = .zero false then number
  else divideByLargePower (divideByPower number maxPower) (power - maxPower)
termination_by power
decreasing_by simp only [maxPower] at *; omega

def scaleByPower (number : Binary64) : (exponent : Int) → Option Binary64
  | .ofNat power =>
      if power ≤ maxPower then multiplyByPower number power
      else if number = .zero false then some number
      else none
  | .negSucc power => some (divideByLargePower number (power + 1))

namespace NumberText

/-- A whole number, if the text has no fraction and no exponent and its value
fits in 64 bits. Minus zero is a double. -/
def integer? (text : NumberText) : Option Int :=
  match text.fraction, text.exponent with
  | none, none =>
      let magnitude := Text.digitsValue text.whole
      if text.negative then
        if 0 < magnitude ∧ magnitude ≤ Text.minInteger64 then some (-(magnitude : Int))
        else none
      else if magnitude ≤ Text.maxNatural64 then some magnitude
      else none
  | _, _ => none

def double? (text : NumberText) : Option Binary64 :=
  let significand := Significand.ofDigits text.whole (text.fraction.getD [])
  (scaleByPower (.ofNat significand.value)
    (significand.exponent + text.exponent.getD 0)).map fun number =>
      if text.negative then number.negate else number

def value? (text : NumberText) : Option JsonNumber :=
  match text.integer? with
  | some value => some (.integer value)
  | none => text.double?.map .double

end NumberText

end LogQuery.Json
