import LogQuery.Decimal.Shortest

namespace LogQuery.Decimal

/-! How a number is written. A number whose first digit stands in the given
range of exponents is written with all its places and always has a point; any
other has one digit before the point and an exponent. -/

structure Layout where
  minPositional : Int
  maxPositional : Int
  exponentPlus : String
  infinityText : String
  nanText : String
  deriving DecidableEq, Repr

/-- The layout of numbers in JSON. JSON has no infinities; their names are used
where such a number is shown outside of JSON. -/
def jsonLayout : Layout :=
  ⟨-5, 15, "+", "inf", "nan"⟩

/-- The layout of numbers in diagnostic texts. -/
def diagnosticLayout : Layout :=
  ⟨-4, 15, "", "inf", "NaN"⟩

/-! A decimal as its significant digits and the exponent of the first one. -/

structure Places where
  digits : List Char
  leading : Int
  deriving DecidableEq, Repr

def dropTrailingZeros (digits : List Char) : List Char :=
  (digits.reverse.dropWhile (· = '0')).reverse

def Places.ofDigits (decimal : Digits) : Places :=
  if decimal.digits = 0 then ⟨['0'], 0⟩
  else
    let digits := Nat.toDigits 10 decimal.digits
    ⟨dropTrailingZeros digits, decimal.exponent + digits.length - 1⟩

def zeros (count : Nat) : List Char :=
  List.replicate count '0'

def fractionOrZero : List Char → List Char
  | [] => ['0']
  | digits => digits

def Places.positional (places : Places) : List Char :=
  match places.leading with
  | .ofNat leading =>
      let whole := places.digits.take (leading + 1)
      whole ++ zeros (leading + 1 - whole.length) ++ '.' ::
        fractionOrZero (places.digits.drop (leading + 1))
  | .negSucc before => '0' :: '.' :: zeros before ++ places.digits

def exponentText (layout : Layout) : Int → List Char
  | .ofNat exponent => 'e' :: layout.exponentPlus.toList ++ Nat.toDigits 10 exponent
  | .negSucc exponent => 'e' :: '-' :: Nat.toDigits 10 (exponent + 1)

def Places.scientific (layout : Layout) (places : Places) : List Char :=
  match places.digits with
  | [] => exponentText layout places.leading
  | [first] => first :: exponentText layout places.leading
  | first :: rest => first :: '.' :: rest ++ exponentText layout places.leading

def Places.write (layout : Layout) (places : Places) : List Char :=
  if layout.minPositional ≤ places.leading ∧ places.leading ≤ layout.maxPositional
  then places.positional
  else places.scientific layout

def withSign (negative : Bool) (text : List Char) : List Char :=
  if negative then '-' :: text else text

def writeChars (layout : Layout) (number : Binary64) : List Char :=
  match number.value with
  | .finite negative significand exponent =>
      withSign negative
        ((Places.ofDigits (shortest significand exponent)).write layout)
  | .infinite negative => withSign negative layout.infinityText.toList
  | .nan => layout.nanText.toList

def write (layout : Layout) (number : Binary64) : String :=
  String.ofList (writeChars layout number)

end LogQuery.Decimal
