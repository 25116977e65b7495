import LogQuery.Decimal.Binary64
import LogQuery.Text.Integer

namespace LogQuery.Decimal

/-! The shortest decimal that reads back as a given number. All reals nearer to
the number than to its neighbours read back as it, and so do the two ends of
that interval when the significand is even. Of the grids of decimals with one,
two, ... digits the first with a point in the interval is taken, and on it the
point nearest to the number. -/

/-- `digits * 10 ^ exponent`. -/
structure Digits where
  digits : Nat
  exponent : Int
  deriving DecidableEq, Repr

/-- A quotient of whole numbers. -/
structure Ratio where
  numerator : Nat
  denominator : Nat
  deriving DecidableEq, Repr

def Ratio.ofBinary (significand : Nat) : (exponent : Int) → Ratio
  | .ofNat shift => ⟨significand <<< shift, 1⟩
  | .negSucc shift => ⟨significand, 1 <<< (shift + 1)⟩

/-- The ratio over `10 ^ exponent`. -/
def Ratio.overPower (ratio : Ratio) : (exponent : Int) → Ratio
  | .ofNat power => ⟨ratio.numerator, ratio.denominator * Nat.pow 10 power⟩
  | .negSucc power => ⟨ratio.numerator * Nat.pow 10 (power + 1), ratio.denominator⟩

/-- The exponent of the first decimal digit of a positive ratio. -/
def Ratio.decimalExponent (ratio : Ratio) : Int :=
  if ratio.denominator ≤ ratio.numerator then
    (Text.digitCount (ratio.numerator / ratio.denominator) : Int) - 1
  else
    -(Text.digitCount ((ratio.denominator - 1) / ratio.numerator) : Int)

/-! The interval is given in quarters of the number's last binary place. Below a
power of two the next number is only half a place away. -/

structure Interval where
  low : Nat
  high : Nat
  exponent : Int
  closed : Bool
  deriving DecidableEq, Repr

def Interval.around (significand : Nat) (exponent : Int) : Interval where
  low :=
    if significand = Binary64.hiddenBit ∧ Binary64.minExponent < exponent then
      4 * significand - 1
    else 4 * significand - 2
  high := 4 * significand + 2
  exponent := exponent - 2
  closed := significand % 2 = 0

/-- Whether `digits * 10 ^ power` lies in the interval. -/
def Interval.contains (interval : Interval) (power : Int) (digits : Nat) : Bool :=
  let low := (Ratio.ofBinary interval.low interval.exponent).overPower power
  let high := (Ratio.ofBinary interval.high interval.exponent).overPower power
  let lowPoint := digits * low.denominator
  let highPoint := digits * high.denominator
  if interval.closed then
    low.numerator ≤ lowPoint && highPoint ≤ high.numerator
  else low.numerator < lowPoint && highPoint < high.numerator

/-- The point of the grid of step `10 ^ power` to take, if one is in the
interval. Halfway between two points the even one is taken. -/
def nearestOnGrid? (ratio : Ratio) (interval : Interval) (power : Int) :
    Option Nat :=
  let scaled := ratio.overPower power
  let below := scaled.numerator / scaled.denominator
  match interval.contains power below, interval.contains power (below + 1) with
  | true, true => some (Binary64.roundDivision scaled.numerator scaled.denominator)
  | true, false => some below
  | false, true => some (below + 1)
  | false, false => none

/-- Seventeen digits tell all numbers apart. -/
def maxDigits : Nat := 17

def searchGrids (ratio : Ratio) (interval : Interval) (first : Int) :
    (remaining : Nat) → Digits
  | 0 =>
      let power := first + 1 - maxDigits
      let scaled := ratio.overPower power
      ⟨Binary64.roundDivision scaled.numerator scaled.denominator, power⟩
  | remaining + 1 =>
      let power := first + 1 - ((maxDigits - remaining : Nat) : Int)
      match nearestOnGrid? ratio interval power with
      | some digits => ⟨digits, power⟩
      | none => searchGrids ratio interval first remaining

/-- The digits for `significand * 2 ^ exponent`; zero has the one digit 0. -/
def shortest (significand : Nat) (exponent : Int) : Digits :=
  if significand = 0 then ⟨0, 0⟩
  else
    let ratio := Ratio.ofBinary significand exponent
    searchGrids ratio (Interval.around significand exponent) ratio.decimalExponent
      maxDigits

end LogQuery.Decimal
