namespace LogQuery

/-! Double precision numbers by their 64 bits: a sign, eleven bits of exponent
and fifty-two of fraction. Nothing here uses machine arithmetic; a number is
taken apart into whole numbers and put together by exact rounding. -/

structure Binary64 where
  bits : UInt64
  deriving DecidableEq, Repr, Inhabited

namespace Binary64

/-- What the bits stand for. A finite value is
`significand * 2 ^ exponent`, with its sign apart since zero has one too. -/
inductive Value where
  | finite (negative : Bool) (significand : Nat) (exponent : Int)
  | infinite (negative : Bool)
  | nan
  deriving DecidableEq, Repr

def signBit : Nat := Nat.pow 2 63

def hiddenBit : Nat := Nat.pow 2 52

/-- The exponent of the numbers nearest to zero. -/
def minExponent : Int := -1074

def exponentField (bits : Nat) : Nat :=
  bits % signBit / hiddenBit

def fractionField (bits : Nat) : Nat :=
  bits % hiddenBit

def value (number : Binary64) : Value :=
  let bits := number.bits.toNat
  let negative := decide (signBit ≤ bits)
  let fraction := fractionField bits
  match exponentField bits with
  | 0 => .finite negative fraction minExponent
  | 2047 => if fraction = 0 then .infinite negative else .nan
  | field + 1 => .finite negative (hiddenBit + fraction) (minExponent + field)

/-! Special values. -/

def ofMagnitude (negative : Bool) (magnitude : Nat) : Binary64 :=
  ⟨UInt64.ofNat (if negative then signBit + magnitude else magnitude)⟩

def zero (negative : Bool) : Binary64 :=
  ofMagnitude negative 0

def infinity (negative : Bool) : Binary64 :=
  ofMagnitude negative (2047 * hiddenBit)

def nan : Binary64 :=
  ofMagnitude false (2047 * hiddenBit + hiddenBit / 2)

def isFinite (number : Binary64) : Bool :=
  match number.value with
  | .finite .. => true
  | _ => false

def negate (number : Binary64) : Binary64 :=
  ⟨number.bits ^^^ UInt64.ofNat signBit⟩

/-! ## Rounding

A quotient of whole numbers goes to the nearest number, and halfway to the one
with the even significand. -/

def roundDivision (numerator denominator : Nat) : Nat :=
  let quotient := numerator / denominator
  let twice := 2 * (numerator % denominator)
  if twice < denominator then quotient
  else if denominator < twice then quotient + 1
  else quotient + quotient % 2

/-- The quotient over `2 ^ exponent`, as a quotient again. -/
def scaleBinary (numerator denominator : Nat) (exponent : Int) : Nat × Nat :=
  match exponent with
  | .ofNat shift => (numerator, denominator <<< shift)
  | .negSucc shift => (numerator <<< (shift + 1), denominator)

/-- The exponent at which the quotient has a significand of 53 bits, or the
smallest exponent if it has fewer bits there. -/
def roundingExponent (numerator denominator : Nat) : Int :=
  let guess := max ((numerator.log2 : Int) - denominator.log2 - 53) minExponent
  let (scaled, unit) := scaleBinary numerator denominator guess
  if scaled / unit < 2 * hiddenBit then guess else guess + 1

def ofQuotient (negative : Bool) (numerator denominator : Nat) : Binary64 :=
  if numerator = 0 then zero negative
  else
    let exponent := roundingExponent numerator denominator
    let (scaled, unit) := scaleBinary numerator denominator exponent
    let significand := roundDivision scaled unit
    let magnitude := (exponent - minExponent).toNat * hiddenBit + significand
    if 2047 * hiddenBit ≤ magnitude then infinity negative
    else ofMagnitude negative magnitude

def ofNat (natural : Nat) : Binary64 :=
  ofQuotient false natural 1

def ofInt (integer : Int) : Binary64 :=
  ofQuotient (decide (integer < 0)) integer.natAbs 1

/-- A number multiplied by a quotient, rounded once. -/
def scale (number : Binary64) (numerator denominator : Nat) : Binary64 :=
  match number.value with
  | .finite negative significand (.ofNat exponent) =>
      ofQuotient negative ((significand * numerator) <<< exponent) denominator
  | .finite negative significand (.negSucc exponent) =>
      ofQuotient negative (significand * numerator)
        (denominator <<< (exponent + 1))
  | _ => number

/-- The size of a finite number as a quotient. -/
def magnitude (number : Binary64) : Nat × Nat :=
  match number.value with
  | .finite _ significand (.ofNat exponent) => (significand <<< exponent, 1)
  | .finite _ significand (.negSucc exponent) => (significand, 1 <<< (exponent + 1))
  | _ => (0, 1)

/-! The whole part, toward zero, kept within bounds. What is no number at all
counts as zero. -/

def clamp (low high value : Int) : Int :=
  max low (min high value)

def truncate (number : Binary64) (low high : Int) : Int :=
  match number.value with
  | .finite negative significand exponent =>
      let magnitude : Nat :=
        match exponent with
        | .ofNat shift => significand <<< shift
        | .negSucc shift => significand >>> (shift + 1)
      clamp low high (if negative then -(magnitude : Int) else magnitude)
  | .infinite negative => if negative then low else high
  | .nan => 0

end Binary64

end LogQuery
