namespace LogQuery.Text

/-! Reading whole numbers from text: an optional sign, then ASCII digits and
nothing else. The digits are taken from the left, and the first one that is no
digit or leads out of the range decides the fault. -/

inductive IntegerFault where
  | empty
  | invalidDigit
  | tooLarge
  | tooSmall
  deriving DecidableEq, Repr

def IntegerFault.message : IntegerFault → String
  | .empty => "cannot parse integer from empty string"
  | .invalidDigit => "invalid digit found in string"
  | .tooLarge => "number too large to fit in target type"
  | .tooSmall => "number too small to fit in target type"

def digitValue (character : Char) : Nat :=
  character.toNat - '0'.toNat

def readDigits (limit : Nat) (overflow : IntegerFault) :
    (value : Nat) → List Char → Except IntegerFault Nat
  | value, [] => .ok value
  | value, character :: rest =>
      if character.isDigit then
        let value := 10 * value + digitValue character
        if limit < value then .error overflow
        else readDigits limit overflow value rest
      else .error .invalidDigit

/-- Digits of which at least one must be there. -/
def readMagnitude (limit : Nat) (overflow : IntegerFault) :
    List Char → Except IntegerFault Nat
  | [] => .error .invalidDigit
  | digits => readDigits limit overflow 0 digits

def maxNatural64 : Nat := Nat.pow 2 64 - 1

def maxInteger64 : Nat := Nat.pow 2 63 - 1

def minInteger64 : Nat := Nat.pow 2 63

def readNaturalUpTo (limit : Nat) : List Char → Except IntegerFault Nat
  | [] => .error .empty
  | '+' :: rest => readMagnitude limit .tooLarge rest
  | digits => readMagnitude limit .tooLarge digits

def readNatural64 (text : String) : Except IntegerFault Nat :=
  readNaturalUpTo maxNatural64 text.toList

def readInteger64Chars : List Char → Except IntegerFault Int
  | [] => .error .empty
  | '+' :: rest => (readMagnitude maxInteger64 .tooLarge rest).map Int.ofNat
  | '-' :: rest =>
      (readMagnitude minInteger64 .tooSmall rest).map fun magnitude =>
        -(magnitude : Int)
  | digits => (readMagnitude maxInteger64 .tooLarge digits).map Int.ofNat

def readInteger64 (text : String) : Except IntegerFault Int :=
  readInteger64Chars text.toList

/-- The value of digits, whatever their number. -/
def digitsValue (digits : List Char) : Nat :=
  digits.foldl (fun value character => 10 * value + digitValue character) 0

def digitCount (natural : Nat) : Nat :=
  (Nat.toDigits 10 natural).length

end LogQuery.Text
