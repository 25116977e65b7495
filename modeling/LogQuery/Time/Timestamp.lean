import LogQuery.Time.Civil
import LogQuery.Text.Blank
import LogQuery.Text.Integer

namespace LogQuery.Time

/-! ## Writing

An instant is written as in RFC 3339, in UTC. The fraction has no digits, or
three, six or nine, as few as hold it. -/

def padLeft (width : Nat) (natural : Nat) : List Char :=
  let digits := Nat.toDigits 10 natural
  List.replicate (width - digits.length) '0' ++ digits

/-- Years of more than four digits and years before 0 carry a sign. -/
def yearText (year : Int) : List Char :=
  if 0 ≤ year ∧ year ≤ 9999 then padLeft 4 year.toNat
  else if year < 0 then '-' :: padLeft 4 year.natAbs
  else '+' :: padLeft 4 year.toNat

def fractionText (nanos : Nat) : List Char :=
  if nanos = 0 then []
  else if nanos % 1000000 = 0 then '.' :: padLeft 3 (nanos / 1000000)
  else if nanos % 1000 = 0 then '.' :: padLeft 6 (nanos / 1000)
  else '.' :: padLeft 9 nanos

def Instant.writeLocal (instant : Instant) : List Char :=
  let time := LocalTime.ofInstant instant
  yearText time.date.year ++ '-' :: padLeft 2 time.date.month ++
    '-' :: padLeft 2 time.date.day ++ 'T' :: padLeft 2 time.hour ++
    ':' :: padLeft 2 time.minute ++ ':' :: padLeft 2 time.second ++
    fractionText time.nanos

def Instant.write (instant : Instant) : String :=
  String.ofList (instant.writeLocal ++ ['+', '0', '0', ':', '0', '0'])

/-- The same with the letter for UTC in place of the offset. -/
def Instant.describe (instant : Instant) : String :=
  String.ofList (instant.writeLocal ++ ['Z'])

/-! ## Reading

Readers take characters from the front and leave the rest. -/

abbrev Reader (α : Type) := List Char → Option (α × List Char)

def takeExactly (expected : Char) (input : List Char) : Option (List Char) :=
  match input with
  | [] => none
  | first :: rest => if first = expected then some rest else none

/-- From `least` to `most` digits, as many as there are. -/
def takeNumber (least most : Nat) : Reader Nat := fun input =>
  let digits := (input.take most).takeWhile Char.isDigit
  if digits.length < least then none
  else some (Text.digitsValue digits, input.drop digits.length)

/-- A point and digits. Those after the ninth are read and ignored. -/
def takeFraction : Reader Nat
  | '.' :: rest =>
      (takeNumber 1 9 rest).map fun (value, after) =>
        let read := rest.length - after.length
        (value * Nat.pow 10 (9 - read), after.dropWhile Char.isDigit)
  | input => some (0, input)

def isMinusSign (character : Char) : Bool :=
  character = '-' || character = '\u2212'

/-- The distance from UTC in seconds, less than a day in either direction. -/
def takeOffset : Reader Int
  | [] => none
  | first :: rest =>
      if first = 'Z' ∨ first = 'z' then some (0, rest)
      else if first = '+' ∨ isMinusSign first then do
        let (hours, rest) ← takeNumber 2 2 rest
        let rest ← takeExactly ':' rest
        let (minutes, rest) ← takeNumber 2 2 rest
        let seconds : Int := (hours * 3600 + minutes * 60 : Nat)
        if minutes < 60 ∧ seconds < secondsPerDay then
          some (if first = '+' then seconds else -seconds, rest)
        else none
      else none

def isTimeMark (character : Char) : Bool :=
  character = 'T' || character = 't' || character = ' '

def takeTimeMark : List Char → Option (List Char)
  | [] => none
  | first :: rest => if isTimeMark first then some rest else none

/-- The strict form: every field has its full width, and the offset from UTC
follows. -/
def readOffsetForm (input : List Char) : Option Instant := do
  let (year, rest) ← takeNumber 4 4 input
  let rest ← takeExactly '-' rest
  let (month, rest) ← takeNumber 2 2 rest
  let rest ← takeExactly '-' rest
  let (day, rest) ← takeNumber 2 2 rest
  let rest ← takeTimeMark rest
  let (hour, rest) ← takeNumber 2 2 rest
  let rest ← takeExactly ':' rest
  let (minute, rest) ← takeNumber 2 2 rest
  let rest ← takeExactly ':' rest
  let (second, rest) ← takeNumber 2 2 rest
  let (nanos, rest) ← takeFraction rest
  let (offset, rest) ← takeOffset rest
  let time : LocalTime := ⟨⟨year, month, day⟩, hour, minute, second, nanos⟩
  if rest = [] ∧ time.isValid then some (time.toInstant offset) else none

/-- A number of one or two digits that blanks may precede. -/
def takeLooseNumber : Reader Nat := fun input =>
  takeNumber 1 2 (Text.trimStart input)

/-- A year has up to four digits, or a sign and any number of them. -/
def takeLooseYear : Reader Int := fun input =>
  match Text.trimStart input with
  | '-' :: rest =>
      (takeNumber 1 rest.length rest).map fun (year, rest) => (-(year : Int), rest)
  | '+' :: rest =>
      (takeNumber 1 rest.length rest).map fun (year, rest) => ((year : Int), rest)
  | rest => (takeNumber 1 4 rest).map fun (year, rest) => ((year : Int), rest)

/-- The loose form has no offset and is taken as UTC. -/
def readLooseForm (input : List Char) : Option Instant := do
  let (year, rest) ← takeLooseYear input
  let rest ← takeExactly '-' rest
  let (month, rest) ← takeLooseNumber rest
  let rest ← takeExactly '-' rest
  let (day, rest) ← takeLooseNumber rest
  let (hour, rest) ← takeLooseNumber rest
  let rest ← takeExactly ':' rest
  let (minute, rest) ← takeLooseNumber rest
  let rest ← takeExactly ':' rest
  let (second, rest) ← takeLooseNumber rest
  let (nanos, rest) ← takeFraction rest
  let time : LocalTime := ⟨⟨year, month, day⟩, hour, minute, second, nanos⟩
  if rest = [] ∧ time.isValid then some (time.toInstant 0) else none

def Instant.read (text : String) : Option Instant :=
  (readOffsetForm text.toList).or (readLooseForm text.toList)

end LogQuery.Time
