import LogQuery.Text.Blank
import LogQuery.Text.Integer

namespace LogQuery.Config

/-! Durations are kept in nanoseconds. They are written as amounts with units, such
as `1h30m`, of which the least is a millisecond, or as a number of seconds alone;
their whole seconds must fit in 64 bits. -/

structure Duration where
  nanoseconds : Nat
  deriving DecidableEq, Repr

namespace Duration

def ofMillis (millis : Nat) : Duration :=
  ⟨1000000 * millis⟩

def ofSeconds (seconds : Nat) : Duration :=
  ofMillis (1000 * seconds)

def seconds (duration : Duration) : Nat :=
  duration.nanoseconds / 1000000000

def nanos (duration : Duration) : Nat :=
  duration.nanoseconds % 1000000000

def isZero (duration : Duration) : Bool :=
  duration.nanoseconds = 0

end Duration

inductive DurationFault where
  | empty
  | expectedNumber
  | amount (fault : Text.IntegerFault)
  | outOfRange
  | missingUnit
  | unknownUnit (unit : String)
  deriving DecidableEq, Repr

/-- All but an empty text are named in the message as they were given. -/
def DurationFault.message (text : String) : DurationFault → String
  | .empty => "duration cannot be empty"
  | .expectedNumber => "invalid duration `" ++ text ++ "`: expected a number"
  | .amount fault => "invalid duration `" ++ text ++ "`: " ++ fault.message
  | .outOfRange => "invalid duration `" ++ text ++ "`: out of range"
  | .missingUnit => "invalid duration `" ++ text ++ "`: missing unit"
  | .unknownUnit unit =>
      "invalid duration `" ++ text ++ "`: unknown unit `" ++ unit ++ "`"

inductive DurationUnit where
  | millisecond
  | second
  | minute
  | hour
  deriving DecidableEq, Repr

namespace DurationUnit

def read (text : List Char) : Except DurationFault DurationUnit :=
  if text = ['m', 's'] then .ok .millisecond
  else if text = ['s'] then .ok .second
  else if text = ['m'] then .ok .minute
  else if text = ['h'] then .ok .hour
  else if text = [] then .error .missingUnit
  else .error (.unknownUnit (String.ofList text))

def millis : DurationUnit → Nat
  | .millisecond => 1
  | .second => 1000
  | .minute => 60 * 1000
  | .hour => 3600 * 1000

end DurationUnit

def addMillis (total more : Nat) : Except DurationFault Nat :=
  if (total + more) / 1000 ≤ Text.maxNatural64 then .ok (total + more)
  else .error .outOfRange

/-- One amount with its unit. -/
def readComponent (digits unit : List Char) : Except DurationFault Nat := do
  let amount ←
    (Text.readNaturalUpTo Text.maxNatural64 digits).mapError DurationFault.amount
  let unit ← DurationUnit.read unit
  addMillis 0 (amount * unit.millis)

def isNoDigit (character : Char) : Bool :=
  !character.isDigit

/-- What follows the first component of a text that starts with a digit. -/
def afterComponent (text : List Char) : List Char :=
  (text.dropWhile Char.isDigit).dropWhile isNoDigit

theorem length_afterComponent_le {first : Char} (rest : List Char)
    (digit : first.isDigit = true) :
    (afterComponent (first :: rest)).length ≤ rest.length := by
  unfold afterComponent
  rw [List.dropWhile_cons_of_pos digit]
  have unit := (List.dropWhile_sublist isNoDigit
    (l := rest.dropWhile Char.isDigit)).length_le
  have digits := (List.dropWhile_sublist Char.isDigit (l := rest)).length_le
  exact Nat.le_trans unit digits

/-- Digits, then everything up to the next digit, again and again. -/
def readComponents (total : Nat) (text : List Char) : Except DurationFault Nat :=
  match text with
  | [] => .ok total
  | first :: rest =>
      if digit : first.isDigit = true then
        have := length_afterComponent_le rest digit
        let text := first :: rest
        match readComponent (text.takeWhile Char.isDigit)
            ((text.dropWhile Char.isDigit).takeWhile isNoDigit) with
        | .error fault => .error fault
        | .ok millis =>
            match addMillis total millis with
            | .error fault => .error fault
            | .ok total => readComponents total (afterComponent (first :: rest))
      else .error .expectedNumber
termination_by text.length

def readDuration (text : List Char) : Except DurationFault Duration :=
  match Text.trimBlanks text with
  | [] => .error .empty
  | trimmed =>
      match Text.readNaturalUpTo Text.maxNatural64 trimmed with
      | .ok seconds => .ok (.ofSeconds seconds)
      | .error _ => (readComponents 0 trimmed).map Duration.ofMillis

def Duration.parse (text : String) : Except DurationFault Duration :=
  readDuration text.toList

end LogQuery.Config
