namespace LogQuery.Time

/-! Dates of the Gregorian calendar, continued in both directions, and their
count of days from 1970-01-01. Years are counted from March for the arithmetic,
so that the leap day comes last. -/

structure Date where
  year : Int
  month : Nat
  day : Nat
  deriving DecidableEq, Repr

def isLeapYear (year : Int) : Bool :=
  year % 4 = 0 && (year % 100 ≠ 0 || year % 400 = 0)

def daysInMonth (year : Int) : Nat → Nat
  | 2 => if isLeapYear year then 29 else 28
  | 4 => 30
  | 6 => 30
  | 9 => 30
  | 11 => 30
  | _ => 31

def minYear : Int := -262143

def maxYear : Int := 262142

namespace Date

def isValid (date : Date) : Bool :=
  decide (minYear ≤ date.year ∧ date.year ≤ maxYear ∧ 1 ≤ date.month ∧
    date.month ≤ 12 ∧ 1 ≤ date.day ∧ date.day ≤ daysInMonth date.year date.month)

def daysPerEra : Int := 146097

/-- Days from 0000-03-01 to 1970-01-01. -/
def epochShift : Int := 719468

def toDays (date : Date) : Int :=
  let year := if date.month ≤ 2 then date.year - 1 else date.year
  let era := year / 400
  let yearOfEra := year % 400
  let month : Int := ((date.month : Int) + 9) % 12
  let dayOfYear := (153 * month + 2) / 5 + date.day - 1
  let dayOfEra := 365 * yearOfEra + yearOfEra / 4 - yearOfEra / 100 + dayOfYear
  era * daysPerEra + dayOfEra - epochShift

def ofDays (days : Int) : Date :=
  let shifted := days + epochShift
  let era := shifted / daysPerEra
  let dayOfEra := shifted % daysPerEra
  let yearOfEra :=
    (dayOfEra - dayOfEra / 1460 + dayOfEra / 36524 - dayOfEra / 146096) / 365
  let dayOfYear := dayOfEra - (365 * yearOfEra + yearOfEra / 4 - yearOfEra / 100)
  let month := (5 * dayOfYear + 2) / 153
  let day := dayOfYear - (153 * month + 2) / 5 + 1
  let civilMonth := if month < 10 then month + 3 else month - 9
  let year := yearOfEra + era * 400
  ⟨if civilMonth ≤ 2 then year + 1 else year, civilMonth.toNat, day.toNat⟩

end Date

/-! An instant is a count of seconds from the start of 1970 in UTC and a part of
a second. A leap second is the second before it with a part of one second or
more. -/

structure Instant where
  seconds : Int
  nanos : Nat
  deriving DecidableEq, Repr

def nanosPerSecond : Nat := 1000000000

def secondsPerDay : Int := 86400

def minSeconds : Int := -8334601228800

def maxSeconds : Int := 8210266876799

/-- Whole seconds within the years that dates can have. -/
def Instant.ofSeconds? (seconds : Int) : Option Instant :=
  if minSeconds ≤ seconds ∧ seconds ≤ maxSeconds then some ⟨seconds, 0⟩ else none

/-- A date and a time of day, with the second 60 for a leap second. -/
structure LocalTime where
  date : Date
  hour : Nat
  minute : Nat
  second : Nat
  nanos : Nat
  deriving DecidableEq, Repr

namespace LocalTime

def isValid (time : LocalTime) : Bool :=
  time.date.isValid && time.hour ≤ 23 && time.minute ≤ 59 && time.second ≤ 60

/-- The instant at which clocks that are `offset` seconds ahead of UTC show this
time. -/
def toInstant (time : LocalTime) (offset : Int) : Instant :=
  let second := min time.second 59
  let leap := if time.second = 60 then nanosPerSecond else 0
  ⟨time.date.toDays * secondsPerDay +
      ((time.hour * 60 + time.minute) * 60 + second : Nat) - offset,
    time.nanos + leap⟩

def ofInstant (instant : Instant) : LocalTime :=
  let days := instant.seconds / secondsPerDay
  let rest := (instant.seconds % secondsPerDay).toNat
  let leap := if nanosPerSecond ≤ instant.nanos then 1 else 0
  ⟨Date.ofDays days, rest / 3600, rest / 60 % 60, rest % 60 + leap,
    instant.nanos % nanosPerSecond⟩

end LocalTime

end LogQuery.Time
