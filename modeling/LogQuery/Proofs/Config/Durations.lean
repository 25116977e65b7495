import Mathlib.Tactic.SplitIfs
import LogQuery.Config.Duration
import LogQuery.Proofs.Outcome
import LogQuery.Proofs.Query.Spelling
import LogQuery.Proofs.Text.Naturals

namespace LogQuery.Config

open Query (Stops)
open Text (DenotesNatural digitsValue maxNatural64)

/-! ## What a duration is written as -/

def DurationUnit.spelling : DurationUnit → List Char
  | .millisecond => ['m', 's']
  | .second => ['s']
  | .minute => ['m']
  | .hour => ['h']

/-- An amount, as it is written, with its unit. -/
structure Component where
  digits : List Char
  unit : DurationUnit
  deriving DecidableEq, Repr

namespace Component

def text (component : Component) : List Char :=
  component.digits ++ component.unit.spelling

def amount (component : Component) : Nat :=
  digitsValue component.digits

def millis (component : Component) : Nat :=
  component.amount * component.unit.millis

structure IsWritten (component : Component) : Prop where
  nonempty : component.digits ≠ []
  digits : ∀ digit ∈ component.digits, digit.isDigit = true
  fits : component.amount < Nat.pow 2 64

end Component

theorem stops_spelling (unit : DurationUnit) (rest : List Char) :
    Stops Char.isDigit (unit.spelling ++ rest) := by
  cases unit <;> exact .cons rfl

end LogQuery.Config
