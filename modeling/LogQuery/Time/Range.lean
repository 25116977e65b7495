import LogQuery.Error

namespace LogQuery

/-! A requested range of time, in whole seconds, with both ends included. -/

structure TimeRange where
  first : Int
  last : Int
  deriving DecidableEq, Repr

/-- A second kept within 64 bits. -/
def saturate (seconds : Int) : Int :=
  max Cell.minInteger (min Cell.maxInteger seconds)

/-- A range must end after it starts, and its length must fit in 64 bits. -/
def TimeRange.span (range : TimeRange) : Except ServiceError Int :=
  if range.last ≤ range.first then .error .invalidTimeRange
  else if range.last - range.first ≤ Cell.maxInteger then
    .ok (range.last - range.first)
  else .error (.badRequest .timeRangeTooLarge)

end LogQuery
