namespace LogQuery

/-! Why an aggregation has no plan. -/

inductive PlanError where
  | invalidChart
  | sliceByRequired
  | invalidSizeByOperation
  | sizeByFieldRequired
  | horizontalAxisFieldRequired
  | invalidHorizontalAxisLimit
  | invalidVerticalAxisOperation
  | verticalAxisFieldRequired
  | invalidBreakDownFilter
  | reservedField (field : String)
  | invalid
  deriving DecidableEq, Repr

def PlanError.message : PlanError → String
  | .invalidChart => "invalid chart type"
  | .sliceByRequired => "slice by field is required"
  | .invalidSizeByOperation => "invalid size by operation"
  | .sizeByFieldRequired => "size by field is required"
  | .horizontalAxisFieldRequired => "horizontal axis field is required"
  | .invalidHorizontalAxisLimit => "invalid horizontal axis limit"
  | .invalidVerticalAxisOperation => "invalid vertical axis operation"
  | .verticalAxisFieldRequired => "vertical axis field is required"
  | .invalidBreakDownFilter => "invalid break down filter"
  | .reservedField field => "field name `" ++ field ++ "` is reserved"
  | .invalid => "invalid aggregation"

end LogQuery
