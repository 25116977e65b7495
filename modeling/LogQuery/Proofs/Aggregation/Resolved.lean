import LogQuery.Proofs.Outcome
import LogQuery.Aggregation.Plan

namespace LogQuery

/-! ## The parts of a plan

All parts of a plan come from the request through the same few checks: a field is an
identifier that the schema resolves, and a condition is a lowered filter. -/

section

variable (schema : Schema) (snapshot : FieldSnapshot)

def Dimension.IsResolved : Dimension → Prop
  | .field name reference =>
      Query.isIdentifier name = true ∧ reference = schema.resolve snapshot .unknown name
  | .time _ => True

def IsArgument (argument : String) : Prop :=
  ∃ context field, Query.isIdentifier field = true ∧
    argument = schema.resolve snapshot context field

def Aggregate.IsResolved (filters : List String) : Aggregate → Prop
  | .whole _ argument => argument = "*" ∨ IsArgument schema snapshot argument
  | .filtered _ argument condition _ =>
      (∀ text, argument = some text → IsArgument schema snapshot text) ∧
        ∃ filter ∈ filters, Query.toCondition schema snapshot filter = .ok condition

structure AggregationPlan.IsResolved (filters : List String) (plan : AggregationPlan) :
    Prop where
  dimensions : ∀ dimension ∈ plan.dimensions, dimension.IsResolved schema snapshot
  aggregates : ∀ aggregate ∈ plan.aggregates, aggregate.IsResolved schema snapshot filters

end

namespace AggregationOptions

variable {schema : Schema} {snapshot : FieldSnapshot}

theorem dimension_eq_ok_iff {field : String} {found : Dimension} :
    dimension schema snapshot field = .ok found ↔
      Query.isIdentifier field = true ∧ isReserved field = false ∧
        found = .field field (schema.resolve snapshot .unknown field) := by
  unfold dimension
  cases Query.isIdentifier field with
  | false => simp
  | true => cases isReserved field <;> simp [eq_comm]

theorem argument_eq_ok_iff {operation : Operation} {field argument : String} :
    AggregationOptions.argument schema snapshot operation field = .ok argument ↔
      Query.isIdentifier field = true ∧
        argument = schema.resolve snapshot
          (if operation = .count then .unknown else .number) field := by
  unfold AggregationOptions.argument
  cases Query.isIdentifier field <;> simp [eq_comm]

theorem isResolved_of_dimension {field : String} {found : Dimension}
    (checked : dimension schema snapshot field = .ok found) :
    found.IsResolved schema snapshot := by
  rcases dimension_eq_ok_iff.mp checked with ⟨named, _, rfl⟩
  exact ⟨named, rfl⟩

theorem isArgument_of_argument {operation : Operation} {field argument : String}
    (checked : AggregationOptions.argument schema snapshot operation field = .ok argument) :
    IsArgument schema snapshot argument := by
  rcases argument_eq_ok_iff.mp checked with ⟨named, resolved⟩
  exact ⟨_, field, named, resolved⟩

theorem toCondition_of_filterCondition {filter condition : String}
    (checked : filterCondition schema snapshot filter = .ok condition) :
    Query.toCondition schema snapshot filter = .ok condition := by
  unfold filterCondition at checked
  split at checked
  · next lowered =>
      split at checked
      · contradiction
      · cases checked
        exact lowered
  · contradiction

/-- The fields to break down by, as they are used. -/
def breakDownNames (options : AggregationOptions) : List String :=
  (options.breakDownByFields.map Text.trim).filter (· ≠ "")

variable {options : AggregationOptions}

theorem operation_of_vertical {operation : Operation}
    (checked : options.verticalOperation = .ok operation) :
    options.verticalAxisOperation = operation.name := by
  unfold verticalOperation at checked
  split at checked
  · contradiction
  · next parsed =>
      split at checked
      · contradiction
      · cases checked
        exact Operation.parse?_eq_some_iff.mp parsed

theorem isResolved_of_breakDownDimensions {dimensions : List Dimension}
    (checked : options.breakDownDimensions schema snapshot = .ok dimensions) :
    ∀ dimension ∈ dimensions, dimension.IsResolved schema snapshot := by
  intro dimension member
  rcases exists_of_mem_mapM checked member with ⟨field, _, found⟩
  exact isResolved_of_dimension found

theorem toCondition_of_breakDownConditions {conditions : List String}
    (checked : options.breakDownConditions schema snapshot = .ok conditions) :
    ∀ condition ∈ conditions, ∃ filter ∈ options.breakDownByFilters,
      Query.toCondition schema snapshot filter = .ok condition := by
  intro condition member
  rcases exists_of_mem_mapM checked member with ⟨filter, inFilters, found⟩
  exact ⟨filter, inFilters, toCondition_of_filterCondition found⟩

theorem isArgument_of_verticalArgument {operation : Operation} {argument : Option String}
    (checked : options.verticalArgument schema snapshot operation = .ok argument) :
    ∀ text, argument = some text → IsArgument schema snapshot text := by
  unfold verticalArgument at checked
  split at checked
  · cases checked
    intro text impossible
    contradiction
  · rcases map_eq_ok_iff.mp checked with ⟨found, computed, rfl⟩
    rintro text ⟨⟩
    exact isArgument_of_argument computed

theorem isResolved_of_aggregates {operation : Operation} {conditions : List String}
    {aggregates : List Aggregate}
    (lowered : ∀ condition ∈ conditions, ∃ filter ∈ options.breakDownByFilters,
      Query.toCondition schema snapshot filter = .ok condition)
    (checked : options.aggregates schema snapshot operation conditions = .ok aggregates) :
    ∀ aggregate ∈ aggregates,
      aggregate.IsResolved schema snapshot options.breakDownByFilters := by
  unfold AggregationOptions.aggregates at checked
  rcases bind_eq_ok_iff.mp checked with ⟨argument, found, built⟩
  have resolved := isArgument_of_verticalArgument found
  split at built
  · cases built
    intro aggregate member
    rw [List.mem_singleton] at member
    rw [member]
    cases argument with
    | none => exact .inl rfl
    | some text => exact .inr (resolved text rfl)
  · cases built
    intro aggregate member
    rcases List.mem_mapIdx.mp member with ⟨index, inRange, rfl⟩
    exact ⟨resolved, lowered _ (List.getElem_mem inRange)⟩

/-! ### The three kinds of plans

What a plan consists of, and all that was checked for it. -/

/-- A pie without a size of its own takes the slice for it. -/
def sizeName (options : AggregationOptions) : String :=
  if Text.trim options.sizeByField = "" then Text.trim options.sliceBy
  else Text.trim options.sizeByField

variable {plan : AggregationPlan}

theorem pie_eq_ok_iff :
    options.pie schema snapshot = .ok plan ↔
      Text.trim options.sliceBy ≠ "" ∧
      ∃ operation, Operation.parse? options.sizeByOperation = some operation ∧
        (Text.trim options.sizeByField = "" → operation = .count) ∧
      ∃ slice, dimension schema snapshot (Text.trim options.sliceBy) = .ok slice ∧
      ∃ size, argument schema snapshot operation options.sizeName = .ok size ∧
        ⟨[slice], [.whole operation size], .unordered, none⟩ = plan := by
  by_cases blank : Text.trim options.sliceBy = ""
  · simp [pie, blank]
  · cases parsed : Operation.parse? options.sizeByOperation with
    | none => simp [pie, blank, parsed]
    | some operation =>
        by_cases missing : Text.trim options.sizeByField = "" ∧ operation ≠ .count
        · simp [pie, blank, parsed, missing]
        · have sized : Text.trim options.sizeByField = "" → operation = .count := by
            simpa using missing
          simp [pie, blank, parsed, missing, bind_eq_ok_iff, sizeName]
          exact fun _ _ _ _ _ => sized

theorem top_eq_ok_iff :
    options.top schema snapshot = .ok plan ↔
      Text.trim options.horizontalAxisField ≠ "" ∧
      ∃ operation, options.verticalOperation = .ok operation ∧
      ∃ limit, options.limit = .ok limit ∧
      ∃ first,
        dimension schema snapshot (Text.trim options.horizontalAxisField) = .ok first ∧
      ∃ breakDowns, options.breakDownDimensions schema snapshot = .ok breakDowns ∧
      ∃ conditions, options.breakDownConditions schema snapshot = .ok conditions ∧
      ∃ aggregates,
        options.aggregates schema snapshot operation conditions = .ok aggregates ∧
        ⟨first :: breakDowns, aggregates,
          if conditions = [] then .byData operation
            (if options.horizontalAxisOrder = "descending" then .descending else .ascending)
          else .unordered, limit⟩ = plan := by
  by_cases blank : Text.trim options.horizontalAxisField = ""
  · simp [top, blank]
  · simp [top, blank, bind_eq_ok_iff]

theorem timeSeries_eq_ok_iff {span : Int} :
    options.timeSeries schema snapshot span = .ok plan ↔
      ∃ operation, options.verticalOperation = .ok operation ∧
      ∃ breakDowns, options.breakDownDimensions schema snapshot = .ok breakDowns ∧
      ∃ conditions, options.breakDownConditions schema snapshot = .ok conditions ∧
      ∃ aggregates,
        options.aggregates schema snapshot operation conditions = .ok aggregates ∧
        ⟨.time (timeInterval span) :: breakDowns, aggregates, .byTime, none⟩ = plan := by
  simp [timeSeries, bind_eq_ok_iff]

theorem isResolved_of_pie (planned : options.pie schema snapshot = .ok plan) :
    plan.IsResolved schema snapshot options.breakDownByFilters := by
  rcases pie_eq_ok_iff.mp planned with ⟨_, _, _, _, slice, found, size, resolved, rfl⟩
  refine ⟨?_, ?_⟩
  · simp only [List.forall_mem_singleton]
    exact isResolved_of_dimension found
  · simp only [List.forall_mem_singleton]
    exact .inr (isArgument_of_argument resolved)

theorem isResolved_of_top (planned : options.top schema snapshot = .ok plan) :
    plan.IsResolved schema snapshot options.breakDownByFilters := by
  rcases top_eq_ok_iff.mp planned with ⟨_, _, _, _, _, first, foundFirst, breakDowns, foundRest,
    conditions, lowered, aggregates, computed, rfl⟩
  refine ⟨?_, ?_⟩
  · exact List.forall_mem_cons.mpr ⟨isResolved_of_dimension foundFirst,
      isResolved_of_breakDownDimensions foundRest⟩
  · exact isResolved_of_aggregates (toCondition_of_breakDownConditions lowered) computed

theorem isResolved_of_timeSeries {span : Int}
    (planned : options.timeSeries schema snapshot span = .ok plan) :
    plan.IsResolved schema snapshot options.breakDownByFilters := by
  rcases timeSeries_eq_ok_iff.mp planned with ⟨_, _, breakDowns, found, conditions, lowered,
    aggregates, computed, rfl⟩
  refine ⟨?_, ?_⟩
  · exact List.forall_mem_cons.mpr ⟨trivial, isResolved_of_breakDownDimensions found⟩
  · exact isResolved_of_aggregates (toCondition_of_breakDownConditions lowered) computed

end AggregationOptions

def Chart.name : Chart → String
  | .pie => "pie"
  | .bar => "bar"
  | .line => "line"
  | .area => "area"

theorem Chart.parse?_eq_some_iff {text : String} {chart : Chart} :
    parse? text = some chart ↔ text = chart.name := by
  constructor
  · intro found
    unfold parse? at found
    split at found <;> cases found <;> rfl
  · rintro rfl
    cases chart <;> rfl

theorem Chart.ne_pie_iff {chart : Chart} :
    chart ≠ .pie ↔ chart.name ∈ ["bar", "line", "area"] := by
  cases chart <;> decide

/-- A bar with the greatest values first, or any chart over time but a pie. -/
theorem AggregationRequest.plan_cases {request : AggregationRequest} {schema : Schema}
    {snapshot : FieldSnapshot} {span : Int} {plan : AggregationPlan}
    (planned : request.plan schema snapshot span = .ok plan) :
    (request.chart = "pie" ∧ request.options.pie schema snapshot = .ok plan) ∨
    (request.chart = "bar" ∧ request.options.horizontalAxisOperation = "top" ∧
      request.options.top schema snapshot = .ok plan) ∨
    (request.chart ∈ ["bar", "line", "area"] ∧
      request.options.horizontalAxisOperation = "time" ∧
      request.options.timeSeries schema snapshot span = .ok plan) := by
  unfold AggregationRequest.plan at planned
  split at planned
  · contradiction
  · next chart parsed =>
      have named := Chart.parse?_eq_some_iff.mp parsed
      have timed : chart ≠ .pie → request.chart ∈ ["bar", "line", "area"] := by
        rw [named]
        exact Chart.ne_pie_iff.mp
      unfold AggregationOptions.plan at planned
      split at planned
      · exact .inl ⟨named, planned⟩
      · next axis => exact .inr (.inl ⟨named, axis, planned⟩)
      · next notPie axis => exact .inr (.inr ⟨timed notPie, axis, planned⟩)
      · contradiction

/-- Every plan is made of resolved parts, whatever the request. -/
theorem AggregationRequest.isResolved_of_plan {request : AggregationRequest}
    {schema : Schema} {snapshot : FieldSnapshot} {span : Int} {plan : AggregationPlan}
    (planned : request.plan schema snapshot span = .ok plan) :
    plan.IsResolved schema snapshot request.options.breakDownByFilters := by
  rcases request.plan_cases planned with ⟨_, pie⟩ | ⟨_, _, top⟩ | ⟨_, _, timeSeries⟩
  · exact AggregationOptions.isResolved_of_pie pie
  · exact AggregationOptions.isResolved_of_top top
  · exact AggregationOptions.isResolved_of_timeSeries timeSeries

end LogQuery
