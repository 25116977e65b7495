import LogQuery.Aggregation.Run
import LogQuery.Logs.Search
import LogQuery.Proofs.Aggregation.Resolved
import LogQuery.Proofs.Fields.Insertion

namespace LogQuery

/-! ## What is read off a snapshot

A snapshot only tells whether a field has numbers, and it is asked only for a field that is
no column and that nothing else gives a type. -/

/-- If the snapshot is needed for a field, both give the same answer. -/
def Schema.Agree (schema : Schema) (one other : FieldSnapshot) (field : String) : Prop :=
  schema.isColumn field = true ∨ (field ∈ one.numbers.toList ↔ field ∈ other.numbers.toList)

section

variable {schema : Schema} {one other : FieldSnapshot}

theorem Schema.resolve_of_agree {field : String} (agree : schema.Agree one other field)
    (context : TypeContext) :
    schema.resolve one context field = schema.resolve other context field := by
  rcases agree with column | same
  · simp only [resolve, column, if_true]
  · simp only [resolve, FieldSnapshot.hasNumber_iff_mem, same]

/-! ### Queries

Every field of a query that is not at fault stands beside a constant, and a fault names the
fields as they are written. -/

namespace Query

theorem Comparison.operandTexts_congr (comparison : Comparison) :
    comparison.operandTexts schema one = comparison.operandTexts schema other := by
  rcases comparison with ⟨left, operator, right⟩
  cases left with
  | field left => cases right <;> rfl
  | number left => cases right <;> rfl
  | literal left => cases right <;> rfl

mutual
theorem Expr.condition_congr (expr : Expr) :
    expr.condition schema one = expr.condition schema other := by
  cases expr with
  | predicate predicate =>
      rw [Expr.condition, Expr.condition]
      exact predicate.condition_congr
  | junction left joint right =>
      rw [Expr.condition, Expr.condition, left.condition_congr, right.condition_congr]

theorem Predicate.condition_congr (predicate : Predicate) :
    predicate.condition schema one = predicate.condition schema other := by
  cases predicate with
  | comparison comparison =>
      simp only [Predicate.condition, Comparison.condition]
      rw [comparison.operandTexts_congr]
  | not inner => rw [Predicate.condition, Predicate.condition, inner.condition_congr]
  | present field => rw [Predicate.condition, Predicate.condition]
  | group inner => rw [Predicate.condition, Predicate.condition, inner.condition_congr]
end

theorem toCondition_congr (schema : Schema) (one other : FieldSnapshot) (input : String) :
    toCondition schema one input = toCondition schema other input := by
  simp only [toCondition, lower]
  split
  · rfl
  · split
    · rfl
    · next expr _ => rw [expr.condition_congr]

end Query

/-! ### Plans

A field that the rows are grouped by has no type, and neither has a field that is only
counted. -/

namespace AggregationOptions

/-- The field whose values a pie counts, if one is named. -/
def countedNames (options : AggregationOptions) : List String :=
  if options.sizeByOperation = "count" then [Text.trim options.sizeByField].filter (· ≠ "")
  else []

def untypedFields (options : AggregationOptions) (chart : Chart) : List String :=
  match chart, options.horizontalAxisOperation with
  | .pie, _ => Text.trim options.sliceBy :: options.countedNames
  | .bar, "top" => Text.trim options.horizontalAxisField :: options.breakDownNames
  | _, "time" => options.breakDownNames
  | _, _ => []

theorem dimension_of_agree {field : String} (agree : schema.Agree one other field) :
    dimension schema one field = dimension schema other field := by
  rw [dimension, dimension, Schema.resolve_of_agree agree]

theorem argument_of_agree {operation : Operation} {field : String}
    (agree : operation = .count → schema.Agree one other field) :
    argument schema one operation field = argument schema other operation field := by
  unfold argument
  dsimp only
  by_cases counted : operation = .count
  · rw [Schema.resolve_of_agree (agree counted)]
  · rw [if_neg counted]
    rfl

variable (options : AggregationOptions)

theorem breakDownConditions_congr (schema : Schema) (one other : FieldSnapshot) :
    options.breakDownConditions schema one = options.breakDownConditions schema other := by
  apply mapM_congr
  intro filter _
  rw [filterCondition, filterCondition, Query.toCondition_congr]

theorem aggregates_congr (schema : Schema) (one other : FieldSnapshot) (operation : Operation)
    (conditions : List String) :
    options.aggregates schema one operation conditions =
      options.aggregates schema other operation conditions := by
  have argument : options.verticalArgument schema one operation =
      options.verticalArgument schema other operation := by
    unfold verticalArgument
    split
    · rfl
    · next typed => rw [argument_of_agree fun counted => absurd counted typed]
  rw [aggregates, aggregates, argument]

variable {options}

theorem breakDownDimensions_of_agree
    (agree : ∀ field ∈ options.breakDownNames, schema.Agree one other field) :
    options.breakDownDimensions schema one = options.breakDownDimensions schema other :=
  mapM_congr fun field member => dimension_of_agree (agree field member)

theorem pie_of_agree
    (agree : ∀ field ∈ Text.trim options.sliceBy :: options.countedNames,
      schema.Agree one other field) :
    options.pie schema one = options.pie schema other := by
  rcases List.forall_mem_cons.mp agree with ⟨slice, counted⟩
  unfold pie
  dsimp only
  split
  · rfl
  · split
    · rfl
    · next operation parsed =>
        split
        · rfl
        · -- Without a size of its own, a count takes the slice.
          have size : operation = .count → schema.Agree one other
              (if Text.trim options.sizeByField = "" then Text.trim options.sliceBy
                else Text.trim options.sizeByField) := by
            rintro rfl
            have named := Operation.parse?_eq_some_iff.mp parsed
            split
            · exact slice
            · next nonblank =>
                apply counted
                simp [countedNames, named, Operation.name, nonblank]
          rw [dimension_of_agree slice, argument_of_agree size]

theorem top_of_agree
    (agree : ∀ field ∈ Text.trim options.horizontalAxisField :: options.breakDownNames,
      schema.Agree one other field) :
    options.top schema one = options.top schema other := by
  rcases List.forall_mem_cons.mp agree with ⟨horizontal, breakDowns⟩
  simp only [top, dimension_of_agree horizontal, breakDownDimensions_of_agree breakDowns,
    options.breakDownConditions_congr schema one other,
    options.aggregates_congr schema one other]

theorem timeSeries_of_agree (span : Int)
    (agree : ∀ field ∈ options.breakDownNames, schema.Agree one other field) :
    options.timeSeries schema one span = options.timeSeries schema other span := by
  simp only [timeSeries, breakDownDimensions_of_agree agree,
    options.breakDownConditions_congr schema one other,
    options.aggregates_congr schema one other]

theorem plan_of_agree {chart : Chart} (span : Int)
    (agree : ∀ field ∈ options.untypedFields chart, schema.Agree one other field) :
    options.plan schema one chart span = options.plan schema other chart span := by
  unfold untypedFields at agree
  unfold AggregationOptions.plan
  split at agree
  · exact pie_of_agree agree
  · next horizontal => simpa only [horizontal] using top_of_agree agree
  · next horizontal => simpa only [horizontal] using timeSeries_of_agree span agree
  · simp only

end AggregationOptions

/-! ### Requests -/

def AggregationRequest.untypedFields (request : AggregationRequest) : List String :=
  match Chart.parse? request.chart with
  | none => []
  | some chart => request.options.untypedFields chart

theorem AggregationRequest.plan_of_agree {request : AggregationRequest} (span : Int)
    (agree : ∀ field ∈ request.untypedFields, schema.Agree one other field) :
    request.plan schema one span = request.plan schema other span := by
  unfold untypedFields at agree
  unfold AggregationRequest.plan
  cases parsed : Chart.parse? request.chart with
  | none => rfl
  | some chart =>
      rw [parsed] at agree
      exact AggregationOptions.plan_of_agree span agree

theorem Schema.not_agree_iff {field : String} :
    ¬schema.Agree one other field ↔ schema.isColumn field = false ∧
      (field ∈ one.numbers.toList ↔ field ∉ other.numbers.toList) := by
  unfold Agree
  grind

theorem AggregationRequest.statement_of_numbers
    (numbers : ∀ key, key ∈ one.numbers.toList ↔ key ∈ other.numbers.toList)
    (request : AggregationRequest) :
    request.statement schema one = request.statement schema other := by
  have planned : ∀ span, request.plan schema one span = request.plan schema other span :=
    fun span => plan_of_agree span fun field _ => .inr (numbers field)
  simp only [statement, planned, Query.toCondition_congr schema one other]

end

/-- A filter is the same under all snapshots, and a search issues the same statements and gives
the same answers. A chart depends on the number keys alone, and of these only on the fields
that it uses without a type. -/
theorem snapshots_keep_filters (schema : Schema) (one other : FieldSnapshot) :
    (∀ input, Query.toCondition schema one input = Query.toCondition schema other input) ∧
    (∀ request session, (searchLogs schema one request).execute session =
      (searchLogs schema other request).execute session) ∧
    ((∀ key, key ∈ one.numbers.toList ↔ key ∈ other.numbers.toList) →
      ∀ request : AggregationRequest,
        (∀ span, request.plan schema one span = request.plan schema other span) ∧
        request.statement schema one = request.statement schema other ∧
        ∀ session, (runAggregation schema one request).execute session =
          (runAggregation schema other request).execute session) ∧
    ∀ (request : AggregationRequest) (span : Int),
      request.plan schema one span ≠ request.plan schema other span →
      ∃ field ∈ request.untypedFields, schema.isColumn field = false ∧
        (field ∈ one.numbers.toList ↔ field ∉ other.numbers.toList) := by
  refine ⟨Query.toCondition_congr schema one other, ?_, ?_, ?_⟩
  · intro request session
    have planned : request.plan schema one = request.plan schema other := by
      simp only [LogsRequest.plan, Query.toCondition_congr schema one other]
    simp only [searchLogs, planned]
  · intro numbers request
    have same : request.statement schema one = request.statement schema other :=
      request.statement_of_numbers numbers
    refine ⟨?_, same, ?_⟩
    · intro span
      exact AggregationRequest.plan_of_agree span fun field _ => .inr (numbers field)
    · intro session
      simp only [runAggregation, same]
  · intro request span differ
    have disagreed : ∃ field ∈ request.untypedFields, ¬schema.Agree one other field := by
      apply Classical.byContradiction
      intro agreed
      apply differ
      apply AggregationRequest.plan_of_agree
      intro field member
      exact Classical.byContradiction fun disagree => agreed ⟨field, member, disagree⟩
    rcases disagreed with ⟨field, member, disagree⟩
    exact ⟨field, member, Schema.not_agree_iff.mp disagree⟩

/-- A pie that counts the rows for each value of a dynamic field. -/
def tookPie : AggregationRequest :=
  { chart := "pie", options := { sliceBy := "took", sizeByOperation := "count" } }

theorem plan_tookPie (snapshot : FieldSnapshot) :
    tookPie.plan ⟨"logs", []⟩ snapshot 60 =
      let reference := Schema.resolve ⟨"logs", []⟩ snapshot .unknown "took"
      .ok ⟨[.field "took" reference], [.whole .count reference], .unordered, none⟩ :=
  rfl

def mergedTwice : FieldSnapshot :=
  (FieldSnapshot.empty.merge ["user"] ["took"]).merge [] ["size"]

/-- The same number keys in another order, without the text keys, give the same chart. Where
the field is not known as a number, it is another chart. -/
theorem snapshots_keep_filters_merged :
    (∀ key, key ∈ mergedTwice.numbers.toList ↔
      key ∈ (FieldSnapshot.ofLists [] ["size", "took"]).numbers.toList) ∧
    tookPie.statement ⟨"logs", []⟩ mergedTwice =
      tookPie.statement ⟨"logs", []⟩ (.ofLists [] ["size", "took"]) ∧
    tookPie.plan ⟨"logs", []⟩ mergedTwice 60 ≠ tookPie.plan ⟨"logs", []⟩ .empty 60 ∧
    ∃ field ∈ tookPie.untypedFields, Schema.isColumn ⟨"logs", []⟩ field = false ∧
      (field ∈ mergedTwice.numbers.toList ↔ field ∉ FieldSnapshot.empty.numbers.toList) := by
  have merged : mergedTwice.numbers.toList = ["took", "size"] := by
    simp [mergedTwice, FieldSnapshot.merge, FieldSnapshot.empty, KeySet.toList_insert]
  have listed : (FieldSnapshot.ofLists [] ["size", "took"]).numbers.toList =
      ["size", "took"] := by
    simp [FieldSnapshot.ofLists, FieldSnapshot.merge, FieldSnapshot.empty, KeySet.toList_insert]
  have numbers : ∀ key, key ∈ mergedTwice.numbers.toList ↔
      key ∈ (FieldSnapshot.ofLists [] ["size", "took"]).numbers.toList := by
    intro key
    simp [merged, listed, or_comm]
  have differ : tookPie.plan ⟨"logs", []⟩ mergedTwice 60 ≠
      tookPie.plan ⟨"logs", []⟩ .empty 60 := by
    have known : mergedTwice.hasNumber "took" = true := by
      simp [FieldSnapshot.hasNumber_iff_mem, merged]
    have unknown : FieldSnapshot.empty.hasNumber "took" = false := by
      simp [← Bool.not_eq_true, FieldSnapshot.hasNumber_iff_mem, FieldSnapshot.empty]
    have dynamic : Schema.isColumn ⟨"logs", []⟩ "took" = false := by decide
    rw [plan_tookPie, plan_tookPie]
    simp [Schema.resolve, known, unknown, dynamic, FieldKind.reference, FieldKind.mapColumn]
  rcases snapshots_keep_filters ⟨"logs", []⟩ mergedTwice (.ofLists [] ["size", "took"]) with
    ⟨_, _, sameCharts, _⟩
  rcases snapshots_keep_filters ⟨"logs", []⟩ mergedTwice .empty with ⟨_, _, _, changed⟩
  exact ⟨numbers, (sameCharts numbers tookPie).2.1, differ, changed tookPie 60 differ⟩

end LogQuery
