import LogQuery.Aggregation.Run
import LogQuery.Logs.Search
import LogQuery.Proofs.Aggregation.Resolved
import LogQuery.Proofs.Query.Contained
import LogQuery.Proofs.Store.Issued

namespace LogQuery.Sql

/-! ## Numbers and times -/

theorem isDigits_repr (natural : Nat) :
    ∀ digit ∈ natural.repr.toList, digit.isDigit = true := by
  intro digit member
  rw [Nat.repr_eq_ofList_toDigits, String.toList_ofList] at member
  exact Nat.isDigit_of_mem_toDigits (by decide) (by decide) member

theorem isPiece_natural (natural : Nat) : IsPiece natural.repr := by
  rw [← String.ofList_toList (s := natural.repr)]
  exact isPiece_digits (isDigits_repr natural)

theorem isPiece_integer (integer : Int) : IsPiece (toString integer) := by
  cases integer with
  | ofNat natural => exact isPiece_natural natural
  | negSucc natural =>
      change IsPiece ("-" ++ natural.succ.repr)
      rw [← String.ofList_toList (s := natural.succ.repr)]
      change IsPiece (String.ofList ['-'] ++ _)
      rw [← String.ofList_append]
      refine isPiece_signed (.inr (.inr rfl)) ⟨?_, isDigits_repr natural.succ⟩
      rw [Nat.repr_eq_ofList_toDigits, String.toList_ofList]
      exact Nat.toDigits_ne_nil

theorem isPiece_unixTime (seconds : Int) : IsPiece (unixTime seconds) := by
  have opening : Passes outside inParen "FROM_UNIXTIME(" := .ofList (by decide)
  have closing : Passes inParen outside ")" := .ofList (by decide)
  exact .enclosed opening (isPiece_integer seconds) closing

theorem isPiece_intervalStart {time : String} (timePiece : IsPiece time) (interval : Int) :
    IsPiece (intervalStart time interval) := by
  have opening : Passes outside inParen "toStartOfInterval(" := .ofList (by decide)
  have between : Passes inParen inParen ", INTERVAL " := .ofList (by decide)
  have closing : Passes inParen outside " second)" := .ofList (by decide)
  have width := (isPiece_integer interval).inside [')']
  exact (((opening.append (timePiece.inside [')'])).append between).append width).append
    closing

theorem isPiece_rangesCondition (ranges : List TimeRange) :
    IsPiece (rangesCondition ranges) := by
  apply IsPiece.intercalate (.ofList (by decide))
  intro text member
  rcases List.mem_map.mp member with ⟨range, _, rfl⟩
  have opening : Passes outside inParen "(timestamp >= " := .ofList (by decide)
  have between : Passes inParen inParen " AND timestamp <= " := .ofList (by decide)
  have closing : Passes inParen outside ")" := .ofList (by decide)
  have first := (isPiece_unixTime range.first).inside [')']
  have last := (isPiece_unixTime range.last).inside [')']
  exact (((opening.append first).append between).append last).append closing

/-! ## Clauses -/

theorem isPiece_table {schema : Schema} (named : Query.isIdentifier schema.database = true) :
    IsPiece schema.table := by
  have suffix : IsPiece ".logs" := .ofList (by decide)
  exact (isPiece_identifier named).append suffix

theorem isPiece_settingsClause : IsPiece settingsClause :=
  .ofList (by decide)

theorem isPiece_joinedCondition {condition : String} (piece : IsPiece condition) :
    IsPiece (joinedCondition condition) := by
  unfold joinedCondition
  split
  · exact .empty
  · have opening : Passes outside inParen " AND (" := .ofList (by decide)
    have closing : Passes inParen outside ")" := .ofList (by decide)
    exact .enclosed opening piece closing

theorem encloses_of_joinedCondition {statement condition : String}
    (stands : StandsIn (joinedCondition condition) statement) (piece : IsPiece condition)
    (nonempty : condition ≠ "") : Encloses statement " AND (" condition := by
  rw [joinedCondition, if_neg nonempty] at stands
  exact stands.encloses (.ofList (by decide)) piece

/-! ## The statements of a search -/

theorem standsIn_histogramStatement {schema : Schema}
    (named : Query.isIdentifier schema.database = true) (range : TimeRange)
    (interval : Int) (condition : String) :
    StandsIn (joinedCondition condition)
      (histogramStatement schema range interval condition) := by
  have selecting : IsPiece "SELECT " := .ofList (by decide)
  have naming : IsPiece " AS interval_data, count(*) AS count_data FROM " :=
    .ofList (by decide)
  have restricting : IsPiece " WHERE timestamp >= " := .ofList (by decide)
  have upTo : IsPiece " AND timestamp <= " := .ofList (by decide)
  have grouping :
      IsPiece " GROUP BY interval_data ORDER BY interval_data WITH FILL FROM " :=
    .ofList (by decide)
  have ending : IsPiece " TO " := .ofList (by decide)
  have stepping : IsPiece " STEP " := .ofList (by decide)
  have blank : IsPiece " " := .ofList (by decide)
  have column : IsPiece "timestamp" := .ofList (by decide)
  have first := isPiece_unixTime range.first
  have last := isPiece_unixTime range.last
  have front := ((((((selecting.append (isPiece_intervalStart column interval)).append
    naming).append (isPiece_table named)).append restricting).append first).append
    upTo).append last
  exact (((((((StandsIn.behind front).append grouping).append
    (isPiece_intervalStart first interval)).append ending).append
    (isPiece_intervalStart last interval)).append stepping).append
    (isPiece_integer interval)).append blank |>.append isPiece_settingsClause

theorem isPiece_rowColumns : IsPiece (", ".intercalate rowColumns) := by
  have named : ∀ column ∈ rowColumns, Query.isIdentifier column = true := by decide
  exact .intercalate (.ofList (by decide)) fun column member =>
    isPiece_identifier (named column member)

theorem standsIn_rowStatement {schema : Schema}
    (named : Query.isIdentifier schema.database = true) {plan : LogsPlan}
    (ordered : Query.isIdentifier plan.order.field = true) (limit : Nat)
    (ranges : List TimeRange) :
    StandsIn (joinedCondition plan.condition) (rowStatement schema plan limit ranges) := by
  have selecting : IsPiece "SELECT " := .ofList (by decide)
  have source : IsPiece " FROM " := .ofList (by decide)
  have opening : Passes outside inParen " WHERE (" := .ofList (by decide)
  have closing : Passes inParen outside ")" := .ofList (by decide)
  have ordering : IsPiece " ORDER BY " := .ofList (by decide)
  have limiting : IsPiece " LIMIT " := .ofList (by decide)
  have blank : IsPiece " " := .ofList (by decide)
  have clause := isPiece_orderClause schema plan.order.direction ordered
  have front := (((((selecting.append isPiece_rowColumns).append source).append
    (isPiece_table named)).append opening).append
    ((isPiece_rangesCondition ranges).inside [')'])).append closing
  exact (((((StandsIn.behind front).append ordering).append clause).append
    limiting).append (isPiece_natural limit)).append blank |>.append isPiece_settingsClause

theorem isIdentifier_of_parse {direction field : String} {order : LogsOrder}
    (parsed : LogsOrder.parse direction field = .ok order) :
    Query.isIdentifier order.field = true := by
  unfold LogsOrder.parse at parsed
  dsimp only at parsed
  split at parsed
  · next named =>
      cases parsed
      exact named
  · contradiction

/-! ## The statement of a chart -/

variable {schema : Schema} {snapshot : FieldSnapshot}

theorem isPiece_dimension_select {dimension : Dimension}
    (resolved : dimension.IsResolved schema snapshot) : IsPiece dimension.select := by
  cases dimension with
  | field name reference =>
      rcases resolved with ⟨named, rfl⟩
      have referencePiece := isPiece_resolve schema snapshot .unknown named
      unfold Dimension.select
      dsimp only
      split
      · exact referencePiece
      · have opening : Passes outside ⟨.name, []⟩ " AS `" := .ofList (by decide)
        have closing : Passes ⟨.name, []⟩ outside "`" := .ofList (by decide)
        have quoted : Passes ⟨.name, []⟩ ⟨.name, []⟩ name :=
          passes_identifier (by decide) named
        exact ((referencePiece.append opening).append quoted).append closing
  | time interval =>
      have opening : Passes outside inParen "toStartOfInterval(timestamp, INTERVAL " :=
        .ofList (by decide)
      have closing : Passes inParen outside " second) AS " := .ofList (by decide)
      have naming : IsPiece timeAlias := .ofList (by decide)
      exact ((opening.append ((isPiece_integer interval).inside [')'])).append
        closing).append naming

theorem isPiece_dimension_group {dimension : Dimension}
    (resolved : dimension.IsResolved schema snapshot) : IsPiece dimension.group := by
  cases dimension with
  | field name reference =>
      rcases resolved with ⟨named, rfl⟩
      exact isPiece_resolve schema snapshot .unknown named
  | time interval => exact .ofList (by decide)

theorem isPiece_argument {argument : String}
    (resolved : IsArgument schema snapshot argument) : IsPiece argument := by
  rcases resolved with ⟨context, field, named, rfl⟩
  exact isPiece_resolve schema snapshot context named

theorem isPiece_operation (operation : Operation) : IsPiece operation.name := by
  cases operation <;> exact .ofList (by decide)

theorem isPiece_dataAlias (operation : Operation) : IsPiece operation.dataAlias := by
  have suffix : IsPiece "_data" := .ofList (by decide)
  exact (isPiece_operation operation).append suffix

theorem isPiece_columnName (aggregate : Aggregate) : IsPiece aggregate.columnName := by
  cases aggregate with
  | whole operation argument => exact isPiece_dataAlias operation
  | filtered operation argument condition index =>
      have suffix : IsPiece "_filter" := .ofList (by decide)
      exact ((isPiece_dataAlias operation).append suffix).append (isPiece_natural index)

/-- What stands before the condition of an aggregate under a filter. -/
def filterOpening (operation : Operation) : Option String → String
  | none => operation.name ++ "If("
  | some argument => operation.name ++ "If(" ++ argument ++ ", "

theorem passes_filterOpening (operation : Operation) {argument : Option String}
    (resolved : ∀ text, argument = some text → IsArgument schema snapshot text) :
    Passes outside inParen (filterOpening operation argument) := by
  have opening : Passes outside inParen "If(" := .ofList (by decide)
  have calling := Passes.append (isPiece_operation operation) opening
  cases argument with
  | none => exact calling
  | some text =>
      have between : Passes inParen inParen ", " := .ofList (by decide)
      have argumentPiece := (isPiece_argument (resolved text rfl)).inside [')']
      exact (calling.append argumentPiece).append between

theorem expression_filtered (operation : Operation) (argument : Option String)
    (condition : String) (index : Nat) :
    (Aggregate.filtered operation argument condition index).expression =
      filterOpening operation argument ++ condition ++ ")" := by
  cases argument <;> rfl

theorem isPiece_expression {aggregate : Aggregate} {filters : List String}
    (resolved : aggregate.IsResolved schema snapshot filters) :
    IsPiece aggregate.expression := by
  have closing : Passes inParen outside ")" := .ofList (by decide)
  cases aggregate with
  | whole operation argument =>
      rcases resolved with rfl | resolved
      · have star : IsPiece "(*)" := .ofList (by decide)
        have joined : (Aggregate.whole operation "*").expression = operation.name ++ "(*)" := by
          rw [Aggregate.expression, String.append_assoc, String.append_assoc]
          rfl
        rw [joined]
        exact Passes.append (isPiece_operation operation) star
      · have opening : Passes outside inParen "(" := .ofList (by decide)
        have calling := Passes.append (isPiece_operation operation) opening
        exact .enclosed calling (isPiece_argument resolved) closing
  | filtered operation argument condition index =>
      rcases resolved with ⟨argumentResolved, filter, _, lowered⟩
      rw [expression_filtered]
      exact .enclosed (passes_filterOpening operation argumentResolved)
        (isPiece_toCondition lowered) closing

theorem isPiece_aggregate_select {aggregate : Aggregate} {filters : List String}
    (resolved : aggregate.IsResolved schema snapshot filters) :
    IsPiece aggregate.select := by
  have naming : IsPiece " as " := .ofList (by decide)
  exact ((isPiece_expression resolved).append naming).append (isPiece_columnName aggregate)

theorem isPiece_select_parts {plan : AggregationPlan} {filters : List String}
    (resolved : plan.IsResolved schema snapshot filters) :
    ∀ text ∈ plan.dimensions.map Dimension.select ++ plan.aggregates.map Aggregate.select,
      IsPiece text := by
  intro text member
  rcases List.mem_append.mp member with inDimensions | inAggregates
  · rcases List.mem_map.mp inDimensions with ⟨dimension, found, rfl⟩
    exact isPiece_dimension_select (resolved.dimensions dimension found)
  · rcases List.mem_map.mp inAggregates with ⟨aggregate, found, rfl⟩
    exact isPiece_aggregate_select (resolved.aggregates aggregate found)

theorem isPiece_groupBy {plan : AggregationPlan} {filters : List String}
    (resolved : plan.IsResolved schema snapshot filters) : IsPiece plan.groupBy := by
  apply IsPiece.intercalate (.ofList (by decide))
  intro text member
  rcases List.mem_map.mp member with ⟨dimension, found, rfl⟩
  exact isPiece_dimension_group (resolved.dimensions dimension found)

theorem isPiece_orderBy (plan : AggregationPlan) : IsPiece plan.orderBy := by
  unfold AggregationPlan.orderBy
  cases plan.order with
  | unordered => exact .empty
  | byTime => exact .ofList (by decide)
  | byData operation direction =>
      have blank : IsPiece " " := .ofList (by decide)
      exact ((isPiece_dataAlias operation).append blank).append (isPiece_direction direction)

theorem isPiece_limitText (plan : AggregationPlan) : IsPiece plan.limitText := by
  unfold AggregationPlan.limitText
  cases plan.limit with
  | none => exact .empty
  | some limit => exact isPiece_natural limit

/-- A clause is left out when there is nothing to say in it. -/
theorem isPiece_optional {keyword text : String} (keywordPiece : IsPiece keyword)
    (piece : IsPiece text) : IsPiece (if text = "" then "" else keyword ++ text) := by
  split
  · exact .empty
  · exact keywordPiece.append piece

theorem isPiece_select {plan : AggregationPlan} {filters : List String}
    (resolved : plan.IsResolved schema snapshot filters) : IsPiece plan.select :=
  .intercalate (.ofList (by decide)) (isPiece_select_parts resolved)

theorem standsIn_chartStatement {plan : AggregationPlan} {filters : List String}
    (named : Query.isIdentifier schema.database = true)
    (resolved : plan.IsResolved schema snapshot filters) (range : TimeRange)
    {condition : String} (piece : IsPiece condition) :
    StandsIn plan.select (chartStatement schema plan range condition) ∧
      StandsIn (joinedCondition condition) (chartStatement schema plan range condition) := by
  have selecting : IsPiece "SELECT " := .ofList (by decide)
  have source : IsPiece " FROM " := .ofList (by decide)
  have restricting : IsPiece " WHERE timestamp >= " := .ofList (by decide)
  have upTo : IsPiece " AND timestamp <= " := .ofList (by decide)
  have grouping : IsPiece " GROUP BY " := .ofList (by decide)
  have ordering : IsPiece " ORDER BY " := .ofList (by decide)
  have limiting : IsPiece " LIMIT " := .ofList (by decide)
  have blank : IsPiece " " := .ofList (by decide)
  have first := isPiece_unixTime range.first
  have last := isPiece_unixTime range.last
  have table := isPiece_table named
  have groupBy := isPiece_groupBy resolved
  have orderBy := isPiece_optional ordering (isPiece_orderBy plan)
  have limitText := isPiece_optional limiting (isPiece_limitText plan)
  have front := ((((((selecting.append (isPiece_select resolved)).append source).append
    table).append restricting).append first).append upTo).append last
  constructor
  · exact (((((((((((((StandsIn.behind selecting).append source).append table).append
      restricting).append first).append upTo).append last).append
      (isPiece_joinedCondition piece)).append grouping).append groupBy).append
      orderBy).append limitText).append blank).append isPiece_settingsClause
  · exact ((((((StandsIn.behind front).append grouping).append groupBy).append
      orderBy).append limitText).append blank).append isPiece_settingsClause

theorem standsIn_filtered {plan : AggregationPlan} {filters : List String}
    (resolved : plan.IsResolved schema snapshot filters) {aggregate : Aggregate}
    (member : aggregate ∈ plan.aggregates) : StandsIn aggregate.expression plan.select := by
  have naming : IsPiece " as " := .ofList (by decide)
  have inSelect : StandsIn aggregate.expression aggregate.select :=
    ((StandsIn.behind .empty).append naming).append (isPiece_columnName aggregate)
  refine inSelect.trans (.intercalate (.ofList (by decide)) (isPiece_select_parts resolved) ?_)
  exact List.mem_append_right _ (List.mem_map_of_mem member)

/-! ## Nothing leaves its place

The condition of the request stands between parentheses of its own in every statement,
and so does the condition of every filter of a chart. -/

def EnclosesQuery (schema : Schema) (snapshot : FieldSnapshot) (query statement : String) :
    Prop :=
  ∃ condition, Query.toCondition schema snapshot query = .ok condition ∧
    IsContained condition ∧ (condition ≠ "" → Encloses statement " AND (" condition)

def EnclosesFilters (schema : Schema) (snapshot : FieldSnapshot)
    (request : AggregationRequest) (statement : String) : Prop :=
  ∃ span plan, request.times.span = .ok span ∧
    request.plan schema snapshot span = .ok plan ∧
      ∀ operation argument condition index,
        .filtered operation argument condition index ∈ plan.aggregates →
          (∃ filter ∈ request.options.breakDownByFilters,
            Query.toCondition schema snapshot filter = .ok condition) ∧
          Encloses statement (filterOpening operation argument) condition

theorem enclosesQuery_of_standsIn {query condition statement : String}
    (lowered : Query.toCondition schema snapshot query = .ok condition)
    (stands : StandsIn (joinedCondition condition) statement) :
    IsContained statement ∧ EnclosesQuery schema snapshot query statement := by
  have piece := isPiece_toCondition lowered
  refine ⟨(stands.isPiece (isPiece_joinedCondition piece)).isContained, condition, lowered,
    piece.isContained, ?_⟩
  exact encloses_of_joinedCondition stands piece

theorem plan_parts {request : LogsRequest} {plan : LogsPlan}
    (planned : request.plan schema snapshot = .ok plan) :
    Query.toCondition schema snapshot request.query = .ok plan.condition ∧
      Query.isIdentifier plan.order.field = true := by
  unfold LogsRequest.plan at planned
  rcases bind_eq_ok_iff.mp planned with ⟨condition, lowered, rest⟩
  rcases bind_eq_ok_iff.mp rest with ⟨order, ordered, rest⟩
  rcases bind_eq_ok_iff.mp rest with ⟨span, _, built⟩
  cases built
  exact ⟨mapError_eq_ok_iff.mp lowered, isIdentifier_of_parse ordered⟩

theorem searchLogs_issues (named : Query.isIdentifier schema.database = true)
    (request : LogsRequest) :
    Work.Issues (fun statement => IsContained statement ∧
      EnclosesQuery schema snapshot request.query statement)
      (searchLogs schema snapshot request) := by
  unfold searchLogs
  apply Work.issues_ofExcept_bind
  intro plan planned
  rcases plan_parts planned with ⟨lowered, ordered⟩
  refine Work.Issues.bind ?_ fun buckets => ?_
  · refine Work.Issues.bind (Work.issues_query ?_) fun stream => ?_
    · exact enclosesQuery_of_standsIn lowered (standsIn_histogramStatement named _ _ _)
    · exact (Work.issues_foldRows _ _ _).bind fun _ => Work.issues_pure _
  · dsimp only
    split
    · exact Work.issues_pure _
    · refine Work.Issues.bind ?_ fun found => Work.issues_pure _
      refine Work.Issues.bind (Work.issues_query ?_) fun stream => ?_
      · exact enclosesQuery_of_standsIn lowered (standsIn_rowStatement named ordered _ _)
      · exact (Work.issues_foldRows _ _ _).bind fun _ => Work.issues_pure _

theorem statement_encloses (named : Query.isIdentifier schema.database = true)
    {request : AggregationRequest} {statement : String}
    (built : request.statement schema snapshot = .ok statement) :
    IsContained statement ∧ EnclosesQuery schema snapshot request.query statement ∧
      EnclosesFilters schema snapshot request statement := by
  unfold AggregationRequest.statement at built
  rcases bind_eq_ok_iff.mp built with ⟨condition, lowered, rest⟩
  rcases bind_eq_ok_iff.mp rest with ⟨span, spanned, rest⟩
  rcases bind_eq_ok_iff.mp rest with ⟨plan, planned, finished⟩
  cases finished
  rw [mapError_eq_ok_iff] at lowered planned
  have resolved := AggregationRequest.isResolved_of_plan planned
  rcases standsIn_chartStatement named resolved request.times
    (isPiece_toCondition lowered) with ⟨selectStands, conditionStands⟩
  rcases enclosesQuery_of_standsIn lowered conditionStands with ⟨contained, enclosed⟩
  refine ⟨contained, enclosed, span, plan, spanned, planned, ?_⟩
  intro operation argument condition index member
  rcases resolved.aggregates _ member with ⟨argumentResolved, filter, inFilters, filterLowered⟩
  have stands := (standsIn_filtered resolved member).trans selectStands
  rw [expression_filtered] at stands
  exact ⟨⟨filter, inFilters, filterLowered⟩, stands.encloses
    (passes_filterOpening operation argumentResolved) (isPiece_toCondition filterLowered)⟩

theorem runAggregation_issues (named : Query.isIdentifier schema.database = true)
    (request : AggregationRequest) :
    Work.Issues (fun statement => IsContained statement ∧
      EnclosesQuery schema snapshot request.query statement ∧
      EnclosesFilters schema snapshot request statement)
      (runAggregation schema snapshot request) := by
  unfold runAggregation
  apply Work.issues_ofExcept_bind
  intro statement built
  refine Work.Issues.bind (Work.issues_query (statement_encloses named built)) fun stream => ?_
  exact (Work.issues_foldRows _ _ _).bind fun _ => Work.issues_pure _

/-- Whatever is asked, every statement that is issued is contained, and so is each
condition in its place. -/
theorem issued_statements_isContained {schema : Schema}
    (named : Query.isIdentifier schema.database = true) (snapshot : FieldSnapshot) :
    (∀ request : LogsRequest,
      Work.Issues (fun statement => IsContained statement ∧
        EnclosesQuery schema snapshot request.query statement)
        (searchLogs schema snapshot request)) ∧
    (∀ request : AggregationRequest,
      Work.Issues (fun statement => IsContained statement ∧
        EnclosesQuery schema snapshot request.query statement ∧
        EnclosesFilters schema snapshot request statement)
        (runAggregation schema snapshot request)) :=
  ⟨searchLogs_issues named, runAggregation_issues named⟩

/-- A literal that tries to close the parentheses around it stays a literal. -/
theorem hostile_literal_isContained :
    Query.isIdentifier "default" = true ∧
      Query.parse "app = 'x\\') OR (1 = 1; --'" = .ok (.predicate (.comparison
        ⟨.field "app", .equal, .literal "'x\\') OR (1 = 1; --'"⟩)) ∧
      Work.Issues (fun statement => IsContained statement ∧
        EnclosesQuery ⟨"default", []⟩ .empty "app = 'x\\') OR (1 = 1; --'" statement)
        (searchLogs ⟨"default", []⟩ .empty
          ⟨"app = 'x\\') OR (1 = 1; --'", "", "", 10, ⟨0, 600⟩⟩) := by
  refine ⟨by decide, eq_ok_of_toOption (by decide +kernel), ?_⟩
  exact (issued_statements_isContained (by decide) .empty).1
    ⟨"app = 'x\\') OR (1 = 1; --'", "", "", 10, ⟨0, 600⟩⟩

end LogQuery.Sql
