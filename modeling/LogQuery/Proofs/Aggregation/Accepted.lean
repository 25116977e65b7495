import LogQuery.Proofs.Aggregation.Reserved
import LogQuery.Proofs.Aggregation.Resolved
import LogQuery.Proofs.Query.Fragment
import LogQuery.Proofs.Text.Naturals
import LogQuery.Proofs.Text.Trimmed

namespace LogQuery

/-! ## Requests that have a plan

A request is checked in parts, and the first part at fault decides the error. What all parts
ask for together is stated here without that order. -/

/-- The name of a field that rows can be grouped by. -/
structure IsDimensionName (name : String) : Prop where
  named : Query.isIdentifier name = true
  free : ¬IsReservedName name

namespace AggregationOptions

/-- Slices by a field, and their size. A count may do without a field of its own. -/
structure AcceptsSlices (options : AggregationOptions) : Prop where
  slice : IsDimensionName (Text.trim options.sliceBy)
  operation : options.sizeByOperation ∈ operationNames
  size : Query.isIdentifier (Text.trim options.sizeByField) = true ∨
    Text.trim options.sizeByField = "" ∧ options.sizeByOperation = "count"

/-- What is measured and how it is broken down. A count ignores the field. -/
structure AcceptsVertical (options : AggregationOptions) (schema : Schema)
    (snapshot : FieldSnapshot) : Prop where
  operation : options.verticalAxisOperation ∈ operationNames
  field : options.verticalAxisOperation ≠ "count" →
    Query.isIdentifier (Text.trim options.verticalAxisField) = true
  breakDowns : ∀ field ∈ options.breakDownByFields, Text.trim field ≠ "" →
    IsDimensionName (Text.trim field)
  filters : ∀ filter ∈ options.breakDownByFilters, Text.trim filter ≠ "" ∧
    ∃ condition, Query.toCondition schema snapshot filter = .ok condition

structure AcceptsHorizontal (options : AggregationOptions) : Prop where
  field : IsDimensionName (Text.trim options.horizontalAxisField)
  limit : Text.trim options.horizontalAxisLimit = "" ∨
    ∃ value, Text.DenotesNatural (Text.trim options.horizontalAxisLimit).toList value

end AggregationOptions

namespace AggregationRequest

variable (request : AggregationRequest)

def IsPie : Prop :=
  request.chart = "pie"

def IsTop : Prop :=
  request.chart = "bar" ∧ request.options.horizontalAxisOperation = "top"

def IsTimeSeries : Prop :=
  request.chart ∈ ["bar", "line", "area"] ∧ request.options.horizontalAxisOperation = "time"

variable (schema : Schema) (snapshot : FieldSnapshot)

inductive IsPlannable : Prop
  | pie (kind : request.IsPie) (slices : request.options.AcceptsSlices)
  | top (kind : request.IsTop) (horizontal : request.options.AcceptsHorizontal)
      (vertical : request.options.AcceptsVertical schema snapshot)
  | timeSeries (kind : request.IsTimeSeries)
      (vertical : request.options.AcceptsVertical schema snapshot)

/-- The fields that the rows are grouped by. -/
inductive GroupsBy : String → Prop
  | slice (kind : request.IsPie) : GroupsBy (Text.trim request.options.sliceBy)
  | horizontal (kind : request.IsTop) :
      GroupsBy (Text.trim request.options.horizontalAxisField)
  | breakDown (kind : request.IsTop ∨ request.IsTimeSeries) {field : String}
      (member : field ∈ request.options.breakDownByFields) (written : Text.trim field ≠ "") :
      GroupsBy (Text.trim field)

/-- The field whose values are aggregated. -/
inductive Measures : String → Prop
  | size (kind : request.IsPie) (written : Text.trim request.options.sizeByField ≠ "") :
      Measures (Text.trim request.options.sizeByField)
  | vertical (kind : request.IsTop ∨ request.IsTimeSeries)
      (measured : request.options.verticalAxisOperation ≠ "count") :
      Measures (Text.trim request.options.verticalAxisField)

/-- What an error says about the request. -/
inductive Violates : PlanError → Prop
  | chart (unknown : request.chart ∉ ["pie", "bar", "line", "area"]) : Violates .invalidChart
  | slice (kind : request.IsPie) (blank : Text.trim request.options.sliceBy = "") :
      Violates .sliceByRequired
  | sizeOperation (kind : request.IsPie)
      (unknown : request.options.sizeByOperation ∉ operationNames) :
      Violates .invalidSizeByOperation
  | size (kind : request.IsPie) (measured : request.options.sizeByOperation ≠ "count")
      (blank : Text.trim request.options.sizeByField = "") : Violates .sizeByFieldRequired
  | horizontal (kind : request.IsTop)
      (blank : Text.trim request.options.horizontalAxisField = "") :
      Violates .horizontalAxisFieldRequired
  | limit (kind : request.IsTop) (written : Text.trim request.options.horizontalAxisLimit ≠ "")
      (unread : ¬∃ value,
        Text.DenotesNatural (Text.trim request.options.horizontalAxisLimit).toList value) :
      Violates .invalidHorizontalAxisLimit
  | verticalOperation (kind : request.IsTop ∨ request.IsTimeSeries)
      (unknown : request.options.verticalAxisOperation ∉ operationNames) :
      Violates .invalidVerticalAxisOperation
  | vertical (kind : request.IsTop ∨ request.IsTimeSeries)
      (measured : request.options.verticalAxisOperation ≠ "count")
      (blank : Text.trim request.options.verticalAxisField = "") :
      Violates .verticalAxisFieldRequired
  | filter (kind : request.IsTop ∨ request.IsTimeSeries) {filter : String}
      (member : filter ∈ request.options.breakDownByFilters)
      (refused : Text.trim filter = "" ∨
        ∃ error, Query.toCondition schema snapshot filter = .error error) :
      Violates .invalidBreakDownFilter
  | reserved {field : String} (grouped : request.GroupsBy field)
      (reserved : IsReservedName field) : Violates (.reservedField field)
  | kind (pie : ¬request.IsPie) (top : ¬request.IsTop) (timeSeries : ¬request.IsTimeSeries) :
      Violates .invalid
  | name {field : String} (used : request.GroupsBy field ∨ request.Measures field)
      (unnamed : Query.isIdentifier field = false) : Violates .invalid

end AggregationRequest

/-! ### Part by part -/

theorem ne_empty_of_isIdentifier {name : String} (named : Query.isIdentifier name = true) :
    name ≠ "" := by
  rintro rfl
  contradiction

theorem Operation.ne_count_iff {name : String} {operation : Operation}
    (named : name = operation.name) : operation ≠ .count ↔ name ≠ "count" := by
  subst named
  cases operation <;> decide

theorem decides_operation {text : String} {failure : PlanError} {violates : PlanError → Prop}
    {next : Operation → Except PlanError α} {rest : Operation → Prop}
    (unknown : text ∉ operationNames → violates failure)
    (continues : ∀ operation : Operation, text = operation.name →
      Decides (rest operation) violates (next operation)) :
    Decides (∃ operation : Operation, text = operation.name ∧ rest operation) violates
      (match Operation.parse? text with
        | none => .error failure
        | some operation => next operation) := by
  cases parsed : Operation.parse? text with
  | none =>
      have unnamed (operation : Operation) : text ≠ operation.name := by
        rw [ne_eq, ← Operation.parse?_eq_some_iff, parsed]
        nofun
      have other : text ∉ operationNames := by
        rw [mem_operationNames_iff]
        rintro ⟨operation, named⟩
        exact unnamed operation named
      exact (Decides.error (unknown other)).congr (by simp [unnamed])
  | some operation =>
      have named (other : Operation) : text = other.name ↔ operation = other := by
        rw [← Operation.parse?_eq_some_iff, parsed, Option.some.injEq]
      exact (continues operation ((named operation).mpr rfl)).congr (by simp [named])

namespace AggregationRequest

open AggregationOptions

variable {request : AggregationRequest} {schema : Schema} {snapshot : FieldSnapshot}

theorem decides_dimension {field : String} (grouped : request.GroupsBy field) :
    Decides (IsDimensionName field) (request.Violates schema snapshot)
      (dimension schema snapshot field) := by
  have named : (!Query.isIdentifier field) = true ↔ Query.isIdentifier field = false := by simp
  refine Decides.congr
    (Decides.guard (fun unnamed => .name (.inl grouped) (named.mp unnamed)) fun _ =>
      Decides.guard (fun reserved => .reserved grouped (isReserved_iff.mp reserved)) fun _ =>
        Decides.ok _) ?_
  rw [named, Bool.not_eq_false, isReserved_iff, and_true]
  constructor
  · rintro ⟨named, free⟩
    exact ⟨named, free⟩
  · rintro ⟨named, free⟩
    exact ⟨named, free⟩

theorem decides_argument {operation : Operation} {field : String}
    (used : request.GroupsBy field ∨ request.Measures field) :
    Decides (Query.isIdentifier field = true) (request.Violates schema snapshot)
      (argument schema snapshot operation field) := by
  have named : (!Query.isIdentifier field) = true ↔ Query.isIdentifier field = false := by simp
  exact Decides.congr
    (Decides.guard (fun unnamed => .name used (named.mp unnamed)) fun _ => Decides.ok _)
    (by simp)

theorem decides_limit (kind : request.IsTop) :
    Decides (Text.trim request.options.horizontalAxisLimit = "" ∨
      ∃ value, Text.DenotesNatural (Text.trim request.options.horizontalAxisLimit).toList value)
      (request.Violates schema snapshot) request.options.limit := by
  -- A limit that is blank is never read.
  have unread := @Violates.limit request schema snapshot kind
  simp only [← Text.readNatural64_eq_ok_iff] at unread ⊢
  unfold limit
  by_cases blank : Text.trim request.options.horizontalAxisLimit = ""
  · simp only [blank, if_true]
    exact (Decides.ok none).congr (by simp)
  · simp only [blank, if_false]
    cases read : Text.readNatural64 (Text.trim request.options.horizontalAxisLimit) with
    | error fault =>
        rw [read] at unread
        exact (Decides.error (unread blank nofun)).congr (by simp)
    | ok value => exact (Decides.ok (some value)).congr (by simp)

section

variable (drawn : request.IsTop ∨ request.IsTimeSeries)

include drawn

theorem decides_verticalOperation :
    Decides (request.options.verticalAxisOperation ∈ operationNames ∧
      (request.options.verticalAxisOperation ≠ "count" →
        Text.trim request.options.verticalAxisField ≠ ""))
      (request.Violates schema snapshot) request.options.verticalOperation := by
  refine Decides.congr
    (decides_operation (fun unknown => .verticalOperation drawn unknown) fun operation named =>
      Decides.guard (fun missing =>
          .vertical drawn ((Operation.ne_count_iff named).mp missing.1) missing.2)
        fun _ => Decides.ok operation) ?_
  rw [mem_operationNames_iff, ← exists_and_right]
  refine exists_congr fun operation => and_congr_right fun named => ?_
  simp [← Operation.ne_count_iff named]

theorem decides_aggregates {operation : Operation}
    (named : request.options.verticalAxisOperation = operation.name)
    (conditions : List String) :
    Decides (request.options.verticalAxisOperation ≠ "count" →
      Query.isIdentifier (Text.trim request.options.verticalAxisField) = true)
      (request.Violates schema snapshot)
      (request.options.aggregates schema snapshot operation conditions) := by
  have argued : Decides (request.options.verticalAxisOperation ≠ "count" →
      Query.isIdentifier (Text.trim request.options.verticalAxisField) = true)
      (request.Violates schema snapshot)
      (request.options.verticalArgument schema snapshot operation) := by
    have measured := Operation.ne_count_iff named
    unfold verticalArgument
    rw [← measured]
    by_cases counted : operation = .count
    · rw [if_pos counted]
      exact (Decides.ok none).congr (by simp [counted])
    · rw [if_neg counted]
      exact Decides.congr
        (Decides.map (decides_argument (.inr (.vertical drawn (measured.mp counted)))))
        (by simp [counted])
  exact Decides.congr
    (Decides.bind argued fun argument _ => by cases conditions <;> exact Decides.ok _)
    (by simp)

theorem decides_breakDownDimensions :
    Decides (∀ field ∈ request.options.breakDownByFields, Text.trim field ≠ "" →
      IsDimensionName (Text.trim field)) (request.Violates schema snapshot)
      (request.options.breakDownDimensions schema snapshot) := by
  have named : Decides (∀ name ∈ request.options.breakDownNames, IsDimensionName name)
      (request.Violates schema snapshot)
      (request.options.breakDownDimensions schema snapshot) := by
    refine Decides.mapM fun name member => ?_
    simp only [breakDownNames, List.mem_filter, List.mem_map, decide_eq_true_eq] at member
    rcases member with ⟨⟨field, inFields, rfl⟩, written⟩
    exact decides_dimension (.breakDown drawn inFields written)
  exact named.congr (by simp [breakDownNames])

theorem decides_filterCondition {filter : String}
    (member : filter ∈ request.options.breakDownByFilters) :
    Decides (Text.trim filter ≠ "" ∧
      ∃ condition, Query.toCondition schema snapshot filter = .ok condition)
      (request.Violates schema snapshot) (filterCondition schema snapshot filter) := by
  have blank : Text.trim filter = "" ↔ Query.toCondition schema snapshot filter = .ok "" := by
    rw [Query.toCondition_eq_empty_iff, Text.trim_eq_empty_iff]
  unfold filterCondition
  cases lowered : Query.toCondition schema snapshot filter with
  | error fault =>
      exact (Decides.error (.filter drawn member (.inr ⟨fault, lowered⟩))).congr (by simp)
  | ok condition =>
      rw [lowered, Except.ok.injEq] at blank
      exact Decides.congr
        (Decides.guard (fun empty => .filter drawn member (.inl (blank.mpr empty))) fun _ =>
          Decides.ok condition)
        (by simp [blank])

theorem decides_breakDownConditions :
    Decides (∀ filter ∈ request.options.breakDownByFilters, Text.trim filter ≠ "" ∧
      ∃ condition, Query.toCondition schema snapshot filter = .ok condition)
      (request.Violates schema snapshot)
      (request.options.breakDownConditions schema snapshot) :=
  Decides.mapM fun _ member => decides_filterCondition drawn member

/-- The second half of a plan is the same for both kinds of axes. -/
theorem decides_drawn {operation : Operation}
    (named : request.options.verticalAxisOperation = operation.name)
    (finish : List Dimension → List String → List Aggregate → AggregationPlan) :
    Decides
      ((∀ field ∈ request.options.breakDownByFields, Text.trim field ≠ "" →
          IsDimensionName (Text.trim field)) ∧
        (∀ filter ∈ request.options.breakDownByFilters, Text.trim filter ≠ "" ∧
          ∃ condition, Query.toCondition schema snapshot filter = .ok condition) ∧
        (request.options.verticalAxisOperation ≠ "count" →
          Query.isIdentifier (Text.trim request.options.verticalAxisField) = true) ∧ True)
      (request.Violates schema snapshot)
      (do
        let breakDowns ← request.options.breakDownDimensions schema snapshot
        let conditions ← request.options.breakDownConditions schema snapshot
        let aggregates ← request.options.aggregates schema snapshot operation conditions
        .ok (finish breakDowns conditions aggregates)) :=
  (decides_breakDownDimensions drawn).bind fun _ _ =>
    (decides_breakDownConditions drawn).bind fun conditions _ =>
      (decides_aggregates drawn named conditions).bind fun _ _ => Decides.ok _

end

/-! ### Chart by chart -/

/-- A pie without a size of its own has the slice for it, which has a name already. -/
theorem acceptsSlices_iff {options : AggregationOptions} :
    options.AcceptsSlices ↔ Text.trim options.sliceBy ≠ "" ∧
      ∃ operation : Operation, options.sizeByOperation = operation.name ∧
        ¬(Text.trim options.sizeByField = "" ∧ operation ≠ .count) ∧
        IsDimensionName (Text.trim options.sliceBy) ∧
        Query.isIdentifier options.sizeName = true := by
  unfold sizeName
  constructor
  · rintro ⟨slice, known, size⟩
    rcases mem_operationNames_iff.mp known with ⟨operation, named⟩
    refine ⟨ne_empty_of_isIdentifier slice.named, operation, named, ?_, slice, ?_⟩
    · rw [Operation.ne_count_iff named]
      rintro ⟨blank, measured⟩
      rcases size with written | ⟨_, counted⟩
      · exact ne_empty_of_isIdentifier written blank
      · exact measured counted
    · rcases size with written | ⟨blank, _⟩
      · rwa [if_neg (ne_empty_of_isIdentifier written)]
      · rw [if_pos blank]
        exact slice.named
  · rintro ⟨_, operation, named, unsized, slice, size⟩
    refine ⟨slice, mem_operationNames_iff.mpr ⟨operation, named⟩, ?_⟩
    by_cases blank : Text.trim options.sizeByField = ""
    · have counted : options.sizeByOperation = "count" := by
        simpa [blank, Operation.ne_count_iff named] using unsized
      exact .inr ⟨blank, counted⟩
    · rw [if_neg blank] at size
      exact .inl size

theorem decides_pie (kind : request.IsPie) :
    Decides request.options.AcceptsSlices (request.Violates schema snapshot)
      (request.options.pie schema snapshot) := by
  have used : request.GroupsBy request.options.sizeName ∨
      request.Measures request.options.sizeName := by
    unfold sizeName
    split
    · exact .inl (.slice kind)
    · next written => exact .inr (.size kind written)
  refine Decides.congr (Decides.guard (fun blank => .slice kind blank) fun _ =>
    decides_operation (fun unknown => .sizeOperation kind unknown) fun operation named =>
      Decides.guard (fun missing =>
          .size kind ((Operation.ne_count_iff named).mp missing.2) missing.1) fun _ =>
        Decides.bind (decides_dimension (.slice kind)) fun slice _ =>
          Decides.bind (decides_argument used) fun size _ => Decides.ok _) ?_
  simp only [acceptsSlices_iff, and_true]
  exact Iff.rfl

theorem decides_top (kind : request.IsTop) :
    Decides (request.options.AcceptsHorizontal ∧
      request.options.AcceptsVertical schema snapshot) (request.Violates schema snapshot)
      (request.options.top schema snapshot) := by
  refine Decides.congr (Decides.guard (fun blank => .horizontal kind blank) fun _ =>
    Decides.bind (decides_verticalOperation (.inl kind)) fun operation checked =>
      Decides.bind (decides_limit kind) fun limit _ =>
        Decides.bind (decides_dimension (.horizontal kind)) fun first _ =>
          decides_drawn (.inl kind) (operation_of_vertical checked) _) ?_
  constructor
  · rintro ⟨_, ⟨operation, _⟩, limit, horizontal, breakDowns, filters, field, _⟩
    exact ⟨⟨horizontal, limit⟩, ⟨operation, field, breakDowns, filters⟩⟩
  · rintro ⟨⟨horizontal, limit⟩, ⟨operation, field, breakDowns, filters⟩⟩
    exact ⟨ne_empty_of_isIdentifier horizontal.named,
      ⟨operation, fun measured => ne_empty_of_isIdentifier (field measured)⟩, limit, horizontal,
      breakDowns, filters, field, trivial⟩

theorem decides_timeSeries (kind : request.IsTimeSeries) (span : Int) :
    Decides (request.options.AcceptsVertical schema snapshot) (request.Violates schema snapshot)
      (request.options.timeSeries schema snapshot span) := by
  refine Decides.congr (Decides.bind (decides_verticalOperation (.inr kind))
    fun operation checked => decides_drawn (.inr kind) (operation_of_vertical checked) _) ?_
  constructor
  · rintro ⟨⟨operation, _⟩, breakDowns, filters, field, _⟩
    exact ⟨operation, field, breakDowns, filters⟩
  · rintro ⟨operation, field, breakDowns, filters⟩
    exact ⟨⟨operation, fun measured => ne_empty_of_isIdentifier (field measured)⟩, breakDowns,
      filters, field, trivial⟩

/-! A request is of at most one kind, and that kind decides what is asked of it. -/

theorem IsPie.not_isTop (kind : request.IsPie) : ¬request.IsTop := by
  rintro ⟨chart, _⟩
  exact absurd (kind.symm.trans chart) (by decide)

theorem IsPie.not_isTimeSeries (kind : request.IsPie) : ¬request.IsTimeSeries := by
  rintro ⟨chart, _⟩
  rw [kind] at chart
  exact absurd chart (by decide)

theorem IsTop.not_isTimeSeries (kind : request.IsTop) : ¬request.IsTimeSeries := by
  rintro ⟨_, axis⟩
  exact absurd (kind.2.symm.trans axis) (by decide)

theorem IsPie.isPlannable_iff (kind : request.IsPie) :
    request.IsPlannable schema snapshot ↔ request.options.AcceptsSlices := by
  constructor
  · rintro (⟨_, slices⟩ | ⟨top, _⟩ | ⟨timeSeries, _⟩)
    · exact slices
    · exact absurd top kind.not_isTop
    · exact absurd timeSeries kind.not_isTimeSeries
  · exact .pie kind

theorem IsTop.isPlannable_iff (kind : request.IsTop) :
    request.IsPlannable schema snapshot ↔
      request.options.AcceptsHorizontal ∧ request.options.AcceptsVertical schema snapshot := by
  constructor
  · rintro (⟨pie, _⟩ | ⟨_, horizontal, vertical⟩ | ⟨timeSeries, _⟩)
    · exact absurd kind pie.not_isTop
    · exact ⟨horizontal, vertical⟩
    · exact absurd timeSeries kind.not_isTimeSeries
  · rintro ⟨horizontal, vertical⟩
    exact .top kind horizontal vertical

theorem IsTimeSeries.isPlannable_iff (kind : request.IsTimeSeries) :
    request.IsPlannable schema snapshot ↔ request.options.AcceptsVertical schema snapshot := by
  constructor
  · rintro (⟨pie, _⟩ | ⟨top, _⟩ | ⟨_, vertical⟩)
    · exact absurd kind pie.not_isTimeSeries
    · exact absurd kind top.not_isTimeSeries
    · exact vertical
  · exact .timeSeries kind

namespace IsPlannable

variable (plannable : request.IsPlannable schema snapshot)

include plannable

theorem acceptsVertical (drawn : request.IsTop ∨ request.IsTimeSeries) :
    request.options.AcceptsVertical schema snapshot := by
  rcases drawn with top | timeSeries
  · exact (top.isPlannable_iff.mp plannable).2
  · exact timeSeries.isPlannable_iff.mp plannable

theorem isDimensionName {field : String} (grouped : request.GroupsBy field) :
    IsDimensionName field := by
  cases grouped with
  | slice kind => exact (kind.isPlannable_iff.mp plannable).slice
  | horizontal kind => exact (kind.isPlannable_iff.mp plannable).1.field
  | breakDown drawn member written =>
      exact (plannable.acceptsVertical drawn).breakDowns _ member written

theorem isIdentifier {field : String} (measured : request.Measures field) :
    Query.isIdentifier field = true := by
  cases measured with
  | size kind written =>
      rcases (kind.isPlannable_iff.mp plannable).size with named | ⟨blank, _⟩
      · exact named
      · exact absurd blank written
  | vertical drawn measured => exact (plannable.acceptsVertical drawn).field measured

theorem exists_kind : request.IsPie ∨ request.IsTop ∨ request.IsTimeSeries := by
  cases plannable with
  | pie kind => exact .inl kind
  | top kind => exact .inr (.inl kind)
  | timeSeries kind => exact .inr (.inr kind)

theorem chart : request.chart ∈ ["pie", "bar", "line", "area"] := by
  rcases plannable.exists_kind with pie | ⟨bar, _⟩ | ⟨timed, _⟩
  · rw [pie]
    decide
  · rw [bar]
    decide
  · exact List.mem_cons_of_mem _ timed

end IsPlannable

/-- What an error says stands in the way of any plan. -/
theorem not_isPlannable_of_violates {error : PlanError}
    (violates : request.Violates schema snapshot error) :
    ¬request.IsPlannable schema snapshot := by
  intro plannable
  cases violates with
  | chart unknown => exact unknown plannable.chart
  | slice kind blank =>
      exact ne_empty_of_isIdentifier (plannable.isDimensionName (.slice kind)).named blank
  | sizeOperation kind unknown => exact unknown (kind.isPlannable_iff.mp plannable).operation
  | size kind measured blank =>
      rcases (kind.isPlannable_iff.mp plannable).size with named | ⟨_, counted⟩
      · exact ne_empty_of_isIdentifier named blank
      · exact measured counted
  | horizontal kind blank =>
      exact ne_empty_of_isIdentifier (plannable.isDimensionName (.horizontal kind)).named blank
  | limit kind written unread =>
      rcases (kind.isPlannable_iff.mp plannable).1.limit with blank | read
      · exact written blank
      · exact unread read
  | verticalOperation drawn unknown =>
      exact unknown (plannable.acceptsVertical drawn).operation
  | vertical drawn measured blank =>
      exact ne_empty_of_isIdentifier ((plannable.acceptsVertical drawn).field measured) blank
  | filter drawn member refused =>
      rcases (plannable.acceptsVertical drawn).filters _ member with ⟨written, condition, lowered⟩
      rcases refused with blank | ⟨error, failed⟩
      · exact written blank
      · rw [lowered] at failed
        contradiction
  | reserved grouped reserved => exact (plannable.isDimensionName grouped).free reserved
  | kind pie top timeSeries =>
      rcases plannable.exists_kind with kind | kind | kind
      · exact pie kind
      · exact top kind
      · exact timeSeries kind
  | name used unnamed =>
      rcases used with grouped | measured
      · rw [(plannable.isDimensionName grouped).named] at unnamed
        contradiction
      · rw [plannable.isIdentifier measured] at unnamed
        contradiction

theorem decides_of_violates {error : PlanError}
    (violates : request.Violates schema snapshot error) :
    Decides (request.IsPlannable schema snapshot) (request.Violates schema snapshot)
      (.error error : Except PlanError AggregationPlan) :=
  (Decides.error violates).congr (iff_of_false not_false (not_isPlannable_of_violates violates))

theorem decides_plan (request : AggregationRequest) (schema : Schema)
    (snapshot : FieldSnapshot) (span : Int) :
    Decides (request.IsPlannable schema snapshot) (request.Violates schema snapshot)
      (request.plan schema snapshot span) := by
  unfold AggregationRequest.plan
  cases parsed : Chart.parse? request.chart with
  | none =>
      have unnamed (chart : Chart) : request.chart ≠ chart.name := by
        rw [ne_eq, ← Chart.parse?_eq_some_iff, parsed]
        nofun
      have unknown : request.chart ∉ ["pie", "bar", "line", "area"] := by
        simp only [List.mem_cons, List.not_mem_nil, or_false, not_or]
        exact ⟨unnamed .pie, unnamed .bar, unnamed .line, unnamed .area⟩
      exact decides_of_violates (.chart unknown)
  | some chart =>
      have named := Chart.parse?_eq_some_iff.mp parsed
      have same (other : Chart) (also : request.chart = other.name) : chart = other := by
        rw [← Chart.parse?_eq_some_iff, parsed, Option.some.injEq] at also
        exact also
      unfold AggregationOptions.plan
      dsimp only
      split
      · exact (decides_pie named).congr (IsPie.isPlannable_iff named).symm
      · next axis =>
          have kind : request.IsTop := ⟨named, axis⟩
          exact (decides_top kind).congr kind.isPlannable_iff.symm
      · next notPie axis =>
          have kind : request.IsTimeSeries := ⟨named ▸ Chart.ne_pie_iff.mp notPie, axis⟩
          exact (decides_timeSeries kind span).congr kind.isPlannable_iff.symm
      · next notPie notTime notTop =>
          exact decides_of_violates (.kind (fun pie => notPie (same .pie pie))
            (fun top => notTop (same .bar top.1) top.2)
            fun timeSeries => notTime timeSeries.2)

end AggregationRequest

/-- A plan is made for exactly the requests that are as they should be. A refusal says of the
request what is true of it, and what no request with a plan may have. -/
theorem plan_accepts (request : AggregationRequest) (schema : Schema) (snapshot : FieldSnapshot)
    (span : Int) :
    ((∃ plan, request.plan schema snapshot span = .ok plan) ↔
      request.IsPlannable schema snapshot) ∧
    (∀ name, isReserved name = true ↔ IsReservedName name) ∧
    (∀ error, request.plan schema snapshot span = .error error →
      request.Violates schema snapshot error) ∧
    ∀ error, request.Violates schema snapshot error → ¬request.IsPlannable schema snapshot := by
  have decides := request.decides_plan schema snapshot span
  exact ⟨decides.accepts, fun _ => isReserved_iff, decides.explains,
    fun _ => AggregationRequest.not_isPlannable_of_violates⟩

end LogQuery
