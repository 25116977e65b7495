import LogQuery.Proofs.Aggregation.ResultColumns

namespace LogQuery

/-! ## Aliases and columns

An alias of the selection can be used anywhere in the statement, so it hides a column of the
table that has the same name. Fields are given an alias only where they are no column, but
neither the map columns nor the names that the plan chooses itself are looked at there. -/

def mapColumns : List String :=
  ["fields_string", "fields_number"]

/-- All columns of the logs table. -/
def Schema.tableColumns (schema : Schema) : List String :=
  fixedColumns ++ schema.materializedColumns ++ mapColumns

/-- The name that a dimension is given in the selection. -/
def Dimension.alias? : Dimension → Option String
  | .field name reference => if reference = name then none else some name
  | .time _ => some timeAlias

def AggregationPlan.aliases (plan : AggregationPlan) : List String :=
  plan.dimensions.filterMap Dimension.alias? ++ plan.aggregates.map Aggregate.columnName

section

variable {schema : Schema} {snapshot : FieldSnapshot}

theorem Schema.isColumn_iff {name : String} :
    schema.isColumn name = true ↔ name ∈ fixedColumns ∨ name ∈ schema.materializedColumns := by
  simp [Schema.isColumn]

theorem Schema.mem_tableColumns_iff {name : String} :
    name ∈ schema.tableColumns ↔
      schema.isColumn name = true ∨ name ∈ mapColumns := by
  rw [Schema.tableColumns, List.mem_append, List.mem_append, isColumn_iff]

/-- Reserved names are neither fixed columns nor map columns. -/
theorem Schema.mem_tableColumns_iff_of_isReservedName {name : String}
    (reserved : IsReservedName name) :
    name ∈ schema.tableColumns ↔ name ∈ schema.materializedColumns := by
  have free : ∀ column ∈ fixedColumns ++ mapColumns, isReserved column = false := by decide
  have other : name ∉ fixedColumns ++ mapColumns := by
    intro member
    have unreserved := free name member
    rw [isReserved_iff.mpr reserved] at unreserved
    contradiction
  rw [List.mem_append, not_or] at other
  rw [mem_tableColumns_iff, isColumn_iff, or_iff_left other.2, or_iff_right other.1]

theorem alias?_eq_some_iff {dimension : Dimension} {name : String}
    (resolved : dimension.IsResolved schema snapshot) :
    dimension.alias? = some name ↔
      dimension.generatedName? = some name ∨
        schema.isColumn name = false ∧ ∃ reference, dimension = .field name reference := by
  cases dimension with
  | time interval => simp [Dimension.alias?, Dimension.generatedName?]
  | field field reference =>
      rcases resolved with ⟨_, rfl⟩
      have columned : schema.resolve snapshot .unknown field = field ↔ _ :=
        fieldText_eq_iff schema snapshot field
      simp only [Dimension.alias?, Dimension.generatedName?, columned]
      by_cases same : field = name
      · subst same
        cases schema.isColumn field <;> simp
      · split <;> simp [same]

theorem mem_aliases_iff {plan : AggregationPlan} {filters : List String}
    (resolved : plan.IsResolved schema snapshot filters) {name : String} :
    name ∈ plan.aliases ↔ name ∈ plan.generatedNames ∨
      schema.isColumn name = false ∧
        ∃ reference, Dimension.field name reference ∈ plan.dimensions := by
  have aliased : name ∈ plan.dimensions.filterMap Dimension.alias? ↔
      name ∈ plan.dimensions.filterMap Dimension.generatedName? ∨
        schema.isColumn name = false ∧
          ∃ reference, Dimension.field name reference ∈ plan.dimensions := by
    rw [List.mem_filterMap, List.mem_filterMap]
    constructor
    · rintro ⟨dimension, member, named⟩
      rcases (alias?_eq_some_iff (resolved.dimensions _ member)).mp named with
        generated | ⟨dynamic, reference, rfl⟩
      · exact .inl ⟨dimension, member, generated⟩
      · exact .inr ⟨dynamic, reference, member⟩
    · rintro (⟨dimension, member, generated⟩ | ⟨dynamic, reference, member⟩)
      · exact ⟨dimension, member,
          (alias?_eq_some_iff (resolved.dimensions _ member)).mpr (.inl generated)⟩
      · exact ⟨_, member,
          (alias?_eq_some_iff (resolved.dimensions _ member)).mpr (.inr ⟨dynamic, reference, rfl⟩)⟩
  rw [AggregationPlan.aliases, AggregationPlan.generatedNames, List.mem_append, List.mem_append,
    aliased, or_right_comm]

/-- The aliases that hide a column: a name of the plan's own that is a materialized column, and
a field that has the name of a map column. -/
theorem aliases_shadowing_iff {request : AggregationRequest} {span : Int}
    {plan : AggregationPlan} (planned : request.plan schema snapshot span = .ok plan)
    (name : String) :
    name ∈ plan.aliases ∧ name ∈ schema.tableColumns ↔
      (name ∈ plan.generatedNames ∧ name ∈ schema.materializedColumns) ∨
      (name ∈ mapColumns ∧ schema.isColumn name = false ∧
        ∃ reference, Dimension.field name reference ∈ plan.dimensions) := by
  rw [mem_aliases_iff (request.isResolved_of_plan planned), or_and_right]
  apply or_congr
  · apply and_congr_right
    intro generated
    exact Schema.mem_tableColumns_iff_of_isReservedName (isReservedName_of_generated generated)
  · constructor
    · rintro ⟨⟨dynamic, dimension⟩, inTable⟩
      rw [Schema.mem_tableColumns_iff, dynamic, or_iff_right Bool.false_ne_true] at inTable
      exact ⟨inTable, dynamic, dimension⟩
    · rintro ⟨map, dynamic, dimension⟩
      exact ⟨⟨dynamic, dimension⟩, Schema.mem_tableColumns_iff.mpr (.inr map)⟩

end

/-! A break-down by a map key that is called like the map itself. -/

def mapNamed : AggregationRequest :=
  { chart := "bar"
    options :=
      { horizontalAxisOperation := "time"
        verticalAxisOperation := "count"
        breakDownByFields := ["fields_string"]
        breakDownByFilters := ["level = 'error'"] } }

def mapNamedPlan : AggregationPlan where
  dimensions := [.time 2, .field "fields_string" "fields_string['fields_string']"]
  aggregates := [.filtered .count none "fields_string['level'] = 'error'" 0]
  order := .byTime

theorem plan_mapNamed : mapNamed.plan ⟨"logs", ["time"]⟩ .empty 60 = .ok mapNamedPlan := by
  -- The keys of a snapshot are hashed, so evaluation does not get through a map reference.
  have unknown : FieldSnapshot.empty.hasNumber "fields_string" = false := by
    simp [← Bool.not_eq_true, FieldSnapshot.hasNumber_iff_mem, FieldSnapshot.empty]
  have read : "fields_string['fields_string']" =
      Schema.resolve ⟨"logs", ["time"]⟩ .empty .unknown "fields_string" := by
    have column : Schema.isColumn ⟨"logs", ["time"]⟩ "fields_string" = false := by decide
    simp [Schema.resolve, unknown, column]
    rfl
  have dimension : AggregationOptions.dimension ⟨"logs", ["time"]⟩ .empty "fields_string" =
      .ok (.field "fields_string" "fields_string['fields_string']") :=
    AggregationOptions.dimension_eq_ok_iff.mpr ⟨by decide, by decide, by rw [read]⟩
  have names : mapNamed.options.breakDownNames = ["fields_string"] := by decide +kernel
  have breakDowns : mapNamed.options.breakDownDimensions ⟨"logs", ["time"]⟩ .empty =
      .ok [.field "fields_string" "fields_string['fields_string']"] := by
    change mapNamed.options.breakDownNames.mapM _ = _
    rw [names]
    exact mapM_eq_ok_iff.mpr (.cons dimension .nil)
  have conditions : mapNamed.options.breakDownConditions ⟨"logs", ["time"]⟩ .empty =
      .ok ["fields_string['level'] = 'error'"] := by
    apply eq_ok_of_toOption
    decide +kernel
  exact AggregationOptions.timeSeries_eq_ok_iff.mpr
    ⟨.count, rfl, _, breakDowns, _, conditions, _, rfl, rfl⟩

theorem aliases_shadowing_mapNamed :
    mapNamed.plan ⟨"logs", ["time"]⟩ .empty 60 = .ok mapNamedPlan ∧
    mapNamedPlan.aliases = ["time", "fields_string", "count_data_filter0"] ∧
    ("fields_string" ∈ mapNamedPlan.aliases ∧
        "fields_string" ∈ Schema.tableColumns ⟨"logs", ["time"]⟩ ↔
      ("fields_string" ∈ mapNamedPlan.generatedNames ∧ "fields_string" ∈ ["time"]) ∨
      ("fields_string" ∈ mapColumns ∧
        Schema.isColumn ⟨"logs", ["time"]⟩ "fields_string" = false ∧
        ∃ reference, Dimension.field "fields_string" reference ∈ mapNamedPlan.dimensions)) :=
  ⟨plan_mapNamed, by decide, aliases_shadowing_iff plan_mapNamed "fields_string"⟩

/-- The alias of the dimension hides the map that the filter of the same statement reads. -/
theorem mapNamed_hides_column :
    mapNamedPlan.select =
      "toStartOfInterval(timestamp, INTERVAL 2 second) AS time, " ++
        "fields_string['fields_string'] AS `fields_string`, " ++
        "countIf(fields_string['level'] = 'error') as count_data_filter0" ∧
    ¬∀ (request : AggregationRequest) (schema : Schema) (snapshot : FieldSnapshot) (span : Int)
        (plan : AggregationPlan), request.plan schema snapshot span = .ok plan →
      ∀ name ∈ plan.aliases, name ∉ schema.tableColumns := by
  constructor
  · decide +kernel
  · intro hidesNone
    exact hidesNone mapNamed ⟨"logs", ["time"]⟩ .empty 60 mapNamedPlan plan_mapNamed
      "fields_string" (by decide) (by decide)

end LogQuery
