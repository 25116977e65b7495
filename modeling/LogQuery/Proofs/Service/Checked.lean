import LogQuery.Aggregation.Run
import LogQuery.Logs.Search
import LogQuery.Proofs.Logs.Walk
import LogQuery.Proofs.Store.Answers

namespace LogQuery

/-! ## The checks of a request

Each check is made of the request alone, and the first that fails gives the error. -/

/-- The error of a computation that fails. -/
def fault? : Except ε α → Option ε
  | .ok _ => none
  | .error error => some error

theorem fault?_eq_none_iff {computation : Except ε α} :
    fault? computation = none ↔ ∃ value, computation = .ok value := by
  cases computation <;> simp [fault?]

theorem fault?_eq_some_iff {computation : Except ε α} {error : ε} :
    fault? computation = some error ↔ computation = .error error := by
  cases computation <;> simp [fault?]

def firstFault (checks : List (Option ServiceError)) : Option ServiceError :=
  checks.findSome? id

theorem firstFault_append (checks later : List (Option ServiceError)) :
    firstFault (checks ++ later) = (firstFault checks).or (firstFault later) :=
  List.findSome?_append

def TimeRange.checks (range : TimeRange) : List (Option ServiceError) :=
  [if range.first < range.last then none else some .invalidTimeRange,
    if range.last - range.first ≤ Cell.maxInteger then none
    else some (.badRequest .timeRangeTooLarge)]

/-- A field to order by is looked at only if there is a direction too. -/
def LogsOrder.check (direction field : String) : Option ServiceError :=
  if direction = "" ∨ Text.trim field = "" ∨ Query.isIdentifier (Text.trim field) then none
  else some (.badRequest .invalidOrderField)

def LogsRequest.checks (request : LogsRequest) (schema : Schema) (snapshot : FieldSnapshot) :
    List (Option ServiceError) :=
  [(fault? (Query.toCondition schema snapshot request.query)).map .query,
    LogsOrder.check request.order request.orderBy] ++ request.range.checks

/-- Without a direction a field that is no identifier does no harm. -/
theorem searchLogs_unusedField :
    Query.isIdentifier "a;b" = false ∧
      ((searchLogs ⟨"default", []⟩ .empty ⟨"", "", "a;b", 10, ⟨0, 60⟩⟩).execute
        (Session.start [])).2.statements =
          [histogramStatement ⟨"default", []⟩ ⟨0, 60⟩ 2 ""] :=
  ⟨by decide, by rfl⟩

def AggregationRequest.checks (request : AggregationRequest) (schema : Schema)
    (snapshot : FieldSnapshot) : List (Option ServiceError) :=
  (fault? (Query.toCondition schema snapshot request.query)).map .query ::
    request.times.checks ++
    [(fault? (request.plan schema snapshot (request.times.last - request.times.first))).map
      .plan]

theorem TimeRange.span_eq (range : TimeRange) :
    range.span = match firstFault range.checks with
      | none => .ok (range.last - range.first)
      | some error => .error error := by
  unfold TimeRange.span TimeRange.checks firstFault
  by_cases ordered : range.first < range.last
  · rw [if_pos ordered, if_neg (Int.not_le.mpr ordered)]
    by_cases fits : range.last - range.first ≤ Cell.maxInteger
    · rw [if_pos fits, if_pos fits]
      rfl
    · rw [if_neg fits, if_neg fits]
      rfl
  · rw [if_neg ordered, if_pos (Int.not_lt.mp ordered)]
    rfl

theorem LogsOrder.field_choose {direction field : String}
    (used : ¬ (direction = "" ∨ field = "")) : (choose direction field).field = field := by
  rw [choose, if_neg used]
  split <;> rfl

theorem LogsOrder.fault?_parse (direction field : String) :
    fault? (parse direction field) = check direction field := by
  unfold parse check
  dsimp only
  by_cases used : direction = "" ∨ Text.trim field = ""
  · rw [choose, if_pos used, if_pos (by decide), if_pos (used.imp_right .inl)]
    rfl
  · rw [field_choose used]
    rcases not_or.mp used with ⟨directed, nonblank⟩
    by_cases named : Query.isIdentifier (Text.trim field) = true
    · rw [if_pos named, if_pos (.inr (.inr named))]
      rfl
    · rw [if_neg named, if_neg (by simp [directed, nonblank, named])]
      rfl

theorem LogsRequest.fault?_plan (request : LogsRequest) (schema : Schema)
    (snapshot : FieldSnapshot) :
    fault? (request.plan schema snapshot) = firstFault (request.checks schema snapshot) := by
  unfold LogsRequest.plan LogsRequest.checks
  rw [request.range.span_eq, ← LogsOrder.fault?_parse]
  rcases Query.toCondition schema snapshot request.query with error | condition
  · rfl
  · rcases LogsOrder.parse request.order request.orderBy with error | order
    · rfl
    · change _ = firstFault request.range.checks
      cases firstFault request.range.checks <;> rfl

theorem AggregationRequest.fault?_statement (request : AggregationRequest) (schema : Schema)
    (snapshot : FieldSnapshot) :
    fault? (request.statement schema snapshot) = firstFault (request.checks schema snapshot) := by
  unfold AggregationRequest.statement AggregationRequest.checks
  rw [request.times.span_eq]
  rcases Query.toCondition schema snapshot request.query with error | condition
  · rfl
  · change _ = firstFault (request.times.checks ++ _)
    rw [firstFault_append]
    cases firstFault request.times.checks with
    | some error => rfl
    | none =>
        change fault? ((request.plan schema snapshot _).mapError _ >>= _) = _
        cases request.plan schema snapshot (request.times.last - request.times.first) <;> rfl

/-! ## What is made of a whole result

A result gives all of these or none of them. -/

/-- One document for each row, and the names of all fields that they have. -/
def assembleDocuments (columns : List String) (rows : List Row) : List Document × KeySet :=
  (rows.map (assembleDocument columns),
    rows.foldl (fun fields row => fields.insertMany (dynamicKeys columns row))
      (KeySet.ofList fixedColumns))

def ChartAnswer.ofRows (columns : List String) (rows : List Row) : ChartAnswer :=
  ⟨rows.map (chartRow columns), columns⟩

namespace RowStream

def buckets (stream : RowStream) : Except ServiceError (List Bucket) :=
  (stream.values bucketOfRow).map sortBuckets

def documents (stream : RowStream) : Except ServiceError (List Document × KeySet) :=
  (stream.values .ok).map (assembleDocuments stream.columns)

def chart (stream : RowStream) : Except ServiceError ChartAnswer :=
  (stream.values .ok).map (ChartAnswer.ofRows stream.columns)

end RowStream

theorem asksFor_buckets (statement : String) :
    Work.AsksFor statement (fetchBuckets statement) RowStream.buckets := by
  apply Work.asksFor_foldRows bucketOfRow fun _ buckets bucket => bucket :: buckets
  · intro stream buckets row
    rfl
  · intro stream buckets
    rw [List.foldl_flip_cons_eq_append, List.append_nil, List.reverse_reverse, List.map_id']

theorem foldl_collectDocument (columns : List String) (rows : List Row)
    (found : List Document × KeySet) :
    rows.foldl (collectDocument columns) found =
      ((rows.map (assembleDocument columns)).reverse ++ found.1,
        rows.foldl (fun fields row => fields.insertMany (dynamicKeys columns row)) found.2) := by
  induction rows generalizing found with
  | nil => rfl
  | cons row rows induction =>
      rw [List.foldl_cons, induction, List.map_cons, List.reverse_cons, List.append_assoc]
      rfl

theorem asksFor_documents (statement : String) :
    Work.AsksFor statement (fetchDocuments statement) RowStream.documents := by
  apply Work.asksFor_foldRows .ok fun stream found row => collectDocument stream.columns found row
  · intro stream found row
    rfl
  · intro stream rows
    rw [foldl_collectDocument, List.append_nil, List.reverse_reverse, assembleDocuments]

theorem asksFor_chart (statement : String) :
    Work.AsksFor statement
      (do
        let stream ← Work.query statement
        let reversed ← Work.foldRows stream
          (fun rows row => .ok (chartRow stream.columns row :: rows)) []
        pure ⟨reversed.reverse, stream.columns⟩)
      RowStream.chart := by
  apply Work.asksFor_foldRows .ok fun stream rows row => chartRow stream.columns row :: rows
  · intro stream rows row
    rfl
  · intro stream rows
    rw [List.foldl_flip_cons_eq_append, List.append_nil, List.reverse_reverse,
      ChartAnswer.ofRows]

/-! ## Searches -/

section Searches

variable {schema : Schema} {snapshot : FieldSnapshot} {request : LogsRequest} {plan : LogsPlan}
  {session : Session}

def Session.histogram (session : Session) : Except ServiceError (List Bucket) :=
  session.answer 0 >>= RowStream.buckets

def Session.page (session : Session) : Except ServiceError (List Document × KeySet) :=
  session.answer 1 >>= RowStream.documents

theorem Session.histogram_of_fails {error : ServiceError}
    (fails : session.FailsAt 0 bucketOfRow error) : session.histogram = .error error :=
  fails.bind_eq fun _ => sortBuckets

theorem Session.page_of_fails {error : ServiceError} (fails : session.FailsAt 1 .ok error) :
    session.page = .error error :=
  fails.bind_eq fun stream => assembleDocuments stream.columns

def LogsRequest.histogram (request : LogsRequest) (schema : Schema) (plan : LogsPlan) : String :=
  histogramStatement schema request.range plan.interval plan.condition

/-- The page is worth asking for. The count is the one that is returned, kept within 64 bits. -/
def LogsRequest.NeedsPage (request : LogsRequest) (plan : LogsPlan) (buckets : List Bucket) :
    Prop :=
  totalCount plan.order buckets ≠ 0 ∧ request.limit ≠ 0 ∧ ∃ bucket ∈ buckets, 0 < bucket.count

/-- What is asked and what is returned for a request without a fault. -/
structure LogsRequest.IsAnswered (request : LogsRequest) (schema : Schema) (plan : LogsPlan)
    (before : Session) (run : Except ServiceError LogsAnswer × Session) : Prop where
  issued : run.2.statements = before.statements ++ [request.histogram schema plan] ∨
    ∃ ranges, run.2.statements = before.statements ++
      [request.histogram schema plan, rowStatement schema plan request.limit ranges]
  asksForPage : (∃ page, run.2.statements =
      before.statements ++ [request.histogram schema plan, page]) ↔
    ∃ buckets, before.histogram = .ok buckets ∧ request.NeedsPage plan buckets
  histogramFails : ∀ error, before.FailsAt 0 bucketOfRow error → run.1 = .error error
  withoutPage : ∀ buckets, before.histogram = .ok buckets → ¬ request.NeedsPage plan buckets →
    run.1 = .ok ⟨[], fixedColumns, totalCount plan.order buckets, buckets⟩
  pageFails : ∀ buckets error, before.histogram = .ok buckets →
    request.NeedsPage plan buckets → before.FailsAt 1 Except.ok error → run.1 = .error error
  withPage : ∀ buckets documents fields, before.histogram = .ok buckets →
    request.NeedsPage plan buckets → before.page = .ok (documents, fields) →
    run.1 = .ok ⟨documents, sortFields fields.toList, totalCount plan.order buckets, buckets⟩

theorem needsPage_iff (request : LogsRequest) (plan : LogsPlan) (buckets : List Bucket) :
    request.NeedsPage plan buckets ↔
      ¬ (totalCount plan.order buckets = 0 ∨ request.limit = 0 ∨
        neededRanges plan.order request.limit plan.interval request.range buckets = []) := by
  unfold LogsRequest.NeedsPage
  by_cases limited : request.limit = 0
  · simp [limited]
  · rw [neededRanges_eq_nil_iff plan.order limited]
    simp [limited]

/-- The answer with a page of documents. -/
def LogsPlan.answer (plan : LogsPlan) (buckets : List Bucket) (page : List Document × KeySet) :
    LogsAnswer :=
  ⟨page.1, sortFields page.2.toList, totalCount plan.order buckets, buckets⟩

namespace LogsRequest.IsAnswered

variable {after : Session} {buckets : List Bucket}

/-! A search ends in one of three ways. -/

theorem of_histogramFails {error : ServiceError} (failed : session.histogram = .error error)
    (issued : after.statements = session.statements ++ [request.histogram schema plan]) :
    request.IsAnswered schema plan session (.error error, after) where
  issued := .inl issued
  asksForPage := by simp [issued, failed]
  histogramFails := by
    intro found fails
    cases failed.symm.trans (Session.histogram_of_fails fails)
    rfl
  withoutPage := by simp [failed]
  pageFails := by simp [failed]
  withPage := by simp [failed]

theorem of_withoutPage (drained : session.histogram = .ok buckets)
    (unneeded : ¬ request.NeedsPage plan buckets)
    (issued : after.statements = session.statements ++ [request.histogram schema plan]) :
    request.IsAnswered schema plan session
      (.ok ⟨[], fixedColumns, totalCount plan.order buckets, buckets⟩, after) where
  issued := .inl issued
  asksForPage := by simp [issued, drained, unneeded]
  histogramFails := by
    intro error fails
    cases drained.symm.trans (Session.histogram_of_fails fails)
  withoutPage := by simp [drained]
  pageFails := by
    intro found error same needed
    cases drained.symm.trans same
    exact absurd needed unneeded
  withPage := by
    intro found documents fields same needed
    cases drained.symm.trans same
    exact absurd needed unneeded

theorem of_withPage (drained : session.histogram = .ok buckets)
    (needed : request.NeedsPage plan buckets) {ranges : List TimeRange}
    (issued : after.statements = session.statements ++
      [request.histogram schema plan, rowStatement schema plan request.limit ranges]) :
    request.IsAnswered schema plan session (session.page.map (plan.answer buckets), after) where
  issued := .inr ⟨ranges, issued⟩
  asksForPage := by simp [issued, drained, needed]
  histogramFails := by
    intro error fails
    cases drained.symm.trans (Session.histogram_of_fails fails)
  withoutPage := by simp [drained, needed]
  pageFails := by
    intro found error _ _ fails
    rw [Session.page_of_fails fails]
    rfl
  withPage := by
    intro found documents fields same _ fetched
    cases drained.symm.trans same
    rw [fetched]
    rfl

end LogsRequest.IsAnswered

/-- A search without a fault asks for the histogram, and then for the page if it is needed. -/
inductive LogsRequest.Ends (request : LogsRequest) (schema : Schema) (plan : LogsPlan)
    (before : Session) : Except ServiceError LogsAnswer × Session → Prop where
  | histogramFails {error : ServiceError} {after : Session}
      (failed : before.histogram = .error error)
      (issued : after.statements = before.statements ++ [request.histogram schema plan]) :
      Ends request schema plan before (.error error, after)
  | withoutPage {buckets : List Bucket} {after : Session}
      (drained : before.histogram = .ok buckets) (unneeded : ¬ request.NeedsPage plan buckets)
      (issued : after.statements = before.statements ++ [request.histogram schema plan]) :
      Ends request schema plan before
        (.ok ⟨[], fixedColumns, totalCount plan.order buckets, buckets⟩, after)
  | withPage {buckets : List Bucket} {ranges : List TimeRange} {after : Session}
      (drained : before.histogram = .ok buckets) (needed : request.NeedsPage plan buckets)
      (issued : after.statements = before.statements ++
        [request.histogram schema plan, rowStatement schema plan request.limit ranges]) :
      Ends request schema plan before (before.page.map (plan.answer buckets), after)

theorem execute_searchLogs_of_fault {error : ServiceError}
    (fault : request.plan schema snapshot = .error error) (session : Session) :
    (searchLogs schema snapshot request).execute session = (.error error, session) := by
  rw [searchLogs, Work.execute_bind, Work.execute_ofExcept, fault]

theorem ends_searchLogs (planned : request.plan schema snapshot = .ok plan)
    (session : Session) :
    request.Ends schema plan session ((searchLogs schema snapshot request).execute session) := by
  rcases asksFor_buckets (request.histogram schema plan) session with ⟨middle, asked, once⟩
  rw [← Session.histogram] at asked
  rw [searchLogs, Work.execute_bind, Work.execute_ofExcept, planned]
  change request.Ends schema plan session
    ((fetchBuckets (request.histogram schema plan) >>= _).execute session)
  rw [Work.execute_bind, asked]
  rcases drained : session.histogram with error | buckets
  · exact .histogramFails drained once.statements
  · dsimp only
    split
    · next unneeded =>
        refine .withoutPage drained ?_ once.statements
        rw [needsPage_iff]
        exact not_not_intro unneeded
    · next needed =>
        rcases asksFor_documents (rowStatement schema plan request.limit
          (neededRanges plan.order request.limit plan.interval request.range buckets)) middle with
          ⟨after, fetched, again⟩
        -- What the histogram left to be answered first is the second answer of the whole run.
        have page : (middle.answer 0 >>= RowStream.documents) = session.page := by
          rw [once.answer, Session.page]
        have issued := again.statements
        rw [once.statements, List.append_assoc] at issued
        have ends := LogsRequest.Ends.withPage drained
          ((needsPage_iff request plan buckets).mpr needed) issued
        rw [Work.execute_bind, fetched, page]
        generalize session.page = fetchedPage at ends ⊢
        rcases fetchedPage with error | ⟨documents, fields⟩
        · exact ends
        · exact ends

theorem isAnswered_searchLogs (planned : request.plan schema snapshot = .ok plan)
    (session : Session) :
    request.IsAnswered schema plan session
      ((searchLogs schema snapshot request).execute session) := by
  have ends := ends_searchLogs planned session
  generalize (searchLogs schema snapshot request).execute session = run at ends ⊢
  cases ends with
  | histogramFails failed issued => exact .of_histogramFails failed issued
  | withoutPage drained unneeded issued => exact .of_withoutPage drained unneeded issued
  | withPage drained needed issued => exact .of_withPage drained needed issued

end Searches

/-! ## Charts -/

/-- What is returned for the one statement of a chart. -/
structure AggregationRequest.IsAnswered (statement : String) (before : Session)
    (run : Except ServiceError ChartAnswer × Session) : Prop where
  issued : run.2.statements = before.statements ++ [statement]
  fails : ∀ error, before.FailsAt 0 Except.ok error → run.1 = .error error
  answers : ∀ answer, (before.answer 0 >>= RowStream.chart) = .ok answer → run.1 = .ok answer

theorem isAnswered_runAggregation {schema : Schema} {snapshot : FieldSnapshot}
    {request : AggregationRequest} {statement : String}
    (planned : request.statement schema snapshot = .ok statement) (session : Session) :
    AggregationRequest.IsAnswered statement session
      ((runAggregation schema snapshot request).execute session) := by
  rcases asksFor_chart statement session with ⟨after, asked, once⟩
  rw [runAggregation, Work.execute_bind, Work.execute_ofExcept, planned]
  dsimp only
  rw [asked]
  exact ⟨once.statements,
    fun _ fails => fails.bind_eq fun stream => ChartAnswer.ofRows stream.columns,
    fun _ answered => answered⟩

/-- A request with a fault is refused before the store hears of it, with the first fault that
it has. Any other is answered in full or fails with the first error that the store gives. -/
theorem checks_precede_statements (schema : Schema) (snapshot : FieldSnapshot)
    (session : Session) :
    (∀ (request : LogsRequest) (error : ServiceError),
      firstFault (request.checks schema snapshot) = some error →
        (searchLogs schema snapshot request).execute session = (.error error, session)) ∧
    (∀ request : LogsRequest, firstFault (request.checks schema snapshot) = none →
      ∃ plan, request.plan schema snapshot = .ok plan ∧
        request.IsAnswered schema plan session
          ((searchLogs schema snapshot request).execute session)) ∧
    (∀ (request : AggregationRequest) (error : ServiceError),
      firstFault (request.checks schema snapshot) = some error →
        (runAggregation schema snapshot request).execute session = (.error error, session)) ∧
    (∀ request : AggregationRequest, firstFault (request.checks schema snapshot) = none →
      ∃ statement, request.statement schema snapshot = .ok statement ∧
        AggregationRequest.IsAnswered statement session
          ((runAggregation schema snapshot request).execute session)) := by
  refine ⟨?_, ?_, ?_, ?_⟩
  · intro request error fault
    rw [← request.fault?_plan, fault?_eq_some_iff] at fault
    rw [searchLogs, Work.execute_bind, Work.execute_ofExcept, fault]
  · intro request unfaulted
    rw [← request.fault?_plan, fault?_eq_none_iff] at unfaulted
    rcases unfaulted with ⟨plan, planned⟩
    exact ⟨plan, planned, isAnswered_searchLogs planned session⟩
  · intro request error fault
    rw [← request.fault?_statement, fault?_eq_some_iff] at fault
    rw [runAggregation, Work.execute_bind, Work.execute_ofExcept, fault]
  · intro request unfaulted
    rw [← request.fault?_statement, fault?_eq_none_iff] at unfaulted
    rcases unfaulted with ⟨statement, planned⟩
    exact ⟨statement, planned, isAnswered_runAggregation planned session⟩

/-- A store that counts three rows and breaks off after the first of them. -/
def breakingStore : Session :=
  Session.start
    [⟨0, .ok ⟨["interval_data", "count_data"], [⟨0, .ok [.integer 0, .integer 3]⟩], 0⟩⟩,
      ⟨0, .ok ⟨["log"], [⟨0, .ok [.text "started"]⟩, ⟨0, .error .transport⟩], 0⟩⟩]

/-- Of two faults the first is reported, and the row that came before the break is lost. -/
theorem checks_precede_statements_hour :
    (searchLogs ⟨"default", []⟩ .empty ⟨"", "ascending", "a;b", 10, ⟨3600, 0⟩⟩).execute
        breakingStore =
      (.error (.badRequest .invalidOrderField), breakingStore) ∧
    ((searchLogs ⟨"default", []⟩ .empty ⟨"", "ascending", "app", 10, ⟨0, 3600⟩⟩).execute
        breakingStore).1 = .error (.store .transport) := by
  rcases checks_precede_statements ⟨"default", []⟩ .empty breakingStore with
    ⟨refused, answered, _, _⟩
  refine ⟨refused _ _ (by rfl), ?_⟩
  rcases answered ⟨"", "ascending", "app", 10, ⟨0, 3600⟩⟩ (by rfl) with ⟨plan, planned, answers⟩
  cases planned
  exact answers.pageFails [⟨0, 3⟩] (.store .transport) (by cbv)
    ⟨by decide, by decide, ⟨0, 3⟩, by simp, by decide⟩
    (.row _ [_] [] _ rfl rfl (List.forall_mem_singleton.mpr ⟨[.text "started"], rfl⟩) rfl)

end LogQuery
