import LogQuery.Proofs.Logs.FirstPage
import LogQuery.Proofs.Outcome
import LogQuery.Proofs.Service.Checked

namespace LogQuery

/-! ## The rows of a histogram

What a row says of its bucket is read off its first two cells. -/

/-- The row has the start of the bucket, as a time or as seconds, and then its count. -/
def Bucket.IsReadFrom (bucket : Bucket) (row : Row) : Prop :=
  ∃ start count, row[0]? = some start ∧ row[1]? = some count ∧
    ((∃ instant, start = .timestamp instant ∧ instant.seconds = bucket.start) ∨
      start.integer? = some bucket.start) ∧
    count.integer? = some bucket.count

theorem bucketStart?_eq_some_iff {cell : Cell} {start : Int} :
    bucketStart? cell = some start ↔
      (∃ instant, cell = .timestamp instant ∧ instant.seconds = start) ∨
        cell.integer? = some start := by
  cases cell <;> simp [bucketStart?, Cell.timestamp?, Cell.integer?]

theorem cellAt_eq_ok_iff {row : Row} {position : Nat} {column : String} {cell : Cell} :
    cellAt row position column = .ok cell ↔ row[position]? = some cell := by
  unfold cellAt
  cases row[position]? <;> simp

theorem bucketOfRow_eq_ok_iff {row : Row} {bucket : Bucket} :
    bucketOfRow row = .ok bucket ↔ bucket.IsReadFrom row := by
  constructor
  · intro read
    rcases bind_eq_ok_iff.mp read with ⟨start, started, read⟩
    split at read
    · contradiction
    · next begins =>
        rcases bind_eq_ok_iff.mp read with ⟨count, counted, read⟩
        split at read
        · contradiction
        · next whole =>
            cases read
            exact ⟨start, count, cellAt_eq_ok_iff.mp started, cellAt_eq_ok_iff.mp counted,
              bucketStart?_eq_some_iff.mp begins, whole⟩
  · rintro ⟨start, count, started, counted, begins, whole⟩
    refine bind_eq_ok_iff.mpr ⟨start, cellAt_eq_ok_iff.mpr started, ?_⟩
    rw [bucketStart?_eq_some_iff.mpr begins]
    refine bind_eq_ok_iff.mpr ⟨count, cellAt_eq_ok_iff.mpr counted, ?_⟩
    rw [whole]

/-- Every row of the response was had, and each gives its bucket. -/
def RowStream.Counts (stream : RowStream) (response : List Bucket) : Prop :=
  List.Forall₂ (fun step bucket => ∃ row, step.row = .ok row ∧ bucket.IsReadFrom row)
    stream.steps response

theorem values_bucketOfRow_eq_ok_iff {stream : RowStream} {response : List Bucket} :
    stream.values bucketOfRow = .ok response ↔ stream.Counts response := by
  have each (step : RowStep) (bucket : Bucket) : step.value bucketOfRow = .ok bucket ↔
      ∃ row, step.row = .ok row ∧ bucket.IsReadFrom row := by
    simp only [RowStep.value, bind_eq_ok_iff, mapError_eq_ok_iff, bucketOfRow_eq_ok_iff]
  rw [RowStream.values, mapM_eq_ok_iff, RowStream.Counts]
  simp only [each]

/-! ## Buckets in order -/

/-- The same buckets by their start. Those of one start stay as they came. -/
structure IsArranged (response sorted : List Bucket) : Prop where
  perm : sorted.Perm response
  ordered : sorted.Pairwise fun one other => one.start ≤ other.start
  stable : ∀ start, sorted.filter (·.start = start) = response.filter (·.start = start)

theorem filter_sortBuckets (response : List Bucket) (start : Int) :
    (sortBuckets response).filter (·.start = start) = response.filter (·.start = start) := by
  have equal : (response.filter (·.start = start)).Pairwise fun one other =>
      decide (one.start ≤ other.start) = true := by
    apply List.pairwise_of_forall_mem_list
    intro one first other second
    have oneStarts : one.start = start := of_decide_eq_true (List.mem_filter.mp first).2
    have otherStarts : other.start = start := of_decide_eq_true (List.mem_filter.mp second).2
    exact decide_eq_true (by omega)
  have kept : (response.filter (·.start = start)).Sublist (sortBuckets response) := by
    apply List.sublist_mergeSort startsBefore_trans startsBefore_total equal List.filter_sublist
  have within := kept.filter (·.start = start)
  simp only [List.filter_filter, Bool.and_self] at within
  have sameLength := ((sortBuckets_perm response).filter (·.start = start)).length_eq
  exact (within.eq_of_length sameLength.symm).symm

theorem isArranged_sortBuckets (response : List Bucket) :
    IsArranged response (sortBuckets response) where
  perm := sortBuckets_perm response
  ordered := pairwise_sortBuckets response
  stable := filter_sortBuckets response

/-! ## The count -/

/-- Counts that are not negative come to their sum, cut once at the end. -/
theorem foldl_addCount {counted : Int} (above : 0 ≤ counted) {buckets : List Bucket}
    (nonneg : ∀ bucket ∈ buckets, 0 ≤ bucket.count) :
    buckets.foldl addCount (saturate counted) = saturate (counted + totalOf buckets) := by
  induction buckets generalizing counted with
  | nil => rw [List.foldl_nil, totalOf, List.map_nil, List.sum_nil, Int.add_zero]
  | cons bucket buckets induction =>
      rcases List.forall_mem_cons.mp nonneg with ⟨first, rest⟩
      have later : 0 ≤ counted + bucket.count := by omega
      rw [List.foldl_cons, addCount_saturate above first, induction later rest, totalOf_cons,
        Int.add_assoc]

theorem totalCount_eq_min (order : LogsOrder) {buckets : List Bucket}
    (nonneg : ∀ bucket ∈ buckets, 0 ≤ bucket.count) :
    totalCount order buckets = min (totalOf buckets) Cell.maxInteger := by
  have walked := walk_perm order buckets
  have walkedNonneg : ∀ bucket ∈ walk order buckets, 0 ≤ bucket.count :=
    fun bucket member => nonneg bucket (walked.mem_iff.mp member)
  have none : saturate 0 = 0 := by decide
  have above := totalOf_nonneg nonneg
  have negative : Cell.minInteger < 0 := by decide
  have positive : 0 < Cell.maxInteger := by decide
  rw [totalCount, ← none, foldl_addCount (Int.le_refl 0) walkedNonneg, Int.zero_add,
    totalOf_perm walked]
  unfold saturate
  omega

/-! ## The answer of a search -/

section

variable {schema : Schema} {snapshot : FieldSnapshot} {request : LogsRequest} {plan : LogsPlan}
  {session : Session} {answer : LogsAnswer}

theorem LogsRequest.Ends.keeps_histogram {run : Except ServiceError LogsAnswer × Session}
    (ends : request.Ends schema plan session run) (answered : run.1 = .ok answer) :
    session.histogram = .ok answer.buckets ∧
      answer.count = totalCount plan.order answer.buckets := by
  cases ends with
  | histogramFails failed issued => contradiction
  | withoutPage drained unneeded issued =>
      cases answered
      exact ⟨drained, rfl⟩
  | withPage drained needed issued =>
      rcases map_eq_ok_iff.mp answered with ⟨page, _, rfl⟩
      exact ⟨drained, rfl⟩

theorem exists_plan_of_answer
    (answered : ((searchLogs schema snapshot request).execute session).1 = .ok answer) :
    ∃ plan, request.plan schema snapshot = .ok plan := by
  cases planned : request.plan schema snapshot with
  | ok plan => exact ⟨plan, rfl⟩
  | error error =>
      rw [execute_searchLogs_of_fault planned] at answered
      contradiction

theorem histogram_eq_ok_iff {sorted : List Bucket} :
    session.histogram = .ok sorted ↔ ∃ stream, session.answer 0 = .ok stream ∧
      ∃ response, stream.Counts response ∧ sortBuckets response = sorted := by
  simp only [Session.histogram, RowStream.buckets, bind_eq_ok_iff, map_eq_ok_iff,
    values_bucketOfRow_eq_ok_iff]

end

/-- The buckets of an answer are those of the histogram's rows, by their start, and its count
is their sum as far as 64 bits go. Neither depends on anything else in the request or in what
the store answers. -/
theorem search_conserves_buckets {schema : Schema} {snapshot : FieldSnapshot}
    {request : LogsRequest} {session : Session} {answer : LogsAnswer}
    (answered : ((searchLogs schema snapshot request).execute session).1 = .ok answer) :
    ∃ stream response, session.answer 0 = .ok stream ∧ stream.Counts response ∧
      IsArranged response answer.buckets ∧
      ((∀ bucket ∈ response, 0 ≤ bucket.count) →
        answer.count = min (totalOf response) Cell.maxInteger) ∧
      ∀ (otherSchema : Schema) (otherSnapshot : FieldSnapshot) (otherRequest : LogsRequest)
        (otherSession : Session) (otherAnswer : LogsAnswer),
        otherSession.answer 0 = session.answer 0 →
        ((searchLogs otherSchema otherSnapshot otherRequest).execute otherSession).1 =
          .ok otherAnswer →
        otherAnswer.buckets = answer.buckets ∧
          ((∀ bucket ∈ response, 0 ≤ bucket.count) → otherAnswer.count = answer.count) := by
  rcases exists_plan_of_answer answered with ⟨plan, planned⟩
  rcases (ends_searchLogs planned session).keeps_histogram answered with ⟨drained, counted⟩
  rcases histogram_eq_ok_iff.mp drained with ⟨stream, replied, response, counts, sorted⟩
  have arranged : IsArranged response answer.buckets := sorted ▸ isArranged_sortBuckets response
  have sum (order : LogsOrder) (nonneg : ∀ bucket ∈ response, 0 ≤ bucket.count) :
      totalCount order answer.buckets = min (totalOf response) Cell.maxInteger := by
    rw [totalCount_eq_min order fun bucket member =>
      nonneg bucket (arranged.perm.mem_iff.mp member), totalOf_perm arranged.perm]
  refine ⟨stream, response, replied, counts, arranged, ?_, ?_⟩
  · intro nonneg
    rw [counted, sum plan.order nonneg]
  · intro otherSchema otherSnapshot otherRequest otherSession otherAnswer sameReply otherAnswered
    rcases exists_plan_of_answer otherAnswered with ⟨otherPlan, otherPlanned⟩
    rcases (ends_searchLogs otherPlanned otherSession).keeps_histogram otherAnswered with
      ⟨otherDrained, otherCounted⟩
    have sameBuckets : otherAnswer.buckets = answer.buckets := by
      rw [Session.histogram, sameReply, ← Session.histogram, drained] at otherDrained
      exact (Except.ok.inj otherDrained).symm
    refine ⟨sameBuckets, ?_⟩
    intro nonneg
    rw [otherCounted, sameBuckets, counted, sum otherPlan.order nonneg, sum plan.order nonneg]

/-- A histogram out of order, with one start twice and more rows than 64 bits can count. -/
def crowdedHistogram : Reply :=
  ⟨0, .ok ⟨["interval_data", "count_data"],
    [⟨0, .ok [.timestamp ⟨120, 0⟩, .natural 9223372036854775807]⟩,
      ⟨0, .ok [.integer 0, .integer 3]⟩, ⟨0, .ok [.integer 120, .integer 4]⟩], 0⟩⟩

def crowdedPage : Reply :=
  ⟨5, .ok ⟨["log"], [⟨0, .ok [.text "started"]⟩], 0⟩⟩

def crowdedBuckets : List Bucket :=
  [⟨0, 3⟩, ⟨120, 9223372036854775807⟩, ⟨120, 4⟩]

theorem histogram_crowded (page : List Reply) :
    (Session.start (crowdedHistogram :: page)).histogram = .ok crowdedBuckets := by
  have sorted : sortBuckets [⟨120, 9223372036854775807⟩, ⟨0, 3⟩, ⟨120, 4⟩] = crowdedBuckets := by
    simp [sortBuckets, List.mergeSort, crowdedBuckets]
  rw [← sorted]
  rfl

/-- Without a page and with one, by a field and by time, the histogram gives the same. -/
theorem search_conserves_buckets_crowded :
    ∃ pageless paged : LogsAnswer,
      ((searchLogs ⟨"logs", []⟩ .empty ⟨"", "ascending", "app", 0, ⟨0, 3600⟩⟩).execute
        (Session.start [crowdedHistogram])).1 = .ok pageless ∧
      ((searchLogs ⟨"logs", []⟩ .empty ⟨"", "", "", 2, ⟨0, 3600⟩⟩).execute
        (Session.start [crowdedHistogram, crowdedPage])).1 = .ok paged ∧
      pageless.documents = [] ∧ paged.documents = [[("log", .text "started")]] ∧
      pageless.buckets = crowdedBuckets ∧ pageless.count = Cell.maxInteger ∧
      paged.buckets = pageless.buckets ∧ paged.count = pageless.count := by
  have byField : LogsRequest.plan ⟨"", "ascending", "app", 0, ⟨0, 3600⟩⟩ ⟨"logs", []⟩ .empty =
      .ok ⟨"", ⟨"app", .ascending⟩, 120⟩ := by rfl
  have byTime : LogsRequest.plan ⟨"", "", "", 2, ⟨0, 3600⟩⟩ ⟨"logs", []⟩ .empty =
      .ok ⟨"", ⟨"timestamp", .descending⟩, 120⟩ := by rfl
  have pageless := (isAnswered_searchLogs byField (Session.start [crowdedHistogram])).withoutPage
    crowdedBuckets (histogram_crowded []) fun needed => needed.2.1 rfl
  have paged := (isAnswered_searchLogs byTime
      (Session.start [crowdedHistogram, crowdedPage])).withPage
    crowdedBuckets [[("log", .text "started")]] (KeySet.ofList fixedColumns)
    (histogram_crowded [crowdedPage]) ⟨by decide, by decide, ⟨0, 3⟩, by decide, by decide⟩ rfl
  rcases search_conserves_buckets pageless with
    ⟨_, response, _, _, arranged, counted, independent⟩
  have nonneg : ∀ bucket ∈ response, 0 ≤ bucket.count := by
    intro bucket member
    have listed : ∀ bucket ∈ crowdedBuckets, 0 ≤ bucket.count := by decide
    exact listed bucket (arranged.perm.mem_iff.mpr member)
  rcases independent _ _ _ (Session.start [crowdedHistogram, crowdedPage]) _ rfl paged with
    ⟨sameBuckets, sameCount⟩
  refine ⟨_, _, pageless, paged, rfl, rfl, rfl, ?_, sameBuckets, sameCount nonneg⟩
  rw [counted nonneg, ← totalOf_perm arranged.perm]
  decide

end LogQuery
