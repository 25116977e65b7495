import LogQuery.Proofs.Logs.Assembled
import LogQuery.Proofs.Outcome
import LogQuery.Proofs.Service.Checked
import LogQuery.Proofs.Text.ByteOrder

namespace LogQuery

open Json (keysOf)

/-! ## Names in order -/

theorem mem_sortFields {names : List String} {name : String} :
    name ∈ sortFields names ↔ name ∈ names :=
  (List.mergeSort_perm _ _).mem_iff

theorem notAfter_iff {one other : String} : (!(other < one)) = true ↔ one ≤ other := by
  rw [Bool.not_eq_true', decide_eq_false_iff_not, String.not_lt]

theorem pairwise_sortFields {names : List String} (distinct : names.Nodup) :
    (sortFields names).Pairwise (· < ·) := by
  have ordered : (sortFields names).Pairwise fun one other => (!(other < one)) = true := by
    apply List.pairwise_mergeSort
    · intro first second third
      rw [notAfter_iff, notAfter_iff, notAfter_iff]
      exact String.le_trans
    · intro one other
      rw [Bool.or_eq_true, notAfter_iff, notAfter_iff]
      exact String.le_total one other
  have different : (sortFields names).Nodup := (List.mergeSort_perm _ _).nodup_iff.mpr distinct
  apply (ordered.and different).imp
  rintro one other ⟨notAfter, apart⟩
  exact Std.lt_of_le_of_ne (notAfter_iff.mp notAfter) apart

/-! ## The names that rows add -/

/-- The name is that of a fixed column, or a map of one of the rows has it as a key. -/
def IsFieldOf (columns : List String) (rows : List Row) (name : String) : Prop :=
  name ∈ fixedColumns ∨
    ∃ row ∈ rows, ∃ kind : FieldKind, name ∈ keysOf (mapEntries columns row kind)

instance (columns : List String) (rows : List Row) (name : String) :
    Decidable (IsFieldOf columns rows name) :=
  decidable_of_iff (name ∈ fixedColumns ∨ ∃ row ∈ rows,
      name ∈ keysOf (mapEntries columns row .number) ∨
        name ∈ keysOf (mapEntries columns row .string)) <| by
    simp only [IsFieldOf, exists_kind_iff]

section

variable {columns : List String} (distinct : columns.Nodup) {row : Row} {name : String}
include distinct

theorem mem_dynamicKeys :
    name ∈ dynamicKeys columns row ↔
      ∃ kind : FieldKind, name ∈ keysOf (mapEntries columns row kind) := by
  rw [dynamicKeys_eq distinct, List.mem_append, exists_kind_iff]

theorem mem_assembledFields {rows : List Row} :
    name ∈ (assembleDocuments columns rows).2.toList ↔ IsFieldOf columns rows name := by
  rw [assembleDocuments, KeySet.foldl_insertMany, KeySet.mem_insertMany, KeySet.mem_ofList,
    List.mem_flatMap, IsFieldOf]
  simp only [mem_dynamicKeys distinct]

end

/-! ## The keys of documents -/

theorem mem_of_cellOf {columns : List String} {row : Row} {column : String} {cell : Cell}
    (held : cellOf columns row column = some cell) : column ∈ columns := by
  rcases Option.bind_eq_some_iff.mp held with ⟨position, found, _⟩
  exact List.isSome_idxOf?.mp (Option.isSome_of_eq_some found)

/-- Under the columns of the row query, the ones that are no map are the fixed ones. -/
theorem isFieldOf_of_mem_document {rows : List Row} {document : Document}
    (assembled : document ∈ (assembleDocuments rowColumns rows).1) {key : String}
    (member : key ∈ keysOf document) : IsFieldOf rowColumns rows key := by
  have distinct : rowColumns.Nodup := by decide
  have fixed : ∀ column ∈ rowColumns, isMapColumn column = false → column ∈ fixedColumns := by
    decide
  rcases List.mem_map.mp assembled with ⟨row, inRows, rfl⟩
  rcases (mem_keysOf_assembleDocument distinct row).mp member with
    ⟨plain, cell, held⟩ | number | string
  · exact .inl (fixed key (mem_of_cellOf held) (isMapColumn_eq_false plain))
  · exact .inr ⟨row, inRows, .number, number⟩
  · exact .inr ⟨row, inRows, .string, string⟩

/-! ## The fields of an answer -/

/-- The answer has a document for each row, and its fields are those of the rows. They are in
the order of their bytes, so that none is there twice, and no document of the row query has
others. -/
structure LogsAnswer.ListsFields (answer : LogsAnswer) (columns : List String)
    (rows : List Row) : Prop where
  documents : answer.documents = rows.map (assembleDocument columns)
  ordered : answer.fields.Pairwise fun one other =>
    Text.utf8Bytes one.toList < Text.utf8Bytes other.toList
  listed : ∀ name, name ∈ answer.fields ↔ IsFieldOf columns rows name
  covers : columns = rowColumns → ∀ document ∈ answer.documents, ∀ key ∈ keysOf document,
    key ∈ answer.fields

theorem listsFields_answer (plan : LogsPlan) (buckets : List Bucket) {columns : List String}
    (distinct : columns.Nodup) (rows : List Row) :
    (plan.answer buckets (assembleDocuments columns rows)).ListsFields columns rows := by
  have listed (name : String) :
      name ∈ (plan.answer buckets (assembleDocuments columns rows)).fields ↔
        IsFieldOf columns rows name := by
    rw [LogsPlan.answer, mem_sortFields, mem_assembledFields distinct]
  refine ⟨rfl, ?_, listed, ?_⟩
  · apply (pairwise_sortFields (assembleDocuments columns rows).2.nodup).imp
    intro one other before
    exact Text.utf8Bytes_lt (String.lt_iff.mp before)
  · rintro rfl document assembled key member
    exact (listed key).mpr (isFieldOf_of_mem_document assembled member)

theorem documents_of_drained {stream : RowStream} {rows : List Row}
    (drained : stream.steps.map RowStep.row = rows.map .ok) :
    stream.documents = .ok (assembleDocuments stream.columns rows) :=
  map_eq_ok_iff.mpr ⟨rows, RowStream.values_ok_eq_ok_iff.mpr drained, rfl⟩

section

variable {schema : Schema} {snapshot : FieldSnapshot} {request : LogsRequest} {session : Session}
  {histogram page : String}

/-- A search that issued a second statement answers with what that statement gave. -/
theorem exists_answer_of_page
    (issued : ((searchLogs schema snapshot request).execute session).2.statements =
      session.statements ++ [histogram, page]) :
    ∃ (plan : LogsPlan) (buckets : List Bucket),
      ((searchLogs schema snapshot request).execute session).1 =
        session.page.map (plan.answer buckets) := by
  cases planned : request.plan schema snapshot with
  | error error =>
      rw [execute_searchLogs_of_fault planned] at issued
      simp at issued
  | ok plan =>
      have ends := ends_searchLogs planned session
      generalize (searchLogs schema snapshot request).execute session = run at ends issued ⊢
      cases ends with
      | histogramFails failed once =>
          rw [once] at issued
          simp at issued
      | withoutPage drained unneeded once =>
          rw [once] at issued
          simp at issued
      | withPage drained needed both => exact ⟨plan, _, rfl⟩

/-- Where the rows were asked for and all had, the fields of the answer are known from them. -/
theorem fields_cover_documents
    (issued : ((searchLogs schema snapshot request).execute session).2.statements =
      session.statements ++ [histogram, page])
    {stream : RowStream} (answered : session.answer 1 = .ok stream) {rows : List Row}
    (drained : stream.steps.map RowStep.row = rows.map .ok) (distinct : stream.columns.Nodup) :
    ∃ answer, ((searchLogs schema snapshot request).execute session).1 = .ok answer ∧
      answer.ListsFields stream.columns rows := by
  rcases exists_answer_of_page issued with ⟨plan, buckets, ran⟩
  have had : session.page = .ok (assembleDocuments stream.columns rows) :=
    bind_eq_ok_iff.mpr ⟨stream, answered, documents_of_drained drained⟩
  refine ⟨_, ?_, listsFields_answer plan buckets distinct rows⟩
  rw [ran, had]
  rfl

end

/-- Two rows with one key in common, which the second has in both of its maps. -/
def overlappingRows : List Row :=
  [[.timestamp ⟨130, 0⟩, .text "prod", .text "bookinfo", .text "reviews", .text "reviews-1",
      .text "reviews", .text "node-1", .map [("status", .text "ok"), ("zone", .text "a")],
      .map [("bytes", .integer 512)], .text "GET /reviews"],
    [.timestamp ⟨125, 0⟩, .text "prod", .text "bookinfo", .text "reviews", .text "reviews-2",
      .text "reviews", .text "node-2", .map [("status", .text "slow")],
      .map [("status", .integer 504), ("log", .integer 1)], .text "GET /reviews"]]

def overlappingReplies : List Reply :=
  [⟨0, .ok ⟨["interval_data", "count_data"], [⟨0, .ok [.integer 120, .integer 2]⟩], 0⟩⟩,
    ⟨3, .ok ⟨rowColumns, overlappingRows.map fun row => ⟨1, .ok row⟩, 0⟩⟩]

theorem fields_cover_documents_overlapping :
    ∃ answer, ((searchLogs ⟨"logs", []⟩ .empty ⟨"", "", "", 2, ⟨0, 3600⟩⟩).execute
        (Session.start overlappingReplies)).1 = .ok answer ∧
      answer.ListsFields rowColumns overlappingRows ∧
      (∀ name ∈ ["app", "bytes", "log", "status", "zone"], name ∈ answer.fields) ∧
      "fields_string" ∉ answer.fields := by
  have planned : LogsRequest.plan ⟨"", "", "", 2, ⟨0, 3600⟩⟩ ⟨"logs", []⟩ .empty =
      .ok ⟨"", ⟨"timestamp", .descending⟩, 120⟩ := by rfl
  have counted : (Session.start overlappingReplies).histogram = .ok [⟨120, 2⟩] := by cbv
  rcases (isAnswered_searchLogs planned (Session.start overlappingReplies)).asksForPage.mpr
    ⟨_, counted, by decide, by decide, ⟨120, 2⟩, List.mem_singleton_self _, by decide⟩ with
    ⟨page, issued⟩
  have drained : (overlappingRows.map fun row => RowStep.mk 1 (.ok row)).map RowStep.row =
      overlappingRows.map .ok := rfl
  rcases fields_cover_documents issued rfl drained (by decide) with ⟨answer, answered, lists⟩
  refine ⟨answer, answered, lists, ?_, ?_⟩
  · intro name member
    have listed : ∀ name ∈ ["app", "bytes", "log", "status", "zone"],
        IsFieldOf rowColumns overlappingRows name := by decide
    exact (lists.listed name).mpr (listed name member)
  · rw [lists.listed]
    decide

end LogQuery
