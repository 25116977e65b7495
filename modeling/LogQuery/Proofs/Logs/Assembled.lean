import LogQuery.Logs.Search
import LogQuery.Proofs.Fields.Insertion
import LogQuery.Proofs.Json.Fields

namespace LogQuery

open Json (keysOf)

/-! ## What a row holds

The cell of a column is found by the place of the column's name. -/

def cellOf (columns : List String) (row : Row) (column : String) : Option Cell :=
  (columns.idxOf? column).bind (row[·]?)

/-- The entries of a map column. A cell that is missing or is no map has none. -/
def mapEntries (columns : List String) (row : Row) (kind : FieldKind) : List (String × Cell) :=
  ((cellOf columns row kind.mapColumn).bind Cell.map?).getD []

def lastValue? (key : String) (entries : List (String × Cell)) : Option Cell :=
  entries.reverse.lookup key

/-- What the maps of a row have under a key. -/
def dynamicValue? (columns : List String) (row : Row) (key : String) : Option Cell :=
  (lastValue? key (mapEntries columns row .string)).or
    (lastValue? key (mapEntries columns row .number))

theorem exists_lastValue?_iff {key : String} {entries : List (String × Cell)} :
    (∃ value, lastValue? key entries = some value) ↔ key ∈ keysOf entries := by
  rw [lastValue?, ← Json.mem_keysOf_iff, keysOf, List.map_reverse, List.mem_reverse, keysOf]

theorem lastValue?_eq_none {key : String} {entries : List (String × Cell)}
    (absent : key ∉ keysOf entries) : lastValue? key entries = none :=
  Option.eq_none_iff_forall_ne_some.mpr fun value found =>
    absent (exists_lastValue?_iff.mp ⟨value, found⟩)

theorem exists_dynamicValue?_iff {columns : List String} {row : Row} {key : String} :
    (∃ value, dynamicValue? columns row key = some value) ↔
      key ∈ keysOf (mapEntries columns row .number) ∨
        key ∈ keysOf (mapEntries columns row .string) := by
  rw [← exists_lastValue?_iff, ← exists_lastValue?_iff, dynamicValue?]
  cases lastValue? key (mapEntries columns row .string) with
  | some value => simp
  | none => simp

theorem lastValue?_append (key : String) (first second : List (String × Cell)) :
    lastValue? key (first ++ second) = (lastValue? key second).or (lastValue? key first) := by
  rw [lastValue?, List.reverse_append, List.lookup_append, lastValue?, lastValue?]

theorem lookup_zip (columns : List String) (row : Row) (column : String) :
    (columns.zip row).lookup column = cellOf columns row column := by
  unfold cellOf
  induction columns generalizing row with
  | nil => rfl
  | cons first columns induction =>
      cases row with
      | nil => cases List.idxOf? column (first :: columns) <;> rfl
      | cons cell row =>
          rw [List.zip_cons_cons, Json.lookup_cons_eq_ite, induction, List.idxOf?_cons]
          by_cases same : column = first
          · simp [same]
          · cases List.idxOf? column columns <;> simp [same, Ne.symm same]

theorem prefix_keysOf_zip (columns : List String) (row : Row) :
    keysOf (columns.zip row) <+: columns := by
  induction columns generalizing row with
  | nil => exact List.prefix_rfl
  | cons first columns induction =>
      cases row with
      | nil => exact List.nil_prefix
      | cons cell row => exact List.cons_prefix_cons.mpr ⟨rfl, induction row⟩

theorem nodup_keysOf_zip {columns : List String} (distinct : columns.Nodup) (row : Row) :
    (keysOf (columns.zip row)).Nodup :=
  distinct.sublist (prefix_keysOf_zip columns row).sublist

/-! ## What is read from the cells -/

theorem exists_kind_iff {holds : FieldKind → Prop} :
    (∃ kind, holds kind) ↔ holds .number ∨ holds .string := by
  constructor
  · rintro ⟨kind, held⟩
    cases kind with
    | string => exact .inr held
    | number => exact .inl held
  · rintro (number | string)
    · exact ⟨.number, number⟩
    · exact ⟨.string, string⟩

theorem isMapColumn_iff {column : String} :
    isMapColumn column = true ↔ ∃ kind : FieldKind, column = kind.mapColumn := by
  rw [isMapColumn, Bool.or_eq_true, decide_eq_true_eq, decide_eq_true_eq, exists_kind_iff,
    or_comm]

theorem isMapColumn_eq_false {column : String}
    (plain : ∀ kind : FieldKind, column ≠ kind.mapColumn) : isMapColumn column = false := by
  rw [← Bool.not_eq_true, isMapColumn_iff]
  rintro ⟨kind, named⟩
  exact plain kind named

theorem foldl_entries_eq {cells : List (String × Cell)} (distinct : (keysOf cells).Nodup)
    (column : String) (entries : List (String × Cell)) :
    cells.foldl (fun entries named =>
      if named.1 = column then named.2.map?.getD entries else entries) entries =
      ((cells.lookup column).bind Cell.map?).getD entries := by
  induction cells generalizing entries with
  | nil => rfl
  | cons named cells induction =>
      rcases List.nodup_cons.mp distinct with ⟨first, rest⟩
      rcases named with ⟨name, cell⟩
      rw [List.foldl_cons, induction rest, Json.lookup_cons_eq_ite]
      by_cases same : column = name
      · subst same
        have unfound : cells.lookup column = none :=
          Option.eq_none_iff_forall_ne_some.mpr fun value found =>
            first (Json.mem_keysOf_iff.mpr ⟨value, found⟩)
        simp [unfound]
      · simp [same, Ne.symm same]

theorem entriesOf_zip {columns : List String} (distinct : columns.Nodup) (row : Row)
    (kind : FieldKind) :
    entriesOf kind.mapColumn (columns.zip row) = mapEntries columns row kind := by
  rw [entriesOf, foldl_entries_eq (nodup_keysOf_zip distinct row), lookup_zip, mapEntries]

theorem lookup_plainCells (cells : List (String × Cell)) (column : String) :
    (plainCells cells).lookup column =
      if isMapColumn column then none else cells.lookup column := by
  induction cells with
  | nil => simp [plainCells]
  | cons named cells induction =>
      rcases named with ⟨name, cell⟩
      rw [Json.lookup_cons_eq_ite]
      by_cases map : isMapColumn name = true
      · rw [plainCells, List.filter_cons_of_neg (by simpa using map), ← plainCells, induction]
        by_cases same : column = name
        · simp [same, map]
        · simp [same]
      · rw [plainCells, List.filter_cons_of_pos (by simpa using map), ← plainCells,
          Json.lookup_cons_eq_ite, induction]
        by_cases same : column = name
        · simp [same, map]
        · simp [same]

theorem lastValue?_plainCells {columns : List String} (distinct : columns.Nodup) (row : Row)
    (column : String) :
    lastValue? column (plainCells (columns.zip row)) =
      if isMapColumn column then none else cellOf columns row column := by
  have plain : (keysOf (plainCells (columns.zip row))).Nodup :=
    (nodup_keysOf_zip distinct row).sublist (List.filter_sublist.map _)
  rw [lastValue?, Json.lookup_reverse plain, lookup_plainCells, lookup_zip]

/-! ## What is written -/

theorem lookup_foldl_writeField (entries : List (String × Cell)) (document : Document)
    (key : String) :
    (entries.foldl writeField document).lookup key =
      ((lastValue? key entries).map Cell.toJson).or (document.lookup key) := by
  induction entries generalizing document with
  | nil => rfl
  | cons entry entries induction =>
      rw [List.foldl_cons, induction, writeField, Json.lookup_insertField,
        ← List.singleton_append, lastValue?_append, lastValue?, lastValue?,
        List.reverse_singleton, Json.lookup_cons_eq_ite]
      cases entries.reverse.lookup key with
      | some value => rfl
      | none => by_cases same : key = entry.1 <;> simp [same]

theorem pairwise_foldl_writeField (entries : List (String × Cell)) {document : Document}
    (sorted : (keysOf document).Pairwise (· < ·)) :
    (keysOf (entries.foldl writeField document)).Pairwise (· < ·) := by
  induction entries generalizing document with
  | nil => exact sorted
  | cons entry entries induction => exact induction (Json.pairwise_insertField sorted _ _)

section

variable {columns : List String} (distinct : columns.Nodup) (row : Row)
include distinct

theorem lookup_assembleDocument (key : String) :
    (assembleDocument columns row).lookup key =
      ((dynamicValue? columns row key).or
        (if isMapColumn key then none else cellOf columns row key)).map Cell.toJson := by
  rw [assembleDocument, lookup_foldl_writeField, lastValue?_append, dynamicEntries,
    lastValue?_append, entriesOf_zip distinct, entriesOf_zip distinct,
    lastValue?_plainCells distinct, ← dynamicValue?]
  exact Option.or_none

theorem mem_keysOf_assembleDocument {key : String} :
    key ∈ keysOf (assembleDocument columns row) ↔
      ((∀ kind : FieldKind, key ≠ kind.mapColumn) ∧
        ∃ cell, cellOf columns row key = some cell) ∨
      key ∈ keysOf (mapEntries columns row .number) ∨
      key ∈ keysOf (mapEntries columns row .string) := by
  rw [Json.mem_keysOf_iff, lookup_assembleDocument distinct, ← exists_dynamicValue?_iff]
  cases dynamicValue? columns row key with
  | some value => simp
  | none =>
      by_cases plain : ∀ kind : FieldKind, key ≠ kind.mapColumn
      · cases cellOf columns row key <;> simp [isMapColumn_eq_false plain, plain]
      · have map : isMapColumn key = true := by
          rw [isMapColumn_iff]
          simpa using plain
        simp [map, plain]

theorem dynamicKeys_eq :
    dynamicKeys columns row =
      keysOf (mapEntries columns row .number) ++ keysOf (mapEntries columns row .string) := by
  rw [dynamicKeys, dynamicEntries, entriesOf_zip distinct, entriesOf_zip distinct,
    List.map_append, keysOf, keysOf]

end

/-- What a document has of its row. Of a key that is in both maps the text is taken, and of one
that a map has several times the last entry. -/
structure IsAssembled (columns : List String) (row : Row) (document : Document) : Prop where
  sorted : (keysOf document).Pairwise (· < ·)
  keys : ∀ key, key ∈ keysOf document ↔
    ((∀ kind : FieldKind, key ≠ kind.mapColumn) ∧ ∃ cell, cellOf columns row key = some cell) ∨
      key ∈ keysOf (mapEntries columns row .number) ∨
      key ∈ keysOf (mapEntries columns row .string)
  ofString : ∀ key ∈ keysOf (mapEntries columns row .string),
    ∃ value, lastValue? key (mapEntries columns row .string) = some value ∧
      document.lookup key = some value.toJson
  ofNumber : ∀ key ∈ keysOf (mapEntries columns row .number),
    key ∉ keysOf (mapEntries columns row .string) →
    ∃ value, lastValue? key (mapEntries columns row .number) = some value ∧
      document.lookup key = some value.toJson
  ofColumn : ∀ key cell, key ∉ keysOf (mapEntries columns row .string) →
    key ∉ keysOf (mapEntries columns row .number) →
    (∀ kind : FieldKind, key ≠ kind.mapColumn) → cellOf columns row key = some cell →
    document.lookup key = some cell.toJson
  mapColumn : ∀ kind : FieldKind, kind.mapColumn ∈ keysOf document →
    kind.mapColumn ∈ keysOf (mapEntries columns row .number) ∨
      kind.mapColumn ∈ keysOf (mapEntries columns row .string)

theorem isAssembled_assembleDocument {columns : List String} (distinct : columns.Nodup)
    (row : Row) : IsAssembled columns row (assembleDocument columns row) := by
  have found := lookup_assembleDocument distinct row
  have ofString : ∀ key ∈ keysOf (mapEntries columns row .string),
      ∃ value, lastValue? key (mapEntries columns row .string) = some value ∧
        (assembleDocument columns row).lookup key = some value.toJson := by
    intro key member
    rcases exists_lastValue?_iff.mpr member with ⟨value, last⟩
    refine ⟨value, last, ?_⟩
    rw [found, dynamicValue?, last]
    rfl
  have ofNumber : ∀ key ∈ keysOf (mapEntries columns row .number),
      key ∉ keysOf (mapEntries columns row .string) →
      ∃ value, lastValue? key (mapEntries columns row .number) = some value ∧
        (assembleDocument columns row).lookup key = some value.toJson := by
    intro key member absent
    rcases exists_lastValue?_iff.mpr member with ⟨value, last⟩
    refine ⟨value, last, ?_⟩
    rw [found, dynamicValue?, last, lastValue?_eq_none absent]
    rfl
  have elsewhere : ∀ key, key ∉ keysOf (mapEntries columns row .string) →
      key ∉ keysOf (mapEntries columns row .number) →
      (assembleDocument columns row).lookup key =
        (if isMapColumn key then none else cellOf columns row key).map Cell.toJson := by
    intro key noString noNumber
    rw [found, dynamicValue?, lastValue?_eq_none noString, lastValue?_eq_none noNumber]
    rfl
  refine ⟨pairwise_foldl_writeField _ .nil, fun _ => mem_keysOf_assembleDocument distinct row,
    ofString, ofNumber, ?_, ?_⟩
  · intro key cell noString noNumber plain held
    rw [elsewhere key noString noNumber, isMapColumn_eq_false plain, held]
    rfl
  · intro kind member
    rcases (mem_keysOf_assembleDocument distinct row).mp member with ⟨plain, _⟩ | dynamic
    · exact absurd rfl (plain kind)
    · exact dynamic

/-- A row gives one document, and the keys that it adds to those found before come behind them,
numbers before texts. -/
theorem document_assembled {columns : List String} (distinct : columns.Nodup) (row : Row)
    (documents : List Document) (prior : KeySet) :
    ∃ document fields,
      collectDocument columns (documents, prior) row = (document :: documents, fields) ∧
      IsAssembled columns row document ∧
      fields.toList = prior.toList ++
        ((keysOf (mapEntries columns row .number) ++ keysOf (mapEntries columns row .string)).filter
          (· ∉ prior.toList)).eraseDups := by
  refine ⟨_, _, rfl, isAssembled_assembleDocument distinct row, ?_⟩
  rw [← dynamicKeys_eq distinct, KeySet.toList_insertMany]

/-- A row that is cut off after the third of its columns. -/
def cutColumns : List String :=
  ["log", "fields_string", "fields_number", "host"]

def cutRow : Row :=
  [.text "GET /reviews",
    .map [("status", .text "slow"), ("level", .text "warn"), ("status", .text "ok")],
    .map [("status", .integer 200), ("log", .integer 5), ("fields_string", .null)]]

theorem document_assembled_cut :
    cutColumns.Nodup ∧
    ∃ document fields,
      collectDocument cutColumns ([], .ofList ["log", "level"]) cutRow = ([document], fields) ∧
      document.lookup "status" = some (.text "ok") ∧ document.lookup "log" = some (.ofInt 5) ∧
      "fields_string" ∈ keysOf document ∧ "fields_number" ∉ keysOf document ∧
      "host" ∉ keysOf document ∧
      fields.toList = ["log", "level", "status", "fields_string"] := by
  have distinct : cutColumns.Nodup := by decide
  rcases document_assembled distinct cutRow [] (.ofList ["log", "level"]) with
    ⟨document, fields, collected, assembled, seen⟩
  refine ⟨distinct, document, fields, collected, ?_, ?_, ?_, ?_, ?_, ?_⟩
  · rcases assembled.ofString "status" (by decide) with ⟨value, last, found⟩
    cases last
    exact found
  · rcases assembled.ofNumber "log" (by decide) (by decide) with ⟨value, last, found⟩
    cases last
    exact found
  · exact (assembled.keys "fields_string").mpr (.inr (.inl (by decide)))
  · intro member
    exact absurd (assembled.mapColumn .number member) (by decide)
  · intro member
    rcases (assembled.keys "host").mp member with ⟨_, cell, held⟩ | dynamic
    · contradiction
    · exact absurd dynamic (by decide)
  · have known : (KeySet.ofList ["log", "level"]).toList = ["log", "level"] := by
      rw [KeySet.ofList, KeySet.toList_insertMany]
      rfl
    rw [seen, known]
    rfl

/-! ## The columns of a document -/

/-- Each fixed column of the row stands in the document under its own name. -/
def KeepsColumns (row : Row) (document : Document) : Prop :=
  ∀ column ∈ fixedColumns, ∀ cell, cellOf rowColumns row column = some cell →
    document.lookup column = some cell.toJson

/-- A document keeps the fixed columns of its row exactly if no dynamic field that is named like
one of them is written otherwise. -/
theorem keepsColumns_iff (row : Row) :
    KeepsColumns row (assembleDocument rowColumns row) ↔
      ∀ column ∈ fixedColumns, ∀ cell, cellOf rowColumns row column = some cell →
        ∀ value, dynamicValue? rowColumns row column = some value →
          value.toJson = cell.toJson := by
  have distinct : rowColumns.Nodup := by decide
  have plain : ∀ column ∈ fixedColumns, isMapColumn column = false := by decide
  unfold KeepsColumns
  apply forall₂_congr
  intro column fixed
  apply forall₂_congr
  intro cell held
  rw [lookup_assembleDocument distinct, plain column fixed, held]
  cases dynamicValue? rowColumns row column with
  | none => simp
  | some value => simp

/-- A row with a dynamic field that is named like the line of the log. -/
def shadowedRow : Row :=
  [.timestamp ⟨1700000000, 0⟩, .text "prod", .text "bookinfo", .text "reviews", .text "reviews-1",
    .text "reviews", .text "node-1", .map [("log", .text "forged")], .map [],
    .text "GET /reviews"]

theorem shadowedRow_losesLog :
    cellOf rowColumns shadowedRow "log" = some (.text "GET /reviews") ∧
      (assembleDocument rowColumns shadowedRow).lookup "log" = some (.text "forged") ∧
      ¬ KeepsColumns shadowedRow (assembleDocument rowColumns shadowedRow) := by
  have held : cellOf rowColumns shadowedRow "log" = some (.text "GET /reviews") := by rfl
  have found : (assembleDocument rowColumns shadowedRow).lookup "log" = some (.text "forged") := by
    rfl
  refine ⟨held, found, ?_⟩
  intro keeps
  have kept := keeps "log" (by decide) _ held
  rw [found] at kept
  exact absurd (Json.text.inj (Option.some.inj kept)) (by decide)

end LogQuery
