import LogQuery.Proofs.Cell.ExactIntegers
import LogQuery.Proofs.Json.Fields

namespace LogQuery

open Json (keysOf)
open Text (Fits64)

/-! ## Documents as they are held

A whole number that is held fits in 64 bits, signed or not, and a double is finite. The fields of
an object are in order, and so their keys are distinct. -/

inductive Json.IsHeld : Json → Prop where
  | null : IsHeld .null
  | boolean (value : Bool) : IsHeld (.boolean value)
  | text (value : String) : IsHeld (.text value)
  | integer {signed : Bool} {value : Int} (fits : Fits64 signed value) :
      IsHeld (.number (.integer value))
  | double {value : Binary64} (finite : value.isFinite = true) : IsHeld (.number (.double value))
  | array {items : List Json} (each : ∀ item ∈ items, IsHeld item) : IsHeld (.array items)
  | object {fields : List (String × Json)} (sorted : (keysOf fields).Pairwise (· < ·))
      (each : ∀ field ∈ fields, IsHeld field.2) : IsHeld (.object fields)

namespace Cell

theorem itemsToJson_eq_map (cells : List Cell) : itemsToJson cells = cells.map toJson := by
  induction cells with
  | nil => rfl
  | cons cell cells induction => rw [itemsToJson, List.map_cons, induction]

theorem entriesToJson_eq_map (entries : List (String × Cell)) :
    entriesToJson entries = entries.map fun entry => (entry.1, entry.2.toJson) := by
  induction entries with
  | nil => rfl
  | cons entry entries induction => rw [entriesToJson, List.map_cons, induction]

theorem itemsOfJson_eq_map (items : List Json) : itemsOfJson items = items.map ofJson := by
  induction items with
  | nil => rfl
  | cons item items induction => rw [itemsOfJson, List.map_cons, induction]

theorem entriesOfJson_eq_map (fields : List (String × Json)) :
    entriesOfJson fields = fields.map fun field => (field.1, ofJson field.2) := by
  induction fields with
  | nil => rfl
  | cons field fields induction => rw [entriesOfJson, List.map_cons, induction]

/-- Entries in order make an object with the same entries. -/
theorem toJson_map {entries : List (String × Cell)} (sorted : (keysOf entries).Pairwise (· < ·)) :
    (map entries).toJson = .object (entries.map fun entry => (entry.1, entry.2.toJson)) := by
  rw [toJson, entriesToJson_eq_map]
  apply Json.ofFields_of_pairwise
  rwa [keysOf, List.map_map]

theorem HoldsInteger.toJson_eq {signed : Bool} {value : Int} {cell : Cell}
    (holds : HoldsInteger signed value cell) : cell.toJson = .number (.integer value) := by
  cases holds with
  | integer same => exact congrArg Json.ofInt same
  | natural same => exact congrArg Json.ofInt same

theorem holdsInteger_ofNumber {signed : Bool} {value : Int} (fits : Fits64 signed value) :
    ∃ signed, HoldsInteger signed value (ofNumber (.integer value)) := by
  rw [ofNumber]
  split
  · next small =>
      have fitsSigned : Fits64 true value := by
        cases signed with
        | true => exact fits
        | false => exact ⟨Int.le_trans (by decide) fits.1, small⟩
      exact ⟨true, holdsInteger_true_iff.mpr ⟨fitsSigned, rfl⟩⟩
  · next large =>
      cases signed with
      | true => exact absurd fits.2 large
      | false =>
          lift value to Nat using fits.1
          exact ⟨false, holdsInteger_false_iff.mpr ⟨fits, rfl⟩⟩

/-- A cell that is taken from a document as it is held gives the document back. -/
theorem toJson_ofJson_of_isHeld {json : Json} (held : json.IsHeld) : (ofJson json).toJson = json := by
  induction held with
  | null | boolean | text => rfl
  | integer fits =>
      rcases holdsInteger_ofNumber fits with ⟨signed, holds⟩
      exact holds.toJson_eq
  | double finite => exact if_pos finite
  | @array items each induction =>
      rw [ofJson, toJson, itemsToJson_eq_map, itemsOfJson_eq_map, List.map_map]
      exact congrArg Json.array ((List.map_congr_left induction).trans (List.map_id items))
  | @object fields sorted each induction =>
      have sortedEntries : (keysOf (entriesOfJson fields)).Pairwise (· < ·) := by
        rw [entriesOfJson_eq_map, keysOf, List.map_map]
        exact sorted
      have same : ∀ field ∈ fields, (field.1, (ofJson field.2).toJson) = field :=
        fun field member => congrArg (field.1, ·) (induction field member)
      rw [ofJson, toJson_map sortedEntries, entriesOfJson_eq_map, List.map_map]
      exact congrArg Json.object ((List.map_congr_left same).trans (List.map_id fields))

end Cell

namespace TypeTree

/-! ## Cells of a type -/

def LeafHolds : LeafKind → Cell → Prop
  | .boolean, cell => ∃ value, cell = .boolean value
  | .integer, cell => ∃ value, cell = .integer value
  | .natural, cell => ∃ value, cell = .natural value
  | .float, cell => ∃ value, value.isFinite = true ∧ cell = .float value
  | .timestamp, _ => False
  | .other, cell => ∃ json, json.IsHeld ∧ cell = .ofJson json

/-- The cells of a type without times. Null is a cell where it is allowed, or where the type says
nothing about its cells; the entries of a map are in order. -/
def Holds : TypeTree → Cell → Prop
  | .nullable inner, cell => cell = .null ∨ inner.Holds cell
  | .lowCardinality inner, cell => inner.Holds cell
  | .map _ value, .map entries =>
      (keysOf entries).Pairwise (· < ·) ∧ ∀ entry ∈ entries, value.Holds entry.2
  | .map _ _, _ => False
  | .array item, .array cells => ∀ cell ∈ cells, item.Holds cell
  | .array _, _ => False
  | .leaf name, cell => LeafHolds (CellType.leafKind name) cell

/-- A float that is not finite would become null, and is a cell of no type here. -/
theorem Holds.isFinite {tree : TypeTree} {value : Binary64} (holds : tree.Holds (.float value)) :
    value.isFinite = true := by
  induction tree with
  | nullable inner induction => exact induction (holds.resolve_left nofun)
  | lowCardinality inner induction => exact induction holds
  | map | array => exact holds.elim
  | leaf name =>
      rw [Holds] at holds
      cases kind : CellType.leafKind name with
      | boolean | integer | natural | timestamp => simp [kind, LeafHolds] at holds
      | float =>
          simp only [kind, LeafHolds] at holds
          rcases holds with ⟨other, finite, same⟩
          cases same
          exact finite
      | other =>
          simp only [kind, LeafHolds] at holds
          rcases holds with ⟨json, held, same⟩
          cases held with
          | double finite =>
              cases same
              exact finite
          | integer fits =>
              rcases Cell.holdsInteger_ofNumber fits with ⟨signed, holds⟩
              rw [Cell.ofJson] at same
              rw [← same] at holds
              contradiction
          | null | boolean | text | array | object => contradiction

/-- Only null becomes null. -/
theorem Holds.eq_null {tree : TypeTree} {cell : Cell} (holds : tree.Holds cell)
    (becomesNull : cell.toJson = .null) : cell = .null := by
  cases cell with
  | null => rfl
  | float value =>
      rw [Cell.toJson, if_pos holds.isFinite] at becomesNull
      contradiction
  | boolean | integer | natural | text | timestamp | map | array => contradiction

theorem decodeLeaf_toJson_of_leafHolds {kind : LeafKind} {cell : Cell} (holds : LeafHolds kind cell) :
    Cell.decodeLeaf kind cell.toJson = .ok cell := by
  cases kind with
  | timestamp => exact holds.elim
  | boolean =>
      rcases holds with ⟨value, same⟩
      rw [same]
      rfl
  | integer =>
      rcases holds with ⟨value, same⟩
      rw [same]
      exact Cell.decodeLeaf_integerKind_eq_ok_iff.mpr ⟨_, .number _, .integer rfl⟩
  | natural =>
      rcases holds with ⟨value, same⟩
      rw [same]
      exact Cell.decodeLeaf_integerKind_eq_ok_iff.mpr ⟨_, .number _, .natural rfl⟩
  | float =>
      rcases holds with ⟨value, finite, same⟩
      rw [same, Cell.toJson, if_pos finite]
      rfl
  | other =>
      rcases holds with ⟨json, held, same⟩
      rw [same, Cell.toJson_ofJson_of_isHeld held]
      rfl

/-- A cell has the form of its own JSON. -/
theorem Holds.carries_toJson {tree : TypeTree} {cell : Cell} (holds : tree.Holds cell) :
    tree.Carries (fun json cell =>
      Cell.decodeLeaf (CellType.leafKind tree.leafName) json = .ok cell) cell.toJson cell := by
  induction tree generalizing cell with
  | nullable inner induction =>
      rcases holds with null | holds
      · rw [null]
        rfl
      · have carries := induction holds
        cases json : cell.toJson with
        | null => exact holds.eq_null json
        | boolean | number | text | array | object =>
            rw [json] at carries
            exact carries
  | lowCardinality inner induction => exact induction holds
  | map key value induction =>
      cases cell with
      | map entries =>
          rcases holds with ⟨sorted, each⟩
          rw [Cell.toJson_map sorted, Carries, List.forall₂_map_left_iff, List.forall₂_same]
          exact fun entry member => ⟨rfl, induction (each entry member)⟩
      | null | boolean | integer | natural | float | text | timestamp | array => exact holds.elim
  | array item induction =>
      cases cell with
      | array cells =>
          rw [Cell.toJson, Cell.itemsToJson_eq_map, Carries, List.forall₂_map_left_iff,
            List.forall₂_same]
          exact fun cell member => induction (holds cell member)
      | null | boolean | integer | natural | float | text | timestamp | map => exact holds.elim
  | leaf name => exact decodeLeaf_toJson_of_leafHolds holds

end TypeTree

namespace Cell

/-- Cells and JSON survive each other: a cell of a type is decoded from its own JSON, and a
document as it is held comes back from the cell that is taken from it. -/
theorem decode_toJson :
    (∀ (tree : TypeTree) (text : String) (cell : Cell), tree.IsWritten text.toList →
      tree.Holds cell → decode text cell.toJson = .ok cell) ∧
    ∀ json : Json, json.IsHeld → (ofJson json).toJson = json :=
  ⟨fun _ _ _ written holds => (decode_eq_ok_iff written).mpr holds.carries_toJson,
    fun _ held => toJson_ofJson_of_isHeld held⟩

/-- The greatest number of each kind, a null where one is allowed, and an object without a type. -/
theorem decode_toJson_nested :
    (nestedTree.IsWritten nestedText.toList ∧
      decode nestedText
          (map [("a", .array [.natural 18446744073709551615, .null]), ("b", .array [])]).toJson =
        .ok (.map [("a", .array [.natural 18446744073709551615, .null]), ("b", .array [])])) ∧
    decode "JSON" (map [("k", .array [.natural 9223372036854775808, .integer (-1)])]).toJson =
      .ok (.map [("k", .array [.natural 9223372036854775808, .integer (-1)])]) ∧
    (ofJson (.object [("k", .array [.ofNat 9223372036854775808, .ofInt (-1)])])).toJson =
      .object [("k", .array [.ofNat 9223372036854775808, .ofInt (-1)])] := by
  have held : Json.IsHeld (.object [("k", .array [.ofNat 9223372036854775808, .ofInt (-1)])]) := by
    have natural : Fits64 false 9223372036854775808 := ⟨by decide, by decide⟩
    have negative : Fits64 true (-1) := ⟨by decide, by decide⟩
    have items : Json.IsHeld (.array [.ofNat 9223372036854775808, .ofInt (-1)]) :=
      .array (List.forall_mem_cons.mpr ⟨.integer natural, by simpa using .integer negative⟩)
    exact .object (List.pairwise_singleton _ _) (by simpa using items)
  have leaf : TypeTree.IsWritten (.leaf "JSON".toList) "JSON".toList := by
    have bare : ∀ wrapper ∈ wrapperNames,
        "JSON".toList.head? ≠ (wrapper.toList ++ ['(']).head? := by decide
    exact .leaf (by decide) fun wrapper member => ne_wrapped (bare wrapper member)
  refine ⟨⟨isWritten_nestedTree, ?_⟩, ?_, ?_⟩
  · have first : TypeTree.Holds (.array (.nullable (.leaf "UInt64".toList)))
        (.array [.natural 18446744073709551615, .null]) :=
      List.forall_mem_cons.mpr ⟨.inr ⟨_, rfl⟩, List.forall_mem_cons.mpr ⟨.inl rfl, nofun⟩⟩
    have second : TypeTree.Holds (.array (.nullable (.leaf "UInt64".toList))) (.array []) := nofun
    exact decode_toJson.1 nestedTree nestedText _ isWritten_nestedTree
      ⟨by decide, List.forall_mem_cons.mpr ⟨first, List.forall_mem_cons.mpr ⟨second, nofun⟩⟩⟩
  · exact decode_toJson.1 _ "JSON" _ leaf ⟨_, held, rfl⟩
  · exact decode_toJson.2 _ held

end Cell

end LogQuery
