import LogQuery.Proofs.Cell.Nested

namespace LogQuery

/-! ## The names of leaves

The beginning of a name says what its cells are, and only truth values have one name alone. No
name begins in two of these ways, so it does not matter which of them is looked for first. -/

def LeafKind.Names : LeafKind → List Char → Prop
  | .timestamp, name => "DateTime".toList <+: name
  | .float, name => "Float".toList <+: name
  | .natural, name => "UInt".toList <+: name
  | .integer, name => "Int".toList <+: name
  | .boolean, name => name = "Bool".toList
  | .other, name => ¬ "DateTime".toList <+: name ∧ ¬ "Float".toList <+: name ∧
      ¬ "UInt".toList <+: name ∧ ¬ "Int".toList <+: name ∧ name ≠ "Bool".toList

section

variable {kind : LeafKind} {name : List Char}

namespace CellType

theorem names_leafKind (name : List Char) : (leafKind name).Names name := by
  unfold leafKind
  simp only [List.isPrefixOf_iff_prefix]
  split_ifs with timestamp float natural integer boolean
  · exact timestamp
  · exact float
  · exact natural
  · exact integer
  · exact boolean
  · exact ⟨timestamp, float, natural, integer, boolean⟩

theorem leafKind_of_names (named : kind.Names name) : leafKind name = kind := by
  cases kind with
  | timestamp | float | natural | integer =>
      rcases named with ⟨rest, same⟩
      subst same
      rfl
  | boolean =>
      cases named
      rfl
  | other =>
      rcases named with ⟨timestamp, float, natural, integer, boolean⟩
      unfold leafKind
      simp only [List.isPrefixOf_iff_prefix, timestamp, float, natural, integer, boolean,
        if_false]

theorem leafKind_eq_iff : leafKind name = kind ↔ kind.Names name := by
  constructor
  · intro same
    exact same ▸ names_leafKind name
  · exact leafKind_of_names

end CellType

/-- A name that says what its cells are begins unlike every wrapper. -/
theorem LeafKind.Names.ne_wrapped (named : kind.Names name) (known : kind ≠ .other) :
    ∀ wrapper ∈ wrapperNames, ∀ argument, name ≠ wrapped wrapper argument := by
  have begins : name.head? ∈ "DFUIB".toList.map some := by
    cases kind with
    | timestamp | float | natural | integer =>
        rcases named with ⟨rest, same⟩
        subst same
        change some _ ∈ _
        decide
    | boolean =>
        cases named
        decide
    | other => contradiction
  have apart : ∀ wrapper ∈ wrapperNames,
      (wrapper.toList ++ ['(']).head? ∉ "DFUIB".toList.map some := by decide
  intro wrapper member
  apply LogQuery.ne_wrapped
  intro same
  exact apart wrapper member (same ▸ begins)

end

/-! ## The leaf of a type

A type has one leaf, since the keys of a map are not decoded by their type. A cell of the type
is made of containers, and of cells of that leaf. -/

namespace TypeTree

def leafName : TypeTree → List Char
  | .nullable inner => inner.leafName
  | .lowCardinality inner => inner.leafName
  | .map _ value => value.leafName
  | .array item => item.leafName
  | .leaf name => name

/-- A JSON value and a cell of one form: items and entries are paired in their order, and
whatever stands at a leaf is related by `leaf`. Null is a cell of its own where it is allowed. -/
def Carries (leaf : Json → Cell → Prop) : TypeTree → Json → Cell → Prop
  | .nullable _, .null, cell => cell = .null
  | .nullable inner, json, cell => inner.Carries leaf json cell
  | .lowCardinality inner, json, cell => inner.Carries leaf json cell
  | .map _ value, .object fields, .map entries =>
      List.Forall₂ (fun field entry =>
        field.1 = entry.1 ∧ value.Carries leaf field.2 entry.2) fields entries
  | .map _ _, _, _ => False
  | .array item, .array items, .array cells =>
      List.Forall₂ (fun json cell => item.Carries leaf json cell) items cells
  | .array _, _, _ => False
  | .leaf _, json, cell => leaf json cell

/-- The values at the leaves of a JSON value. A null that is allowed is not looked into. -/
def Reaches : TypeTree → Json → Json → Prop
  | .nullable _, .null, _ => False
  | .nullable inner, json, reached => inner.Reaches json reached
  | .lowCardinality inner, json, reached => inner.Reaches json reached
  | .map _ value, .object fields, reached => ∃ field ∈ fields, value.Reaches field.2 reached
  | .map _ _, _, _ => False
  | .array item, .array items, reached => ∃ json ∈ items, item.Reaches json reached
  | .array _, _, _ => False
  | .leaf _, json, reached => reached = json

/-- Every value at a leaf has its cell. -/
theorem Carries.exists_of_reaches {leaf : Json → Cell → Prop} {tree : TypeTree} {json : Json}
    {cell : Cell} (carries : tree.Carries leaf json cell) {reached : Json}
    (reaches : tree.Reaches json reached) : ∃ cell, leaf reached cell := by
  fun_induction Carries leaf tree json cell with
  | case1 => exact reaches.elim
  | case2 inner json cell notNull induction =>
      cases json with
      | null => exact reaches.elim
      | boolean | number | text | array | object => exact induction carries reaches
  | case3 inner json cell induction => exact induction carries reaches
  | case4 key value fields entries induction =>
      rcases reaches with ⟨field, member, reaches⟩
      rcases exists_forall₂_iff.mp ⟨entries, carries⟩ field member with ⟨entry, _, carries⟩
      exact induction _ _ carries reaches
  | case5 => exact carries.elim
  | case6 item items cells induction =>
      rcases reaches with ⟨json, member, reaches⟩
      rcases exists_forall₂_iff.mp ⟨cells, carries⟩ json member with ⟨cell, carries⟩
      exact induction _ _ carries reaches
  | case7 => exact carries.elim
  | case8 name json cell =>
      cases reaches
      exact ⟨cell, carries⟩

end TypeTree

namespace Cell

section

variable {decode : Json → Except CellError Cell}

theorem decodeItems_eq_ok_iff {items : List Json} {cells : List Cell} :
    decodeItems decode items = .ok cells ↔
      List.Forall₂ (fun item cell => decode item = .ok cell) items cells := by
  induction items generalizing cells with
  | nil => simp [decodeItems, eq_comm]
  | cons item items induction =>
      rw [decodeItems, bind_eq_ok_iff, List.forall₂_cons_left_iff]
      simp only [bind_eq_ok_iff, induction]
      constructor
      · intro found
        rcases found with ⟨first, decoded, rest, decodedRest, joined⟩
        cases joined
        exact ⟨first, rest, decoded, decodedRest, rfl⟩
      · intro found
        rcases found with ⟨first, rest, decoded, decodedRest, joined⟩
        exact ⟨first, decoded, rest, decodedRest, by rw [joined]⟩

theorem decodeEntries_eq_ok_iff {fields : List (String × Json)}
    {entries : List (String × Cell)} :
    decodeEntries decode fields = .ok entries ↔
      List.Forall₂ (fun field entry => field.1 = entry.1 ∧ decode field.2 = .ok entry.2)
        fields entries := by
  induction fields generalizing entries with
  | nil => simp [decodeEntries, eq_comm]
  | cons field fields induction =>
      rw [decodeEntries, bind_eq_ok_iff, List.forall₂_cons_left_iff]
      simp only [bind_eq_ok_iff, induction]
      constructor
      · intro found
        rcases found with ⟨first, decoded, rest, decodedRest, joined⟩
        cases joined
        exact ⟨(field.1, first), rest, ⟨rfl, decoded⟩, decodedRest, rfl⟩
      · intro found
        rcases found with ⟨entry, rest, ⟨key, decoded⟩, decodedRest, joined⟩
        exact ⟨entry.2, decoded, rest, decodedRest, by rw [joined, key]⟩

end

/-- Decoding succeeds exactly with the cell of the same form whose leaves are decoded. -/
theorem decodeAs_eq_ok_iff {type : CellType} {tree : TypeTree} (fits : type.Fits tree)
    {json : Json} {cell : Cell} :
    decodeAs type json = .ok cell ↔
      tree.Carries (fun json cell =>
        decodeLeaf (CellType.leafKind tree.leafName) json = .ok cell) json cell := by
  fun_induction CellType.Fits type tree generalizing json cell with
  | case1 inner tree induction =>
      cases json with
      | null => simp [decodeAs, TypeTree.Carries, eq_comm]
      | boolean | number | text | array | object => exact induction fits
  | case2 inner tree induction => exact induction fits
  | case3 text value key tree induction =>
      cases json with
      | object fields =>
          rw [decodeAs, map_eq_ok_iff]
          simp only [decodeEntries_eq_ok_iff, induction fits]
          cases cell <;> simp [TypeTree.Carries, TypeTree.leafName]
      | null | boolean | number | text | array => simp [decodeAs, TypeTree.Carries]
  | case4 text item tree induction =>
      cases json with
      | array items =>
          rw [decodeAs, map_eq_ok_iff]
          simp only [decodeItems_eq_ok_iff, induction fits]
          cases cell <;> simp [TypeTree.Carries, TypeTree.leafName]
      | null | boolean | number | text | object => simp [decodeAs, TypeTree.Carries]
  | case5 text kind name =>
      rw [decodeAs, mapError_eq_ok_iff, fits]
      rfl
  | case6 => contradiction

/-- Decoding by the text of a type, by the tree that the text writes. -/
theorem decode_eq_ok_iff {tree : TypeTree} {text : String} (written : tree.IsWritten text.toList)
    {json : Json} {cell : Cell} :
    decode text json = .ok cell ↔
      tree.Carries (fun json cell =>
        decodeLeaf (CellType.leafKind tree.leafName) json = .ok cell) json cell :=
  decodeAs_eq_ok_iff (CellType.fits_ofTrimmed written)

end Cell

end LogQuery
