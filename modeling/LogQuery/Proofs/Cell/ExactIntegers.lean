import LogQuery.Proofs.Cell.Leaves
import LogQuery.Proofs.Text.Integers

namespace LogQuery

open Text (Fits64 readInteger64 readNatural64 minInteger64 maxInteger64 maxNatural64)

/-! ## Doubles as texts

Every text of a double has a point, an exponent or a name in it, and so it is no text of a whole
number. -/

namespace Decimal

theorem point_mem_positional (places : Places) : '.' ∈ places.positional := by
  unfold Places.positional
  split <;> simp

theorem mark_mem_exponentText (layout : Layout) (exponent : Int) :
    'e' ∈ exponentText layout exponent := by
  cases exponent <;> simp [exponentText]

theorem mark_mem_scientific (layout : Layout) (places : Places) :
    'e' ∈ places.scientific layout := by
  have mark := mark_mem_exponentText layout places.leading
  unfold Places.scientific
  split <;> simp [mark]

theorem mem_withSign {negative : Bool} {text : List Char} {character : Char}
    (member : character ∈ text) : character ∈ withSign negative text := by
  cases negative with
  | false => exact member
  | true => exact List.mem_cons_of_mem _ member

theorem exists_mem_writeChars (number : Binary64) :
    ∃ character ∈ writeChars jsonLayout number, character = '.' ∨ character = 'e' ∨
      character = 'n' := by
  unfold writeChars
  split
  · next negative significand exponent _ =>
      unfold Places.write
      split
      · exact ⟨'.', mem_withSign (point_mem_positional _), .inl rfl⟩
      · exact ⟨'e', mem_withSign (mark_mem_scientific _ _), .inr (.inl rfl)⟩
  · exact ⟨'n', mem_withSign (by decide), .inr (.inr rfl)⟩
  · exact ⟨'n', by decide, .inr (.inr rfl)⟩

theorem not_denotesInteger_write {signed : Bool} {number : Binary64} {value : Int} :
    ¬ Text.DenotesInteger signed (write jsonLayout number).toList value := by
  intro denotes
  rw [write, String.toList_ofList] at denotes
  rcases exists_mem_writeChars number with ⟨character, member, other⟩
  have allowed := denotes.isDigit_or_isSign character member
  rcases other with same | same | same <;> subst same <;> revert allowed <;> decide

end Decimal

/-! ## Whole numbers

The number that a JSON value gives is unbounded; the number that a cell holds is one of 64 bits. -/

/-- A whole number, or a text of one. A double is none, whatever its value. -/
inductive Json.DenotesInteger (signed : Bool) : Json → Int → Prop where
  | number (value : Int) : DenotesInteger signed (.number (.integer value)) value
  | text {quoted : String} {value : Int} (denotes : Text.DenotesInteger signed quoted.toList value) :
      DenotesInteger signed (.text quoted) value

namespace Cell

/-- A signed number is held in a signed cell, and an unsigned one in the other kind. -/
inductive HoldsInteger : (signed : Bool) → Int → Cell → Prop where
  | integer {held : Int64} (same : held.toInt = value) : HoldsInteger true value (.integer held)
  | natural {held : UInt64} (same : (held.toNat : Int) = value) :
      HoldsInteger false value (.natural held)

section

variable {signed : Bool} {value : Int} {cell : Cell}

theorem holdsInteger_true_iff :
    HoldsInteger true value cell ↔ Fits64 true value ∧ cell = .integer (.ofInt value) := by
  constructor
  · intro holds
    cases holds with
    | integer same =>
        subst same
        refine ⟨⟨Int64.le_toInt _, ?_⟩, by rw [Int64.ofInt_toInt]⟩
        exact Int.le_of_lt_add_one (Int64.toInt_lt _)
  · intro ⟨⟨least, greatest⟩, same⟩
    rw [same]
    exact .integer (Int64.toInt_ofInt_of_le least (Int.lt_add_one_of_le greatest))

theorem holdsInteger_false_iff {natural : Nat} :
    HoldsInteger false natural cell ↔
      Fits64 false natural ∧ cell = .natural (.ofNat natural) := by
  constructor
  · intro holds
    cases holds with
    | natural same =>
        cases Int.ofNat_inj.mp same
        refine ⟨⟨Int.natCast_nonneg _, ?_⟩, by rw [UInt64.ofNat_toNat]⟩
        exact Int.ofNat_le.mpr (Nat.le_of_lt_add_one (UInt64.toNat_lt _))
  · intro ⟨⟨_, greatest⟩, same⟩
    have small := Nat.lt_add_one_of_le (Int.ofNat_le.mp greatest)
    rw [same]
    exact .natural (congrArg Int.ofNat (UInt64.toNat_ofNat_of_lt small))

theorem HoldsInteger.nonneg (holds : HoldsInteger false value cell) : 0 ≤ value := by
  cases holds with
  | natural same => exact same ▸ Int.natCast_nonneg _

/-- The numbers of 64 bits are those that a cell can hold. -/
theorem exists_holdsInteger_iff :
    (∃ cell, HoldsInteger signed value cell) ↔ Fits64 signed value := by
  cases signed with
  | true => simp [holdsInteger_true_iff]
  | false =>
      constructor
      · intro ⟨cell, holds⟩
        lift value to Nat using holds.nonneg
        exact (holdsInteger_false_iff.mp holds).1
      · intro fits
        lift value to Nat using fits.1
        exact ⟨_, holdsInteger_false_iff.mpr ⟨fits, rfl⟩⟩

/-! ## Decoding -/

/-- The kind of the leaves that are whole numbers. -/
def integerKind : (signed : Bool) → LeafKind
  | true => .integer
  | false => .natural

/-- The cell holds the very number that the JSON value gives. -/
def HoldsExactly (signed : Bool) (json : Json) (cell : Cell) : Prop :=
  ∃ value, json.DenotesInteger signed value ∧ HoldsInteger signed value cell

theorem decodeIntegerText_eq_ok_iff {text : String} :
    decodeIntegerText text = .ok cell ↔
      ∃ value, Text.DenotesInteger true text.toList value ∧ HoldsInteger true value cell := by
  have read {value : Int} :=
    @Text.readInteger64_eq_ok_iff text value
  simp only [holdsInteger_true_iff, ← and_assoc, ← read]
  unfold decodeIntegerText
  cases readInteger64 text with
  | error fault => simp
  | ok value => simp [eq_comm]

theorem decodeNaturalText_eq_ok_iff {text : String} :
    decodeNaturalText text = .ok cell ↔
      ∃ value, Text.DenotesInteger false text.toList value ∧ HoldsInteger false value cell := by
  have read {value : Nat} := @Text.readNatural64_eq_ok_iff_denotes text value
  constructor
  · intro decoded
    unfold decodeNaturalText at decoded
    split at decoded
    · next value found =>
        cases decoded
        rcases read.mp found with ⟨denotes, fits⟩
        exact ⟨value, denotes, holdsInteger_false_iff.mpr ⟨fits, rfl⟩⟩
    · contradiction
  · intro ⟨value, denotes, holds⟩
    lift value to Nat using holds.nonneg
    rcases holdsInteger_false_iff.mp holds with ⟨fits, same⟩
    rw [decodeNaturalText, read.mpr ⟨denotes, fits⟩, same]

/-- A whole number is decoded by way of its text, which denotes the same number again. A text
with a minus denotes none at an unsigned type, where no cell can hold it either. -/
theorem decodeLeaf_integerKind_eq_ok_iff {json : Json} :
    decodeLeaf (integerKind signed) json = .ok cell ↔ HoldsExactly signed json cell := by
  have byText : decodeLeaf (integerKind signed) json = .ok cell ↔
      ∃ source, integerSource json = .ok source ∧
        ∃ value, Text.DenotesInteger signed source.toList value ∧
          HoldsInteger signed value cell := by
    cases signed with
    | true => simp only [integerKind, decodeLeaf, bind_eq_ok_iff, decodeIntegerText_eq_ok_iff]
    | false => simp only [integerKind, decodeLeaf, bind_eq_ok_iff, decodeNaturalText_eq_ok_iff]
  rw [byText]
  constructor
  · intro ⟨source, found, value, denotes, holds⟩
    cases json with
    | number number =>
        cases found
        cases number with
        | integer written =>
            rcases Text.denotesInteger_toString_iff.mp denotes with ⟨same, _⟩
            exact ⟨value, same ▸ .number value, holds⟩
        | double number => exact absurd denotes Decimal.not_denotesInteger_write
    | text quoted =>
        cases found
        exact ⟨value, .text denotes, holds⟩
    | null | boolean | array | object => contradiction
  · intro ⟨value, denotes, holds⟩
    cases denotes with
    | number =>
        refine ⟨_, rfl, value, Text.denotesInteger_toString_iff.mpr ⟨rfl, ?_⟩, holds⟩
        cases signed with
        | true => exact .inl rfl
        | false => exact .inr holds.nonneg
    | text denotes => exact ⟨_, rfl, value, denotes, holds⟩

end

/-! ## Types of whole numbers

A type is one of whole numbers if its name begins so; what follows the beginning does not count. -/

def IsIntegerName : (signed : Bool) → List Char → Prop
  | true, name => "Int".toList <+: name
  | false, name => "UInt".toList <+: name

section

variable {signed : Bool} {name : List Char}

theorem names_of_isIntegerName (named : IsIntegerName signed name) :
    (integerKind signed).Names name := by
  cases signed with
  | true => exact named
  | false => exact named

theorem ne_wrapped_of_isIntegerName (named : IsIntegerName signed name) :
    ∀ wrapper ∈ wrapperNames, ∀ argument, name ≠ wrapped wrapper argument := by
  have known : integerKind signed ≠ .other := by cases signed <;> decide
  exact (names_of_isIntegerName named).ne_wrapped known

theorem isIntegerName_trimBlanks (named : IsIntegerName signed name) :
    IsIntegerName signed (Text.trimBlanks name) := by
  have visible : Text.isBlank 't' = false := by decide
  cases signed with
  | true =>
      rcases named with ⟨rest, same⟩
      have trimmed : Text.trimBlanks name = "In".toList ++ 't' :: Text.trimEnd rest := by
        rw [← same]
        exact Text.trimBlanks_append_cons visible "In".toList rest
      exact ⟨Text.trimEnd rest, trimmed.symm⟩
  | false =>
      rcases named with ⟨rest, same⟩
      have trimmed : Text.trimBlanks name = "UIn".toList ++ 't' :: Text.trimEnd rest := by
        rw [← same]
        exact Text.trimBlanks_append_cons visible "UIn".toList rest
      exact ⟨Text.trimEnd rest, trimmed.symm⟩

theorem ofText_of_isIntegerName {text : String} (named : IsIntegerName signed text.toList) :
    CellType.ofText text =
      .leaf (String.ofList (Text.trimBlanks text.toList)) (integerKind signed) := by
  have trimmed := isIntegerName_trimBlanks named
  rw [CellType.ofText, CellType.ofTrimmed_leaf (ne_wrapped_of_isIntegerName trimmed),
    CellType.leafKind_of_names (names_of_isIntegerName trimmed)]

end

/-- The outcome for one value at a type of whole numbers. A value that gives no number at all is
refused like one whose number does not fit. -/
structure IsExactOrRefused (signed : Bool) (type : String) (json : Json)
    (outcome : Except CellError Cell) : Prop where
  fits : ∀ value, json.DenotesInteger signed value → Fits64 signed value →
    ∃ cell, outcome = .ok cell ∧ HoldsInteger signed value cell
  refused : (∀ value, json.DenotesInteger signed value → ¬ Fits64 signed value) →
    ∃ fault, outcome = .error ⟨type, fault⟩
  unchanged : ∀ cell, outcome = .ok cell → HoldsExactly signed json cell

theorem HoldsExactly.exists_fits {signed : Bool} {json : Json} {cell : Cell}
    (holds : HoldsExactly signed json cell) :
    ∃ value, json.DenotesInteger signed value ∧ Fits64 signed value := by
  rcases holds with ⟨value, denotes, holds⟩
  exact ⟨value, denotes, exists_holdsInteger_iff.mp ⟨cell, holds⟩⟩

theorem isExactOrRefused_leaf (signed : Bool) (type : String) (json : Json) :
    IsExactOrRefused signed type json (decodeAs (.leaf type (integerKind signed)) json) where
  fits := by
    intro value denotes fits
    rcases exists_holdsInteger_iff.mpr fits with ⟨cell, holds⟩
    refine ⟨cell, ?_, holds⟩
    rw [decodeAs, mapError_eq_ok_iff, decodeLeaf_integerKind_eq_ok_iff]
    exact ⟨value, denotes, holds⟩
  refused := by
    intro outside
    rw [decodeAs]
    cases decoded : decodeLeaf (integerKind signed) json with
    | error fault => exact ⟨fault, rfl⟩
    | ok cell =>
        have holds := decodeLeaf_integerKind_eq_ok_iff.mp decoded
        rcases holds.exists_fits with ⟨value, denotes, fits⟩
        exact absurd fits (outside value denotes)
  unchanged := by
    intro cell decoded
    rwa [decodeAs, mapError_eq_ok_iff, decodeLeaf_integerKind_eq_ok_iff] at decoded

/-- Whole numbers are decoded exactly or refused, also inside other types: decoding succeeds
exactly if each value at a leaf gives a number of 64 bits, with a cell of the same form that holds
those very numbers. One value at a leaf that gives none is enough for a refusal. -/
theorem decode_isExactOrRefused (signed : Bool) :
    (∀ (text : String) (json : Json), IsIntegerName signed text.toList →
      IsExactOrRefused signed (String.ofList (Text.trimBlanks text.toList)) json
        (decode text json)) ∧
    ∀ (tree : TypeTree) (text : String) (json : Json), tree.IsWritten text.toList →
      IsIntegerName signed tree.leafName →
      (∀ cell, decode text json = .ok cell ↔ tree.Carries (HoldsExactly signed) json cell) ∧
      ∀ reached, tree.Reaches json reached →
        (∀ value, reached.DenotesInteger signed value → ¬ Fits64 signed value) →
        ∃ error, decode text json = .error error := by
  constructor
  · intro text json named
    rw [decode, ofText_of_isIntegerName named]
    exact isExactOrRefused_leaf signed _ json
  · intro tree text json written named
    have carries (cell : Cell) :
        decode text json = .ok cell ↔ tree.Carries (HoldsExactly signed) json cell := by
      simp only [decode_eq_ok_iff written, CellType.leafKind_of_names (names_of_isIntegerName named),
        decodeLeaf_integerKind_eq_ok_iff]
    refine ⟨carries, ?_⟩
    intro reached reaches outside
    cases decoded : decode text json with
    | error error => exact ⟨error, rfl⟩
    | ok cell =>
        rcases ((carries cell).mp decoded).exists_of_reaches reaches with ⟨leaf, holds⟩
        rcases holds.exists_fits with ⟨value, denotes, fits⟩
        exact absurd fits (outside value denotes)

def nestedText : String :=
  "Map(String, Array(Nullable(UInt64)))"

def nestedTree : TypeTree :=
  .map "String".toList (.array (.nullable (.leaf "UInt64".toList)))

theorem isWritten_nestedTree : nestedTree.IsWritten nestedText.toList := by
  have named : IsIntegerName false "UInt64".toList := ⟨"64".toList, rfl⟩
  have leaf : TypeTree.IsWritten (.leaf "UInt64".toList) "UInt64".toList :=
    .leaf (by decide) (ne_wrapped_of_isIntegerName named)
  have space : Text.AreBlank [' '] := by decide
  have noBlank : Text.AreBlank [] := by decide
  have key : Balanced false ("String".toList ++ []) := .append_plain _ (by decide) .empty
  exact (leaf.nullable.array.spaced space noBlank).map key

/-- The greatest number is held and the next one is refused; a double is refused as well. -/
theorem decode_isExactOrRefused_nested :
    nestedTree.IsWritten nestedText.toList ∧
    decode nestedText (.object
        [("a", .array [.text "+18446744073709551615", .null]), ("b", .array [.ofNat 7])]) =
      .ok (.map [("a", .array [.natural 18446744073709551615, .null]),
        ("b", .array [.natural 7])]) ∧
    (∃ error, decode nestedText (.object [("a", .array [.text "18446744073709551616"])]) =
      .error error) ∧
    (∃ cell, decode "Int64 " (.text "-9223372036854775808") = .ok cell ∧
      HoldsInteger true (-9223372036854775808) cell) ∧
    ∃ fault, decode "Int64 " (.number (.double (.ofNat 1))) = .error ⟨"Int64", fault⟩ := by
  have nested (json : Json) := (decode_isExactOrRefused false).2 nestedTree nestedText json
    isWritten_nestedTree ⟨"64".toList, rfl⟩
  have flat (json : Json) := (decode_isExactOrRefused true).1 "Int64 " json ⟨"64 ".toList, rfl⟩
  refine ⟨isWritten_nestedTree, ?_, ?_, ?_, ?_⟩
  · have greatest : Text.DenotesInteger false "+18446744073709551615".toList
        (18446744073709551615 : Nat) :=
      (Text.readNatural64_eq_ok_iff_denotes.mp (by decide)).1
    have first : HoldsExactly false (.text "+18446744073709551615")
        (.natural 18446744073709551615) := ⟨_, .text greatest, .natural rfl⟩
    have second : HoldsExactly false (.ofNat 7) (.natural 7) := ⟨_, .number 7, .natural rfl⟩
    refine (nested _).1 _ |>.mpr ?_
    exact .cons ⟨rfl, .cons first (.cons rfl .nil)⟩ (.cons ⟨rfl, .cons second .nil⟩ .nil)
  · refine (nested _).2 (.text "18446744073709551616") ?_ ?_
    · exact ⟨_, List.mem_cons_self, _, List.mem_cons_self, rfl⟩
    · intro value denotes fits
      cases denotes with
      | text denotes =>
          lift value to Nat using fits.1
          have read := Text.readNatural64_eq_ok_iff_denotes.mpr ⟨denotes, fits⟩
          contradiction
  · have least := Text.readInteger64_eq_ok_iff.mp
      (by decide : Text.readInteger64 "-9223372036854775808" = .ok (-9223372036854775808))
    exact (flat _).fits _ (.text least.1) least.2
  · exact (flat _).refused nofun

end Cell

end LogQuery
