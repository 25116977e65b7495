import LogQuery.Cell.Decode
import LogQuery.Proofs.Outcome
import LogQuery.Proofs.Text.Trimmed

namespace LogQuery

open Text (AreBlank trimBlanks trimStart trimEnd isBlank)

/-! ## Wrapped texts

A wrapper stands around a text if the text begins with its name and an opening parenthesis
and ends with a closing one. -/

def wrapped (name : String) (argument : List Char) : List Char :=
  name.toList ++ '(' :: (argument ++ [')'])

def wrapperNames : List String :=
  ["Nullable", "LowCardinality", "Map", "Array"]

theorem wrapped_eq_append (name : String) (argument : List Char) :
    wrapped name argument = (name.toList ++ '(' :: argument) ++ [')'] := by
  simp [wrapped]

theorem head?_wrapped (name : String) (argument : List Char) :
    (wrapped name argument).head? = (name.toList ++ ['(']).head? := by
  simp [wrapped, List.head?_append]

theorem ne_wrapped {name : String} {text : List Char}
    (apart : text.head? ≠ (name.toList ++ ['(']).head?) (argument : List Char) :
    text ≠ wrapped name argument := by
  rintro rfl
  exact apart (head?_wrapped name argument)

theorem trimBlanks_wrapped {name : String} (trimmed : trimStart name.toList = name.toList)
    (argument : List Char) : trimBlanks (wrapped name argument) = wrapped name argument := by
  have opening : isBlank '(' = false := by decide
  have closing : isBlank ')' = false := by decide
  rw [wrapped, Text.trimBlanks_append_cons opening, trimmed, Text.trimEnd_append_cons closing]
  rfl

namespace CellType

theorem unwrap?_wrapped (name : String) (argument : List Char) :
    unwrap? name (wrapped name argument) = some (trimBlanks argument) := by
  have beginning : (name.toList ++ ['(']).isPrefixOf (wrapped name argument) = true := by
    simp [List.isPrefixOf_iff_prefix, wrapped]
  have ending : (wrapped name argument).getLast? = some ')' := by
    rw [wrapped_eq_append, List.getLast?_concat]
  have inside : (wrapped name argument).drop (name.length + 1) = argument ++ [')'] := by
    simp [wrapped, ← String.length_toList, List.drop_append]
  simp [unwrap?, beginning, ending, inside]

theorem exists_of_unwrap? {name : String} {text inner : List Char}
    (unwrapped : unwrap? name text = some inner) :
    ∃ argument, text = wrapped name argument := by
  unfold unwrap? at unwrapped
  split at unwrapped
  · next around =>
      rcases around with ⟨beginning, ending⟩
      rcases List.isPrefixOf_iff_prefix.mp beginning with ⟨rest, rfl⟩
      have inside : (name.toList ++ ['('] ++ rest).drop (name.length + 1) = rest := by
        simp [← String.length_toList, List.drop_append]
      rw [inside] at unwrapped
      rcases List.eq_nil_or_concat rest with rfl | ⟨argument, last, rfl⟩
      · contradiction
      · rw [List.concat_eq_append, ← List.append_assoc, List.getLast?_concat] at ending
        cases ending
        exact ⟨argument, by simp [wrapped]⟩
  · contradiction

theorem unwrap?_eq_none {name : String} {text : List Char}
    (bare : ∀ argument, text ≠ wrapped name argument) : unwrap? name text = none := by
  cases unwrapped : unwrap? name text with
  | none => rfl
  | some inner =>
      rcases exists_of_unwrap? unwrapped with ⟨argument, around⟩
      exact absurd around (bare argument)

theorem unwrap?_wrapped_other {name other : String}
    (apart : (other.toList ++ ['(']).head? ≠ (name.toList ++ ['(']).head?)
    (argument : List Char) : unwrap? name (wrapped other argument) = none :=
  unwrap?_eq_none (ne_wrapped (by rwa [head?_wrapped]))

/-- The reading of a text by the first wrapper that stands around it. -/
theorem ofTrimmed_eq (text : List Char) :
    ofTrimmed text =
      match unwrap? "Nullable" text with
      | some inner => .nullable (ofTrimmed inner)
      | none =>
      match unwrap? "LowCardinality" text with
      | some inner => .lowCardinality (ofTrimmed inner)
      | none =>
      match unwrap? "Map" text with
      | some arguments =>
          match secondArgument? 0 arguments with
          | some value => .map (String.ofList text) (ofTrimmed value)
          | none => .keylessMap (String.ofList text)
      | none =>
      match unwrap? "Array" text with
      | some item => .array (String.ofList text) (ofTrimmed item)
      | none => .leaf (String.ofList text) (leafKind text) := by
  rw [ofTrimmed]
  split
  · simp [*]
  · split
    · simp [*]
    · split
      · split <;> simp [*]
      · split <;> simp [*]

end CellType

/-! ## Balanced texts -/

/-- No parenthesis, and no comma unless commas are allowed. -/
def isPlain (commas : Bool) (character : Char) : Bool :=
  character ≠ '(' && character ≠ ')' && (commas || character ≠ ',')

/-- A text in which every parenthesis has its partner. Commas stand inside parentheses, and
elsewhere only if they are allowed. -/
inductive Balanced : (commas : Bool) → List Char → Prop where
  | empty : Balanced commas []
  | plain : isPlain commas character = true → Balanced commas rest →
      Balanced commas (character :: rest)
  | nested : Balanced true inside → Balanced commas rest →
      Balanced commas ('(' :: (inside ++ ')' :: rest))

theorem Balanced.append_plain {commas : Bool} {rest : List Char} (text : List Char)
    (plain : text.all (isPlain commas) = true) (balanced : Balanced commas rest) :
    Balanced commas (text ++ rest) := by
  induction text with
  | nil => exact balanced
  | cons first text induction =>
      rw [List.all_cons, Bool.and_eq_true] at plain
      exact .plain plain.1 (induction plain.2)

theorem Balanced.trimStart {commas : Bool} {text : List Char}
    (balanced : Balanced commas text) : Balanced commas (Text.trimStart text) := by
  induction balanced with
  | empty => exact .empty
  | @plain commas character rest plain tail induction =>
      cases blank : isBlank character with
      | true => simpa [Text.trimStart, blank] using induction
      | false => simpa [Text.trimStart, blank] using .plain plain tail
  | @nested inside commas rest between tail _ _ =>
      have visible : isBlank '(' = false := by decide
      simpa [Text.trimStart, visible] using .nested between tail

namespace CellType

theorem secondArgument?_cons {commas : Bool} {character : Char}
    (plain : isPlain commas character = true) {depth : Nat} (inside : commas = true → 0 < depth)
    (rest : List Char) :
    secondArgument? depth (character :: rest) = secondArgument? depth rest := by
  simp only [isPlain, Bool.and_eq_true, Bool.or_eq_true, decide_eq_true_eq] at plain
  rcases plain with ⟨⟨notOpen, notClosed⟩, allowed⟩
  rw [secondArgument?]
  · exact notOpen
  · exact notClosed
  · rintro rfl rfl
    rcases allowed with allowed | other
    · exact absurd (inside allowed) (Nat.lt_irrefl 0)
    · exact other rfl

/-- The search for the dividing comma passes over a balanced text. -/
theorem secondArgument?_append {commas : Bool} {text : List Char}
    (balanced : Balanced commas text) {depth : Nat} (inside : commas = true → 0 < depth)
    (rest : List Char) :
    secondArgument? depth (text ++ rest) = secondArgument? depth rest := by
  induction balanced generalizing depth rest with
  | empty => rfl
  | plain plain _ induction =>
      rw [List.cons_append, secondArgument?_cons plain inside]
      exact induction inside rest
  | @nested between commas tail _ _ inductionBetween inductionTail =>
      have opened : secondArgument? (depth + 1) (between ++ ')' :: (tail ++ rest)) =
          secondArgument? (depth + 1) (')' :: (tail ++ rest)) :=
        inductionBetween (fun _ => Nat.succ_pos depth) _
      simpa [secondArgument?] using opened.trans (inductionTail inside rest)

theorem secondArgument?_trimBlanks {key : List Char} (balanced : Balanced false key)
    (value : List Char) :
    secondArgument? 0 (trimBlanks (key ++ ',' :: value)) = some (trimBlanks value) := by
  have visible : isBlank ',' = false := by decide
  rw [Text.trimBlanks_append_cons visible,
    secondArgument?_append balanced.trimStart nofun, secondArgument?, Text.trimBlanks_trimEnd]

end CellType

/-! ## Trees of types

The tree that a text writes, and the decoder by recursion on the tree. A map keeps the text
of the type of its keys, which no decoder reads. -/

inductive TypeTree where
  | nullable (inner : TypeTree)
  | lowCardinality (inner : TypeTree)
  | map (key : List Char) (value : TypeTree)
  | array (item : TypeTree)
  | leaf (name : List Char)

namespace TypeTree

def decode : TypeTree → Json → Option Cell
  | .nullable _, .null => some .null
  | .nullable inner, json => inner.decode json
  | .lowCardinality inner, json => inner.decode json
  | .map _ value, .object fields =>
      (fields.mapM fun field => (value.decode field.2).map (field.1, ·)).map .map
  | .map _ _, _ => none
  | .array item, .array items => (items.mapM item.decode).map .array
  | .array _, _ => none
  | .leaf name, json => (Cell.decodeLeaf (CellType.leafKind name) json).toOption

/-- The texts of a tree. Blanks may stand around each of them. -/
inductive IsWritten : TypeTree → List Char → Prop where
  | spaced {tree : TypeTree} {before text after : List Char} (blankBefore : AreBlank before)
      (blankAfter : AreBlank after) (written : IsWritten tree text) :
      IsWritten tree (before ++ text ++ after)
  | nullable {inner : TypeTree} {text : List Char} (written : IsWritten inner text) :
      IsWritten (.nullable inner) (wrapped "Nullable" text)
  | lowCardinality {inner : TypeTree} {text : List Char} (written : IsWritten inner text) :
      IsWritten (.lowCardinality inner) (wrapped "LowCardinality" text)
  | map {key : List Char} {value : TypeTree} {text : List Char} (balanced : Balanced false key)
      (written : IsWritten value text) :
      IsWritten (.map key value) (wrapped "Map" (key ++ ',' :: text))
  | array {item : TypeTree} {text : List Char} (written : IsWritten item text) :
      IsWritten (.array item) (wrapped "Array" text)
  | leaf {name : List Char} (trimmed : trimBlanks name = name)
      (bare : ∀ wrapper ∈ wrapperNames, ∀ argument, name ≠ wrapped wrapper argument) :
      IsWritten (.leaf name) name

end TypeTree

namespace CellType

/-- The type that is read and the tree that was written have the same form. -/
def Fits : CellType → TypeTree → Prop
  | .nullable inner, .nullable tree => inner.Fits tree
  | .lowCardinality inner, .lowCardinality tree => inner.Fits tree
  | .map _ value, .map _ tree => value.Fits tree
  | .array _ item, .array tree => item.Fits tree
  | .leaf _ kind, .leaf name => kind = leafKind name
  | _, _ => False

theorem ofTrimmed_nullable (text : List Char) :
    ofTrimmed (wrapped "Nullable" text) = .nullable (ofTrimmed (trimBlanks text)) := by
  rw [ofTrimmed_eq, unwrap?_wrapped]

theorem ofTrimmed_lowCardinality (text : List Char) :
    ofTrimmed (wrapped "LowCardinality" text) =
      .lowCardinality (ofTrimmed (trimBlanks text)) := by
  rw [ofTrimmed_eq, unwrap?_wrapped_other (by decide), unwrap?_wrapped]

theorem ofTrimmed_map {key : List Char} (balanced : Balanced false key) (text : List Char) :
    ofTrimmed (wrapped "Map" (key ++ ',' :: text)) =
      .map (String.ofList (wrapped "Map" (key ++ ',' :: text)))
        (ofTrimmed (trimBlanks text)) := by
  rw [ofTrimmed_eq, unwrap?_wrapped_other (by decide), unwrap?_wrapped_other (by decide),
    unwrap?_wrapped]
  simp only [secondArgument?_trimBlanks balanced]

theorem ofTrimmed_array (text : List Char) :
    ofTrimmed (wrapped "Array" text) =
      .array (String.ofList (wrapped "Array" text)) (ofTrimmed (trimBlanks text)) := by
  rw [ofTrimmed_eq, unwrap?_wrapped_other (by decide), unwrap?_wrapped_other (by decide),
    unwrap?_wrapped_other (by decide), unwrap?_wrapped]

theorem ofTrimmed_leaf {name : List Char}
    (bare : ∀ wrapper ∈ wrapperNames, ∀ argument, name ≠ wrapped wrapper argument) :
    ofTrimmed name = .leaf (String.ofList name) (leafKind name) := by
  simp only [wrapperNames, List.forall_mem_cons] at bare
  rcases bare with ⟨nullable, lowCardinality, map, array, _⟩
  rw [ofTrimmed_eq, unwrap?_eq_none nullable, unwrap?_eq_none lowCardinality,
    unwrap?_eq_none map, unwrap?_eq_none array]

/-- Reading recovers the form of the tree, by induction on how it is written. -/
theorem fits_ofTrimmed {tree : TypeTree} {text : List Char} (written : tree.IsWritten text) :
    (ofTrimmed (trimBlanks text)).Fits tree := by
  induction written with
  | spaced blankBefore blankAfter _ induction =>
      rw [Text.trimBlanks_spaced blankBefore _ blankAfter]
      exact induction
  | nullable _ induction =>
      rw [trimBlanks_wrapped (by decide), ofTrimmed_nullable]
      exact induction
  | lowCardinality _ induction =>
      rw [trimBlanks_wrapped (by decide), ofTrimmed_lowCardinality]
      exact induction
  | map balanced _ induction =>
      rw [trimBlanks_wrapped (by decide), ofTrimmed_map balanced]
      exact induction
  | array _ induction =>
      rw [trimBlanks_wrapped (by decide), ofTrimmed_array]
      exact induction
  | leaf trimmed bare =>
      rw [trimmed, ofTrimmed_leaf bare]
      rfl

/-! ### The depth of a type -/

/-- How often the decoder calls itself on its way to a leaf. -/
def depth : CellType → Nat
  | .nullable inner => inner.depth + 1
  | .lowCardinality inner => inner.depth + 1
  | .map _ value => value.depth + 1
  | .keylessMap _ => 0
  | .array _ item => item.depth + 1
  | .leaf _ _ => 0

theorem depth_ofTrimmed_le (text : List Char) : (ofTrimmed text).depth ≤ text.length := by
  fun_induction ofTrimmed text with
  | case1 text inner unwrapped shorter induction =>
      exact Nat.lt_of_le_of_lt induction shorter
  | case2 text _ inner unwrapped shorter induction =>
      exact Nat.lt_of_le_of_lt induction shorter
  | case3 text _ _ _ _ value _ shorter induction =>
      exact Nat.lt_of_le_of_lt induction shorter
  | case4 => exact Nat.zero_le _
  | case5 text _ _ _ item _ shorter induction =>
      exact Nat.lt_of_le_of_lt induction shorter
  | case6 => exact Nat.zero_le _

theorem depth_ofText_le (text : String) : (ofText text).depth ≤ text.length := by
  have trimmed := length_trimBlanks_le text.toList
  rw [String.length_toList] at trimmed
  exact (depth_ofTrimmed_le _).trans trimmed

end CellType

/-! ## Decoding -/

namespace Cell

section

variable {decode : Json → Except CellError Cell} {expected : Json → Option Cell}

theorem toOption_decodeItems (same : ∀ json, (decode json).toOption = expected json)
    (items : List Json) : (decodeItems decode items).toOption = items.mapM expected := by
  induction items with
  | nil => rfl
  | cons item items induction =>
      rw [decodeItems, List.mapM_cons, ← same, ← induction]
      cases decode item with
      | error error => rfl
      | ok cell => cases decodeItems decode items <;> rfl

theorem toOption_decodeEntries (same : ∀ json, (decode json).toOption = expected json)
    (fields : List (String × Json)) :
    (decodeEntries decode fields).toOption =
      fields.mapM fun field => (expected field.2).map (field.1, ·) := by
  induction fields with
  | nil => rfl
  | cons field fields induction =>
      rcases field with ⟨key, value⟩
      rw [decodeEntries, List.mapM_cons, ← same, ← induction]
      cases decode value with
      | error error => rfl
      | ok cell => cases decodeEntries decode fields <;> rfl

end

theorem toOption_decodeAs {type : CellType} {tree : TypeTree} (fits : type.Fits tree)
    (json : Json) : (decodeAs type json).toOption = tree.decode json := by
  fun_induction CellType.Fits type tree generalizing json with
  | case1 inner tree induction =>
      cases json with
      | null => rfl
      | boolean | number | text | array | object => exact induction fits _
  | case2 inner tree induction => exact induction fits json
  | case3 text value key tree induction =>
      cases json with
      | object fields =>
          rw [decodeAs, TypeTree.decode, ← toOption_decodeEntries (induction fits)]
          cases decodeEntries (decodeAs value) fields <;> rfl
      | null | boolean | number | text | array => rfl
  | case4 text item tree induction =>
      cases json with
      | array items =>
          rw [decodeAs, TypeTree.decode, ← toOption_decodeItems (induction fits)]
          cases decodeItems (decodeAs item) items <;> rfl
      | null | boolean | number | text | object => rfl
  | case5 text kind name =>
      rw [decodeAs, TypeTree.decode, fits]
      cases decodeLeaf (CellType.leafKind name) json <;> rfl
  | case6 => contradiction

/-- Decoding by the text of a type is decoding by recursion on the tree that the text writes.
The recursion on a text of any kind ends, no deeper than the text is long. -/
theorem decode_written :
    (∀ (tree : TypeTree) (text : String) (json : Json), tree.IsWritten text.toList →
      (decode text json).toOption = tree.decode json) ∧
    ∀ text : String, (CellType.ofText text).depth ≤ text.length :=
  ⟨fun _ _ json written => toOption_decodeAs (CellType.fits_ofTrimmed written) json,
    CellType.depth_ofText_le⟩

/-- A key type with commas and parentheses of its own, in a parameter as well. -/
def spacedKey : List Char :=
  "Tuple(String, Enum8('a,b' = 1)) ".toList

def spacedTree : TypeTree :=
  .lowCardinality (.nullable (.map spacedKey (.array (.leaf "DateTime64(9, 'UTC')".toList))))

def spacedText : String :=
  " LowCardinality(Nullable(Map(Tuple(String, Enum8('a,b' = 1)) , Array(DateTime64(9, 'UTC')) )))\n"

theorem balanced_spacedKey : Balanced false spacedKey := by
  have parameter : Balanced true ("'a,b' = 1".toList ++ []) :=
    .append_plain _ (by decide) .empty
  have arguments : Balanced true ("String, Enum8".toList ++ _) :=
    .append_plain _ (by decide) (.nested parameter .empty)
  have after : Balanced false (" ".toList ++ []) :=
    .append_plain _ (by decide) .empty
  exact .append_plain "Tuple".toList (by decide) (.nested arguments after)

theorem isWritten_spacedTree : spacedTree.IsWritten spacedText.toList := by
  have space : AreBlank [' '] := by decide
  have line : AreBlank ['\n'] := by decide
  have bare : ∀ wrapper ∈ wrapperNames,
      "DateTime64(9, 'UTC')".toList.head? ≠ (wrapper.toList ++ ['(']).head? := by decide
  have item : TypeTree.IsWritten (.leaf _) "DateTime64(9, 'UTC')".toList :=
    .leaf (by decide) fun wrapper member => ne_wrapped (bare wrapper member)
  have entries := (item.array.spaced space space).map balanced_spacedKey
  have whole := entries.nullable.lowCardinality.spaced space line
  have text : spacedText.toList = [' '] ++ wrapped "LowCardinality" (wrapped "Nullable"
      (wrapped "Map" (spacedKey ++ ',' :: ([' '] ++
        wrapped "Array" "DateTime64(9, 'UTC')".toList ++ [' '])))) ++ ['\n'] := by
    decide +kernel
  rw [text]
  exact whole

/-- The values are times, whatever is announced for the keys; a text that is no time fails. -/
theorem decode_written_spaced :
    spacedTree.IsWritten spacedText.toList ∧
    (decode spacedText (.object [("a", .array [.ofNat 60]), ("b", .array [])])).toOption =
      some (.map [("a", .array [.timestamp ⟨60, 0⟩]), ("b", .array [])]) ∧
    (decode spacedText (.object [("a", .array [.text "noon"])])).toOption = none ∧
    (decode spacedText .null).toOption = some .null := by
  have decoded := fun json => decode_written.1 spacedTree spacedText json isWritten_spacedTree
  refine ⟨isWritten_spacedTree, ?_, ?_, ?_⟩
  · rw [decoded]
    rfl
  · rw [decoded]
    rfl
  · rw [decoded]
    rfl

end Cell

end LogQuery
