import LogQuery.Text.Blank

namespace LogQuery

/-! The type of a column, as a result announces it. Four wrappers take other
types as arguments; every other name is a leaf, and the start of its name says
how its cells are written. Where a cell can be refused, the type keeps the text
by which the refusal names it. -/

inductive LeafKind where
  | timestamp
  | float
  | natural
  | integer
  | boolean
  | other
  deriving DecidableEq, Repr

inductive CellType where
  | nullable (inner : CellType)
  | lowCardinality (inner : CellType)
  | map (text : String) (value : CellType)
  | keylessMap (text : String)
  | array (text : String) (item : CellType)
  | leaf (text : String) (kind : LeafKind)
  deriving DecidableEq, Repr

namespace CellType

/-- What stands between the parentheses after `name`, without the blanks around
it. -/
def unwrap? (name : String) (text : List Char) : Option (List Char) :=
  if (name.toList ++ ['(']).isPrefixOf text ∧ text.getLast? = some ')' then
    let inner := text.drop (name.length + 1)
    if inner = [] then none else some (Text.trimBlanks inner.dropLast)
  else none

/-- The second of two arguments. Only a comma outside of all parentheses divides
them; `depth` counts the parentheses open. -/
def secondArgument? : (depth : Nat) → List Char → Option (List Char)
  | _, [] => none
  | depth, '(' :: rest => secondArgument? (depth + 1) rest
  | depth, ')' :: rest => secondArgument? (depth - 1) rest
  | 0, ',' :: rest => some (Text.trimBlanks rest)
  | depth, _ :: rest => secondArgument? depth rest

def leafKind (text : List Char) : LeafKind :=
  if "DateTime".toList.isPrefixOf text then .timestamp
  else if "Float".toList.isPrefixOf text then .float
  else if "UInt".toList.isPrefixOf text then .natural
  else if "Int".toList.isPrefixOf text then .integer
  else if text = "Bool".toList then .boolean
  else .other

theorem length_trimBlanks_le (text : List Char) :
    (Text.trimBlanks text).length ≤ text.length := by
  unfold Text.trimBlanks Text.trimEnd Text.trimStart
  rw [List.length_reverse]
  have ending := (List.dropWhile_sublist Text.isBlank
    (l := (text.dropWhile Text.isBlank).reverse)).length_le
  have beginning := (List.dropWhile_sublist Text.isBlank (l := text)).length_le
  rw [List.length_reverse] at ending
  omega

theorem length_lt_of_unwrap? {name : String} {text inner : List Char}
    (unwrapped : unwrap? name text = some inner) : inner.length < text.length := by
  unfold unwrap? at unwrapped
  split at unwrapped
  · dsimp only at unwrapped
    split at unwrapped
    · contradiction
    · next nonempty =>
        cases unwrapped
        have trimmed := length_trimBlanks_le (text.drop (name.length + 1)).dropLast
        have positive := List.length_pos_iff.mpr nonempty
        rw [List.length_dropLast] at trimmed
        rw [List.length_drop] at trimmed positive
        omega
  · contradiction

theorem length_lt_of_secondArgument? {depth : Nat} {text value : List Char}
    (found : secondArgument? depth text = some value) : value.length < text.length := by
  fun_induction secondArgument? depth text with
  | case1 => contradiction
  | case2 _ _ induction => simpa using Nat.lt_succ_of_lt (induction found)
  | case3 _ _ induction => simpa using Nat.lt_succ_of_lt (induction found)
  | case4 rest =>
      cases found
      simpa using Nat.lt_succ_of_le (length_trimBlanks_le rest)
  | case5 _ _ _ _ _ _ induction => simpa using Nat.lt_succ_of_lt (induction found)

/-- Reads the text of a type that has no blanks around it. Every text names a
type. -/
def ofTrimmed (text : List Char) : CellType :=
  match unwrapped : unwrap? "Nullable" text with
  | some inner =>
      have := length_lt_of_unwrap? unwrapped
      .nullable (ofTrimmed inner)
  | none =>
      match unwrapped : unwrap? "LowCardinality" text with
      | some inner =>
          have := length_lt_of_unwrap? unwrapped
          .lowCardinality (ofTrimmed inner)
      | none =>
          match unwrapped : unwrap? "Map" text with
          | some arguments =>
              match found : secondArgument? 0 arguments with
              | some value =>
                  have := Nat.lt_trans (length_lt_of_secondArgument? found)
                    (length_lt_of_unwrap? unwrapped)
                  .map (String.ofList text) (ofTrimmed value)
              | none => .keylessMap (String.ofList text)
          | none =>
              match unwrapped : unwrap? "Array" text with
              | some item =>
                  have := length_lt_of_unwrap? unwrapped
                  .array (String.ofList text) (ofTrimmed item)
              | none => .leaf (String.ofList text) (leafKind text)
termination_by text.length

def ofText (text : String) : CellType :=
  ofTrimmed (Text.trimBlanks text.toList)

end CellType

end LogQuery
