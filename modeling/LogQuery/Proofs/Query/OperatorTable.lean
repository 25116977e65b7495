import LogQuery.Proofs.Query.Mismatches
import LogQuery.Proofs.Query.Printed

namespace LogQuery.Query

/-! ## The table of operators -/

structure OperatorRow where
  spelling : String
  condition : String → String → String

def operatorTable : List OperatorRow := [
  ⟨"=", fun left right => left ++ " = " ++ right⟩,
  ⟨"!=", fun left right => left ++ " != " ++ right⟩,
  ⟨"<", fun left right => left ++ " < " ++ right⟩,
  ⟨"<=", fun left right => left ++ " <= " ++ right⟩,
  ⟨">", fun left right => left ++ " > " ++ right⟩,
  ⟨">=", fun left right => left ++ " >= " ++ right⟩,
  ⟨"~", fun left right => "match(" ++ left ++ ", " ++ right ++ ")"⟩,
  ⟨"=~", fun left right => left ++ " ILIKE " ++ right⟩,
  ⟨"!~", fun left right => left ++ " NOT ILIKE " ++ right⟩]

theorem append_spaced (spelling left right : String) :
    left ++ " " ++ spelling ++ " " ++ right = left ++ (" " ++ spelling ++ " ") ++ right := by
  simp only [String.append_assoc]

theorem exists_operator_of_mem_operatorTable :
    ∀ row ∈ operatorTable, ∃ operator : Operator, operator.spelling = row.spelling ∧
      ∀ left right, operator.condition left right = row.condition left right := by
  simp only [operatorTable, List.forall_mem_cons]
  exact ⟨⟨.equal, rfl, append_spaced "="⟩,
    ⟨.notEqual, rfl, append_spaced "!="⟩,
    ⟨.less, rfl, append_spaced "<"⟩,
    ⟨.lessEqual, rfl, append_spaced "<="⟩,
    ⟨.greater, rfl, append_spaced ">"⟩,
    ⟨.greaterEqual, rfl, append_spaced ">="⟩,
    ⟨.pattern, rfl, fun _ _ => rfl⟩,
    ⟨.ilike, rfl, fun _ _ => rfl⟩,
    ⟨.notIlike, rfl, fun _ _ => rfl⟩,
    List.forall_mem_nil _⟩

/-! ## Operands beside an operator

No operand goes on with a mark of an operator, and no operator with the start of an
operand. -/

theorem Operator.stops_spelling (operator : Operator) {goesOn : Char → Bool}
    (none : ['=', '!', '<', '>', '~'].any goesOn = false) (rest : List Char) :
    Stops goesOn (operator.spelling.toList ++ rest) := by
  have stops (mark : Char) (member : mark ∈ ['=', '!', '<', '>', '~']) :
      goesOn mark = false :=
    eq_false_of_ne_true (List.any_eq_false.mp none mark member)
  cases operator <;> exact .cons (stops _ (by decide))

theorem Operand.stops_operator (operand : Operand) (operator : Operator) (rest : List Char) :
    Stops operand.token.continues (operator.spelling.toList ++ rest) := by
  apply operator.stops_spelling
  cases operand <;> rfl

def startsOperand (first : Char) : Bool :=
  isIdentifierStart first || first.isDigit || isSignMark first || first = '\''

theorem IsNumber.startsOperand {text : List Char} (number : IsNumber text) :
    ∃ first tail, text = first :: tail ∧ startsOperand first = true := by
  rcases number.exists_first with ⟨first, tail, split, digit | sign⟩
  · exact ⟨first, tail, split, by simp [Query.startsOperand, digit]⟩
  · exact ⟨first, tail, split, by simp [Query.startsOperand, sign]⟩

theorem Operand.exists_startsOperand {operand : Operand} (lexed : operand.token.IsLexed) :
    ∃ first tail, operand.text.toList = first :: tail ∧ startsOperand first = true := by
  cases operand with
  | field name =>
      have named : isIdentifierChars name.toList = true := lexed
      rcases split : name.toList with _ | ⟨first, tail⟩
      · rw [split] at named
        contradiction
      · rw [split, isIdentifierChars, Bool.and_eq_true] at named
        refine ⟨first, tail, split, ?_⟩
        simp [startsOperand, named.1]
  | number text => exact IsNumber.startsOperand lexed
  | literal text =>
      rcases lexed with ⟨tail, split, _⟩
      exact ⟨'\'', tail, split, rfl⟩

theorem Operator.stops_operand (operator : Operator) {operand : Operand}
    (lexed : operand.token.IsLexed) (rest : List Char) :
    Stops (Token.operator operator).continues (operand.text.toList ++ rest) := by
  rcases operand.exists_startsOperand lexed with ⟨first, tail, split, starts⟩
  rw [split]
  apply Stops.cons
  apply eq_false_of_ne_true
  intro continued
  -- An operator goes on only with the second mark of a longer one.
  have isMark : first = '=' ∨ first = '~' := by
    cases operator <;> simp_all [Token.continues]
  rcases isMark with rfl | rfl <;> contradiction

/-! ## One comparison as a query -/

/-- An operand as it can be written in a query. -/
def Operand.IsWritten (operand : Operand) : Prop :=
  operand.token.IsReadFrom operand.text.toList

theorem Comparison.isWellFormed {comparison : Comparison} (left : comparison.left.IsWritten)
    (right : comparison.right.IsWritten) :
    (Expr.predicate (.comparison comparison)).IsWellFormed := {
  folded := rfl
  fewJunctions := Nat.zero_le _
  shallow := Nat.zero_le _
  lexed := by
    change ∀ token ∈ comparison.written, token.IsLexed
    simp only [Comparison.written, List.forall_mem_cons]
    exact ⟨left.lexed, trivial, right.lexed, List.forall_mem_nil _⟩
  plainNames := by
    intro name member
    change Token.identifier name ∈ comparison.written at member
    simp only [Comparison.written, List.mem_cons, List.not_mem_nil, or_false] at member
    rcases member with isLeft | isOperator | isRight
    · exact left.plain name isLeft.symm
    · contradiction
    · exact right.plain name isRight.symm }

section Written

variable {comparison : Comparison} {before leftGap rightGap after : String}

theorem Comparison.separated (left : comparison.left.IsWritten)
    (right : comparison.right.IsWritten) (leftSpace : IsSpace leftGap.toList)
    (rightSpace : IsSpace rightGap.toList) (ending : IsSpace after.toList) :
    Separated comparison.written (comparison.left.text.toList ++ (leftGap.toList ++
      (comparison.operator.spelling.toList ++ (rightGap.toList ++
        (comparison.right.text.toList ++ after.toList))))) := by
  have operator : (Token.operator comparison.operator).IsReadFrom
      comparison.operator.spelling.toList := {
    lexed := trivial
    printed := rfl
    plain := by
      intro name same
      contradiction }
  have behindLeft := (leftSpace.standsApart.stops_continues comparison.left.token).append
    (comparison.left.stops_operator comparison.operator
      (rightGap.toList ++ (comparison.right.text.toList ++ after.toList)))
  have behindOperator :=
    (rightSpace.standsApart.stops_continues (.operator comparison.operator)).append
      (comparison.operator.stops_operand right.lexed after.toList)
  exact .next left leftSpace behindLeft
    (.next operator rightSpace behindOperator (.last right ending))

/-- Two operands around an operator are read as their comparison, with any space or none
between them. -/
theorem parse_comparison (left : comparison.left.IsWritten)
    (right : comparison.right.IsWritten) (start : IsSpace before.toList)
    (leftSpace : IsSpace leftGap.toList) (rightSpace : IsSpace rightGap.toList)
    (ending : IsSpace after.toList) :
    parse (before ++ comparison.left.text ++ leftGap ++ comparison.operator.spelling ++
      rightGap ++ comparison.right.text ++ after) =
        .ok (.predicate (.comparison comparison)) := by
  have separated := Comparison.separated left right leftSpace rightSpace ending
  rcases scanTokens_of_separated separated 0 start with ⟨lexemes, scanned, written⟩
  unfold parse tokenize
  simp only [String.toList_append, List.append_assoc]
  rw [scanned]
  dsimp only
  rw [parseLexemes_of_written (Comparison.isWellFormed left right) written]

theorem Operator.isBlankText_eq_false (operator : Operator) (front back : String) :
    Text.isBlankText (front ++ operator.spelling ++ back) = false := by
  have visible : operator.spelling.toList.all Text.isBlank = false := by
    cases operator <;> decide
  simp [Text.isBlankText, visible]

/-- A comparison of a field with a constant becomes its condition. -/
theorem toCondition_written (schema : Schema) (snapshot : FieldSnapshot)
    (left : comparison.left.IsWritten) (right : comparison.right.IsWritten)
    (oneField : comparison.hasOneField = true)
    (spaces : ∀ space ∈ [before, leftGap, rightGap, after], IsSpace space.toList) :
    toCondition schema snapshot (before ++ comparison.left.text ++ leftGap ++
      comparison.operator.spelling ++ rightGap ++ comparison.right.text ++ after) =
        .ok (comparison.condition schema snapshot) := by
  simp only [List.forall_mem_cons] at spaces
  rcases spaces with ⟨start, leftSpace, rightSpace, ending, _⟩
  have parsed := parse_comparison left right start leftSpace rightSpace ending
  have visible := comparison.operator.isBlankText_eq_false
    (before ++ comparison.left.text ++ leftGap) (rightGap ++ comparison.right.text ++ after)
  simp only [← String.append_assoc] at visible
  have faultless : (Expr.predicate (.comparison comparison)).mismatches = [] := by
    simp [Expr.mismatches, Predicate.mismatches, comparison.mismatch?_eq_none_iff.mpr oneField]
  unfold toCondition
  rw [visible, if_neg Bool.false_ne_true, parsed]
  dsimp only
  rw [lower, faultless]
  rfl

end Written

/-! ## Fields and constants -/

/-- A number or a string literal, with the map column of the fields of its kind. -/
inductive IsConstant : String → String → Prop
  | number {text : String} : IsNumber text.toList → IsConstant text "fields_number"
  | literal {text : String} : IsLiteral text.toList → IsConstant text "fields_string"

/-- A field is the column of its name, if there is one, or the key of its name in a map. -/
def fieldReference (schema : Schema) (mapColumn field : String) : String :=
  if field ∈ fixedColumns ∨ field ∈ schema.materializedColumns then field
  else mapColumn ++ "['" ++ field ++ "']"

/-- The operand that a constant is read as. -/
structure Operand.StandsFor (operand : Operand) (constant mapColumn : String) : Prop where
  text : operand.text = constant
  written : operand.IsWritten
  noField : operand.isField = false
  resolve : ∀ (schema : Schema) snapshot field,
    schema.resolve snapshot operand.context field = fieldReference schema mapColumn field

theorem resolve_eq_fieldReference (schema : Schema) (snapshot : FieldSnapshot)
    {context : TypeContext} (kind : FieldKind) {field : String}
    (decided : schema.resolve snapshot context field =
      if schema.isColumn field then field else kind.reference field) :
    schema.resolve snapshot context field = fieldReference schema kind.mapColumn field := by
  have column : schema.isColumn field = true ↔
      field ∈ fixedColumns ∨ field ∈ schema.materializedColumns := by
    simp [Schema.isColumn]
  rw [decided, fieldReference]
  simp only [column]
  rfl

theorem IsConstant.exists_standsFor {constant mapColumn : String}
    (isConstant : IsConstant constant mapColumn) :
    ∃ operand : Operand, operand.StandsFor constant mapColumn := by
  cases isConstant with
  | number number =>
      exact ⟨.number constant, {
        text := rfl
        written := ⟨number, rfl, fun name same => by contradiction⟩
        noField := rfl
        resolve := fun schema snapshot _ =>
          resolve_eq_fieldReference schema snapshot .number rfl }⟩
  | literal literal =>
      exact ⟨.literal constant, {
        text := rfl
        written := ⟨literal, rfl, fun name same => by contradiction⟩
        noField := rfl
        resolve := fun schema snapshot _ =>
          resolve_eq_fieldReference schema snapshot .string rfl }⟩

namespace Operand.StandsFor

variable {operand : Operand} {constant mapColumn : String}

theorem hasOneField_left (stands : operand.StandsFor constant mapColumn) (name : String)
    (operator : Operator) :
    Comparison.hasOneField ⟨.field name, operator, operand⟩ = true := by
  rw [Comparison.hasOneField, stands.noField]
  rfl

theorem hasOneField_right (stands : operand.StandsFor constant mapColumn) (name : String)
    (operator : Operator) :
    Comparison.hasOneField ⟨operand, operator, .field name⟩ = true := by
  rw [Comparison.hasOneField, stands.noField]
  rfl

theorem condition_left (stands : operand.StandsFor constant mapColumn) (schema : Schema)
    (snapshot : FieldSnapshot) (name : String) (operator : Operator) :
    Comparison.condition schema snapshot ⟨.field name, operator, operand⟩ =
      operator.condition (fieldReference schema mapColumn name) constant := by
  rw [← stands.resolve schema snapshot, ← stands.text]
  cases operand with
  | field other => exact absurd stands.noField nofun
  | number _ => rfl
  | literal _ => rfl

theorem condition_right (stands : operand.StandsFor constant mapColumn) (schema : Schema)
    (snapshot : FieldSnapshot) (name : String) (operator : Operator) :
    Comparison.condition schema snapshot ⟨operand, operator, .field name⟩ =
      operator.condition constant (fieldReference schema mapColumn name) := by
  rw [← stands.resolve schema snapshot, ← stands.text]
  cases operand with
  | field other => exact absurd stands.noField nofun
  | number _ => rfl
  | literal _ => rfl

end Operand.StandsFor

/-- A field and a constant around an operator become the condition in the row of that operator,
in either order of the two, with any space or none around the three parts. -/
theorem toCondition_comparison (schema : Schema) (snapshot : FieldSnapshot) {row : OperatorRow}
    (listed : row ∈ operatorTable) {name constant mapColumn : String}
    (named : isIdentifier name = true) (plain : IsPlainName name)
    (isConstant : IsConstant constant mapColumn) {before leftGap rightGap after : String}
    (spaces : ∀ space ∈ [before, leftGap, rightGap, after], IsSpace space.toList) :
    toCondition schema snapshot
        (before ++ name ++ leftGap ++ row.spelling ++ rightGap ++ constant ++ after) =
      .ok (row.condition (fieldReference schema mapColumn name) constant) ∧
    toCondition schema snapshot
        (before ++ constant ++ leftGap ++ row.spelling ++ rightGap ++ name ++ after) =
      .ok (row.condition constant (fieldReference schema mapColumn name)) := by
  rcases exists_operator_of_mem_operatorTable row listed with ⟨operator, spelled, condition⟩
  rcases isConstant.exists_standsFor with ⟨operand, stands⟩
  have field : (Operand.field name).IsWritten := {
    lexed := named
    printed := rfl
    plain := by
      rintro _ ⟨rfl⟩
      exact plain }
  have fieldFirst := toCondition_written schema snapshot field stands.written
    (stands.hasOneField_left name operator) spaces
  have constantFirst := toCondition_written schema snapshot stands.written field
    (stands.hasOneField_right name operator) spaces
  rw [← spelled]
  rw [stands.condition_left, condition, stands.text] at fieldFirst
  rw [stands.condition_right, condition, stands.text] at constantFirst
  exact ⟨fieldFirst, constantFirst⟩

/-! A name that could be an exponent, and a sign right behind the operator. -/

def adjacentSchema : Schema := ⟨"logs", ["level"]⟩

theorem toCondition_adjacentText :
    toCondition adjacentSchema .empty "e5<=-1.5\r\n" = .ok "fields_number['e5'] <= -1.5" ∧
      toCondition adjacentSchema .empty "-1.5<=e5\r\n" = .ok "-1.5 <= fields_number['e5']" := by
  have listed : ⟨"<=", fun left right => left ++ " <= " ++ right⟩ ∈ operatorTable := by
    simp [operatorTable]
  have named : isIdentifier "e5" = true := by decide
  have plain : IsPlainName "e5" := Keyword.ofWord?_eq_none_iff.mp (by decide)
  have number : scanNumber "-1.5".toList = some ("-1.5".toList, []) := by decide
  have spaces : ∀ space ∈ ["", "", "", "\r\n"], IsSpace space.toList := by decide
  have conditions := toCondition_comparison adjacentSchema .empty listed named plain
    (.number (isNumber_of_scanNumber number)) spaces
  have fieldFirst : "" ++ "e5" ++ "" ++ "<=" ++ "" ++ "-1.5" ++ "\r\n" = "e5<=-1.5\r\n" := by
    decide +kernel
  have constantFirst : "" ++ "-1.5" ++ "" ++ "<=" ++ "" ++ "e5" ++ "\r\n" =
      "-1.5<=e5\r\n" := by
    decide +kernel
  have reference : fieldReference adjacentSchema "fields_number" "e5" =
      "fields_number['e5']" := by
    decide +kernel
  rw [fieldFirst, constantFirst, reference] at conditions
  exact conditions

end LogQuery.Query
