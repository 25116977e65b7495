import LogQuery.Proofs.Query.Lexemes
import LogQuery.Proofs.Sql.Scan
import LogQuery.Query.Condition

namespace LogQuery.Sql

open LogQuery.Query

/-! ## The texts of tokens

Identifiers and digits have no marks. The sign of a number is followed by a digit, so
it starts no comment. The lexer ends a string literal where the scan does. -/

theorem notMem_marks_of_isIdentifierPart {character : Char}
    (part : isIdentifierPart character = true) : character ∉ marks :=
  notMem_of_any_eq_false (by decide) part

theorem notMem_marks_of_isDigit {character : Char} (digit : character.isDigit = true) :
    character ∉ marks :=
  notMem_of_any_eq_false (by decide) digit

theorem isIdentifierPart_of_isIdentifier {name : String} (named : isIdentifier name = true) :
    ∀ character ∈ name.toList, isIdentifierPart character = true := by
  unfold isIdentifier isIdentifierChars at named
  split at named
  · contradiction
  · next first rest split =>
      rw [Bool.and_eq_true, List.all_eq_true] at named
      rw [split]
      intro character member
      rcases List.mem_cons.mp member with rfl | member
      · rw [isIdentifierPart, named.1, Bool.true_or, Bool.true_or]
      · exact named.2 character member

theorem passes_identifier {place : Place} (noEscape : place.quote ≠ .escape) {name : String}
    (named : isIdentifier name = true) : Passes place place name := by
  rw [← String.ofList_toList (s := name)]
  exact .plain noEscape fun character member =>
    notMem_marks_of_isIdentifierPart (isIdentifierPart_of_isIdentifier named character member)

theorem isPiece_identifier {name : String} (named : isIdentifier name = true) :
    IsPiece name :=
  passes_identifier (by decide) named

theorem isPiece_digits {digits : List Char} (allDigits : ∀ digit ∈ digits, digit.isDigit = true) :
    IsPiece (String.ofList digits) :=
  .plain (by decide) fun digit member => notMem_marks_of_isDigit (allDigits digit member)

/-- A minus leaves the scan behind a character that only a digit can follow. -/
theorem isPiece_signed {sign digits : List Char} (signed : IsSign sign)
    (allDigits : IsDigits digits) : IsPiece (String.ofList (sign ++ digits)) := by
  rw [String.ofList_append]
  rcases signed with rfl | rfl | rfl
  · exact Passes.empty.append (isPiece_digits allDigits.2)
  · exact Passes.append (.ofList (by decide)) (isPiece_digits allDigits.2)
  · intro around last noMinus
    rcases allDigits with ⟨nonempty, allDigits⟩
    cases digits with
    | nil => exact absurd rfl nonempty
    | cons first rest =>
        have plain : ∀ digit ∈ first :: rest, digit ∉ marks := fun digit member =>
          notMem_marks_of_isDigit (allDigits digit member)
        have noEscape : (outside.within around).quote ≠ .escape := by simp [Place.within, outside]
        rcases Scan.run_plain noEscape plain '-' with ⟨last', plain', ran⟩
        refine ⟨last', ne_minus_of_notMem_marks plain', ?_⟩
        rw [← String.ofList_append, String.toList_ofList, List.singleton_append, Scan.run,
          Scan.step_last noMinus (by decide)]
        exact ran

theorem isPiece_number {text : String} (number : IsNumber text.toList) : IsPiece text := by
  rcases number with ⟨sign, digits, fraction, exponent, split, signed, allDigits,
    fractional, exponential⟩
  have whole := isPiece_signed signed allDigits
  have fractionPiece : IsPiece (String.ofList fraction) := by
    rcases fractional with rfl | ⟨digits, rfl, allDigits⟩
    · exact .empty
    · rw [← List.singleton_append, String.ofList_append]
      exact Passes.append (.ofList (by decide)) (isPiece_digits allDigits.2)
  have exponentPiece : IsPiece (String.ofList exponent) := by
    rcases exponential with rfl | ⟨mark, sign, digits, rfl, marked, signed, allDigits⟩
    · exact .empty
    · rw [← List.singleton_append, String.ofList_append]
      refine Passes.append ?_ (isPiece_signed signed allDigits)
      unfold isExponentMark at marked
      rw [Bool.or_eq_true, decide_eq_true_eq, decide_eq_true_eq] at marked
      rcases marked with rfl | rfl
      · exact .ofList (by decide)
      · exact .ofList (by decide)
  rw [← String.ofList_toList (s := text), split, String.ofList_append, String.ofList_append]
  exact (whole.append fractionPiece).append exponentPiece

theorem Scan.run_quotedTail {tail : List Char} (quoted : QuotedTail tail)
    (closers : List Char) (last : Char) :
    Scan.run ⟨⟨.literal, closers⟩, last⟩ tail = some ⟨⟨.none, closers⟩, '\''⟩ := by
  induction quoted generalizing last with
  | close => rfl
  | escape escaped quoted induction => exact induction escaped
  | @plain character tail noQuote noEscape quoted induction =>
      have stays : Quote.literal.next character = .literal := by
        rw [Quote.next, if_neg noQuote, if_neg noEscape]
      have stepped : Scan.step ⟨⟨.literal, closers⟩, last⟩ character =
          some ⟨⟨.literal, closers⟩, character⟩ :=
        congrArg (fun quote => some (⟨⟨quote, closers⟩, character⟩ : Scan)) stays
      rw [run, stepped, Option.bind_some]
      exact induction character

theorem isPiece_literal {text : String} (literal : IsLiteral text.toList) : IsPiece text := by
  rcases literal with ⟨tail, split, quoted⟩
  intro around last noMinus
  refine ⟨'\'', by decide, ?_⟩
  rw [split, Scan.run, Scan.step_last noMinus (by decide)]
  exact Scan.run_quotedTail quoted around '\''

/-! ## Fields

A field is a column, which stands for itself, or a quoted key of a map column. -/

def inParen : Place := ⟨.none, [')']⟩

theorem isPiece_mapColumn (kind : FieldKind) : IsPiece kind.mapColumn := by
  cases kind with
  | string => exact .ofList (by decide)
  | number => exact .ofList (by decide)

theorem isPiece_reference (kind : FieldKind) {field : String}
    (named : isIdentifier field = true) : IsPiece (kind.reference field) := by
  have opening : Passes outside ⟨.literal, [']']⟩ "['" := .ofList (by decide)
  have closing : Passes ⟨.literal, [']']⟩ outside "']" := .ofList (by decide)
  have key : Passes ⟨.literal, [']']⟩ ⟨.literal, [']']⟩ field :=
    passes_identifier (by decide) named
  exact (((isPiece_mapColumn kind).append opening).append key).append closing

theorem isPiece_containsKey (kind : FieldKind) {field : String}
    (named : isIdentifier field = true) : IsPiece (Schema.containsKey kind field) := by
  have calling : Passes outside inParen "mapContains(" := .ofList (by decide)
  have opening : Passes inParen ⟨.literal, [')']⟩ ", '" := .ofList (by decide)
  have closing : Passes ⟨.literal, [')']⟩ outside "') = 1" := .ofList (by decide)
  have key : Passes ⟨.literal, [')']⟩ ⟨.literal, [')']⟩ field :=
    passes_identifier (by decide) named
  have column := (isPiece_mapColumn kind).inside [')']
  exact (((calling.append column).append opening).append key).append closing

theorem isPiece_existsClause (schema : Schema) {field : String}
    (named : isIdentifier field = true) : IsPiece (schema.existsClause field) := by
  unfold Schema.existsClause
  split
  · exact (isPiece_identifier named).append (.ofList (by decide))
  · have opening : Passes outside inParen "(" := .ofList (by decide)
    have between : Passes inParen inParen " OR " := .ofList (by decide)
    have closing : Passes inParen outside ")" := .ofList (by decide)
    have strings := (isPiece_containsKey .string named).inside [')']
    have numbers := (isPiece_containsKey .number named).inside [')']
    exact (((opening.append strings).append between).append numbers).append closing

theorem isPiece_resolve (schema : Schema) (snapshot : FieldSnapshot) (context : TypeContext)
    {field : String} (named : isIdentifier field = true) :
    IsPiece (schema.resolve snapshot context field) := by
  unfold Schema.resolve
  split
  · exact isPiece_identifier named
  · cases context with
    | number => exact isPiece_reference .number named
    | string => exact isPiece_reference .string named
    | unknown =>
        dsimp only
        split
        · exact isPiece_reference .number named
        · exact isPiece_reference .string named

theorem isPiece_direction (direction : SortDirection) : IsPiece direction.keyword := by
  cases direction with
  | ascending => exact .ofList (by decide)
  | descending => exact .ofList (by decide)

theorem isPiece_orderClause (schema : Schema) (direction : SortDirection) {field : String}
    (named : isIdentifier field = true) :
    IsPiece (schema.orderClause field direction) := by
  have blank : IsPiece " " := .ofList (by decide)
  have between : IsPiece ", " := .ofList (by decide)
  have keyword := isPiece_direction direction
  unfold Schema.orderClause
  split
  · exact ((isPiece_identifier named).append blank).append keyword
  · have strings := ((isPiece_reference .string named).append blank).append keyword
    have numbers := isPiece_reference .number named
    exact (((strings.append between).append numbers).append blank).append keyword

/-! ## Conditions -/

theorem isPiece_operand {operand : Operand} (lexed : operand.token.IsLexed) :
    IsPiece operand.text := by
  cases operand with
  | field name => exact isPiece_identifier lexed
  | number text => exact isPiece_number lexed
  | literal text => exact isPiece_literal lexed

theorem isPiece_operandTexts (schema : Schema) (snapshot : FieldSnapshot)
    {comparison : Comparison} (left : comparison.left.token.IsLexed)
    (right : comparison.right.token.IsLexed) :
    IsPiece (comparison.operandTexts schema snapshot).1 ∧
      IsPiece (comparison.operandTexts schema snapshot).2 := by
  unfold Comparison.operandTexts
  split
  · exact ⟨isPiece_identifier left, isPiece_identifier right⟩
  · exact ⟨isPiece_resolve schema snapshot _ left, isPiece_operand right⟩
  · exact ⟨isPiece_operand left, isPiece_resolve schema snapshot _ right⟩
  · exact ⟨isPiece_operand left, isPiece_operand right⟩

theorem isPiece_spelling (operator : Operator) : IsPiece operator.spelling := by
  cases operator <;> exact .ofList (by decide)

theorem isPiece_operator (operator : Operator) {left right : String}
    (leftPiece : IsPiece left) (rightPiece : IsPiece right) :
    IsPiece (operator.condition left right) := by
  unfold Operator.condition
  split
  · have calling : Passes outside inParen "match(" := .ofList (by decide)
    have between : Passes inParen inParen ", " := .ofList (by decide)
    have closing : Passes inParen outside ")" := .ofList (by decide)
    have subject := leftPiece.inside [')']
    have regex := rightPiece.inside [')']
    exact (((calling.append subject).append between).append regex).append closing
  · have between : IsPiece " ILIKE " := .ofList (by decide)
    exact (leftPiece.append between).append rightPiece
  · have between : IsPiece " NOT ILIKE " := .ofList (by decide)
    exact (leftPiece.append between).append rightPiece
  · have blank : IsPiece " " := .ofList (by decide)
    have spelling := isPiece_spelling operator
    exact (((leftPiece.append blank).append spelling).append blank).append rightPiece

theorem isPiece_comparison (schema : Schema) (snapshot : FieldSnapshot)
    {comparison : Comparison} (left : comparison.left.token.IsLexed)
    (right : comparison.right.token.IsLexed) :
    IsPiece (comparison.condition schema snapshot) := by
  rcases isPiece_operandTexts schema snapshot left right with ⟨leftPiece, rightPiece⟩
  exact isPiece_operator comparison.operator leftPiece rightPiece

theorem isPiece_joint (joint : Junction) : IsPiece joint.sql := by
  cases joint with
  | and => exact .ofList (by decide)
  | or => exact .ofList (by decide)

mutual
theorem isPiece_expr (schema : Schema) (snapshot : FieldSnapshot) (expr : Expr)
    (lexed : expr.IsLexed) : IsPiece (expr.condition schema snapshot) := by
  cases expr with
  | predicate predicate =>
      rw [Expr.condition]
      exact isPiece_predicate schema snapshot predicate lexed.predicate
  | junction left joint right =>
      rcases lexed.junction with ⟨leftLexed, rightLexed⟩
      have leftPiece := isPiece_expr schema snapshot left leftLexed
      have rightPiece := isPiece_expr schema snapshot right rightLexed
      have blank : IsPiece " " := .ofList (by decide)
      rw [Expr.condition]
      exact (((leftPiece.append blank).append (isPiece_joint joint)).append blank).append
        rightPiece

theorem isPiece_predicate (schema : Schema) (snapshot : FieldSnapshot)
    (predicate : Predicate) (lexed : predicate.IsLexed) :
    IsPiece (predicate.condition schema snapshot) := by
  have closing : Passes inParen outside " )" := .ofList (by decide)
  cases predicate with
  | comparison comparison =>
      rcases lexed.comparison with ⟨leftLexed, rightLexed⟩
      rw [Predicate.condition]
      exact isPiece_comparison schema snapshot leftLexed rightLexed
  | not inner =>
      have opening : Passes outside inParen "NOT ( " := .ofList (by decide)
      rw [Predicate.condition]
      exact .enclosed opening (isPiece_predicate schema snapshot inner lexed.not) closing
  | group inner =>
      have opening : Passes outside inParen "( " := .ofList (by decide)
      rw [Predicate.condition]
      exact .enclosed opening (isPiece_expr schema snapshot inner lexed.group) closing
  | present field =>
      rw [Predicate.condition]
      exact isPiece_existsClause schema lexed.present
end

/-- A query that is accepted becomes a condition that cannot leave its place. -/
theorem isPiece_toCondition {schema : Schema} {snapshot : FieldSnapshot}
    {input condition : String}
    (lowered : toCondition schema snapshot input = .ok condition) : IsPiece condition := by
  unfold toCondition at lowered
  split at lowered
  · cases lowered
    exact .empty
  · split at lowered
    · contradiction
    · next expr parsed =>
        unfold lower at lowered
        dsimp only at lowered
        split at lowered
        · cases lowered
          exact isPiece_expr schema snapshot expr (parse_sound parsed).2
        · contradiction

end LogQuery.Sql
