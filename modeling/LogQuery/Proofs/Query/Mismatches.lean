import LogQuery.Proofs.Query.Written
import LogQuery.Query.Condition

namespace LogQuery.Query

/-! ## Comparisons of a query

They are found in the tree, at any depth, and in the row of its tokens, where two operands
stand around an operator. -/

mutual
def Expr.comparisons : Expr → List Comparison
  | .predicate predicate => predicate.comparisons
  | .junction left _ right => left.comparisons ++ right.comparisons

def Predicate.comparisons : Predicate → List Comparison
  | .comparison comparison => [comparison]
  | .not inner => inner.comparisons
  | .present _ => []
  | .group inner => inner.comparisons
end

def Token.operand? : Token → Option Operand
  | .identifier name => some (.field name)
  | .number text => some (.number text)
  | .literal text => some (.literal text)
  | _ => none

/-- The comparison that a row of tokens starts with. -/
def comparisonAt? : List Token → Option Comparison
  | left :: .operator operator :: right :: _ =>
      match left.operand?, right.operand? with
      | some left, some right => some ⟨left, operator, right⟩
      | _, _ => none
  | _ => none

/-- The comparisons in a row of tokens, from left to right. -/
def comparisonsIn : List Token → List Comparison
  | [] => []
  | token :: rest => (comparisonAt? (token :: rest)).toList ++ comparisonsIn rest

/-- Tokens that no comparison has. -/
def Token.isOutside : Token → Bool
  | .keyword _ => true
  | .openParen => true
  | .closeParen => true
  | _ => false

theorem comparisonAt?_of_isOutside {token : Token} (outside : token.isOutside = true)
    (back : List Token) : comparisonAt? (token :: back) = none := by
  unfold comparisonAt?
  split
  · next same =>
      cases same
      cases token <;> first | rfl | contradiction
  · rfl

theorem comparisonAt?_append {token : Token} (outside : token.isOutside = true)
    (first : Token) (front back : List Token) :
    comparisonAt? (first :: (front ++ token :: back)) = comparisonAt? (first :: front) := by
  rcases front with _ | ⟨second, _ | ⟨third, front⟩⟩
  · cases token <;> first | rfl | contradiction
  · -- An operator at the end of the front has no operand behind it.
    cases second with
    | operator symbol =>
        have noOperand : token.operand? = none := by
          cases token <;> first | rfl | contradiction
        simp [comparisonAt?, noOperand]
    | _ => rfl
  · cases second <;> rfl

theorem comparisonsIn_append {token : Token} (outside : token.isOutside = true)
    (front back : List Token) :
    comparisonsIn (front ++ token :: back) = comparisonsIn front ++ comparisonsIn back := by
  induction front with
  | nil =>
      change (comparisonAt? (token :: back)).toList ++ comparisonsIn back = comparisonsIn back
      rw [comparisonAt?_of_isOutside outside]
      rfl
  | cons first front induction =>
      rw [List.cons_append, comparisonsIn, comparisonsIn, induction,
        comparisonAt?_append outside, List.append_assoc]

theorem Operand.operand?_token (operand : Operand) : operand.token.operand? = some operand := by
  cases operand <;> rfl

theorem comparisonsIn_comparison (comparison : Comparison) :
    comparisonsIn comparison.written = [comparison] := by
  simp [Comparison.written, comparisonsIn, comparisonAt?, Operand.operand?_token]

mutual
theorem Expr.comparisonsIn_written (expr : Expr) :
    comparisonsIn expr.written = expr.comparisons := by
  cases expr with
  | predicate predicate =>
      rw [Expr.written, Expr.comparisons]
      exact predicate.comparisonsIn_written
  | junction left joint right =>
      rw [Expr.written, Expr.comparisons, comparisonsIn_append rfl,
        left.comparisonsIn_written, right.comparisonsIn_written]

theorem Predicate.comparisonsIn_written (predicate : Predicate) :
    comparisonsIn predicate.written = predicate.comparisons := by
  cases predicate with
  | comparison comparison =>
      rw [Predicate.written, Predicate.comparisons]
      exact comparisonsIn_comparison comparison
  | not inner =>
      rw [Predicate.written, Predicate.comparisons, ← inner.comparisonsIn_written]
      exact comparisonsIn_append rfl [] inner.written
  | present field => rfl
  | group inner =>
      rw [Predicate.written, Predicate.comparisons, ← inner.comparisonsIn_written,
        ← List.append_nil (comparisonsIn inner.written)]
      exact (comparisonsIn_append rfl [] _).trans (comparisonsIn_append rfl inner.written [])
end

/-! ## Comparisons at fault -/

def Operand.isField : Operand → Bool
  | .field _ => true
  | _ => false

/-- Exactly one side is a field. -/
def Comparison.hasOneField (comparison : Comparison) : Bool :=
  comparison.left.isField != comparison.right.isField

/-- What is said of a comparison whose sides are both fields or both constants. -/
def Comparison.complaint (comparison : Comparison) : String :=
  "comparison between two " ++ (if comparison.left.isField then "fields" else "constants") ++
    " `" ++ comparison.left.text ++ "` and `" ++ comparison.right.text ++
      "` is not supported"

theorem Mismatch.message_twoFields (left right : String) :
    (Mismatch.twoFields left right).message =
      "comparison between two " ++ "fields" ++ " `" ++ left ++ "` and `" ++ right ++
        "` is not supported" := by
  have opening : "comparison between two fields `" =
      "comparison between two " ++ "fields" ++ " `" := by
    decide +kernel
  rw [← opening]
  rfl

theorem Mismatch.message_twoConstants (left right : Operand) :
    (Mismatch.twoConstants left right).message =
      "comparison between two " ++ "constants" ++ " `" ++ left.text ++ "` and `" ++
        right.text ++ "` is not supported" := by
  have opening : "comparison between two constants `" =
      "comparison between two " ++ "constants" ++ " `" := by
    decide +kernel
  rw [← opening]
  rfl

theorem Comparison.message_mismatch? (comparison : Comparison) :
    comparison.mismatch?.map Mismatch.message =
      if comparison.hasOneField then none else some comparison.complaint := by
  rcases comparison with ⟨left, operator, right⟩
  cases left <;> cases right
  case field.field left right => exact congrArg some (Mismatch.message_twoFields left right)
  case field.number => rfl
  case field.literal => rfl
  case number.field => rfl
  case literal.field => rfl
  all_goals exact congrArg some (Mismatch.message_twoConstants _ _)

theorem Comparison.mismatch?_eq_none_iff (comparison : Comparison) :
    comparison.mismatch? = none ↔ comparison.hasOneField = true := by
  rw [← Option.map_eq_none_iff (f := Mismatch.message), message_mismatch?]
  cases comparison.hasOneField <;> simp

theorem messages_filterMap (comparisons : List Comparison) :
    (comparisons.filterMap Comparison.mismatch?).map Mismatch.message =
      (comparisons.filter (!·.hasOneField)).map Comparison.complaint := by
  rw [List.map_filterMap, ← List.filterMap_eq_map, List.filterMap_filter]
  congr 1
  funext comparison
  rw [comparison.message_mismatch?]
  cases comparison.hasOneField <;> rfl

mutual
theorem Expr.mismatches_eq (expr : Expr) :
    expr.mismatches = expr.comparisons.filterMap Comparison.mismatch? := by
  cases expr with
  | predicate predicate =>
      rw [Expr.mismatches, Expr.comparisons]
      exact predicate.mismatches_eq
  | junction left joint right =>
      rw [Expr.mismatches, Expr.comparisons, List.filterMap_append, left.mismatches_eq,
        right.mismatches_eq]

theorem Predicate.mismatches_eq (predicate : Predicate) :
    predicate.mismatches = predicate.comparisons.filterMap Comparison.mismatch? := by
  cases predicate with
  | comparison comparison =>
      rw [Predicate.mismatches, Predicate.comparisons]
      cases found : comparison.mismatch? <;> simp [found]
  | not inner =>
      rw [Predicate.mismatches, Predicate.comparisons]
      exact inner.mismatches_eq
  | present field => rfl
  | group inner =>
      rw [Predicate.mismatches, Predicate.comparisons]
      exact inner.mismatches_eq
end

/-- A query becomes a condition exactly if each of its comparisons has one field. Otherwise
every comparison at fault is named, in the order of the text. -/
theorem lower_names_faults (schema : Schema) (snapshot : FieldSnapshot) (expr : Expr) :
    comparisonsIn expr.written = expr.comparisons ∧
      ((∃ condition, lower schema snapshot expr = .ok condition) ↔
        ∀ comparison ∈ expr.comparisons, comparison.hasOneField = true) ∧
      ((∃ comparison ∈ expr.comparisons, comparison.hasOneField = false) →
        ∃ mismatches fragment,
          lower schema snapshot expr = .error (.meaning mismatches fragment) ∧
            (QueryError.meaning mismatches fragment).details =
              (expr.comparisons.filter (!·.hasOneField)).map Comparison.complaint) := by
  have accepted : expr.mismatches = [] ↔
      ∀ comparison ∈ expr.comparisons, comparison.hasOneField = true := by
    rw [expr.mismatches_eq, List.filterMap_eq_nil_iff]
    simp only [Comparison.mismatch?_eq_none_iff]
  refine ⟨expr.comparisonsIn_written, ?_, ?_⟩
  · rw [← accepted]
    unfold lower
    dsimp only
    split
    · next empty => simp [empty]
    · next nonempty => simpa using nonempty
  · rintro ⟨comparison, member, fault⟩
    have nonempty : expr.mismatches ≠ [] := by
      intro empty
      rw [accepted.mp empty comparison member] at fault
      contradiction
    refine ⟨expr.mismatches, expr.condition schema snapshot, ?_, ?_⟩
    · unfold lower
      dsimp only
      split
      · contradiction
      · rfl
    · rw [QueryError.details, expr.mismatches_eq]
      exact messages_filterMap expr.comparisons

end LogQuery.Query
