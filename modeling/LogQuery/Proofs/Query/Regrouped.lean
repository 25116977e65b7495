import LogQuery.Proofs.Query.Fragment

namespace LogQuery.Query

open LogQuery.Sql

/-! ## What a query means

Both junctions bind equally and lean to the left, as the tree has them. -/

def Junction.formula : Junction → Formula → Formula → Formula
  | .and => .both
  | .or => .either

section

variable (schema : Schema) (snapshot : FieldSnapshot)

mutual
def Expr.meaning : Expr → (first : Nat) → Formula
  | .predicate predicate, first => predicate.meaning first
  | .junction left joint right, first =>
      joint.formula (left.meaning first) (right.meaning (first + left.conditionCount))

def Predicate.meaning : Predicate → (first : Nat) → Formula
  | .comparison comparison, first => .condition first (comparison.condition schema snapshot)
  | .not inner, first => .not (inner.meaning first)
  | .present field, first => .condition first (schema.existsClause field)
  | .group inner, first => inner.meaning first
end

end

/-! ## What the store reads

The store takes the conjunctions of a chain first. A chain is read as the alternatives
that are complete and the conjunction at its end. -/

structure Clauses where
  alternatives : Option Formula
  last : Formula

namespace Clauses

def formula (clauses : Clauses) : Formula :=
  match clauses.alternatives with
  | none => clauses.last
  | some left => .either left clauses.last

def join (clauses : Clauses) : Junction → Formula → Clauses
  | .and, right => ⟨clauses.alternatives, .both clauses.last right⟩
  | .or, right => ⟨some clauses.formula, right⟩

end Clauses

section

variable (schema : Schema) (snapshot : FieldSnapshot)

mutual
def Expr.clauses : Expr → (first : Nat) → Clauses
  | .predicate predicate, first => ⟨none, predicate.regrouped first⟩
  | .junction left joint right, first =>
      (left.clauses first).join joint (right.clauses (first + left.conditionCount)).formula

def Predicate.regrouped : Predicate → (first : Nat) → Formula
  | .comparison comparison, first => .condition first (comparison.condition schema snapshot)
  | .not inner, first => .not (inner.regrouped first)
  | .present field, first => .condition first (schema.existsClause field)
  | .group inner, first => (inner.clauses first).formula
end

def Expr.regrouped (expr : Expr) (first : Nat) : Formula :=
  (expr.clauses schema snapshot first).formula

end

variable {schema : Schema} {snapshot : FieldSnapshot}

/-! Regrouping keeps the conditions and their order. -/

theorem Clauses.conditions_join (clauses : Clauses) (joint : Junction) (right : Formula) :
    (clauses.join joint right).formula.conditions =
      clauses.formula.conditions ++ right.conditions := by
  rcases clauses with ⟨alternatives, last⟩
  cases joint with
  | and =>
      cases alternatives with
      | none => rfl
      | some left => exact (List.append_assoc _ _ _).symm
  | or => rfl

theorem Junction.conditions_formula (joint : Junction) (left right : Formula) :
    (joint.formula left right).conditions = left.conditions ++ right.conditions := by
  cases joint <;> rfl

mutual
theorem Expr.conditions_regrouped (expr : Expr) (first : Nat) :
    (expr.regrouped schema snapshot first).conditions =
      (expr.meaning schema snapshot first).conditions := by
  cases expr with
  | predicate predicate =>
      rw [Expr.regrouped, Expr.clauses, Expr.meaning]
      exact predicate.conditions_regrouped first
  | junction left joint right =>
      rw [Expr.regrouped, Expr.clauses, Expr.meaning, Clauses.conditions_join,
        Junction.conditions_formula, ← left.conditions_regrouped first,
        ← right.conditions_regrouped]
      rfl

theorem Predicate.conditions_regrouped (predicate : Predicate) (first : Nat) :
    (predicate.regrouped schema snapshot first).conditions =
      (predicate.meaning schema snapshot first).conditions := by
  cases predicate with
  | comparison comparison => rw [Predicate.regrouped, Predicate.meaning]
  | not inner =>
      rw [Predicate.regrouped, Predicate.meaning]
      exact inner.conditions_regrouped first
  | present field => rw [Predicate.regrouped, Predicate.meaning]
  | group inner =>
      rw [Predicate.regrouped, Predicate.meaning]
      exact inner.conditions_regrouped first
end

/-! ## The reading of the pieces -/

def OpenReads (pieces : List Piece) (clauses : Clauses) : Prop :=
  match clauses.alternatives with
  | none => Reads .conjunction pieces clauses.last
  | some left => ∃ front back, pieces = front ++ .or :: back ∧
      Reads .disjunction front left ∧ Reads .conjunction back clauses.last

theorem OpenReads.reads {pieces : List Piece} {clauses : Clauses}
    (opened : OpenReads pieces clauses) : Reads .disjunction pieces clauses.formula := by
  rcases clauses with ⟨alternatives, last⟩
  cases alternatives with
  | none => exact .disjunction opened
  | some left =>
      rcases opened with ⟨front, back, rfl, readsFront, readsBack⟩
      exact .either readsFront readsBack

theorem OpenReads.join {pieces back : List Piece} {clauses : Clauses} {right : Formula}
    (opened : OpenReads pieces clauses) (joint : Junction)
    (reads : Reads .negation back right) :
    OpenReads (pieces ++ joint.piece :: back) (clauses.join joint right) := by
  cases joint with
  | or => exact ⟨pieces, back, rfl, opened.reads, .conjunction reads⟩
  | and =>
      rcases clauses with ⟨alternatives, last⟩
      cases alternatives with
      | none => exact .both opened reads
      | some left =>
          rcases opened with ⟨front, middle, rfl, readsFront, readsMiddle⟩
          exact ⟨front, middle ++ .and :: back, by simp [Junction.piece], readsFront,
            .both readsMiddle reads⟩

mutual
theorem Expr.openReads_pieces (expr : Expr) (folded : expr.isLeftFolded = true)
    (first : Nat) :
    OpenReads (expr.pieces schema snapshot first) (expr.clauses schema snapshot first) := by
  cases expr with
  | predicate predicate =>
      rw [Expr.pieces, Expr.clauses]
      exact .conjunction (predicate.reads_pieces folded first)
  | junction left joint right =>
      rw [Expr.isLeftFolded, Bool.and_eq_true, Bool.and_eq_true] at folded
      rcases folded with ⟨⟨single, leftFolded⟩, rightFolded⟩
      rw [Expr.pieces, Expr.clauses]
      refine (left.openReads_pieces leftFolded first).join joint ?_
      cases right with
      | junction => contradiction
      | predicate predicate =>
          rw [Expr.pieces, Expr.clauses]
          exact predicate.reads_pieces rightFolded _

theorem Predicate.reads_pieces (predicate : Predicate)
    (folded : predicate.isLeftFolded = true) (first : Nat) :
    Reads .negation (predicate.pieces schema snapshot first)
      (predicate.regrouped schema snapshot first) := by
  cases predicate with
  | comparison comparison =>
      rw [Predicate.pieces, Predicate.regrouped]
      exact .condition first _
  | not inner =>
      rw [Predicate.pieces, Predicate.regrouped]
      exact .not (.group (.disjunction (.conjunction (inner.reads_pieces folded first))))
  | present field =>
      rw [Predicate.pieces, Predicate.regrouped]
      exact .condition first _
  | group inner =>
      rw [Predicate.pieces, Predicate.regrouped]
      exact .group (inner.openReads_pieces folded first).reads
end

/-- The text of a tree that was read has one reading, the regrouped one. -/
theorem Expr.readsAs_condition_iff {expr : Expr} (folded : expr.isLeftFolded = true)
    (lexed : expr.IsLexed) {formula : Formula} :
    ReadsAs (expr.condition schema snapshot) formula ↔
      formula = expr.regrouped schema snapshot 0 := by
  have regrouped : ReadsAs (expr.condition schema snapshot)
      (expr.regrouped schema snapshot 0) :=
    ⟨_, expr.readPieces_condition lexed, (expr.openReads_pieces folded 0).reads⟩
  constructor
  · intro reads
    exact readsAs_unique reads regrouped
  · rintro rfl
    exact regrouped

end LogQuery.Query
