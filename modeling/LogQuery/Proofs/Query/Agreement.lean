import LogQuery.Proofs.Query.Regrouped

namespace LogQuery.Query

open LogQuery.Sql

variable {schema : Schema} {snapshot : FieldSnapshot}

/-! ## Where the two agree

The store reads a chain as it was meant if no conjunction comes after a disjunction. -/

def Expr.joinsByOr : Expr → Bool
  | .predicate _ => false
  | .junction left joint _ => left.joinsByOr || joint = .or

mutual
/-- In no chain a conjunction comes after a disjunction. -/
def Expr.isAndFirst : Expr → Bool
  | .predicate predicate => predicate.isAndFirst
  | .junction left joint right =>
      left.isAndFirst && right.isAndFirst && !(joint = .and && left.joinsByOr)

def Predicate.isAndFirst : Predicate → Bool
  | .comparison _ => true
  | .not inner => inner.isAndFirst
  | .present _ => true
  | .group inner => inner.isAndFirst
end

theorem Expr.isSome_alternatives (expr : Expr) (first : Nat) :
    (expr.clauses schema snapshot first).alternatives.isSome = expr.joinsByOr := by
  cases expr with
  | predicate predicate =>
      rw [Expr.clauses, Expr.joinsByOr]
      rfl
  | junction left joint right =>
      rw [Expr.clauses, Expr.joinsByOr]
      cases joint with
      | and =>
          rw [Clauses.join, left.isSome_alternatives first]
          simp
      | or => simp [Clauses.join]

theorem Clauses.formula_join {clauses : Clauses} {joint : Junction} {right : Formula}
    (ordered : joint = .and → clauses.alternatives = none) :
    (clauses.join joint right).formula = joint.formula clauses.formula right := by
  rcases clauses with ⟨alternatives, last⟩
  cases joint with
  | or => rfl
  | and =>
      have single : alternatives = none := ordered rfl
      subst single
      rfl

mutual
theorem Expr.regrouped_eq_meaning (expr : Expr) (ordered : expr.isAndFirst = true)
    (first : Nat) :
    expr.regrouped schema snapshot first = expr.meaning schema snapshot first := by
  cases expr with
  | predicate predicate =>
      rw [Expr.regrouped, Expr.clauses, Expr.meaning]
      exact predicate.regrouped_eq_meaning ordered first
  | junction left joint right =>
      simp only [Expr.isAndFirst, Bool.and_eq_true, Bool.not_eq_true', Bool.and_eq_false_iff,
        decide_eq_false_iff_not] at ordered
      rcases ordered with ⟨⟨leftOrdered, rightOrdered⟩, inOrder⟩
      have single : joint = .and → (left.clauses schema snapshot first).alternatives = none := by
        intro isAnd
        have noOr : left.joinsByOr = false := inOrder.resolve_left fun different => different isAnd
        rw [← Option.not_isSome_iff_eq_none, left.isSome_alternatives, noOr]
        exact Bool.false_ne_true
      rw [Expr.regrouped, Expr.clauses, Clauses.formula_join single, Expr.meaning,
        ← left.regrouped_eq_meaning leftOrdered, ← right.regrouped_eq_meaning rightOrdered]
      rfl

theorem Predicate.regrouped_eq_meaning (predicate : Predicate)
    (ordered : predicate.isAndFirst = true) (first : Nat) :
    predicate.regrouped schema snapshot first = predicate.meaning schema snapshot first := by
  cases predicate with
  | comparison comparison => rw [Predicate.regrouped, Predicate.meaning]
  | not inner =>
      rw [Predicate.regrouped, Predicate.meaning, inner.regrouped_eq_meaning ordered first]
  | present field => rw [Predicate.regrouped, Predicate.meaning]
  | group inner =>
      rw [Predicate.regrouped, Predicate.meaning]
      exact inner.regrouped_eq_meaning ordered first
end

/-! ## Where they differ

The values of a chain under an assignment: as it was meant, and of the two parts that
the store reads. -/

structure Outcome where
  meant : Bool
  alternatives : Option Bool
  last : Bool
  deriving DecidableEq

namespace Outcome

def regrouped (outcome : Outcome) : Bool :=
  outcome.alternatives.getD false || outcome.last

def join (left : Outcome) : Junction → Outcome → Outcome
  | .and, right =>
      ⟨left.meant && right.meant, left.alternatives, left.last && right.regrouped⟩
  | .or, right => ⟨left.meant || right.meant, some left.regrouped, right.regrouped⟩

/-- The outcome of a negation; a predicate has one part only. -/
def negated (outcome : Outcome) : Outcome :=
  ⟨!outcome.meant, none, !outcome.last⟩

def enclosed (outcome : Outcome) : Outcome :=
  ⟨outcome.meant, none, outcome.regrouped⟩

/-- All values are the same. -/
def IsUniform (truth : Bool) (outcome : Outcome) : Prop :=
  outcome.meant = truth ∧ (∀ value, outcome.alternatives = some value → value = truth) ∧
    outcome.last = truth

theorem IsUniform.regrouped {truth : Bool} {outcome : Outcome}
    (uniform : outcome.IsUniform truth) : outcome.regrouped = truth := by
  rcases outcome with ⟨meant, alternatives, last⟩
  rcases uniform with ⟨_, same, lastSame⟩
  change last = truth at lastSame
  rw [lastSame]
  cases alternatives with
  | none => exact Bool.false_or truth
  | some value =>
      have valueSame : value = truth := same value rfl
      rw [valueSame]
      exact Bool.or_self truth

theorem IsUniform.join {truth : Bool} {left right : Outcome}
    (leftUniform : left.IsUniform truth) (joint : Junction)
    (rightUniform : right.IsUniform truth) : (left.join joint right).IsUniform truth := by
  have leftRegrouped := leftUniform.regrouped
  have rightRegrouped := rightUniform.regrouped
  rcases leftUniform with ⟨leftMeant, leftSame, leftLast⟩
  cases joint with
  | and =>
      refine ⟨?_, leftSame, ?_⟩
      · change (left.meant && right.meant) = truth
        rw [leftMeant, rightUniform.1, Bool.and_self]
      · change (left.last && right.regrouped) = truth
        rw [leftLast, rightRegrouped, Bool.and_self]
  | or =>
      refine ⟨?_, ?_, rightRegrouped⟩
      · change (left.meant || right.meant) = truth
        rw [leftMeant, rightUniform.1, Bool.or_self]
      · rintro value ⟨⟩
        exact leftRegrouped

theorem IsUniform.negated {truth : Bool} {outcome : Outcome}
    (uniform : outcome.IsUniform truth) : outcome.negated.IsUniform (!truth) := by
  rcases uniform with ⟨meantSame, _, lastSame⟩
  refine ⟨congrArg not meantSame, ?_, congrArg not lastSame⟩
  intro value impossible
  contradiction

theorem IsUniform.enclosed {truth : Bool} {outcome : Outcome}
    (uniform : outcome.IsUniform truth) : outcome.enclosed.IsUniform truth := by
  refine ⟨uniform.1, ?_, uniform.regrouped⟩
  intro value impossible
  contradiction

/-- What was meant is not what the store reads. -/
def Differs (outcome : Outcome) : Prop :=
  outcome.meant ≠ outcome.regrouped

theorem Differs.negated {outcome : Outcome} (differs : outcome.Differs)
    (single : outcome.alternatives = none) : outcome.negated.Differs := by
  rcases outcome with ⟨meant, alternatives, last⟩
  change alternatives = none at single
  subst single
  change meant ≠ (false || last) at differs
  change (!meant) ≠ (false || !last)
  rw [Bool.false_or] at differs ⊢
  exact fun same => differs (Bool.not_inj same)

theorem Differs.enclosed {outcome : Outcome} (differs : outcome.Differs) :
    outcome.enclosed.Differs := by
  change outcome.meant ≠ (false || outcome.regrouped)
  rw [Bool.false_or]
  exact differs

/-- The side that differs decides a junction whose other side is of no weight. -/
theorem Differs.join_left {left right : Outcome} {joint : Junction}
    (differs : left.Differs) (uniform : right.IsUniform (joint = .and))
    (single : joint = .and → left.alternatives = none) : (left.join joint right).Differs := by
  have rightRegrouped := uniform.regrouped
  rcases left with ⟨meant, alternatives, last⟩
  cases joint with
  | and =>
      have noAlternatives : alternatives = none := single rfl
      subst noAlternatives
      change (meant && right.meant) ≠ (false || (last && right.regrouped))
      rw [uniform.1, rightRegrouped]
      simpa [Differs, Outcome.regrouped] using differs
  | or =>
      change (meant || right.meant) ≠ ((alternatives.getD false || last) || right.regrouped)
      rw [uniform.1, rightRegrouped]
      simpa [Differs, Outcome.regrouped] using differs

theorem Differs.join_right {left right : Outcome} {joint : Junction}
    (differs : right.Differs) (uniform : left.IsUniform (joint = .and))
    (single : joint = .and → left.alternatives = none) : (left.join joint right).Differs := by
  have leftRegrouped := uniform.regrouped
  rcases uniform with ⟨leftMeant, _, leftLast⟩
  cases joint with
  | and =>
      have noAlternatives := single rfl
      change (left.meant && right.meant) ≠
        (left.alternatives.getD false || (left.last && right.regrouped))
      rw [leftMeant, leftLast, noAlternatives]
      simpa [Differs] using differs
  | or =>
      change (left.meant || right.meant) ≠ (left.regrouped || right.regrouped)
      rw [leftMeant, leftRegrouped]
      simpa [Differs] using differs

/-- A true alternative outweighs a false conjunct that was meant to bind it. -/
theorem differs_join_and {left right : Outcome} (leftUniform : left.IsUniform true)
    (rightUniform : right.IsUniform false) (several : left.alternatives.isSome = true) :
    (left.join .and right).Differs := by
  rcases leftUniform with ⟨leftMeant, same, leftLast⟩
  rcases Option.isSome_iff_exists.mp several with ⟨value, found⟩
  have valueTrue := same value found
  change (left.meant && right.meant) ≠
    (left.alternatives.getD false || (left.last && right.regrouped))
  rw [rightUniform.1, found, valueTrue]
  simp

end Outcome

section

variable (schema : Schema) (snapshot : FieldSnapshot)

def Expr.outcome (expr : Expr) (first : Nat) (assignment : Nat → Bool) : Outcome where
  meant := (expr.meaning schema snapshot first).value assignment
  alternatives :=
    (expr.clauses schema snapshot first).alternatives.map fun left => left.value assignment
  last := (expr.clauses schema snapshot first).last.value assignment

def Predicate.outcome (predicate : Predicate) (first : Nat) (assignment : Nat → Bool) :
    Outcome where
  meant := (predicate.meaning schema snapshot first).value assignment
  alternatives := none
  last := (predicate.regrouped schema snapshot first).value assignment

theorem Expr.value_regrouped (expr : Expr) (first : Nat) (assignment : Nat → Bool) :
    (expr.regrouped schema snapshot first).value assignment =
      (expr.outcome schema snapshot first assignment).regrouped := by
  rw [Expr.regrouped, Expr.outcome]
  rcases expr.clauses schema snapshot first with ⟨alternatives, last⟩
  cases alternatives with
  | none => exact (Bool.false_or _).symm
  | some left => rfl

theorem Expr.outcome_predicate (predicate : Predicate) (first : Nat)
    (assignment : Nat → Bool) :
    (Expr.predicate predicate).outcome schema snapshot first assignment =
      predicate.outcome schema snapshot first assignment := by
  rw [Expr.outcome, Expr.meaning, Expr.clauses]
  rfl

theorem Expr.outcome_junction (left right : Expr) (joint : Junction) (first : Nat)
    (assignment : Nat → Bool) :
    (Expr.junction left joint right).outcome schema snapshot first assignment =
      (left.outcome schema snapshot first assignment).join joint
        (right.outcome schema snapshot (first + left.conditionCount) assignment) := by
  have leftValue := left.value_regrouped schema snapshot first assignment
  have rightValue :=
    right.value_regrouped schema snapshot (first + left.conditionCount) assignment
  rw [Expr.regrouped] at leftValue rightValue
  rw [Expr.outcome, Expr.meaning, Expr.clauses]
  cases joint with
  | and => simp only [Clauses.join, Junction.formula, Formula.value, rightValue]; rfl
  | or =>
      simp only [Clauses.join, Junction.formula, Formula.value, leftValue, rightValue,
        Option.map_some]
      rfl

theorem Predicate.outcome_not (inner : Predicate) (first : Nat) (assignment : Nat → Bool) :
    (Predicate.not inner).outcome schema snapshot first assignment =
      (inner.outcome schema snapshot first assignment).negated := by
  rw [Predicate.outcome, Predicate.meaning, Predicate.regrouped]
  rfl

theorem Predicate.outcome_group (inner : Expr) (first : Nat) (assignment : Nat → Bool) :
    (Predicate.group inner).outcome schema snapshot first assignment =
      (inner.outcome schema snapshot first assignment).enclosed := by
  rw [Outcome.enclosed, ← Expr.value_regrouped, Predicate.outcome, Predicate.meaning,
    Predicate.regrouped]
  rfl

/-- A comparison and a test for a field are conditions themselves. -/
def Predicate.isCondition : Predicate → Bool
  | .comparison _ => true
  | .present _ => true
  | _ => false

theorem Predicate.outcome_condition {predicate : Predicate}
    (single : predicate.isCondition = true) (first : Nat) (assignment : Nat → Bool) :
    predicate.outcome schema snapshot first assignment =
      ⟨assignment first, none, assignment first⟩ := by
  cases predicate with
  | comparison comparison =>
      rw [Predicate.outcome, Predicate.meaning, Predicate.regrouped]
      rfl
  | present field =>
      rw [Predicate.outcome, Predicate.meaning, Predicate.regrouped]
      rfl
  | not inner => contradiction
  | group inner => contradiction

/-! An outcome depends on the values of its own conditions only. -/

mutual
theorem Expr.outcome_congr (expr : Expr) (first : Nat) {one other : Nat → Bool}
    (agree : ∀ index, first ≤ index → index < first + expr.conditionCount →
      one index = other index) :
    expr.outcome schema snapshot first one = expr.outcome schema snapshot first other := by
  cases expr with
  | predicate predicate =>
      rw [Expr.conditionCount] at agree
      rw [Expr.outcome_predicate, Expr.outcome_predicate]
      exact predicate.outcome_congr first agree
  | junction left joint right =>
      rw [Expr.conditionCount] at agree
      have leftSame := left.outcome_congr first fun index above below =>
        agree index above (by omega)
      have rightSame := right.outcome_congr (first + left.conditionCount)
        fun index above below => agree index (by omega) (by omega)
      rw [Expr.outcome_junction, Expr.outcome_junction, leftSame, rightSame]

theorem Predicate.outcome_congr (predicate : Predicate) (first : Nat)
    {one other : Nat → Bool}
    (agree : ∀ index, first ≤ index → index < first + predicate.conditionCount →
      one index = other index) :
    predicate.outcome schema snapshot first one =
      predicate.outcome schema snapshot first other := by
  cases predicate with
  | comparison comparison =>
      rw [Predicate.conditionCount] at agree
      rw [Predicate.outcome_condition _ _ rfl, Predicate.outcome_condition _ _ rfl,
        agree first (Nat.le_refl first) (Nat.lt_succ_self first)]
  | present field =>
      rw [Predicate.conditionCount] at agree
      rw [Predicate.outcome_condition _ _ rfl, Predicate.outcome_condition _ _ rfl,
        agree first (Nat.le_refl first) (Nat.lt_succ_self first)]
  | not inner =>
      rw [Predicate.conditionCount] at agree
      rw [Predicate.outcome_not, Predicate.outcome_not, inner.outcome_congr first agree]
  | group inner =>
      rw [Predicate.conditionCount] at agree
      rw [Predicate.outcome_group, Predicate.outcome_group, inner.outcome_congr first agree]
end

/-- Values from the left below the border, and from the right behind it. -/
def valuesAround (border : Nat) (left right : Nat → Bool) (index : Nat) : Bool :=
  if index < border then left index else right index

/-- The two sides of a junction share no condition, so their outcomes can be chosen
independently. -/
theorem Expr.exists_outcome_junction (left right : Expr) (joint : Junction) (first : Nat)
    (one other : Nat → Bool) :
    ∃ assignment, (Expr.junction left joint right).outcome schema snapshot first assignment =
      (left.outcome schema snapshot first one).join joint
        (right.outcome schema snapshot (first + left.conditionCount) other) := by
  let both := valuesAround (first + left.conditionCount) one other
  have leftSame : left.outcome schema snapshot first both =
      left.outcome schema snapshot first one := by
    apply left.outcome_congr schema snapshot first
    intro index _ below
    exact if_pos below
  have rightSame : right.outcome schema snapshot (first + left.conditionCount) both =
      right.outcome schema snapshot (first + left.conditionCount) other := by
    apply right.outcome_congr schema snapshot
    intro index above _
    exact if_neg (Nat.not_lt.mpr above)
  exact ⟨both, by rw [Expr.outcome_junction, leftSame, rightSame]⟩

mutual
theorem Expr.exists_isUniform (expr : Expr) (first : Nat) (truth : Bool) :
    ∃ assignment, (expr.outcome schema snapshot first assignment).IsUniform truth := by
  cases expr with
  | predicate predicate =>
      rcases predicate.exists_isUniform first truth with ⟨assignment, uniform⟩
      refine ⟨assignment, ?_⟩
      rw [Expr.outcome_predicate]
      exact uniform
  | junction left joint right =>
      rcases left.exists_isUniform first truth with ⟨one, leftUniform⟩
      rcases right.exists_isUniform (first + left.conditionCount) truth with
        ⟨other, rightUniform⟩
      rcases left.exists_outcome_junction schema snapshot right joint first one other with
        ⟨assignment, same⟩
      refine ⟨assignment, ?_⟩
      rw [same]
      exact leftUniform.join joint rightUniform

theorem Predicate.exists_isUniform (predicate : Predicate) (first : Nat) (truth : Bool) :
    ∃ assignment, (predicate.outcome schema snapshot first assignment).IsUniform truth := by
  cases predicate with
  | comparison comparison =>
      refine ⟨fun _ => truth, ?_⟩
      rw [Predicate.outcome_condition _ _ rfl]
      exact ⟨rfl, fun value impossible => by contradiction, rfl⟩
  | present field =>
      refine ⟨fun _ => truth, ?_⟩
      rw [Predicate.outcome_condition _ _ rfl]
      exact ⟨rfl, fun value impossible => by contradiction, rfl⟩
  | not inner =>
      rcases inner.exists_isUniform first (!truth) with ⟨assignment, uniform⟩
      refine ⟨assignment, ?_⟩
      rw [Predicate.outcome_not, ← Bool.not_not truth]
      exact uniform.negated
  | group inner =>
      rcases inner.exists_isUniform first truth with ⟨assignment, uniform⟩
      refine ⟨assignment, ?_⟩
      rw [Predicate.outcome_group]
      exact uniform.enclosed
end

theorem Expr.isSome_alternatives_outcome (expr : Expr) (first : Nat)
    (assignment : Nat → Bool) :
    (expr.outcome schema snapshot first assignment).alternatives.isSome = expr.joinsByOr := by
  rw [Expr.outcome, Option.isSome_map, expr.isSome_alternatives]

mutual
theorem Expr.exists_differs (expr : Expr) (unordered : expr.isAndFirst = false)
    (first : Nat) :
    ∃ assignment, (expr.outcome schema snapshot first assignment).Differs := by
  cases expr with
  | predicate predicate =>
      rcases predicate.exists_differs unordered first with ⟨assignment, differs⟩
      refine ⟨assignment, ?_⟩
      rw [Expr.outcome_predicate]
      exact differs
  | junction left joint right =>
      by_cases grouped : joint = .and ∧ left.joinsByOr = true
      · rcases grouped with ⟨rfl, joins⟩
        rcases left.exists_isUniform schema snapshot first true with ⟨one, leftUniform⟩
        rcases right.exists_isUniform schema snapshot (first + left.conditionCount) false with
          ⟨other, rightUniform⟩
        rcases left.exists_outcome_junction schema snapshot right .and first one other with
          ⟨assignment, same⟩
        refine ⟨assignment, ?_⟩
        rw [same]
        exact Outcome.differs_join_and leftUniform rightUniform
          ((left.isSome_alternatives_outcome schema snapshot first one).trans joins)
      · have single (assignment : Nat → Bool) : joint = .and →
            (left.outcome schema snapshot first assignment).alternatives = none := by
          intro isAnd
          rw [← Option.not_isSome_iff_eq_none, left.isSome_alternatives_outcome]
          exact fun joins => grouped ⟨isAnd, joins⟩
        by_cases leftOrdered : left.isAndFirst = true
        · have rightUnordered : right.isAndFirst = false := by
            simpa [Expr.isAndFirst, leftOrdered, grouped] using unordered
          rcases right.exists_differs rightUnordered (first + left.conditionCount) with
            ⟨other, differs⟩
          rcases left.exists_isUniform schema snapshot first (joint = .and) with
            ⟨one, uniform⟩
          rcases left.exists_outcome_junction schema snapshot right joint first one other with
            ⟨assignment, same⟩
          refine ⟨assignment, ?_⟩
          rw [same]
          exact differs.join_right uniform (single one)
        · rcases left.exists_differs (Bool.not_eq_true _ ▸ leftOrdered) first with
            ⟨one, differs⟩
          rcases right.exists_isUniform schema snapshot (first + left.conditionCount)
            (joint = .and) with ⟨other, uniform⟩
          rcases left.exists_outcome_junction schema snapshot right joint first one other with
            ⟨assignment, same⟩
          refine ⟨assignment, ?_⟩
          rw [same]
          exact differs.join_left uniform (single one)

theorem Predicate.exists_differs (predicate : Predicate)
    (unordered : predicate.isAndFirst = false) (first : Nat) :
    ∃ assignment, (predicate.outcome schema snapshot first assignment).Differs := by
  cases predicate with
  | comparison comparison => contradiction
  | present field => contradiction
  | not inner =>
      rcases inner.exists_differs unordered first with ⟨assignment, differs⟩
      refine ⟨assignment, ?_⟩
      rw [Predicate.outcome_not]
      exact differs.negated rfl
  | group inner =>
      rcases inner.exists_differs unordered first with ⟨assignment, differs⟩
      refine ⟨assignment, ?_⟩
      rw [Predicate.outcome_group]
      exact differs.enclosed
end

end

/-- The store reads what was meant exactly if no conjunction comes after a disjunction. -/
theorem Expr.value_regrouped_eq_iff (schema : Schema) (snapshot : FieldSnapshot)
    (expr : Expr) :
    (∀ assignment, (expr.regrouped schema snapshot 0).value assignment =
      (expr.meaning schema snapshot 0).value assignment) ↔ expr.isAndFirst = true := by
  constructor
  · intro agree
    by_cases ordered : expr.isAndFirst = true
    · exact ordered
    · rcases expr.exists_differs schema snapshot (Bool.not_eq_true _ ▸ ordered) 0 with
        ⟨assignment, differs⟩
      have same := agree assignment
      rw [Expr.value_regrouped] at same
      exact absurd same.symm differs
  · intro ordered assignment
    rw [expr.regrouped_eq_meaning ordered]

/-- The text that a query is lowered to has one reading, over the conditions of the
query in their order. It is true when the query is, for all values of the conditions,
exactly if no chain of the query has a conjunction after a disjunction. -/
theorem lowered_reading_agrees_iff {schema : Schema} {snapshot : FieldSnapshot}
    {input fragment : String} {expr : Expr} (parsed : parse input = .ok expr)
    (lowered : lower schema snapshot expr = .ok fragment) :
    ∃ reading, (∀ formula, ReadsAs fragment formula ↔ formula = reading) ∧
      reading.conditions = (expr.meaning schema snapshot 0).conditions ∧
      ((∀ assignment, reading.value assignment =
        (expr.meaning schema snapshot 0).value assignment) ↔ expr.isAndFirst = true) := by
  rcases parse_sound parsed with ⟨folded, lexed⟩
  unfold lower at lowered
  dsimp only at lowered
  split at lowered
  · cases lowered
    exact ⟨expr.regrouped schema snapshot 0, fun _ => Expr.readsAs_condition_iff folded lexed,
      expr.conditions_regrouped 0, expr.value_regrouped_eq_iff schema snapshot⟩
  · contradiction

/-- A conjunction after a disjunction: the store takes the conjunction first. -/
theorem lowered_or_and_differs :
    ∃ expr, parse "a = 1 _or_ b = 2 _and_ c = 3" = .ok expr ∧
      lower ⟨"default", []⟩ .empty expr = .ok
        "fields_number['a'] = 1 OR fields_number['b'] = 2 AND fields_number['c'] = 3" ∧
      ∃ reading, ReadsAs
        "fields_number['a'] = 1 OR fields_number['b'] = 2 AND fields_number['c'] = 3"
        reading ∧
        ¬∀ assignment, reading.value assignment =
          (expr.meaning ⟨"default", []⟩ .empty 0).value assignment := by
  have read : ∃ expr, parse "a = 1 _or_ b = 2 _and_ c = 3" = .ok expr ∧
      lower ⟨"default", []⟩ .empty expr = .ok
        "fields_number['a'] = 1 OR fields_number['b'] = 2 AND fields_number['c'] = 3" ∧
      expr.isAndFirst = false := by
    refine ⟨.junction
      (.junction
        (.predicate (.comparison ⟨.field "a", .equal, .number "1"⟩)) .or
        (.predicate (.comparison ⟨.field "b", .equal, .number "2"⟩)))
      .and (.predicate (.comparison ⟨.field "c", .equal, .number "3"⟩)), ?_, rfl, rfl⟩
    exact eq_ok_of_toOption (by decide +kernel)
  rcases read with ⟨expr, parsed, lowered, unordered⟩
  rcases lowered_reading_agrees_iff parsed lowered with ⟨reading, reads, _, agrees⟩
  refine ⟨expr, parsed, lowered, reading, (reads reading).mpr rfl, fun same => ?_⟩
  have ordered := agrees.mp same
  rw [unordered] at ordered
  contradiction

end LogQuery.Query
