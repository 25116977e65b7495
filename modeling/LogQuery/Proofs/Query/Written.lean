import LogQuery.Query.Parser

namespace LogQuery.Query

/-! A tree is written out as the tokens that it was read from. Junctions have no
parentheses of their own, so only trees that lean to the left can be told from
their tokens. -/

def Operand.token : Operand → Token
  | .field name => .identifier name
  | .number text => .number text
  | .literal text => .literal text

def Comparison.written (comparison : Comparison) : List Token :=
  [comparison.left.token, .operator comparison.operator, comparison.right.token]

mutual
def Expr.written : Expr → List Token
  | .predicate predicate => predicate.written
  | .junction left joint right =>
      left.written ++ .keyword joint.keyword :: right.written

def Predicate.written : Predicate → List Token
  | .comparison comparison => comparison.written
  | .not inner => .keyword .not :: inner.written
  | .present field => [.keyword .present, .identifier field]
  | .group inner => .openParen :: (inner.written ++ [.closeParen])
end

/-! The shape and the two sizes that the parser keeps within its limits. -/

def Expr.isPredicate : Expr → Bool
  | .predicate _ => true
  | .junction .. => false

mutual
/-- Every junction has a single predicate on its right. -/
def Expr.isLeftFolded : Expr → Bool
  | .predicate predicate => predicate.isLeftFolded
  | .junction left _ right =>
      right.isPredicate && left.isLeftFolded && right.isLeftFolded

def Predicate.isLeftFolded : Predicate → Bool
  | .comparison _ => true
  | .not inner => inner.isLeftFolded
  | .present _ => true
  | .group inner => inner.isLeftFolded
end

mutual
/-- The junctions of a tree, those inside its groups included. -/
def Expr.junctionCount : Expr → Nat
  | .predicate predicate => predicate.junctionCount
  | .junction left _ right => left.junctionCount + 1 + right.junctionCount

def Predicate.junctionCount : Predicate → Nat
  | .comparison _ => 0
  | .not inner => inner.junctionCount
  | .present _ => 0
  | .group inner => inner.junctionCount
end

mutual
/-- The most groups and negations, counted together, on one path. -/
def Expr.depth : Expr → Nat
  | .predicate predicate => predicate.depth
  | .junction left _ right => max left.depth right.depth

def Predicate.depth : Predicate → Nat
  | .comparison _ => 0
  | .not inner => inner.depth + 1
  | .present _ => 0
  | .group inner => inner.depth + 1
end

theorem Operand.token_ne_endOfInput (operand : Operand) :
    operand.token ≠ .endOfInput := by
  cases operand <;> simp [token]

/-! The end of the input is never written, so it is found again behind the tokens
of a tree. -/

mutual
theorem Expr.endOfInput_notMem_written (expr : Expr) :
    Token.endOfInput ∉ expr.written := by
  cases expr with
  | predicate predicate =>
      rw [Expr.written]
      exact predicate.endOfInput_notMem_written
  | junction left joint right =>
      rw [Expr.written, List.mem_append, List.mem_cons]
      rintro (inLeft | keyword | inRight)
      · exact left.endOfInput_notMem_written inLeft
      · contradiction
      · exact right.endOfInput_notMem_written inRight

theorem Predicate.endOfInput_notMem_written (predicate : Predicate) :
    Token.endOfInput ∉ predicate.written := by
  cases predicate with
  | comparison comparison =>
      simp only [Predicate.written, Comparison.written, List.mem_cons, reduceCtorEq,
        List.not_mem_nil, or_false, false_or, not_or]
      exact ⟨comparison.left.token_ne_endOfInput.symm,
        comparison.right.token_ne_endOfInput.symm⟩
  | not inner =>
      rw [Predicate.written, List.mem_cons]
      rintro (keyword | inInner)
      · contradiction
      · exact inner.endOfInput_notMem_written inInner
  | present field => simp [Predicate.written]
  | group inner =>
      rw [Predicate.written, List.mem_cons, List.mem_append, List.mem_singleton]
      rintro (opening | inInner | closing)
      · contradiction
      · exact inner.endOfInput_notMem_written inInner
      · contradiction
end

end LogQuery.Query
