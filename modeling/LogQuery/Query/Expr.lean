import LogQuery.Query.Token

namespace LogQuery.Query

/-! The operands of a comparison. Literals keep their source text. -/

inductive Operand where
  | field (name : String)
  | number (text : String)
  | literal (text : String)
  deriving DecidableEq, Repr

def Operand.text : Operand → String
  | .field name => name
  | .number text => text
  | .literal text => text

structure Comparison where
  left : Operand
  operator : Operator
  right : Operand
  deriving DecidableEq, Repr

inductive Junction where
  | and
  | or
  deriving DecidableEq, Repr

def Junction.keyword : Junction → Keyword
  | .and => .and
  | .or => .or

/-! A query is a tree of predicates joined by junctions. Both junctions bind
equally, and a chain of them leans to the left. -/

mutual
inductive Expr where
  | predicate (predicate : Predicate)
  | junction (left : Expr) (joint : Junction) (right : Expr)

inductive Predicate where
  | comparison (comparison : Comparison)
  | not (inner : Predicate)
  | present (field : String)
  | group (inner : Expr)
end

deriving instance DecidableEq for Expr
deriving instance DecidableEq for Predicate
deriving instance Repr for Expr
deriving instance Repr for Predicate

end LogQuery.Query
