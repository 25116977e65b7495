import LogQuery.Query.Parser
import LogQuery.Schema

namespace LogQuery.Query

/-! A query becomes the text of a SQL condition. A field stands for a column or
for a key of the map column that fits the constant it is compared with. -/

def Operand.context : Operand → TypeContext
  | .number _ => .number
  | .literal _ => .string
  | .field _ => .unknown

def Junction.sql : Junction → String
  | .and => "AND"
  | .or => "OR"

def Operator.condition (operator : Operator) (left right : String) : String :=
  match operator with
  | .pattern => "match(" ++ left ++ ", " ++ right ++ ")"
  | .ilike => left ++ " ILIKE " ++ right
  | .notIlike => left ++ " NOT ILIKE " ++ right
  | plain => left ++ " " ++ plain.spelling ++ " " ++ right

namespace Comparison

def mismatch? : Comparison → Option Mismatch
  | ⟨.field left, _, .field right⟩ => some (.twoFields left right)
  | ⟨.field _, _, _⟩ => none
  | ⟨_, _, .field _⟩ => none
  | ⟨left, _, right⟩ => some (.twoConstants left right)

def operandTexts (schema : Schema) (snapshot : FieldSnapshot) :
    Comparison → String × String
  | ⟨.field left, _, .field right⟩ => (left, right)
  | ⟨.field field, _, constant⟩ =>
      (schema.resolve snapshot constant.context field, constant.text)
  | ⟨constant, _, .field field⟩ =>
      (constant.text, schema.resolve snapshot constant.context field)
  | ⟨left, _, right⟩ => (left.text, right.text)

def condition (schema : Schema) (snapshot : FieldSnapshot)
    (comparison : Comparison) : String :=
  let texts := comparison.operandTexts schema snapshot
  comparison.operator.condition texts.1 texts.2

end Comparison

mutual
def Expr.condition (schema : Schema) (snapshot : FieldSnapshot) : Expr → String
  | .predicate predicate => predicate.condition schema snapshot
  | .junction left joint right =>
      left.condition schema snapshot ++ " " ++ joint.sql ++ " " ++
        right.condition schema snapshot

def Predicate.condition (schema : Schema) (snapshot : FieldSnapshot) :
    Predicate → String
  | .comparison comparison => comparison.condition schema snapshot
  | .not inner => "NOT ( " ++ inner.condition schema snapshot ++ " )"
  | .group inner => "( " ++ inner.condition schema snapshot ++ " )"
  | .present field => schema.existsClause field
end

/-! The comparisons at fault are all listed, in the order of the text. -/

mutual
def Expr.mismatches : Expr → List Mismatch
  | .predicate predicate => predicate.mismatches
  | .junction left _ right => left.mismatches ++ right.mismatches

def Predicate.mismatches : Predicate → List Mismatch
  | .comparison comparison => comparison.mismatch?.toList
  | .not inner => inner.mismatches
  | .group inner => inner.mismatches
  | .present _ => []
end

def lower (schema : Schema) (snapshot : FieldSnapshot) (expr : Expr) :
    Except QueryError String :=
  let condition := expr.condition schema snapshot
  match expr.mismatches with
  | [] => .ok condition
  | mismatches => .error (.meaning mismatches condition)

/-- The condition for a query text; a blank query gives the empty text. -/
def toCondition (schema : Schema) (snapshot : FieldSnapshot) (input : String) :
    Except QueryError String :=
  if Text.isBlankText input then .ok ""
  else
    match parse input with
    | .error error => .error error
    | .ok expr => lower schema snapshot expr

end LogQuery.Query
