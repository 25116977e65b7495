import LogQuery.Query.Lexer
import LogQuery.Query.Expr

namespace LogQuery.Query

/-! What can be wrong with the order of the tokens. -/

inductive SyntaxFault where
  | unmatchedClose
  | expectedJunction (found : Token)
  | missingClose
  | expectedClose (found : Token)
  | expectedField (found : Token)
  | expectedOperator (left : Operand) (found : Token)
  | missingOperand (operator : Operator)
  | expectedOperand (found : Token)
  | nestedTooDeeply
  | tooManyConditions
  deriving DecidableEq, Repr

def SyntaxFault.message : SyntaxFault → String
  | .unmatchedClose => "unexpected `)` without matching `(`"
  | .expectedJunction found =>
      "expected `_and_` or `_or_` but found " ++ found.describe
  | .missingClose => "missing closing parenthesis"
  | .expectedClose found => "expected `)` but found " ++ found.describe
  | .expectedField found =>
      "expected a field after `_exists_` but found " ++ found.describe
  | .expectedOperator left found =>
      "expected an operator after `" ++ left.text ++ "` but found " ++ found.describe
  | .missingOperand operator =>
      "missing value after operator `" ++ operator.spelling ++ "`"
  | .expectedOperand found =>
      "expected a field, number or string but found " ++ found.describe
  | .nestedTooDeeply => "expression nested too deeply"
  | .tooManyConditions => "too many conditions"

structure SyntaxError where
  fault : SyntaxFault
  position : Nat
  deriving DecidableEq, Repr

/-! A comparison needs a field on exactly one side. -/

inductive Mismatch where
  | twoFields (left right : String)
  | twoConstants (left right : Operand)
  deriving DecidableEq, Repr

def Mismatch.message : Mismatch → String
  | .twoFields left right =>
      "comparison between two fields `" ++ left ++ "` and `" ++ right ++
        "` is not supported"
  | .twoConstants left right =>
      "comparison between two constants `" ++ left.text ++ "` and `" ++ right.text ++
        "` is not supported"

/-! Each error carries the piece of text that it is about: the rest of the query
for the first two, the condition built so far for the third. -/

inductive QueryError where
  | lexical (fault : LexicalFault) (position : Nat) (fragment : String)
  | grammar (fault : SyntaxFault) (fragment : String)
  | meaning (mismatches : List Mismatch) (fragment : String)
  deriving DecidableEq, Repr

namespace QueryError

def details : QueryError → List String
  | .meaning mismatches _ => mismatches.map Mismatch.message
  | _ => []

def fragment : QueryError → String
  | .lexical _ _ fragment => fragment
  | .grammar _ fragment => fragment
  | .meaning _ fragment => fragment

def message : QueryError → String
  | .lexical fault position fragment =>
      "Failed to parse query: " ++ fault.message ++ " at position " ++
        position.repr ++ " (near `" ++ fragment ++ "`)"
  | .grammar fault fragment =>
      "Failed to parse query: " ++ fault.message ++ " (near `" ++ fragment ++ "`)"
  | .meaning mismatches _ =>
      "failed to convert query to SQL: " ++
        "; ".intercalate (mismatches.map Mismatch.message)

end QueryError

end LogQuery.Query
