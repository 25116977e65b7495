import LogQuery.Query.Error
import LogQuery.Text.Blank

namespace LogQuery.Query

/-! The two limits of a query: how deep groups and negations may nest, and how
many junctions the whole query may have. -/

def maxDepth : Nat := 256

def maxJunctions : Nat := 1024

/-! The lexemes still to be read and the junctions still allowed. The end of
input is never passed. -/

structure Cursor where
  lexemes : List Lexeme
  junctions : Nat
  deriving Repr

namespace Cursor

def peek (cursor : Cursor) : Lexeme :=
  cursor.lexemes.headD ⟨.endOfInput, 0⟩

def advance (cursor : Cursor) : Cursor :=
  match cursor.peek.token with
  | .endOfInput => cursor
  | _ => { cursor with lexemes := cursor.lexemes.tail }

def junction? (cursor : Cursor) : Option Junction :=
  match cursor.peek.token with
  | .keyword .and => some .and
  | .keyword .or => some .or
  | _ => none

end Cursor

abbrev Parser (α : Type) := Cursor → Except SyntaxError (α × Cursor)

def operandOf (lexeme : Lexeme) : Except SyntaxError Operand :=
  match lexeme.token with
  | .identifier name => .ok (.field name)
  | .number text => .ok (.number text)
  | .literal text => .ok (.literal text)
  | found => .error ⟨.expectedOperand found, lexeme.position⟩

/-- A comparison whose first lexeme was read already. An operator at the end of
the query is reported where the comparison starts. -/
def parseComparison (first : Lexeme) : Parser Predicate := fun cursor => do
  let left ← operandOf first
  match cursor.peek.token with
  | .operator operator =>
      let cursor := cursor.advance
      match cursor.peek.token with
      | .endOfInput => .error ⟨.missingOperand operator, first.position⟩
      | _ =>
          let right ← operandOf cursor.peek
          .ok (.comparison ⟨left, operator, right⟩, cursor.advance)
  | found => .error ⟨.expectedOperator left found, cursor.peek.position⟩

def parsePresence : Parser Predicate := fun cursor =>
  match cursor.peek.token with
  | .identifier name => .ok (.present name, cursor.advance)
  | found => .error ⟨.expectedField found, cursor.peek.position⟩

/-- The end of a group that `opening` began. -/
def parseClosing (opening : Lexeme) (inner : Expr) : Parser Predicate := fun cursor =>
  match cursor.peek.token with
  | .closeParen => .ok (.group inner, cursor.advance)
  | .endOfInput => .error ⟨.missingClose, opening.position⟩
  | found => .error ⟨.expectedClose found, cursor.peek.position⟩

/-! A chain goes on as long as junctions follow. `budget` bounds the junctions
of this chain; it starts as the number that the whole query may still have, so
the query's own limit is always met first. -/

def parseChain (parsePredicate : Parser Predicate) :
    (budget : Nat) → Expr → Parser Expr
  | 0, left => fun cursor =>
      match cursor.junction? with
      | none => .ok (left, cursor)
      | some _ => .error ⟨.tooManyConditions, cursor.peek.position⟩
  | budget + 1, left => fun cursor =>
      match cursor.junction?, cursor.junctions with
      | none, _ => .ok (left, cursor)
      | some _, 0 => .error ⟨.tooManyConditions, cursor.peek.position⟩
      | some joint, junctions + 1 => do
          let (right, cursor) ← parsePredicate { cursor.advance with junctions }
          parseChain parsePredicate budget (.junction left joint (.predicate right))
            cursor

def parseJoined (parsePredicate : Parser Predicate) : Parser Expr := fun cursor => do
  let (first, cursor) ← parsePredicate cursor
  parseChain parsePredicate cursor.junctions (.predicate first) cursor

/-- `depth` levels of groups and negations may still be opened. -/
def parsePredicate (depth : Nat) : Parser Predicate := fun cursor =>
  let first := cursor.peek
  let cursor := cursor.advance
  match first.token, depth with
  | .openParen, depth + 1 => do
      let (inner, cursor) ← parseJoined (parsePredicate depth) cursor
      parseClosing first inner cursor
  | .keyword .not, depth + 1 => do
      let (inner, cursor) ← parsePredicate depth cursor
      .ok (.not inner, cursor)
  | .openParen, 0 => .error ⟨.nestedTooDeeply, first.position⟩
  | .keyword .not, 0 => .error ⟨.nestedTooDeeply, first.position⟩
  | .keyword .present, _ => parsePresence cursor
  | _, _ => parseComparison first cursor

def parseLexemes (lexemes : List Lexeme) : Except SyntaxError Expr := do
  let (expr, cursor) ← parseJoined (parsePredicate maxDepth) ⟨lexemes, maxJunctions⟩
  match cursor.peek.token with
  | .endOfInput => .ok expr
  | .closeParen => .error ⟨.unmatchedClose, cursor.peek.position⟩
  | found => .error ⟨.expectedJunction found, cursor.peek.position⟩

/-! A syntax error shows the rest of the query from the token at fault, and the
whole query if nothing but blanks is left. -/

def dropBytes : Nat → List Char → List Char
  | _, [] => []
  | 0, characters => characters
  | offset, character :: rest => dropBytes (offset - character.utf8Size) rest

def fragmentAt (input : String) (position : Nat) : String :=
  match Text.trimBlanks (dropBytes position input.toList) with
  | [] => Text.trim input
  | fragment => String.ofList fragment

def parse (input : String) : Except QueryError Expr :=
  match tokenize input with
  | .error error =>
      .error (.lexical error.fault error.position (String.ofList error.fragment))
  | .ok lexemes =>
      match parseLexemes lexemes with
      | .error error => .error (.grammar error.fault (fragmentAt input error.position))
      | .ok expr => .ok expr

end LogQuery.Query
