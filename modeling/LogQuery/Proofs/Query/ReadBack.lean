import Mathlib.Data.List.TakeWhile
import LogQuery.Proofs.Query.Fragment
import LogQuery.Proofs.Query.Spelling

namespace LogQuery.Query

open LogQuery.Sql

/-! ## Queries read back from their conditions

The words of a comparison or of a test for a field tell what they were lowered from. A name
that is spelled like a word of SQL is told by its place. -/

/-- The key of a reference into a map, or else the whole text. -/
def fieldOfText (text : List Char) : List Char :=
  match text.dropWhile (· ≠ '\'') with
  | [] => text
  | _ :: quoted => quoted.takeWhile (· ≠ '\'')

def Operand.ofText (text : String) : Operand :=
  if text.toList.head? = some '\'' then .literal text
  else if text.toList.head?.any isIdentifierStart then
    .field (String.ofList (fieldOfText text.toList))
  else .number text

/-- What stands behind `start`, without the last character. -/
def argumentIn (start text : String) : String :=
  String.ofList (text.toList.drop start.toList.length).dropLast

/-- How an operator is spelled that stands as one word between its operands. -/
def Operator.symbol : Operator → String
  | .ilike => "ILIKE"
  | plain => plain.spelling

def Operator.ofSymbol? (word : String) : Option Operator :=
  [.equal, .notEqual, .less, .lessEqual, .greater, .greaterEqual, .ilike].find?
    fun operator => operator.symbol = word

def Predicate.ofWords? : List String → Option Predicate
  | [call, argument] =>
      some (.comparison
        ⟨.ofText (argumentIn "match(" call), .pattern, .ofText (argumentIn "" argument)⟩)
  | [left, word, right] =>
      (Operator.ofSymbol? word).map fun operator =>
        .comparison ⟨.ofText left, operator, .ofText right⟩
  | [left, word, _, right] =>
      if word = "IS" then some (.present left)
      else some (.comparison ⟨.ofText left, .notIlike, .ofText right⟩)
  | _ :: key :: _ => some (.present (String.ofList (fieldOfText key.toList)))
  | _ => none

/-- The tokens that pieces stand for. A negation has parentheses that were not in the query, a
group has its own. `outer` keeps for each that is open what its end stands for. -/
def tokensOf : (outer : List (List Token)) → List Piece → List Token
  | _, [] => []
  | outer, .condition _ text :: rest =>
      ((Predicate.ofWords? (words text)).map Predicate.written).getD [] ++ tokensOf outer rest
  | outer, .and :: rest => .keyword .and :: tokensOf outer rest
  | outer, .or :: rest => .keyword .or :: tokensOf outer rest
  | outer, .not :: .opening :: rest => .keyword .not :: tokensOf ([] :: outer) rest
  | outer, .not :: rest => tokensOf outer rest
  | outer, .opening :: rest => .openParen :: tokensOf ([.closeParen] :: outer) rest
  | closing :: outer, .closing :: rest => closing ++ tokensOf outer rest
  | [], .closing :: rest => tokensOf [] rest

/-! ### Operands -/

theorem exists_start_of_isIdentifier {name : String} (named : isIdentifier name = true) :
    ∃ first rest, name.toList = first :: rest ∧ isIdentifierStart first = true := by
  unfold isIdentifier isIdentifierChars at named
  split at named
  · contradiction
  · next first rest split => exact ⟨first, rest, split, (Bool.and_eq_true_iff.mp named).1⟩

theorem unquoted_of_isIdentifier {name : String} (named : isIdentifier name = true) :
    ∀ character ∈ name.toList, character ≠ '\'' := by
  rintro character member rfl
  have part := isIdentifierPart_of_isIdentifier named _ member
  contradiction

theorem fieldOfText_identifier {name : String} (named : isIdentifier name = true) :
    fieldOfText name.toList = name.toList := by
  have none : name.toList.dropWhile (· ≠ '\'') = [] :=
    List.dropWhile_eq_nil_iff.mpr fun character member =>
      decide_eq_true (unquoted_of_isIdentifier named character member)
  rw [fieldOfText, none]

/-- An identifier in quotes, behind a text without quotes. -/
theorem fieldOfText_quoted {name : String} (named : isIdentifier name = true)
    {front : List Char} (unquoted : ∀ character ∈ front, character ≠ '\'') (rest : List Char) :
    fieldOfText (front ++ '\'' :: (name.toList ++ '\'' :: rest)) = name.toList := by
  have plain {text : List Char} (unquoted : ∀ character ∈ text, character ≠ '\'') :
      ∀ character ∈ text, decide (character ≠ '\'') = true :=
    fun character member => decide_eq_true (unquoted character member)
  have dropped : (front ++ '\'' :: (name.toList ++ '\'' :: rest)).dropWhile (· ≠ '\'') =
      '\'' :: (name.toList ++ '\'' :: rest) := by
    rw [List.dropWhile_append_of_pos (plain unquoted)]
    rfl
  rw [fieldOfText, dropped]
  dsimp only
  rw [List.takeWhile_append_of_pos (plain (unquoted_of_isIdentifier named))]
  simp

theorem IsNumber.noStart {text : List Char} (number : IsNumber text) :
    ∃ first tail, text = first :: tail ∧ first ≠ '\'' ∧ isIdentifierStart first = false := by
  rcases number.exists_first with ⟨first, tail, split, digit | sign⟩
  · refine ⟨first, tail, split, ?_, ?_⟩
    · rintro rfl
      contradiction
    · apply eq_false_of_ne_true
      intro starts
      rw [isDigit_eq_false_of_isIdentifierStart starts] at digit
      contradiction
  · have isSign : first = '+' ∨ first = '-' := by simpa [isSignMark] using sign
    rcases isSign with rfl | rfl
    · exact ⟨'+', tail, split, by decide, by decide⟩
    · exact ⟨'-', tail, split, by decide, by decide⟩

theorem Operand.ofText_of_starts {text : String} {first : Char} {rest : List Char}
    (split : text.toList = first :: rest) (starts : isIdentifierStart first = true) :
    ofText text = .field (String.ofList (fieldOfText text.toList)) := by
  have unquoted : first ≠ '\'' := by
    rintro rfl
    contradiction
  simp [ofText, split, unquoted, starts]

theorem Operand.ofText_text {operand : Operand} (lexed : operand.token.IsLexed) :
    ofText operand.text = operand := by
  cases operand with
  | field name =>
      rcases exists_start_of_isIdentifier lexed with ⟨first, rest, split, starts⟩
      rw [text, ofText_of_starts split starts, fieldOfText_identifier lexed,
        String.ofList_toList]
  | number text =>
      rcases IsNumber.noStart lexed with ⟨first, rest, split, unquoted, noStart⟩
      simp [ofText, Operand.text, split, unquoted, noStart]
  | literal text =>
      rcases lexed with ⟨tail, split, _⟩
      simp [ofText, Operand.text, split]

theorem Operand.ofText_reference (kind : FieldKind) {field : String}
    (named : isIdentifier field = true) : ofText (kind.reference field) = .field field := by
  have unquoted : ∀ character ∈ kind.mapColumn.toList ++ ['['], character ≠ '\'' := by
    cases kind <;> simp [FieldKind.mapColumn]
  have split : (kind.reference field).toList =
      (kind.mapColumn.toList ++ ['[']) ++ '\'' :: (field.toList ++ '\'' :: [']']) := by
    simp [FieldKind.reference]
  have starts : ∃ rest, (kind.reference field).toList = 'f' :: rest := by
    cases kind <;> exact ⟨_, split⟩
  rcases starts with ⟨rest, first⟩
  rw [ofText_of_starts first (by decide), split, fieldOfText_quoted named unquoted,
    String.ofList_toList]

variable {schema : Schema} {snapshot : FieldSnapshot}

theorem Operand.ofText_resolve (context : TypeContext) {field : String}
    (named : isIdentifier field = true) :
    ofText (schema.resolve snapshot context field) = .field field := by
  have column : ofText (Operand.field field).text = .field field := ofText_text named
  have strings := ofText_reference .string named
  have numbers := ofText_reference .number named
  unfold Schema.resolve
  split
  · exact column
  · cases context with
    | number => exact numbers
    | string => exact strings
    | unknown =>
        dsimp only
        split
        · exact numbers
        · exact strings

/-- Both operands are found again, whatever the schema and the snapshot. -/
theorem Comparison.ofText_operandTexts (schema : Schema) (snapshot : FieldSnapshot)
    {comparison : Comparison} (left : comparison.left.token.IsLexed)
    (right : comparison.right.token.IsLexed) :
    Operand.ofText (comparison.operandTexts schema snapshot).1 = comparison.left ∧
      Operand.ofText (comparison.operandTexts schema snapshot).2 = comparison.right := by
  unfold Comparison.operandTexts
  split
  · exact ⟨Operand.ofText_text left, Operand.ofText_text right⟩
  · exact ⟨Operand.ofText_resolve _ left, Operand.ofText_text right⟩
  · exact ⟨Operand.ofText_text left, Operand.ofText_resolve _ right⟩
  · exact ⟨Operand.ofText_text left, Operand.ofText_text right⟩

/-! ### Single conditions -/

theorem argumentIn_append (start text : String) (last : Char) :
    argumentIn start (start ++ text ++ String.singleton last) = text := by
  simp [argumentIn]

theorem Operator.ofWords?_words (operator : Operator) (left right : String) :
    Predicate.ofWords? (operator.words left right) =
      some (.comparison ⟨.ofText left, operator, .ofText right⟩) := by
  cases operator with
  | pattern =>
      have call : argumentIn "match(" ("match(" ++ left ++ ",") = left :=
        argumentIn_append "match(" left ','
      have argument : argumentIn "" ("" ++ right ++ ")") = right :=
        argumentIn_append "" right ')'
      rw [String.empty_append] at argument
      simp [words, Predicate.ofWords?, call, argument]
  | _ => rfl

theorem ofWords?_presentWords {field : String} (named : isIdentifier field = true) :
    Predicate.ofWords? (presentWords schema field) = some (.present field) := by
  have key : fieldOfText ('\'' :: (field.toList ++ ['\'', ')'])) = field.toList :=
    fieldOfText_quoted named (List.forall_mem_nil _) [')']
  unfold presentWords
  split
  · rfl
  · simp [Predicate.ofWords?, key]

theorem ofWords?_comparison {comparison : Comparison}
    (lexed : (Predicate.comparison comparison).IsLexed) :
    Predicate.ofWords? (words (comparison.condition schema snapshot)) =
      some (.comparison comparison) := by
  rcases lexed.comparison with ⟨left, right⟩
  rcases comparison.ofText_operandTexts schema snapshot left right with ⟨leftFound, rightFound⟩
  rcases solid_operandTexts left right with ⟨leftSolid, rightSolid⟩
  have found : words (comparison.condition schema snapshot) = comparison.words schema snapshot := by
    rw [Comparison.condition, ← Operator.intercalate_words]
    exact words_intercalate (comparison.operator.words_ne_nil _ _)
      (solid_operatorWords comparison.operator leftSolid rightSolid)
  rw [found, Comparison.words, Operator.ofWords?_words, leftFound, rightFound]

theorem ofWords?_present {field : String} (named : isIdentifier field = true) :
    Predicate.ofWords? (words (schema.existsClause field)) = some (.present field) := by
  rw [← intercalate_presentWords, words_intercalate (presentWords_ne_nil field)
    (solid_presentWords named), ofWords?_presentWords named]

/-! ### Whole queries -/

theorem tokensOf_joint (joint : Junction) (outer : List (List Token)) (rest : List Piece) :
    tokensOf outer (joint.piece :: rest) = .keyword joint.keyword :: tokensOf outer rest := by
  cases joint <;> rfl

mutual
theorem Expr.tokensOf_pieces (expr : Expr) (lexed : expr.IsLexed) (first : Nat)
    (outer : List (List Token)) (rest : List Piece) :
    tokensOf outer (expr.pieces schema snapshot first ++ rest) =
      expr.written ++ tokensOf outer rest := by
  cases expr with
  | predicate predicate =>
      rw [Expr.pieces, Expr.written]
      exact predicate.tokensOf_pieces lexed.predicate first outer rest
  | junction left joint right =>
      rcases lexed.junction with ⟨leftLexed, rightLexed⟩
      rw [Expr.pieces, Expr.written, List.append_assoc, List.cons_append,
        left.tokensOf_pieces leftLexed, tokensOf_joint, right.tokensOf_pieces rightLexed]
      simp

theorem Predicate.tokensOf_pieces (predicate : Predicate) (lexed : predicate.IsLexed)
    (first : Nat) (outer : List (List Token)) (rest : List Piece) :
    tokensOf outer (predicate.pieces schema snapshot first ++ rest) =
      predicate.written ++ tokensOf outer rest := by
  cases predicate with
  | comparison comparison =>
      rw [Predicate.pieces, List.singleton_append, tokensOf, ofWords?_comparison lexed]
      rfl
  | not inner =>
      rw [Predicate.pieces, Predicate.written, List.cons_append, List.cons_append,
        List.append_assoc, tokensOf, inner.tokensOf_pieces lexed.not]
      rfl
  | present field =>
      rw [Predicate.pieces, List.singleton_append, tokensOf, ofWords?_present lexed.present]
      rfl
  | group inner =>
      rw [Predicate.pieces, Predicate.written, List.cons_append, List.append_assoc, tokensOf,
        inner.tokensOf_pieces lexed.group]
      simp [tokensOf]
end

/-- The tokens of the query that a condition was lowered from. -/
def readBack (condition : String) : Option (List Token) :=
  (readPieces 0 .operand (words condition)).map (tokensOf [])

theorem Expr.readBack_condition (expr : Expr) (lexed : expr.IsLexed) :
    readBack (expr.condition schema snapshot) = some expr.written := by
  have tokens : tokensOf [] (expr.pieces schema snapshot 0 ++ []) = _ :=
    expr.tokensOf_pieces lexed 0 [] []
  rw [List.append_nil] at tokens
  rw [readBack, expr.readPieces_condition lexed, Option.map_some, tokens]
  simp [tokensOf]

/-- Of the trees that the parser builds no two are written alike: it would read them from the
same lexemes. -/
theorem eq_of_written_eq {lexemes others : List Lexeme} {expr other : Expr}
    (parsed : parseLexemes lexemes = .ok expr) (parsedOther : parseLexemes others = .ok other)
    (same : expr.written = other.written) : expr = other := by
  rcases parseLexemes_spans.mp parsed with ⟨after, spans, ended⟩
  rcases parseLexemes_spans.mp parsedOther with ⟨otherAfter, otherSpans, _⟩
  have passes : Cursor.Passes ⟨lexemes, maxJunctions⟩ other.written other.junctionCount
      ⟨after.lexemes, otherAfter.junctions⟩ :=
    ⟨same ▸ spans.passes.lexemes, otherSpans.passes.junctions⟩
  have read : parseLexemes lexemes = .ok other :=
    parseLexemes_spans.mpr ⟨_, ⟨passes, otherSpans.folded, otherSpans.shallow⟩, ended⟩
  exact Except.ok.inj (parsed.symm.trans read)

/-- What is known of a text that became a condition with something in it. -/
theorem exists_parse_of_toCondition {input condition : String}
    (lowered : toCondition schema snapshot input = .ok condition) (nonempty : condition ≠ "") :
    ∃ expr, parse input = .ok expr ∧ condition = expr.condition schema snapshot := by
  rcases toCondition_eq_ok_iff.mp lowered with ⟨_, empty⟩ | ⟨_, expr, parsed, _, written⟩
  · exact absurd empty nonempty
  · exact ⟨expr, parsed, written⟩

/-- Two texts that become the same condition are the same query, even if the fields that were
known in between are not the same. -/
theorem parse_eq_of_toCondition_eq (schema : Schema) (snapshot other : FieldSnapshot)
    {first second condition : String}
    (lowered : toCondition schema snapshot first = .ok condition)
    (loweredOther : toCondition schema other second = .ok condition)
    (nonempty : condition ≠ "") :
    ∃ expr, parse first = .ok expr ∧ parse second = .ok expr := by
  rcases exists_parse_of_toCondition lowered nonempty with ⟨expr, parsed, written⟩
  rcases exists_parse_of_toCondition loweredOther nonempty with ⟨expr', parsed', written'⟩
  have tokens : readBack condition = some expr.written := by
    rw [written]
    exact expr.readBack_condition (parse_sound parsed).2
  have tokens' : readBack condition = some expr'.written := by
    rw [written']
    exact expr'.readBack_condition (parse_sound parsed').2
  rcases parse_eq_ok_iff.mp parsed with ⟨_, _, read⟩
  rcases parse_eq_ok_iff.mp parsed' with ⟨_, _, read'⟩
  have same : expr = expr' :=
    eq_of_written_eq read read' (Option.some.inj (tokens.symm.trans tokens'))
  exact ⟨expr, parsed, same ▸ parsed'⟩

/-! A column that is named like a negation, and a literal that has a word of SQL in it. -/

def negationSchema : Schema := ⟨"logs", ["NOT"]⟩

def negationText : String := "_not_ (NOT = 'a OR b' _or_ _exists_ took)"

def crowdedNegationText : String := "_NOT_(NOT='a OR b'_Or_\t_exists_ took )"

def negationCondition : String :=
  "NOT ( ( NOT = 'a OR b' OR " ++
    "(mapContains(fields_string, 'took') = 1 OR mapContains(fields_number, 'took') = 1) ) )"

theorem parse_crowdedNegationText :
    toCondition negationSchema .empty negationText = .ok negationCondition ∧
      toCondition negationSchema (.ofLists [] ["took"]) crowdedNegationText =
        .ok negationCondition ∧
      negationCondition ≠ "" ∧
      ∃ expr, parse negationText = .ok expr ∧ parse crowdedNegationText = .ok expr := by
  have lowered : toCondition negationSchema .empty negationText = .ok negationCondition :=
    eq_ok_of_toOption (by decide +kernel)
  have loweredOther : toCondition negationSchema (.ofLists [] ["took"]) crowdedNegationText =
      .ok negationCondition :=
    eq_ok_of_toOption (by decide +kernel)
  have nonempty : negationCondition ≠ "" := by decide +kernel
  exact ⟨lowered, loweredOther, nonempty,
    parse_eq_of_toCondition_eq negationSchema .empty (.ofLists [] ["took"]) lowered
      loweredOther nonempty⟩

end LogQuery.Query
