import LogQuery.Proofs.Query.Grammar

namespace LogQuery.Query

/-! ## The classes of tokens

A number is an optional sign and digits, with an optional fraction and an optional
exponent. A string literal starts with a quote and ends with the first quote that no
backslash takes with it. -/

def IsDigits (digits : List Char) : Prop :=
  digits ≠ [] ∧ ∀ digit ∈ digits, digit.isDigit = true

def IsSign (sign : List Char) : Prop :=
  sign = [] ∨ sign = ['+'] ∨ sign = ['-']

def IsFraction (fraction : List Char) : Prop :=
  fraction = [] ∨ ∃ digits, fraction = '.' :: digits ∧ IsDigits digits

def IsExponent (exponent : List Char) : Prop :=
  exponent = [] ∨ ∃ mark sign digits, exponent = mark :: (sign ++ digits) ∧
    isExponentMark mark = true ∧ IsSign sign ∧ IsDigits digits

def IsNumber (text : List Char) : Prop :=
  ∃ sign digits fraction exponent, text = sign ++ digits ++ fraction ++ exponent ∧
    IsSign sign ∧ IsDigits digits ∧ IsFraction fraction ∧ IsExponent exponent

/-- What follows the opening quote of a string literal, up to its closing quote. -/
inductive QuotedTail : List Char → Prop
  | close : QuotedTail ['\'']
  | escape (escaped : Char) {tail : List Char} :
      QuotedTail tail → QuotedTail ('\\' :: escaped :: tail)
  | plain {character : Char} {tail : List Char} :
      character ≠ '\'' → character ≠ '\\' →
      QuotedTail tail → QuotedTail (character :: tail)

def IsLiteral (text : List Char) : Prop :=
  ∃ tail, text = '\'' :: tail ∧ QuotedTail tail

/-- The text of a token is of the class that the token stands for. The end of the
input has no text, so it is no token that can be read. -/
def Token.IsLexed : Token → Prop
  | .identifier name => isIdentifier name = true
  | .number text => IsNumber text.toList
  | .literal text => IsLiteral text.toList
  | .endOfInput => False
  | _ => True

/-! ## What the scanners read -/

theorem isDigits_of_scanDigits {input digits rest : List Char}
    (scanned : scanDigits input = some (digits, rest)) : IsDigits digits := by
  refine ⟨ne_nil_of_scanDigits scanned, ?_⟩
  unfold scanDigits at scanned
  split at scanned
  · contradiction
  · cases scanned
    intro digit member
    exact List.all_eq_true.mp List.all_takeWhile digit member

theorem isSign_scanSign (input : List Char) : IsSign (scanSign input).1 := by
  unfold scanSign
  split
  · exact .inr (.inl rfl)
  · exact .inr (.inr rfl)
  · exact .inl rfl

theorem isFraction_scanFraction (input : List Char) :
    IsFraction (scanFraction input).1 := by
  unfold scanFraction
  split
  · split
    · next scanned => exact .inr ⟨_, rfl, isDigits_of_scanDigits scanned⟩
    · exact .inl rfl
  · exact .inl rfl

theorem isExponent_scanExponent (input : List Char) :
    IsExponent (scanExponent input).1 := by
  unfold scanExponent
  split
  · exact .inl rfl
  · next mark rest =>
      split
      · next marked =>
          dsimp only
          split
          · next scanned =>
              exact .inr ⟨mark, _, _, rfl, marked, isSign_scanSign rest,
                isDigits_of_scanDigits scanned⟩
          · exact .inl rfl
      · exact .inl rfl

theorem isNumber_of_scanNumber {input text rest : List Char}
    (scanned : scanNumber input = some (text, rest)) : IsNumber text := by
  unfold scanNumber at scanned
  dsimp only at scanned
  split at scanned
  · contradiction
  · next scannedDigits =>
      cases scanned
      exact ⟨_, _, _, _, rfl, isSign_scanSign _, isDigits_of_scanDigits scannedDigits,
        isFraction_scanFraction _, isExponent_scanExponent _⟩

theorem quotedTail_of_scanQuoted {input body rest : List Char}
    (scanned : scanQuoted input = some (body, rest)) : QuotedTail body := by
  fun_induction scanQuoted input generalizing body rest with
  | case1 => contradiction
  | case2 =>
      cases scanned
      exact .close
  | case3 escaped tail induction =>
      rcases Option.map_eq_some_iff.mp scanned with ⟨⟨inner, after⟩, found, same⟩
      cases same
      exact .escape escaped (induction found)
  | case4 => contradiction
  | case5 character tail notQuote notEscape notLast induction =>
      rcases Option.map_eq_some_iff.mp scanned with ⟨⟨inner, after⟩, found, same⟩
      cases same
      refine .plain notQuote ?_ (induction found)
      intro isEscape
      cases tail with
      | nil => exact notLast isEscape rfl
      | cons escaped rest => exact notEscape escaped rest isEscape rfl

theorem isIdentifier_word {first : Char} (rest : List Char)
    (starts : isIdentifierStart first = true) :
    isIdentifier (String.ofList (first :: rest.takeWhile isIdentifierPart)) = true := by
  rw [isIdentifier, String.toList_ofList, isIdentifierChars, starts, Bool.true_and]
  exact List.all_takeWhile

theorem isLexed_of_scanSymbol {input : List Char} {reading : Reading}
    (scanned : scanSymbol input = some reading) : reading.token.IsLexed := by
  unfold scanSymbol at scanned
  split at scanned <;> cases scanned <;> trivial

theorem isLexed_ofWord {first : Char} (rest : List Char)
    (starts : isIdentifierStart first = true) :
    (Token.ofWord (first :: rest.takeWhile isIdentifierPart)).IsLexed := by
  unfold Token.ofWord
  split
  · trivial
  · exact isIdentifier_word rest starts

/-- The four ways to read a token: by its first quote, as a number, as a symbol, and else as
a word. -/
theorem scanToken_cases {first : Char} {input : List Char} {reading : Reading}
    (scanned : scanToken first input = .ok reading) :
    (∃ body rest, first = '\'' ∧ scanQuoted input = some (body, rest) ∧
      reading = ⟨.literal (String.ofList ('\'' :: body)), '\'' :: body, rest⟩) ∨
    (∃ text rest, scanNumber (first :: input) = some (text, rest) ∧
      reading = ⟨.number (String.ofList text), text, rest⟩) ∨
    scanSymbol (first :: input) = some reading ∨
    (isIdentifierStart first = true ∧
      reading = ⟨Token.ofWord (first :: input.takeWhile isIdentifierPart),
        first :: input.takeWhile isIdentifierPart, input.dropWhile isIdentifierPart⟩) := by
  unfold scanToken at scanned
  split at scanned
  · next quote =>
      split at scanned
      · next found =>
          cases scanned
          exact .inl ⟨_, _, quote, found, rfl⟩
      · contradiction
  · split at scanned
    · next found =>
        cases scanned
        exact .inr (.inl ⟨_, _, found, rfl⟩)
    · split at scanned
      · next found =>
          cases scanned
          exact .inr (.inr (.inl found))
      · unfold scanWord at scanned
        split at scanned
        · next starts =>
            cases scanned
            exact .inr (.inr (.inr ⟨starts, rfl⟩))
        · contradiction

theorem isLexed_of_scanToken {first : Char} {input : List Char} {reading : Reading}
    (scanned : scanToken first input = .ok reading) : reading.token.IsLexed := by
  rcases scanToken_cases scanned with ⟨_, _, _, found, rfl⟩ | ⟨_, _, found, rfl⟩ | found |
    ⟨starts, rfl⟩
  · exact ⟨_, String.toList_ofList, quotedTail_of_scanQuoted found⟩
  · change IsNumber (String.ofList _).toList
    rw [String.toList_ofList]
    exact isNumber_of_scanNumber found
  · exact isLexed_of_scanSymbol found
  · exact isLexed_ofWord input starts

/-! ## What the lexer leaves -/

theorem tokens_of_scanTokens {position : Nat} {input : List Char}
    {lexemes : List Lexeme} (scanned : scanTokens position input = .ok lexemes) :
    ∃ tokens, lexemes.map Lexeme.token = tokens ++ [.endOfInput] ∧
      ∀ token ∈ tokens, token.IsLexed := by
  fun_induction scanTokens position input generalizing lexemes with
  | case1 =>
      cases scanned
      exact ⟨[], rfl, by simp⟩
  | case2 => contradiction
  | case3 => contradiction
  | case4 _ _ _ _ _ _ reading scannedToken _ _ scannedRest =>
      rename_i induction
      cases scanned
      rcases induction scannedRest with ⟨tokens, split, lexed⟩
      refine ⟨reading.token :: tokens, by rw [List.map_cons, split, List.cons_append], ?_⟩
      intro token member
      rcases List.mem_cons.mp member with rfl | member
      · exact isLexed_of_scanToken scannedToken
      · exact lexed token member

theorem endsOnce_of_tokenize {input : String} {lexemes : List Lexeme}
    (scanned : tokenize input = .ok lexemes) : EndsOnce lexemes := by
  rcases tokens_of_scanTokens scanned with ⟨tokens, split, lexed⟩
  exact ⟨tokens, split, fun member => lexed _ member⟩

/-! ## Trees that were read -/

/-- Every text in the tree is of its class. -/
def Expr.IsLexed (expr : Expr) : Prop :=
  ∀ token ∈ expr.written, token.IsLexed

def Predicate.IsLexed (predicate : Predicate) : Prop :=
  ∀ token ∈ predicate.written, token.IsLexed

theorem Expr.IsLexed.predicate {predicate : Predicate}
    (lexed : (Expr.predicate predicate).IsLexed) : predicate.IsLexed :=
  lexed

theorem Expr.IsLexed.junction {left right : Expr} {joint : Junction}
    (lexed : (Expr.junction left joint right).IsLexed) : left.IsLexed ∧ right.IsLexed := by
  rw [Expr.IsLexed, Expr.written] at lexed
  rcases List.forall_mem_append.mp lexed with ⟨leftLexed, restLexed⟩
  exact ⟨leftLexed, (List.forall_mem_cons.mp restLexed).2⟩

theorem Predicate.IsLexed.comparison {comparison : Comparison}
    (lexed : (Predicate.comparison comparison).IsLexed) :
    comparison.left.token.IsLexed ∧ comparison.right.token.IsLexed := by
  rw [Predicate.IsLexed, Predicate.written, Comparison.written] at lexed
  exact ⟨lexed _ (by simp), lexed _ (by simp)⟩

theorem Predicate.IsLexed.not {inner : Predicate} (lexed : (Predicate.not inner).IsLexed) :
    inner.IsLexed := by
  rw [Predicate.IsLexed, Predicate.written] at lexed
  exact (List.forall_mem_cons.mp lexed).2

theorem Predicate.IsLexed.group {inner : Expr} (lexed : (Predicate.group inner).IsLexed) :
    inner.IsLexed := by
  rw [Predicate.IsLexed, Predicate.written] at lexed
  exact (List.forall_mem_append.mp (List.forall_mem_cons.mp lexed).2).1

theorem Predicate.IsLexed.present {field : String}
    (lexed : (Predicate.present field).IsLexed) : isIdentifier field = true := by
  rw [Predicate.IsLexed, Predicate.written] at lexed
  exact lexed (.identifier field) (by simp)

/-- A query that is accepted is a tree that leans to the left, over lexed texts. -/
theorem parse_sound {input : String} {expr : Expr} (parsed : parse input = .ok expr) :
    expr.isLeftFolded = true ∧ expr.IsLexed := by
  unfold parse at parsed
  split at parsed
  · contradiction
  · next lexemes tokenized =>
      split at parsed
      · contradiction
      · next read =>
          cases parsed
          rcases tokens_of_scanTokens tokenized with ⟨tokens, split, lexed⟩
          rcases parseLexemes_spans.mp read with ⟨after, spans, _⟩
          rcases spans.passes.lexemes with ⟨passed, cut, written⟩
          refine ⟨spans.folded, fun token member => ?_⟩
          have inPassed : token ∈ passed.map Lexeme.token := written ▸ member
          have inLexemes : token ∈ lexemes.map Lexeme.token := by
            change lexemes = _ at cut
            rw [cut, List.map_append]
            exact List.mem_append_left _ inPassed
          rw [split, List.mem_append, List.mem_singleton] at inLexemes
          rcases inLexemes with inTokens | rfl
          · exact lexed token inTokens
          · exact absurd member expr.endOfInput_notMem_written

end LogQuery.Query
