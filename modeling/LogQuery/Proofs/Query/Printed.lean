import LogQuery.Proofs.Query.Spelling

namespace LogQuery.Query

/-! ## Printed queries

A tree is printed as its tokens, with separators between them. Spaces are needed only
between two tokens; at both ends of the text they may be left out. -/

/-- Tokens, each with space behind it, which only the last one may lack. -/
inductive Spaced : List Token → List Char → Prop
  | last {token : Token} {word space : List Char} :
      token.IsPrintedAs word → IsSpace space → Spaced [token] (word ++ space)
  | next {token : Token} {tokens : List Token} {word space rest : List Char} :
      token.IsPrintedAs word → IsSpace space → space ≠ [] → Spaced tokens rest →
      Spaced (token :: tokens) (word ++ (space ++ rest))

def Expr.IsPrintedAs (expr : Expr) (text : List Char) : Prop :=
  ∃ space body, text = space ++ body ∧ IsSpace space ∧ Spaced expr.written body

/-- A tree that leans to the left, stays within the limits, and whose texts are each of
their class. -/
structure Expr.IsWellFormed (expr : Expr) : Prop where
  folded : expr.isLeftFolded = true
  fewJunctions : expr.junctionCount ≤ 1024
  shallow : expr.depth ≤ 256
  lexed : expr.IsLexed
  plainNames : ∀ name, Token.identifier name ∈ expr.written → IsPlainName name

/-! ## Whole texts -/

theorem scanTokens_space (position : Nat) {space : List Char} (isSpace : IsSpace space) :
    ∃ start, scanTokens position space = .ok [⟨.endOfInput, start⟩] := by
  have dropped : space.dropWhile isSeparator = [] := by
    rw [← List.append_nil space, List.dropWhile_append_of_pos isSpace]
    rfl
  unfold scanTokens
  split
  · exact ⟨_, rfl⟩
  · next found =>
      rw [dropped] at found
      contradiction

theorem scanTokens_append (position : Nat) {token : Token} {space word rest : List Char}
    (isSpace : IsSpace space) (scans : Scans token word rest) :
    scanTokens position (space ++ (word ++ rest)) =
      (scanTokens (position + utf8Length space + utf8Length word) rest).map
        (⟨token, position + utf8Length space⟩ :: ·) := by
  rcases scans with ⟨first, tail, rfl, scanned⟩
  have stops : Stops isSeparator (first :: (tail ++ rest)) :=
    .cons (isSeparator_eq_false_of_scanToken scanned)
  have taken := stops.takeWhile_append isSpace
  have dropped := stops.dropWhile_append isSpace
  rw [List.cons_append, scanTokens]
  split
  · next found =>
      rw [dropped] at found
      contradiction
  · next found =>
      rw [dropped] at found
      cases found
      split
      · next failed =>
          rw [scanned] at failed
          contradiction
      · next reading found =>
          rw [scanned] at found
          cases found
          dsimp only
          rw [taken]
          split
          · next failed =>
              rw [failed]
              rfl
          · next read =>
              rw [read]
              rfl

/-- Tokens, each with space behind it, which may be left out where the next word is not taken
for a part of the token. -/
inductive Separated : List Token → List Char → Prop
  | last {token : Token} {word space : List Char} :
      token.IsReadFrom word → IsSpace space → Separated [token] (word ++ space)
  | next {token : Token} {tokens : List Token} {word space rest : List Char} :
      token.IsReadFrom word → IsSpace space → Stops token.continues (space ++ rest) →
      Separated tokens rest → Separated (token :: tokens) (word ++ (space ++ rest))

theorem scanTokens_of_separated {tokens : List Token} {body : List Char}
    (separated : Separated tokens body) :
    ∀ (position : Nat) {space : List Char}, IsSpace space →
      ∃ lexemes, scanTokens position (space ++ body) = .ok lexemes ∧
        lexemes.map Lexeme.token = tokens ++ [.endOfInput] := by
  induction separated with
  | @last token word ending read isEnding =>
      intro position space isSpace
      have scans := scans_of_stops read (isEnding.standsApart.stops_continues token)
      rcases scanTokens_space (position + utf8Length space + utf8Length word) isEnding with
        ⟨stop, ended⟩
      refine ⟨[⟨token, position + utf8Length space⟩, ⟨.endOfInput, stop⟩], ?_, rfl⟩
      rw [scanTokens_append position isSpace scans, ended]
      rfl
  | @next token tokens word gap rest read isGap stops separated induction =>
      intro position space isSpace
      have scans := scans_of_stops read stops
      rcases induction (position + utf8Length space + utf8Length word) isGap with
        ⟨lexemes, scannedRest, written⟩
      refine ⟨⟨token, position + utf8Length space⟩ :: lexemes, ?_, ?_⟩
      · rw [scanTokens_append position isSpace scans, scannedRest]
        rfl
      · rw [List.map_cons, written, List.cons_append]

theorem Spaced.separated {tokens : List Token} {body : List Char}
    (spaced : Spaced tokens body) (lexed : ∀ token ∈ tokens, token.IsLexed)
    (plain : ∀ name, Token.identifier name ∈ tokens → IsPlainName name) :
    Separated tokens body := by
  induction spaced with
  | @last token word ending printed isEnding =>
      have read : token.IsReadFrom word := {
        lexed := lexed token List.mem_cons_self
        printed := printed
        plain := fun name same => plain name (same ▸ List.mem_cons_self) }
      exact .last read isEnding
  | @next token tokens word gap rest printed isGap nonempty spaced induction =>
      have read : token.IsReadFrom word := {
        lexed := lexed token List.mem_cons_self
        printed := printed
        plain := fun name same => plain name (same ▸ List.mem_cons_self) }
      have apart := isGap.standsApart_append nonempty rest
      exact .next read isGap (apart.stops_continues token)
        (induction (List.forall_mem_cons.mp lexed).2
          fun name member => plain name (List.mem_cons_of_mem token member))

theorem scanTokens_of_spaced {tokens : List Token} {body : List Char}
    (spaced : Spaced tokens body) (lexed : ∀ token ∈ tokens, token.IsLexed)
    (plain : ∀ name, Token.identifier name ∈ tokens → IsPlainName name) :
    ∀ (position : Nat) {space : List Char}, IsSpace space →
      ∃ lexemes, scanTokens position (space ++ body) = .ok lexemes ∧
        lexemes.map Lexeme.token = tokens ++ [.endOfInput] :=
  scanTokens_of_separated (spaced.separated lexed plain)

/-- A tree is found again behind its tokens. -/
theorem parseLexemes_of_written {expr : Expr} (wellFormed : expr.IsWellFormed)
    {lexemes : List Lexeme}
    (written : lexemes.map Lexeme.token = expr.written ++ [.endOfInput]) :
    parseLexemes lexemes = .ok expr := by
  rcases List.map_eq_append_iff.mp written with ⟨passed, rest, rfl, read, ended⟩
  rcases List.map_eq_singleton_iff.mp ended with ⟨last, rfl, lastEnds⟩
  have spent : maxJunctions =
      expr.junctionCount + (maxJunctions - expr.junctionCount) :=
    (Nat.add_sub_cancel' wellFormed.fewJunctions).symm
  have passes : Cursor.Passes ⟨passed ++ [last], maxJunctions⟩ expr.written
      expr.junctionCount ⟨[last], maxJunctions - expr.junctionCount⟩ :=
    ⟨⟨passed, rfl, read⟩, spent⟩
  exact parseLexemes_spans.mpr
    ⟨_, ⟨passes, wellFormed.folded, wellFormed.shallow⟩, lastEnds⟩

/-- A printed query is read back as the tree that was printed, whatever the space between
its tokens and the letter case of its keywords. -/
theorem parse_of_isPrintedAs {expr : Expr} (wellFormed : expr.IsWellFormed) {text : String}
    (printed : expr.IsPrintedAs text.toList) : parse text = .ok expr := by
  rcases printed with ⟨space, body, split, isSpace, spaced⟩
  rcases scanTokens_of_spaced spaced wellFormed.lexed wellFormed.plainNames 0 isSpace with
    ⟨lexemes, scanned, written⟩
  have tokenized : tokenize text = .ok lexemes := by rw [tokenize, split, scanned]
  rw [parse, tokenized]
  dsimp only
  rw [parseLexemes_of_written wellFormed written]

/-! A negated group, with an escaped quote, an exponent and keywords in mixed case. -/

def mixedCaseQuery : Expr :=
  .predicate (.not (.group (.junction
    (.predicate (.comparison ⟨.field "a/b", .ilike, .literal "'it\\'s'"⟩)) .or
    (.predicate (.comparison ⟨.number "-1.5e+3", .lessEqual, .field "x"⟩)))))

def mixedCaseText : String :=
  "\t_NoT_ ( a/b =~ 'it\\'s'\r\n_oR_ -1.5e+3 <= x ) \n"

theorem parse_mixedCaseText :
    mixedCaseQuery.IsWellFormed ∧ mixedCaseQuery.IsPrintedAs mixedCaseText.toList ∧
      parse mixedCaseText = .ok mixedCaseQuery := by
  have literal : IsLiteral "'it\\'s'".toList :=
    ⟨['i', 't', '\\', '\'', 's', '\''], rfl,
      .plain (by decide) (by decide) (.plain (by decide) (by decide)
        (.escape '\'' (.plain (by decide) (by decide) .close)))⟩
  have scanned : scanNumber "-1.5e+3".toList = some ("-1.5e+3".toList, []) := by decide
  have number : IsNumber "-1.5e+3".toList := isNumber_of_scanNumber scanned
  have tokens : mixedCaseQuery.written =
      [.keyword .not, .openParen, .identifier "a/b", .operator .ilike,
        .literal "'it\\'s'", .keyword .or, .number "-1.5e+3", .operator .lessEqual,
        .identifier "x", .closeParen] := rfl
  have wellFormed : mixedCaseQuery.IsWellFormed := {
    folded := by decide
    fewJunctions := by decide
    shallow := by decide
    lexed := by
      have first : isIdentifier "a/b" = true := by decide
      have second : isIdentifier "x" = true := by decide
      unfold Expr.IsLexed
      rw [tokens]
      simp only [List.forall_mem_cons]
      exact ⟨trivial, trivial, first, trivial, literal, trivial, number, trivial, second,
        trivial, List.forall_mem_nil _⟩
    plainNames := by
      intro name member
      rw [tokens] at member
      have named : name = "a/b" ∨ name = "x" := by simpa using member
      apply Keyword.ofWord?_eq_none_iff.mp
      rcases named with rfl | rfl <;> decide }
  have printed : mixedCaseQuery.IsPrintedAs mixedCaseText.toList := by
    have negation : InAnyCase Keyword.not.spelling.toList "_NoT_".toList :=
      (map_toLower_eq_iff Keyword.not.isUpper_eq_false).mp (by decide)
    have joint : InAnyCase Keyword.or.spelling.toList "_oR_".toList :=
      (map_toLower_eq_iff Keyword.or.isUpper_eq_false).mp (by decide)
    have ending := @Spaced.last .closeParen [')'] [' ', '\n'] rfl (by decide)
    have right := @Spaced.next (.number "-1.5e+3") _ "-1.5e+3".toList [' '] _ rfl
      (by decide) (by decide) <|
        @Spaced.next (.operator .lessEqual) _ ['<', '='] [' '] _ rfl (by decide) (by decide) <|
        @Spaced.next (.identifier "x") _ ['x'] [' '] _ rfl (by decide) (by decide) ending
    have left := @Spaced.next (.identifier "a/b") _ "a/b".toList [' '] _ rfl
      (by decide) (by decide) <|
        @Spaced.next (.operator .ilike) _ ['=', '~'] [' '] _ rfl (by decide) (by decide) <|
        @Spaced.next (.literal "'it\\'s'") _ "'it\\'s'".toList ['\r', '\n'] _ rfl
          (by decide) (by decide) <|
        @Spaced.next (.keyword .or) _ "_oR_".toList [' '] _ joint (by decide) (by decide) right
    have body := @Spaced.next (.keyword .not) _ "_NoT_".toList [' '] _ negation
      (by decide) (by decide) <|
        @Spaced.next .openParen _ ['('] [' '] _ rfl (by decide) (by decide) left
    exact ⟨['\t'], _, rfl, by decide, body⟩
  exact ⟨wellFormed, printed, parse_of_isPrintedAs wellFormed printed⟩

end LogQuery.Query
