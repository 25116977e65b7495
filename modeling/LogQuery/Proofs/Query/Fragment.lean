import LogQuery.Proofs.Sql.Reading

namespace LogQuery.Query

open LogQuery.Sql

/-! ## The words that a query is lowered to -/

section

variable (schema : Schema) (snapshot : FieldSnapshot)

def Operator.words (operator : Operator) (left right : String) : List String :=
  match operator with
  | .pattern => ["match(" ++ left ++ ",", right ++ ")"]
  | .ilike => [left, "ILIKE", right]
  | .notIlike => [left, "NOT", "ILIKE", right]
  | plain => [left, plain.spelling, right]

def Comparison.words (comparison : Comparison) : List String :=
  let texts := comparison.operandTexts schema snapshot
  comparison.operator.words texts.1 texts.2

def presentWords (field : String) : List String :=
  if schema.isColumn field then [field, "IS", "NOT", "NULL"]
  else
    ["(mapContains(" ++ FieldKind.string.mapColumn ++ ",", "'" ++ field ++ "')", "=", "1",
      "OR", "mapContains(" ++ FieldKind.number.mapColumn ++ ",", "'" ++ field ++ "')", "=",
      "1)"]

mutual
def Expr.words : Expr → List String
  | .predicate predicate => predicate.words
  | .junction left joint right => left.words ++ joint.sql :: right.words

def Predicate.words : Predicate → List String
  | .comparison comparison => comparison.words schema snapshot
  | .not inner => "NOT" :: "(" :: (inner.words ++ [")"])
  | .present field => presentWords schema field
  | .group inner => "(" :: (inner.words ++ [")"])
end

/-! ## The parts of a query

The conditions of a query are numbered from the left, and so are those of its parts. -/

mutual
def Expr.conditionCount : Expr → Nat
  | .predicate predicate => predicate.conditionCount
  | .junction left _ right => left.conditionCount + right.conditionCount

def Predicate.conditionCount : Predicate → Nat
  | .comparison _ => 1
  | .not inner => inner.conditionCount
  | .present _ => 1
  | .group inner => inner.conditionCount
end

def Junction.piece : Junction → Piece
  | .and => .and
  | .or => .or

mutual
def Expr.pieces : Expr → (first : Nat) → List Piece
  | .predicate predicate, first => predicate.pieces first
  | .junction left joint right, first =>
      left.pieces first ++ joint.piece :: right.pieces (first + left.conditionCount)

def Predicate.pieces : Predicate → (first : Nat) → List Piece
  | .comparison comparison, first => [.condition first (comparison.condition schema snapshot)]
  | .not inner, first => .not :: .opening :: (inner.pieces first ++ [.closing])
  | .present field, first => [.condition first (schema.existsClause field)]
  | .group inner, first => .opening :: (inner.pieces first ++ [.closing])
end

end

/-! ## The text is its words -/

variable {schema : Schema} {snapshot : FieldSnapshot}

theorem Operator.intercalate_words (operator : Operator) (left right : String) :
    " ".intercalate (operator.words left right) = operator.condition left right := by
  unfold Operator.words Operator.condition
  split
  · have comma : ", " = "," ++ " " := rfl
    simp only [comma, String.intercalate_cons_cons, String.intercalate_singleton,
      String.append_assoc]
  · have blanks : " ILIKE " = " " ++ ("ILIKE" ++ " ") := rfl
    simp only [blanks, String.intercalate_cons_cons, String.intercalate_singleton,
      String.append_assoc]
  · have blanks : " NOT ILIKE " = " " ++ ("NOT" ++ (" " ++ ("ILIKE" ++ " "))) := rfl
    simp only [blanks, String.intercalate_cons_cons, String.intercalate_singleton,
      String.append_assoc]
  · simp only [String.intercalate_cons_cons, String.intercalate_singleton,
      String.append_assoc]

theorem intercalate_presentWords (field : String) :
    " ".intercalate (presentWords schema field) = schema.existsClause field := by
  unfold presentWords Schema.existsClause
  split
  · have blanks : " IS NOT NULL" = " " ++ ("IS" ++ (" " ++ ("NOT" ++ (" " ++ "NULL")))) := rfl
    simp only [blanks, String.intercalate_cons_cons, String.intercalate_singleton,
      String.append_assoc]
  · have contains (kind : FieldKind) : Schema.containsKey kind field =
        "mapContains(" ++ kind.mapColumn ++ ", '" ++ field ++ "') = 1" := rfl
    have opening : "(mapContains(" = "(" ++ "mapContains(" := rfl
    have comma : ", '" = "," ++ (" " ++ "'") := rfl
    have equals : "') = 1" = "')" ++ (" " ++ ("=" ++ (" " ++ "1"))) := rfl
    have either : " OR " = " " ++ ("OR" ++ " ") := rfl
    have closing : "1)" = "1" ++ ")" := rfl
    simp only [contains, opening, comma, equals, either, closing,
      String.intercalate_cons_cons, String.intercalate_singleton, String.append_assoc]

theorem Operator.words_ne_nil (operator : Operator) (left right : String) :
    operator.words left right ≠ [] := by
  cases operator <;> exact List.cons_ne_nil _ _

theorem presentWords_ne_nil (field : String) : presentWords schema field ≠ [] := by
  unfold presentWords
  split <;> exact List.cons_ne_nil _ _

mutual
theorem Expr.words_ne_nil (expr : Expr) : expr.words schema snapshot ≠ [] := by
  cases expr with
  | predicate predicate =>
      rw [Expr.words]
      exact predicate.words_ne_nil
  | junction left joint right =>
      rw [Expr.words]
      exact List.append_ne_nil_of_left_ne_nil left.words_ne_nil _

theorem Predicate.words_ne_nil (predicate : Predicate) :
    predicate.words schema snapshot ≠ [] := by
  cases predicate with
  | comparison comparison =>
      rw [Predicate.words]
      exact comparison.operator.words_ne_nil _ _
  | not inner =>
      rw [Predicate.words]
      exact List.cons_ne_nil _ _
  | present field =>
      rw [Predicate.words]
      exact presentWords_ne_nil field
  | group inner =>
      rw [Predicate.words]
      exact List.cons_ne_nil _ _
end

/-- Words between a parenthesis that opens and one that closes. -/
theorem intercalate_enclosed {inner : List String} (nonempty : inner ≠ []) :
    " ".intercalate ("(" :: (inner ++ [")"])) = "( " ++ " ".intercalate inner ++ " )" := by
  have opening : "( " = "(" ++ " " := rfl
  have closing : " )" = " " ++ ")" := rfl
  rw [String.intercalate_cons_of_ne_nil (List.append_ne_nil_of_left_ne_nil nonempty _),
    String.intercalate_append_of_ne_nil nonempty (List.cons_ne_nil _ _),
    String.intercalate_singleton, opening, closing]
  simp only [String.append_assoc]

mutual
theorem Expr.intercalate_words (expr : Expr) :
    " ".intercalate (expr.words schema snapshot) = expr.condition schema snapshot := by
  cases expr with
  | predicate predicate =>
      rw [Expr.words, Expr.condition]
      exact predicate.intercalate_words
  | junction left joint right =>
      rw [Expr.words, Expr.condition,
        String.intercalate_append_of_ne_nil left.words_ne_nil (List.cons_ne_nil _ _),
        String.intercalate_cons_of_ne_nil right.words_ne_nil, left.intercalate_words,
        right.intercalate_words]
      simp only [String.append_assoc]

theorem Predicate.intercalate_words (predicate : Predicate) :
    " ".intercalate (predicate.words schema snapshot) =
      predicate.condition schema snapshot := by
  cases predicate with
  | comparison comparison =>
      rw [Predicate.words, Predicate.condition]
      exact comparison.operator.intercalate_words _ _
  | not inner =>
      have opening : "NOT ( " = "NOT" ++ (" " ++ "( ") := rfl
      rw [Predicate.words, Predicate.condition,
        String.intercalate_cons_of_ne_nil (List.cons_ne_nil _ _),
        intercalate_enclosed inner.words_ne_nil, inner.intercalate_words, opening]
      simp only [String.append_assoc]
  | present field =>
      rw [Predicate.words, Predicate.condition]
      exact intercalate_presentWords field
  | group inner =>
      rw [Predicate.words, Predicate.condition, intercalate_enclosed inner.words_ne_nil,
        inner.intercalate_words]
end

/-! ## The words are found again -/

theorem solid_operand {operand : Operand} (lexed : operand.token.IsLexed) :
    IsSolid operand.text := by
  cases operand with
  | field name => exact solid_identifier (by decide) lexed
  | number text => exact solid_number lexed
  | literal text => exact solid_literal lexed

theorem solid_operandTexts {comparison : Comparison}
    (left : comparison.left.token.IsLexed) (right : comparison.right.token.IsLexed) :
    IsSolid (comparison.operandTexts schema snapshot).1 ∧
      IsSolid (comparison.operandTexts schema snapshot).2 := by
  unfold Comparison.operandTexts
  split
  · exact ⟨solid_identifier (by decide) left, solid_identifier (by decide) right⟩
  · exact ⟨solid_resolve schema snapshot _ left, solid_operand right⟩
  · exact ⟨solid_operand left, solid_resolve schema snapshot _ right⟩
  · exact ⟨solid_operand left, solid_operand right⟩

theorem solid_operatorWords (operator : Operator) {left right : String}
    (leftSolid : IsSolid left) (rightSolid : IsSolid right) :
    ∀ word ∈ operator.words left right, IsSolid word := by
  have calling : IsSolid "match(" := .ofList (by decide)
  have comma : IsSolid "," := .ofList (by decide)
  have closing : IsSolid ")" := .ofList (by decide)
  have ilike : IsSolid "ILIKE" := .ofList (by decide)
  have negated : IsSolid "NOT" := .ofList (by decide)
  have spelling : IsSolid operator.spelling := by
    cases operator <;> exact .ofList (by decide)
  unfold Operator.words
  split <;>
    simp only [List.forall_mem_cons, List.not_mem_nil, false_implies, implies_true, and_true]
  · exact ⟨(calling.append leftSolid).append comma, rightSolid.append closing⟩
  · exact ⟨leftSolid, ilike, rightSolid⟩
  · exact ⟨leftSolid, negated, ilike, rightSolid⟩
  · exact ⟨leftSolid, spelling, rightSolid⟩

theorem solid_presentWords {field : String} (named : isIdentifier field = true) :
    ∀ word ∈ presentWords schema field, IsSolid word := by
  have quote : Solid .none .literal "'" := .ofList (by decide)
  have closing : Solid .literal .none "')" := .ofList (by decide)
  have key := (quote.append (solid_identifier (by decide) named)).append closing
  have calling : IsSolid "mapContains(" := .ofList (by decide)
  have opening : IsSolid "(mapContains(" := .ofList (by decide)
  have comma : IsSolid "," := .ofList (by decide)
  have strings := (opening.append (solid_mapColumn .string)).append comma
  have numbers := (calling.append (solid_mapColumn .number)).append comma
  have equals : IsSolid "=" := .ofList (by decide)
  have one : IsSolid "1" := .ofList (by decide)
  have oneClosing : IsSolid "1)" := .ofList (by decide)
  have either : IsSolid "OR" := .ofList (by decide)
  have is : IsSolid "IS" := .ofList (by decide)
  have not : IsSolid "NOT" := .ofList (by decide)
  have null : IsSolid "NULL" := .ofList (by decide)
  unfold presentWords
  split <;>
    simp only [List.forall_mem_cons, List.not_mem_nil, false_implies, implies_true, and_true]
  · exact ⟨solid_identifier (by decide) named, is, not, null⟩
  · exact ⟨strings, key, equals, one, either, numbers, key, equals, oneClosing⟩

theorem solid_joint (joint : Junction) : IsSolid joint.sql := by
  cases joint with
  | and => exact .ofList (by decide)
  | or => exact .ofList (by decide)

mutual
theorem Expr.solid_words (expr : Expr) (lexed : expr.IsLexed) :
    ∀ word ∈ expr.words schema snapshot, IsSolid word := by
  cases expr with
  | predicate predicate =>
      rw [Expr.words]
      exact predicate.solid_words lexed.predicate
  | junction left joint right =>
      rcases lexed.junction with ⟨leftLexed, rightLexed⟩
      rw [Expr.words]
      exact List.forall_mem_append.mpr ⟨left.solid_words leftLexed,
        List.forall_mem_cons.mpr ⟨solid_joint joint, right.solid_words rightLexed⟩⟩

theorem Predicate.solid_words (predicate : Predicate) (lexed : predicate.IsLexed) :
    ∀ word ∈ predicate.words schema snapshot, IsSolid word := by
  have opening : IsSolid "(" := .ofList (by decide)
  have closing : ∀ word ∈ [")"], IsSolid word :=
    List.forall_mem_singleton.mpr (.ofList (by decide))
  cases predicate with
  | comparison comparison =>
      rcases lexed.comparison with ⟨leftLexed, rightLexed⟩
      rcases solid_operandTexts leftLexed rightLexed with ⟨leftSolid, rightSolid⟩
      rw [Predicate.words]
      exact solid_operatorWords comparison.operator leftSolid rightSolid
  | not inner =>
      have negated : IsSolid "NOT" := .ofList (by decide)
      rw [Predicate.words]
      exact List.forall_mem_cons.mpr ⟨negated, List.forall_mem_cons.mpr ⟨opening,
        List.forall_mem_append.mpr ⟨inner.solid_words lexed.not, closing⟩⟩⟩
  | present field =>
      rw [Predicate.words]
      exact solid_presentWords lexed.present
  | group inner =>
      rw [Predicate.words]
      exact List.forall_mem_cons.mpr ⟨opening,
        List.forall_mem_append.mpr ⟨inner.solid_words lexed.group, closing⟩⟩
end

/-! ## The parts are found again -/

/-- The reader takes exactly these words for one condition. -/
def IsCondition (words : List String) : Prop :=
  ∃ first others, words = first :: others ∧ first ≠ "(" ∧
    ¬(first = "NOT" ∧ others.head? = some "(") ∧
      others.length = furtherWords first others.head? + 1

theorem readPieces_inside (index : Nat) (taken others rest : List String) {more : Nat}
    (counted : others.length = more + 1) :
    readPieces index (.inside more taken) (others ++ rest) =
      (readPieces (index + 1) .joint rest).map
        (.condition index (" ".intercalate (taken ++ others)) :: ·) := by
  induction others generalizing taken more with
  | nil => contradiction
  | cons word others induction =>
      cases more with
      | zero =>
          have last : others = [] := List.eq_nil_of_length_eq_zero (Nat.succ.inj counted)
          rw [last]
          rfl
      | succ more =>
          rw [List.cons_append, readPieces, induction _ (Nat.succ.inj counted),
            List.append_assoc, List.singleton_append]

theorem readPieces_condition (index : Nat) {words : List String}
    (condition : IsCondition words) (rest : List String) :
    readPieces index .operand (words ++ rest) =
      (readPieces (index + 1) .joint rest).map
        (.condition index (" ".intercalate words) :: ·) := by
  rcases condition with ⟨first, others, rfl, noParen, noNegation, counted⟩
  have sameHead : (others ++ rest).head? = others.head? := by
    cases others with
    | nil => contradiction
    | cons second others => rfl
  rw [List.cons_append, readPieces, if_neg noParen, sameHead, if_neg noNegation,
    readPieces_inside index _ _ rest counted, List.singleton_append]

theorem startsWith_eq_false {text : String} (noCall : NoCall text) :
    startsWith "(mapContains(" text = false ∧ startsWith "match(" text = false ∧
      text ≠ "(" := by
  refine ⟨isPrefixOf_eq_false_of_noCall noCall (by decide) (by decide),
    isPrefixOf_eq_false_of_noCall noCall (by decide) (by decide), ?_⟩
  rintro rfl
  exact noCall (by decide)

/-- A text that starts like this call is no other word. -/
theorem ne_of_startsWith {start text other : String} (starts : startsWith start text = true)
    (different : startsWith start other = false) : text ≠ other := by
  rintro rfl
  rw [starts] at different
  contradiction

theorem startsWith_append (start rest : String) : startsWith start (start ++ rest) = true := by
  rw [startsWith, String.toList_append, List.isPrefixOf_iff_prefix]
  exact List.prefix_append _ _

theorem isCondition_operatorWords (operator : Operator) {left : String} (right : String)
    (noCall : NoCall left) : IsCondition (operator.words left right) := by
  rcases startsWith_eq_false noCall with ⟨noExists, noMatch, noParen⟩
  unfold Operator.words
  split
  · have starts : startsWith "match(" ("match(" ++ left ++ ",") = true := by
      rw [String.append_assoc]
      exact startsWith_append _ _
    have noOther : startsWith "(mapContains(" ("match(" ++ left ++ ",") = false := by
      rw [startsWith, String.toList_append, String.toList_append]
      rfl
    refine ⟨_, _, rfl, ne_of_startsWith starts (by decide), fun negated => ?_, ?_⟩
    · exact ne_of_startsWith starts (by decide) negated.1
    · rw [furtherWords, noOther, starts]
      rfl
  · refine ⟨_, _, rfl, noParen, by simp, ?_⟩
    simp [furtherWords, noExists, noMatch]
  · refine ⟨_, _, rfl, noParen, by simp, ?_⟩
    simp [furtherWords, noExists, noMatch]
  · have spelled : operator.spelling ≠ "(" ∧ operator.spelling ≠ "IS" ∧
        operator.spelling ≠ "NOT" := by
      cases operator <;> decide
    refine ⟨_, _, rfl, noParen, by simp [spelled], ?_⟩
    simp [furtherWords, noExists, noMatch, spelled]

theorem isCondition_presentWords {field : String} (named : isIdentifier field = true) :
    IsCondition (presentWords schema field) := by
  unfold presentWords
  split
  · rcases startsWith_eq_false (noCall_identifier named) with ⟨noExists, noMatch, noParen⟩
    refine ⟨_, _, rfl, noParen, by simp, ?_⟩
    simp [furtherWords, noExists, noMatch]
  · have starts : startsWith "(mapContains("
        ("(mapContains(" ++ FieldKind.string.mapColumn ++ ",") = true := by
      rw [String.append_assoc]
      exact startsWith_append _ _
    refine ⟨_, _, rfl, ne_of_startsWith starts (by decide), fun negated => ?_, ?_⟩
    · exact ne_of_startsWith starts (by decide) negated.1
    · rw [furtherWords, starts]
      rfl

theorem noCall_operand {operand : Operand} (lexed : operand.token.IsLexed) :
    NoCall operand.text := by
  cases operand with
  | field name => exact noCall_identifier lexed
  | number text => exact noCall_number lexed
  | literal text => exact noCall_literal lexed

theorem noCall_leftText {comparison : Comparison} (lexed : comparison.left.token.IsLexed) :
    NoCall (comparison.operandTexts schema snapshot).1 := by
  unfold Comparison.operandTexts
  split
  · exact noCall_identifier lexed
  · exact noCall_resolve schema snapshot _ lexed
  · exact noCall_operand lexed
  · exact noCall_operand lexed

theorem readPieces_joint (index : Nat) (joint : Junction) (rest : List String) :
    readPieces index .joint (joint.sql :: rest) =
      (readPieces index .operand rest).map (joint.piece :: ·) := by
  cases joint with
  | and => rfl
  | or => rfl

theorem readPieces_opening (index : Nat) (rest : List String) :
    readPieces index .operand ("(" :: rest) =
      (readPieces index .operand rest).map (.opening :: ·) := by
  rw [readPieces, if_pos rfl]

theorem readPieces_not (index : Nat) (rest : List String) :
    readPieces index .operand ("NOT" :: "(" :: rest) =
      (readPieces index .operand ("(" :: rest)).map (.not :: ·) := by
  rw [readPieces, if_neg (by decide), if_pos ⟨rfl, rfl⟩]

theorem readPieces_closing (index : Nat) (rest : List String) :
    readPieces index .joint (")" :: rest) =
      (readPieces index .joint rest).map (.closing :: ·) := by
  rw [readPieces, if_pos rfl]

mutual
theorem Expr.readPieces_words (expr : Expr) (lexed : expr.IsLexed) (first : Nat)
    (rest : List String) :
    readPieces first .operand (expr.words schema snapshot ++ rest) =
      (readPieces (first + expr.conditionCount) .joint rest).map
        (expr.pieces schema snapshot first ++ ·) := by
  cases expr with
  | predicate predicate =>
      rw [Expr.words, Expr.conditionCount, Expr.pieces]
      exact predicate.readPieces_words lexed.predicate first rest
  | junction left joint right =>
      rcases lexed.junction with ⟨leftLexed, rightLexed⟩
      rw [Expr.words, Expr.conditionCount, Expr.pieces, List.append_assoc, List.cons_append,
        left.readPieces_words leftLexed, readPieces_joint,
        right.readPieces_words rightLexed, Option.map_map, Option.map_map, Nat.add_assoc]
      congr 1
      funext later
      simp

theorem Predicate.readPieces_words (predicate : Predicate) (lexed : predicate.IsLexed)
    (first : Nat) (rest : List String) :
    readPieces first .operand (predicate.words schema snapshot ++ rest) =
      (readPieces (first + predicate.conditionCount) .joint rest).map
        (predicate.pieces schema snapshot first ++ ·) := by
  cases predicate with
  | comparison comparison =>
      have noCall : NoCall (comparison.operandTexts schema snapshot).1 :=
        noCall_leftText lexed.comparison.1
      have condition := isCondition_operatorWords comparison.operator
        (comparison.operandTexts schema snapshot).2 noCall
      rw [Predicate.words, Predicate.conditionCount, Predicate.pieces]
      refine (readPieces_condition first condition rest).trans ?_
      rw [Operator.intercalate_words]
      rfl
  | not inner =>
      rw [Predicate.words, Predicate.conditionCount, Predicate.pieces, List.cons_append,
        List.cons_append, List.append_assoc, readPieces_not, readPieces_opening,
        inner.readPieces_words lexed.not, List.singleton_append, readPieces_closing,
        Option.map_map, Option.map_map, Option.map_map]
      congr 1
      funext later
      simp
  | present field =>
      have condition : IsCondition (presentWords schema field) :=
        isCondition_presentWords lexed.present
      rw [Predicate.words, Predicate.conditionCount, Predicate.pieces]
      refine (readPieces_condition first condition rest).trans ?_
      rw [intercalate_presentWords]
      rfl
  | group inner =>
      rw [Predicate.words, Predicate.conditionCount, Predicate.pieces, List.cons_append,
        List.append_assoc, readPieces_opening, inner.readPieces_words lexed.group,
        List.singleton_append, readPieces_closing, Option.map_map, Option.map_map]
      congr 1
      funext later
      simp
end

theorem Expr.readPieces_condition (expr : Expr) (lexed : expr.IsLexed) :
    readPieces 0 .operand (Sql.words (expr.condition schema snapshot)) =
      some (expr.pieces schema snapshot 0) := by
  have found : Sql.words (expr.condition schema snapshot) = expr.words schema snapshot := by
    rw [← expr.intercalate_words]
    exact words_intercalate expr.words_ne_nil (expr.solid_words lexed)
  have whole : readPieces 0 .operand (expr.words schema snapshot ++ []) = _ :=
    expr.readPieces_words lexed 0 []
  rw [List.append_nil] at whole
  rw [found, whole]
  simp [readPieces]

theorem Expr.condition_ne_empty (expr : Expr) (lexed : expr.IsLexed) :
    expr.condition schema snapshot ≠ "" := by
  intro empty
  have read : readPieces 0 .operand (Sql.words (expr.condition schema snapshot)) = _ :=
    expr.readPieces_condition lexed
  rw [empty] at read
  contradiction

/-! ## Texts that become conditions -/

theorem parse_eq_ok_iff {input : String} {expr : Expr} :
    parse input = .ok expr ↔
      ∃ lexemes, tokenize input = .ok lexemes ∧ parseLexemes lexemes = .ok expr := by
  unfold parse
  cases tokenize input with
  | error error => simp
  | ok lexemes => cases parsed : parseLexemes lexemes <;> simp [parsed]

theorem lower_eq_ok_iff {expr : Expr} {condition : String} :
    lower schema snapshot expr = .ok condition ↔
      expr.mismatches = [] ∧ condition = expr.condition schema snapshot := by
  unfold lower
  cases expr.mismatches <;> simp [eq_comm]

theorem toCondition_eq_ok_iff {input condition : String} :
    toCondition schema snapshot input = .ok condition ↔
      (Text.isBlankText input = true ∧ condition = "") ∨
      (Text.isBlankText input = false ∧ ∃ expr, parse input = .ok expr ∧
        expr.mismatches = [] ∧ condition = expr.condition schema snapshot) := by
  unfold toCondition
  cases Text.isBlankText input with
  | true => simp
  | false => cases parsed : parse input <;> simp [lower_eq_ok_iff]

/-- Only blank texts become the empty condition. -/
theorem toCondition_eq_empty_iff {input : String} :
    toCondition schema snapshot input = .ok "" ↔ Text.isBlankText input = true := by
  rw [toCondition_eq_ok_iff]
  constructor
  · rintro (⟨blank, _⟩ | ⟨_, expr, parsed, _, empty⟩)
    · exact blank
    · exact absurd empty.symm (expr.condition_ne_empty (parse_sound parsed).2)
  · intro blank
    exact .inl ⟨blank, rfl⟩

end LogQuery.Query
