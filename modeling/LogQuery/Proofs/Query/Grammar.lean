import LogQuery.Proofs.Outcome
import LogQuery.Proofs.Query.Written

namespace LogQuery.Query

namespace Cursor

/-! A parser takes a cursor to a later one. What lies between them is a list of
tokens, and a number of junctions that were spent on the way. -/

structure Passes (cursor : Cursor) (tokens : List Token) (junctions : Nat)
    (after : Cursor) : Prop where
  lexemes : ∃ passed, cursor.lexemes = passed ++ after.lexemes ∧
    passed.map Lexeme.token = tokens
  junctions : cursor.junctions = junctions + after.junctions

theorem lexemes_eq_cons {cursor : Cursor} (present : cursor.peek.token ≠ .endOfInput) :
    cursor.lexemes = cursor.peek :: cursor.advance.lexemes := by
  rcases cursor with ⟨_ | ⟨first, rest⟩, junctions⟩
  · exact absurd rfl present
  · unfold advance
    split
    · next ended => exact absurd ended present
    · rfl

@[simp] theorem junctions_advance (cursor : Cursor) :
    cursor.advance.junctions = cursor.junctions := by
  unfold advance
  split <;> rfl

theorem advance_cons {first : Lexeme} {rest : List Lexeme} {junctions : Nat}
    (present : first.token ≠ .endOfInput) :
    advance ⟨first :: rest, junctions⟩ = ⟨rest, junctions⟩ := by
  unfold advance
  split
  · next ended => exact absurd ended present
  · rfl

theorem passes_nil_iff {cursor after : Cursor} :
    cursor.Passes [] 0 after ↔ after = cursor := by
  constructor
  · rintro ⟨⟨passed, split, written⟩, spent⟩
    rw [List.map_eq_nil_iff.mp written, List.nil_append] at split
    rw [Nat.zero_add] at spent
    rcases cursor with ⟨lexemes, junctions⟩
    rcases after with ⟨rest, left⟩
    subst split spent
    rfl
  · rintro rfl
    exact ⟨⟨[], rfl, rfl⟩, (Nat.zero_add _).symm⟩

theorem passes_cons_iff {cursor after : Cursor} {token : Token} {tokens : List Token}
    {junctions : Nat} (written : token ≠ .endOfInput) :
    cursor.Passes (token :: tokens) junctions after ↔
      cursor.peek.token = token ∧ cursor.advance.Passes tokens junctions after := by
  constructor
  · rintro ⟨⟨passed, split, same⟩, spent⟩
    rcases cursor with ⟨lexemes, left⟩
    rcases List.map_eq_cons_iff.mp same with ⟨first, rest, rfl, rfl, rfl⟩
    change lexemes = first :: (rest ++ after.lexemes) at split
    subst split
    refine ⟨rfl, ?_⟩
    rw [advance_cons written]
    exact ⟨⟨rest, rfl, rfl⟩, spent⟩
  · rintro ⟨rfl, ⟨passed, split, same⟩, spent⟩
    refine ⟨⟨cursor.peek :: passed, ?_, ?_⟩, ?_⟩
    · rw [lexemes_eq_cons written, split, List.cons_append]
    · rw [List.map_cons, same]
    · rw [← spent, junctions_advance]

theorem passes_append_iff {cursor after : Cursor} {early late : List Token}
    {first second : Nat} :
    cursor.Passes (early ++ late) (first + second) after ↔
      ∃ middle, cursor.Passes early first middle ∧ middle.Passes late second after := by
  constructor
  · rintro ⟨⟨passed, split, same⟩, spent⟩
    rcases List.map_eq_append_iff.mp same with ⟨earlier, later, rfl, rfl, rfl⟩
    refine ⟨⟨later ++ after.lexemes, second + after.junctions⟩, ?_, ?_⟩
    · exact ⟨⟨earlier, by rw [split, List.append_assoc], rfl⟩,
        by rw [spent, Nat.add_assoc]⟩
    · exact ⟨⟨later, rfl, rfl⟩, rfl⟩
  · rintro ⟨middle, ⟨⟨earlier, left, rfl⟩, spentFirst⟩, ⟨later, right, rfl⟩, spentSecond⟩
    refine ⟨⟨earlier ++ later, ?_, List.map_append⟩, ?_⟩
    · rw [left, right, List.append_assoc]
    · rw [spentFirst, spentSecond, Nat.add_assoc]

/-- A junction that is spent is no longer there behind its keyword. -/
theorem passes_spend_iff {cursor after : Cursor} {tokens : List Token}
    {junctions left : Nat} (held : cursor.junctions = left + 1) :
    cursor.Passes tokens (junctions + 1) after ↔
      Passes { cursor with junctions := left } tokens junctions after := by
  constructor
  · rintro ⟨lexemes, spent⟩
    exact ⟨lexemes, by change left = _; omega⟩
  · rintro ⟨lexemes, spent⟩
    change left = _ at spent
    exact ⟨lexemes, by omega⟩

theorem junction?_eq_some_iff {cursor : Cursor} {joint : Junction} :
    cursor.junction? = some joint ↔ cursor.peek.token = .keyword joint.keyword := by
  unfold junction?
  cases joint <;> split <;> simp_all [Junction.keyword]

end Cursor

/-! What it means that a tree was read between two cursors, with `depth` levels of
groups and negations to be opened. -/

structure Predicate.Spans (depth : Nat) (cursor : Cursor) (predicate : Predicate)
    (after : Cursor) : Prop where
  passes : cursor.Passes predicate.written predicate.junctionCount after
  folded : predicate.isLeftFolded = true
  shallow : predicate.depth ≤ depth

structure Expr.Spans (depth : Nat) (cursor : Cursor) (expr : Expr) (after : Cursor) :
    Prop where
  passes : cursor.Passes expr.written expr.junctionCount after
  folded : expr.isLeftFolded = true
  shallow : expr.depth ≤ depth

/-- A parser that reads a predicate exactly where one is written. -/
def Recognizes (depth : Nat) (parse : Parser Predicate) : Prop :=
  ∀ cursor predicate after,
    parse cursor = .ok (predicate, after) ↔ predicate.Spans depth cursor after

theorem Expr.spans_predicate_iff {depth : Nat} {cursor after : Cursor}
    {predicate : Predicate} :
    (Expr.predicate predicate).Spans depth cursor after ↔
      predicate.Spans depth cursor after :=
  ⟨fun ⟨passes, folded, shallow⟩ => ⟨passes, folded, shallow⟩,
    fun ⟨passes, folded, shallow⟩ => ⟨passes, folded, shallow⟩⟩

theorem Expr.spans_junction_iff {depth : Nat} {cursor after : Cursor} {left : Expr}
    {joint : Junction} {right : Predicate} :
    (Expr.junction left joint (.predicate right)).Spans depth cursor after ↔
      ∃ middle junctions, left.Spans depth cursor middle ∧
        middle.junction? = some joint ∧ middle.junctions = junctions + 1 ∧
        right.Spans depth { middle.advance with junctions } after := by
  have counted : (Expr.junction left joint (.predicate right)).junctionCount =
      left.junctionCount + (right.junctionCount + 1) := by
    simp only [Expr.junctionCount]
    omega
  constructor
  · rintro ⟨passes, folded, shallow⟩
    rw [counted, Expr.written, Cursor.passes_append_iff] at passes
    rcases passes with ⟨middle, before, behind⟩
    rw [Cursor.passes_cons_iff (by simp)] at behind
    rcases behind with ⟨keyword, rest⟩
    have held : middle.advance.junctions =
        (right.junctionCount + after.junctions) + 1 := by
      rw [rest.junctions]
      omega
    simp only [Expr.isLeftFolded, Expr.isPredicate, Bool.true_and, Bool.and_eq_true]
      at folded
    have depths := Nat.max_le.mp shallow
    refine ⟨middle, right.junctionCount + after.junctions,
      ⟨before, folded.1, depths.1⟩, Cursor.junction?_eq_some_iff.mpr keyword, ?_, ?_,
      folded.2, depths.2⟩
    · rw [← held, Cursor.junctions_advance]
    · exact (Cursor.passes_spend_iff held).mp rest
  · rintro ⟨middle, junctions, ⟨before, leftFolded, leftShallow⟩, keyword, held, behind,
      rightFolded, rightShallow⟩
    refine ⟨?_, ?_, Nat.max_le.mpr ⟨leftShallow, rightShallow⟩⟩
    · rw [counted, Expr.written, Cursor.passes_append_iff]
      refine ⟨middle, before, (Cursor.passes_cons_iff (by simp)).mpr ⟨?_, ?_⟩⟩
      · exact Cursor.junction?_eq_some_iff.mp keyword
      · exact (Cursor.passes_spend_iff (by rw [Cursor.junctions_advance, held])).mpr behind
    · simp [Expr.isLeftFolded, Expr.isPredicate, leftFolded, rightFolded]

/-! ## Chains

The chain reader is a loop that folds to the left, so a chain is followed along its
left spine: the loop stands behind a tree exactly when the tree was read. -/

theorem parseChain_sound {depth : Nat} {parse : Parser Predicate}
    (recognizes : Recognizes depth parse) (start : Cursor) :
    ∀ {budget : Nat} {left expr : Expr} {cursor after : Cursor},
      left.Spans depth start cursor →
      parseChain parse budget left cursor = .ok (expr, after) →
      expr.Spans depth start after ∧ after.junction? = none := by
  intro budget
  induction budget with
  | zero =>
      intro left expr cursor after spans parsed
      unfold parseChain at parsed
      split at parsed
      · next ended =>
          cases parsed
          exact ⟨spans, ended⟩
      · contradiction
  | succ budget induction =>
      intro left expr cursor after spans parsed
      unfold parseChain at parsed
      split at parsed
      · next ended =>
          cases parsed
          exact ⟨spans, ended⟩
      · contradiction
      · next joint junctions found held =>
          rcases bind_eq_ok_iff.mp parsed with ⟨⟨right, behind⟩, parsedRight, parsedRest⟩
          have rightSpans := (recognizes _ _ _).mp parsedRight
          refine induction ?_ parsedRest
          exact Expr.spans_junction_iff.mpr
            ⟨cursor, junctions, spans, found, held, rightSpans⟩

theorem parseChain_of_none {parse : Parser Predicate} {budget : Nat} {left : Expr}
    {cursor : Cursor} (ended : cursor.junction? = none) :
    parseChain parse budget left cursor = .ok (left, cursor) := by
  cases budget <;> simp [parseChain, ended]

theorem parseChain_of_some {parse : Parser Predicate} {budget junctions : Nat}
    {left : Expr} {joint : Junction} {right : Predicate} {cursor after : Cursor}
    (found : cursor.junction? = some joint) (held : cursor.junctions = junctions + 1)
    (parsed : parse { cursor.advance with junctions } = .ok (right, after)) :
    parseChain parse (budget + 1) left cursor =
      parseChain parse budget (.junction left joint (.predicate right)) after := by
  rw [parseChain]
  simp only [found, held]
  rw [parsed]
  rfl

/-- Reading a chain goes through every tree on its left spine. The budget never runs
out before the junctions do. -/
theorem parseJoined_eq_parseChain {depth : Nat} {parse : Parser Predicate}
    (recognizes : Recognizes depth parse) {start after : Cursor} :
    ∀ {expr : Expr}, expr.Spans depth start after →
      ∃ budget, after.junctions ≤ budget ∧
        parseJoined parse start = parseChain parse budget expr after
  | .predicate predicate, spans => by
      have parsed := (recognizes _ _ _).mpr (Expr.spans_predicate_iff.mp spans)
      refine ⟨after.junctions, Nat.le_refl _, ?_⟩
      rw [parseJoined, parsed]
      rfl
  | .junction left joint (.predicate right), spans => by
      rcases Expr.spans_junction_iff.mp spans with
        ⟨middle, junctions, leftSpans, found, held, rightSpans⟩
      rcases parseJoined_eq_parseChain recognizes leftSpans with
        ⟨budget, enough, reached⟩
      have parsed := (recognizes _ _ _).mpr rightSpans
      have spent : junctions = right.junctionCount + after.junctions :=
        rightSpans.passes.junctions
      cases budget with
      | zero => omega
      | succ budget =>
          refine ⟨budget, by omega, ?_⟩
          rw [reached, parseChain_of_some found held parsed]
  | .junction _ _ (.junction ..), spans => by
      have folded := spans.folded
      contradiction

theorem parseJoined_eq_ok_iff {depth : Nat} {parse : Parser Predicate}
    (recognizes : Recognizes depth parse) {cursor after : Cursor} {expr : Expr} :
    parseJoined parse cursor = .ok (expr, after) ↔
      expr.Spans depth cursor after ∧ after.junction? = none := by
  constructor
  · intro parsed
    rcases bind_eq_ok_iff.mp parsed with ⟨⟨first, behind⟩, parsedFirst, parsedRest⟩
    have firstSpans := (recognizes _ _ _).mp parsedFirst
    exact parseChain_sound recognizes cursor
      (Expr.spans_predicate_iff.mpr firstSpans) parsedRest
  · rintro ⟨spans, ended⟩
    rcases parseJoined_eq_parseChain recognizes spans with ⟨budget, _, reached⟩
    rw [reached, parseChain_of_none ended]

/-! ## Predicates

What each of the readers of a predicate accepts is read off its definition. -/

theorem operandOf_eq_ok_iff {lexeme : Lexeme} {operand : Operand} :
    operandOf lexeme = .ok operand ↔ lexeme.token = operand.token := by
  unfold operandOf
  cases operand <;> split <;> simp_all [Operand.token]

theorem parseComparison_eq_ok_iff {first : Lexeme} {cursor after : Cursor}
    {predicate : Predicate} :
    parseComparison first cursor = .ok (predicate, after) ↔
      ∃ comparison, predicate = .comparison comparison ∧
        first.token = comparison.left.token ∧
        cursor.Passes [.operator comparison.operator, comparison.right.token] 0 after := by
  constructor
  · intro parsed
    rcases bind_eq_ok_iff.mp parsed with ⟨left, parsedLeft, parsedRest⟩
    split at parsedRest
    · next operator found =>
        dsimp only at parsedRest
        split at parsedRest
        · contradiction
        · rcases bind_eq_ok_iff.mp parsedRest with ⟨right, parsedRight, finished⟩
          cases finished
          refine ⟨⟨left, operator, right⟩, rfl, operandOf_eq_ok_iff.mp parsedLeft, ?_⟩
          rw [Cursor.passes_cons_iff (by simp),
            Cursor.passes_cons_iff right.token_ne_endOfInput, Cursor.passes_nil_iff]
          exact ⟨found, operandOf_eq_ok_iff.mp parsedRight, rfl⟩
    · contradiction
  · rintro ⟨⟨left, operator, right⟩, rfl, written, passes⟩
    rw [Cursor.passes_cons_iff (by simp),
      Cursor.passes_cons_iff right.token_ne_endOfInput, Cursor.passes_nil_iff] at passes
    rcases passes with ⟨found, followed, rfl⟩
    have present : cursor.advance.peek.token ≠ .endOfInput :=
      fun ended => right.token_ne_endOfInput (followed.symm.trans ended)
    refine bind_eq_ok_iff.mpr ⟨left, operandOf_eq_ok_iff.mpr written, ?_⟩
    rw [found]
    dsimp only
    split
    · next ended => exact absurd ended present
    · exact bind_eq_ok_iff.mpr ⟨right, operandOf_eq_ok_iff.mpr followed, rfl⟩

theorem parsePresence_eq_ok_iff {cursor after : Cursor} {predicate : Predicate} :
    parsePresence cursor = .ok (predicate, after) ↔
      ∃ field, predicate = .present field ∧
        cursor.Passes [.identifier field] 0 after := by
  unfold parsePresence
  split
  · next name found =>
      constructor
      · intro parsed
        cases parsed
        refine ⟨name, rfl, ?_⟩
        rw [Cursor.passes_cons_iff (by simp), Cursor.passes_nil_iff]
        exact ⟨found, rfl⟩
      · rintro ⟨field, rfl, passes⟩
        rw [Cursor.passes_cons_iff (by simp), Cursor.passes_nil_iff, found] at passes
        rcases passes with ⟨same, rfl⟩
        cases same
        rfl
  · next other =>
      constructor
      · intro parsed
        contradiction
      · rintro ⟨field, rfl, passes⟩
        rw [Cursor.passes_cons_iff (by simp)] at passes
        exact absurd passes.1 (other field)

theorem parseClosing_eq_ok_iff {opening : Lexeme} {inner : Expr}
    {cursor after : Cursor} {predicate : Predicate} :
    parseClosing opening inner cursor = .ok (predicate, after) ↔
      predicate = .group inner ∧ cursor.Passes [.closeParen] 0 after := by
  rw [Cursor.passes_cons_iff (by simp), Cursor.passes_nil_iff]
  unfold parseClosing
  split
  · next found =>
      simp only [found, true_and, Except.ok.injEq, Prod.mk.injEq]
      exact ⟨fun ⟨same, last⟩ => ⟨same.symm, last.symm⟩,
        fun ⟨same, last⟩ => ⟨same.symm, last.symm⟩⟩
  · next found => simp [found]
  · next other _ =>
      constructor
      · intro parsed
        contradiction
      · rintro ⟨_, closed, _⟩
        exact absurd closed other

/-! A predicate is told by its first token, and what lies behind that token is what
the reader for its kind accepts. -/

namespace Predicate

theorem spans_comparison_iff {depth : Nat} {cursor after : Cursor}
    {comparison : Comparison} :
    (Predicate.comparison comparison).Spans depth cursor after ↔
      cursor.peek.token = comparison.left.token ∧ cursor.advance.Passes
        [.operator comparison.operator, comparison.right.token] 0 after := by
  rw [← Cursor.passes_cons_iff comparison.left.token_ne_endOfInput]
  exact ⟨Spans.passes, fun passes => ⟨passes, rfl, Nat.zero_le _⟩⟩

theorem spans_present_iff {depth : Nat} {cursor after : Cursor} {field : String} :
    (Predicate.present field).Spans depth cursor after ↔
      cursor.peek.token = .keyword .present ∧
        cursor.advance.Passes [.identifier field] 0 after := by
  rw [← Cursor.passes_cons_iff (by simp)]
  exact ⟨Spans.passes, fun passes => ⟨passes, rfl, Nat.zero_le _⟩⟩

theorem spans_not_iff {depth : Nat} {cursor after : Cursor} {inner : Predicate} :
    inner.not.Spans (depth + 1) cursor after ↔
      cursor.peek.token = .keyword .not ∧ inner.Spans depth cursor.advance after := by
  constructor
  · rintro ⟨passes, folded, shallow⟩
    rw [written, Cursor.passes_cons_iff (by simp)] at passes
    exact ⟨passes.1, passes.2, folded, Nat.le_of_succ_le_succ shallow⟩
  · rintro ⟨found, passes, folded, shallow⟩
    refine ⟨?_, folded, Nat.succ_le_succ shallow⟩
    rw [written, Cursor.passes_cons_iff (by simp)]
    exact ⟨found, passes⟩

theorem spans_group_iff {depth : Nat} {cursor after : Cursor} {inner : Expr} :
    (Predicate.group inner).Spans (depth + 1) cursor after ↔
      cursor.peek.token = .openParen ∧ ∃ middle,
        inner.Spans depth cursor.advance middle ∧
          middle.Passes [.closeParen] 0 after := by
  constructor
  · rintro ⟨passes, folded, shallow⟩
    rw [written, Cursor.passes_cons_iff (by simp), junctionCount,
      ← Nat.add_zero inner.junctionCount, Cursor.passes_append_iff] at passes
    rcases passes with ⟨found, middle, inside, closing⟩
    exact ⟨found, middle, ⟨inside, folded, Nat.le_of_succ_le_succ shallow⟩, closing⟩
  · rintro ⟨found, middle, ⟨inside, folded, shallow⟩, closing⟩
    refine ⟨?_, folded, Nat.succ_le_succ shallow⟩
    rw [written, Cursor.passes_cons_iff (by simp), junctionCount,
      ← Nat.add_zero inner.junctionCount, Cursor.passes_append_iff]
    exact ⟨found, middle, inside, closing⟩

end Predicate

theorem Cursor.junction?_eq_none_of_closing {cursor after : Cursor}
    (closing : cursor.Passes [.closeParen] 0 after) : cursor.junction? = none := by
  rw [passes_cons_iff (by simp)] at closing
  unfold junction?
  rw [closing.1]

theorem parsePredicate_sound {depth : Nat} {cursor after : Cursor}
    {predicate : Predicate}
    (recognizes : ∀ smaller, depth = smaller + 1 →
      Recognizes smaller (parsePredicate smaller))
    (parsed : parsePredicate depth cursor = .ok (predicate, after)) :
    predicate.Spans depth cursor after := by
  unfold parsePredicate at parsed
  dsimp only at parsed
  split at parsed
  · next smaller opened =>
      rcases bind_eq_ok_iff.mp parsed with ⟨⟨inner, middle⟩, parsedInner, closed⟩
      have inside := (parseJoined_eq_ok_iff (recognizes smaller rfl)).mp parsedInner
      rcases parseClosing_eq_ok_iff.mp closed with ⟨rfl, closing⟩
      exact Predicate.spans_group_iff.mpr ⟨opened, middle, inside.1, closing⟩
  · next smaller negated =>
      rcases bind_eq_ok_iff.mp parsed with ⟨⟨inner, last⟩, parsedInner, finished⟩
      cases finished
      have inside := (recognizes smaller rfl _ _ _).mp parsedInner
      exact Predicate.spans_not_iff.mpr ⟨negated, inside⟩
  · contradiction
  · contradiction
  · next found =>
      rcases parsePresence_eq_ok_iff.mp parsed with ⟨field, rfl, passes⟩
      exact Predicate.spans_present_iff.mpr ⟨found, passes⟩
  · rcases parseComparison_eq_ok_iff.mp parsed with ⟨comparison, rfl, written, passes⟩
    exact Predicate.spans_comparison_iff.mpr ⟨written, passes⟩

theorem parsePredicate_complete {depth : Nat} {cursor after : Cursor}
    {predicate : Predicate}
    (recognizes : ∀ smaller, depth = smaller + 1 →
      Recognizes smaller (parsePredicate smaller))
    (spans : predicate.Spans depth cursor after) :
    parsePredicate depth cursor = .ok (predicate, after) := by
  unfold parsePredicate
  dsimp only
  cases predicate with
  | comparison comparison =>
      have passes := Predicate.spans_comparison_iff.mp spans
      have parsed := parseComparison_eq_ok_iff.mpr ⟨comparison, rfl, passes⟩
      rcases comparison with ⟨left, operator, right⟩
      cases left <;> simp only [passes.1, Operand.token] <;> exact parsed
  | present field =>
      have passes := Predicate.spans_present_iff.mp spans
      simp only [passes.1]
      exact parsePresence_eq_ok_iff.mpr ⟨field, rfl, passes.2⟩
  | not inner =>
      cases depth with
      | zero => exact absurd spans.shallow (by simp [Predicate.depth])
      | succ smaller =>
          have passes := Predicate.spans_not_iff.mp spans
          simp only [passes.1]
          exact bind_eq_ok_iff.mpr
            ⟨_, (recognizes smaller rfl _ _ _).mpr passes.2, rfl⟩
  | group inner =>
      cases depth with
      | zero => exact absurd spans.shallow (by simp [Predicate.depth])
      | succ smaller =>
          rcases Predicate.spans_group_iff.mp spans with
            ⟨opened, middle, inside, closing⟩
          simp only [opened]
          refine bind_eq_ok_iff.mpr ⟨(inner, middle), ?_, ?_⟩
          · exact (parseJoined_eq_ok_iff (recognizes smaller rfl)).mpr
              ⟨inside, Cursor.junction?_eq_none_of_closing closing⟩
          · exact parseClosing_eq_ok_iff.mpr ⟨rfl, closing⟩

theorem recognizes_parsePredicate :
    ∀ depth, Recognizes depth (parsePredicate depth) := by
  intro depth
  induction depth with
  | zero =>
      intro cursor predicate after
      have none : ∀ smaller, 0 = smaller + 1 →
          Recognizes smaller (parsePredicate smaller) := by
        intro smaller impossible
        contradiction
      exact ⟨parsePredicate_sound none, parsePredicate_complete none⟩
  | succ depth induction =>
      intro cursor predicate after
      have inner : ∀ smaller, depth + 1 = smaller + 1 →
          Recognizes smaller (parsePredicate smaller) := by
        rintro smaller same
        cases same
        exact induction
      exact ⟨parsePredicate_sound inner, parsePredicate_complete inner⟩

/-! ## Whole queries -/

/-- The end of the input stands once in a list of lexemes, as its last. -/
def EndsOnce (lexemes : List Lexeme) : Prop :=
  ∃ tokens, lexemes.map Lexeme.token = tokens ++ [.endOfInput] ∧
    Token.endOfInput ∉ tokens

theorem parseLexemes_spans {lexemes : List Lexeme} {expr : Expr} :
    parseLexemes lexemes = .ok expr ↔
      ∃ after, expr.Spans maxDepth ⟨lexemes, maxJunctions⟩ after ∧
        after.peek.token = .endOfInput := by
  have recognizes := recognizes_parsePredicate maxDepth
  constructor
  · intro parsed
    rcases bind_eq_ok_iff.mp parsed with ⟨⟨read, after⟩, parsedJoined, finished⟩
    have spans := (parseJoined_eq_ok_iff recognizes).mp parsedJoined
    dsimp only at finished
    split at finished
    · next ended =>
        cases finished
        exact ⟨after, spans.1, ended⟩
    · contradiction
    · contradiction
  · rintro ⟨after, spans, ended⟩
    have last : after.junction? = none := by
      unfold Cursor.junction?
      rw [ended]
    refine bind_eq_ok_iff.mpr
      ⟨(expr, after), (parseJoined_eq_ok_iff recognizes).mpr ⟨spans, last⟩, ?_⟩
    simp only [ended]

/-- Nothing can follow the end of the input where it stands only once. -/
theorem lexemes_of_peek_endOfInput {lexemes : List Lexeme} (closed : EndsOnce lexemes)
    {expr : Expr} {junctions : Nat} {cursor after : Cursor}
    (passes : cursor.Passes expr.written junctions after)
    (whole : cursor.lexemes = lexemes) (ended : after.peek.token = .endOfInput) :
    lexemes.map Lexeme.token = expr.written ++ [.endOfInput] := by
  rcases closed with ⟨tokens, split, unended⟩
  rcases passes.lexemes with ⟨passed, cut, written⟩
  rw [← whole, cut, List.map_append, written] at split ⊢
  have unwritten := expr.endOfInput_notMem_written
  rcases after with ⟨_ | ⟨first, rest⟩, left⟩
  · rw [List.map_nil, List.append_nil] at split
    exact absurd (split ▸ List.mem_append_right tokens (List.mem_singleton_self _))
      unwritten
  · change first.token = _ at ended
    rw [List.map_cons, ended] at split ⊢
    rcases List.eq_nil_or_concat rest with rfl | ⟨front, last, rfl⟩
    · rfl
    · rw [List.concat_eq_append, List.map_append, List.map_singleton, ← List.cons_append,
        ← List.append_assoc] at split
      have front := List.append_inj_left' split rfl
      exact absurd (front ▸ List.mem_append_right _ List.mem_cons_self) unended

/-- The parser reads exactly the written trees: those that lean to the left and stay
within the limits on junctions and on nesting. -/
theorem parseLexemes_eq_ok_iff {lexemes : List Lexeme} (closed : EndsOnce lexemes)
    (expr : Expr) :
    parseLexemes lexemes = .ok expr ↔
      lexemes.map Lexeme.token = expr.written ++ [.endOfInput] ∧
        expr.isLeftFolded = true ∧ expr.junctionCount ≤ 1024 ∧ expr.depth ≤ 256 := by
  rw [parseLexemes_spans]
  constructor
  · rintro ⟨after, ⟨passes, folded, shallow⟩, ended⟩
    have spent : maxJunctions = expr.junctionCount + after.junctions := passes.junctions
    refine ⟨lexemes_of_peek_endOfInput closed passes rfl ended, folded, ?_, shallow⟩
    rw [← maxJunctions, spent]
    exact Nat.le_add_right _ _
  · rintro ⟨written, folded, few, shallow⟩
    rcases List.map_eq_append_iff.mp written with ⟨passed, rest, rfl, read, ended⟩
    rcases List.map_eq_singleton_iff.mp ended with ⟨last, rfl, lastEnds⟩
    refine ⟨⟨[last], maxJunctions - expr.junctionCount⟩, ⟨⟨⟨passed, rfl, read⟩, ?_⟩,
      folded, shallow⟩, lastEnds⟩
    exact (Nat.add_sub_cancel' few).symm

/-- A query with a group, a negation and both junctions, read from its text. -/
theorem parseLexemes_grouped_chain :
    ∃ lexemes, tokenize "(a = 1 _or_ b = 2) _and_ _not_ _exists_ c" = .ok lexemes ∧
      EndsOnce lexemes ∧
      parseLexemes lexemes = .ok
        (.junction
          (.predicate (.group (.junction
            (.predicate (.comparison ⟨.field "a", .equal, .number "1"⟩)) .or
            (.predicate (.comparison ⟨.field "b", .equal, .number "2"⟩)))))
          .and (.predicate (.not (.present "c")))) := by
  have closed : EndsOnce
      [⟨.openParen, 0⟩, ⟨.identifier "a", 1⟩, ⟨.operator .equal, 3⟩, ⟨.number "1", 5⟩,
        ⟨.keyword .or, 7⟩, ⟨.identifier "b", 12⟩, ⟨.operator .equal, 14⟩,
        ⟨.number "2", 16⟩, ⟨.closeParen, 17⟩, ⟨.keyword .and, 19⟩, ⟨.keyword .not, 25⟩,
        ⟨.keyword .present, 31⟩, ⟨.identifier "c", 40⟩, ⟨.endOfInput, 41⟩] :=
    ⟨[.openParen, .identifier "a", .operator .equal, .number "1", .keyword .or,
      .identifier "b", .operator .equal, .number "2", .closeParen, .keyword .and,
      .keyword .not, .keyword .present, .identifier "c"], rfl, by decide⟩
  exact ⟨_, eq_ok_of_toOption (by decide +kernel), closed, (parseLexemes_eq_ok_iff closed _).mpr
    ⟨by decide, by decide, by decide, by decide⟩⟩

end LogQuery.Query
