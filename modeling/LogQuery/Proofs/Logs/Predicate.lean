import LogQuery.Proofs.Logs.FirstPage
import LogQuery.Proofs.Query.Fragment
import LogQuery.Proofs.Sql.Statements
import LogQuery.Proofs.Text.Integers

namespace LogQuery

open Sql

/-! ## The time condition of a row statement

The ranges to show are printed as one condition, which is read back here as the store reads it.
Parentheses that group stand close to the words in it, unlike those of a query. -/

/-- A word without the parentheses that group: each one before it, and behind it those that the
word does not open itself. They become words of their own. -/
def loosen (word : String) : List String :=
  let inner := word.toList.dropWhile (· = '(')
  let closing := inner.count ')' - inner.count '('
  List.replicate (word.length - inner.length) "(" ++
    String.ofList (inner.take (inner.length - closing)) :: List.replicate closing ")"

def ReadsTimesAs (text : String) (formula : Formula) : Prop :=
  ∃ pieces, readPieces 0 .operand ((words text).flatMap loosen) = some pieces ∧
    Reads .disjunction pieces formula

/-- The text that compares the time of a row with a number of seconds. -/
def boundText (mark digits : String) : String :=
  "timestamp " ++ mark ++ " FROM_UNIXTIME(" ++ digits ++ ")"

def BoundHolds (time : ℚ) (text : String) : Prop :=
  ∃ digits bound, Text.DenotesInteger true digits.toList bound ∧
    (text = boundText ">=" digits ∧ (bound : ℚ) ≤ time ∨
      text = boundText "<=" digits ∧ time ≤ (bound : ℚ))

def Sql.Formula.HoldsAt (time : ℚ) : Formula → Prop
  | .condition _ text => BoundHolds time text
  | .not inner => ¬ inner.HoldsAt time
  | .both left right => left.HoldsAt time ∧ right.HoldsAt time
  | .either left right => left.HoldsAt time ∨ right.HoldsAt time

/-! ## Bounds -/

section

variable {time : ℚ} {mark other : String} {seconds : Int}

theorem boundText_inj {digits digits' : String}
    (same : boundText mark digits = boundText other digits')
    (sameLength : mark.toList.length = other.toList.length) :
    mark = other ∧ digits = digits' := by
  have lists := congrArg String.toList same
  simp only [boundText, String.toList_append, List.append_assoc] at lists
  have parts := List.append_inj (List.append_cancel_left lists) sameLength
  refine ⟨String.toList_injective parts.1, String.toList_injective ?_⟩
  exact List.append_cancel_right (List.append_cancel_left parts.2)

theorem denotesInteger_toString (seconds : Int) :
    Text.DenotesInteger true (toString seconds).toList seconds :=
  Text.denotesInteger_toString_iff.mpr ⟨rfl, .inl rfl⟩

theorem boundHolds_least_iff :
    BoundHolds time (boundText ">=" (toString seconds)) ↔ (seconds : ℚ) ≤ time := by
  constructor
  · intro ⟨digits, bound, denotes, compared⟩
    rcases compared with ⟨same, least⟩ | ⟨same, _⟩
    · have digitsSame := (boundText_inj same rfl).2
      rw [← digitsSame] at denotes
      rwa [(denotesInteger_toString seconds).unique denotes]
    · exact absurd (boundText_inj same (by decide)).1 (by decide)
  · intro least
    exact ⟨_, seconds, denotesInteger_toString seconds, .inl ⟨rfl, least⟩⟩

theorem boundHolds_greatest_iff :
    BoundHolds time (boundText "<=" (toString seconds)) ↔ time ≤ (seconds : ℚ) := by
  constructor
  · intro ⟨digits, bound, denotes, compared⟩
    rcases compared with ⟨same, _⟩ | ⟨same, greatest⟩
    · exact absurd (boundText_inj same (by decide)).1 (by decide)
    · have digitsSame := (boundText_inj same rfl).2
      rw [← digitsSame] at denotes
      rwa [(denotesInteger_toString seconds).unique denotes]
  · intro greatest
    exact ⟨_, seconds, denotesInteger_toString seconds, .inr ⟨rfl, greatest⟩⟩

end

/-! ## The words of the condition -/

namespace TimeRange

def words (range : TimeRange) : List String :=
  ["(timestamp", ">=", unixTime range.first, "AND", "timestamp", "<=",
    unixTime range.last ++ ")"]

def looseWords (range : TimeRange) : List String :=
  ["(", "timestamp", ">=", unixTime range.first, "AND", "timestamp", "<=",
    unixTime range.last, ")"]

def pieces (range : TimeRange) (index : Nat) : List Piece :=
  [.opening, .condition index (boundText ">=" (toString range.first)), .and,
    .condition (index + 1) (boundText "<=" (toString range.last)), .closing]

def formula (range : TimeRange) (index : Nat) : Formula :=
  .both (.condition index (boundText ">=" (toString range.first)))
    (.condition (index + 1) (boundText "<=" (toString range.last)))

end TimeRange

/-- The words of the ranges after the first one. -/
def alternativeWords (ranges : List TimeRange) : List String :=
  ranges.flatMap fun range => "OR" :: range.words

theorem TimeRange.intercalate_words (range : TimeRange) :
    " ".intercalate range.words = range.condition := by
  have opening : "(timestamp >= " = "(timestamp" ++ (" " ++ (">=" ++ " ")) := rfl
  have between : " AND timestamp <= " =
      " " ++ ("AND" ++ (" " ++ ("timestamp" ++ (" " ++ ("<=" ++ " "))))) := rfl
  unfold words condition
  rw [opening, between]
  simp only [String.intercalate_cons_cons, String.intercalate_singleton, String.append_assoc]

theorem TimeRange.words_ne_nil (range : TimeRange) : range.words ≠ [] :=
  List.cons_ne_nil _ _

theorem intercalate_alternativeWords (range : TimeRange) (ranges : List TimeRange) :
    " ".intercalate (range.words ++ alternativeWords ranges) =
      rangesCondition (range :: ranges) := by
  induction ranges generalizing range with
  | nil =>
      rw [alternativeWords, List.flatMap_nil, List.append_nil, range.intercalate_words,
        rangesCondition, List.map_singleton, String.intercalate_singleton]
  | cons next ranges induction =>
      have either : " OR " = " " ++ ("OR" ++ " ") := rfl
      have later : alternativeWords (next :: ranges) =
          "OR" :: (next.words ++ alternativeWords ranges) := rfl
      have behind : next.words ++ alternativeWords ranges ≠ [] :=
        List.append_ne_nil_of_left_ne_nil next.words_ne_nil _
      rw [later, String.intercalate_append_of_ne_nil range.words_ne_nil (List.cons_ne_nil _ _),
        String.intercalate_cons_of_ne_nil behind, induction next, range.intercalate_words]
      simp only [rangesCondition, List.map_cons, String.intercalate_cons_cons, either,
        String.append_assoc]

/-! Digits and signs are neither blanks nor marks, so the words are found again. -/

theorem isNumberPart_toString {seconds : Int} :
    ∀ character ∈ (toString seconds).toList, isNumberPart character = true := by
  intro character member
  rcases (denotesInteger_toString seconds).isDigit_or_isSign character member with
    digit | plus | minus
  · rw [isNumberPart, digit, Bool.true_or]
  · rw [plus]
    decide
  · rw [minus]
    decide

theorem isSolid_unixTime (seconds : Int) : IsSolid (unixTime seconds) := by
  have opening : IsSolid "FROM_UNIXTIME(" := .ofList (by decide)
  have closing : IsSolid ")" := .ofList (by decide)
  have number : IsSolid (toString seconds) := by
    rw [← String.ofList_toList (s := toString seconds)]
    apply Solid.plain (by decide)
    intro character member
    exact notMem_of_any_eq_false (by decide) (isNumberPart_toString character member)
  exact (opening.append number).append closing

theorem isSolid_words {range : TimeRange} : ∀ word ∈ range.words, IsSolid word := by
  have closing : IsSolid ")" := .ofList (by decide)
  have last := (isSolid_unixTime range.last).append closing
  simp only [TimeRange.words, List.forall_mem_cons]
  exact ⟨.ofList (by decide), .ofList (by decide), isSolid_unixTime range.first,
    .ofList (by decide), .ofList (by decide), .ofList (by decide), last, nofun⟩

theorem words_rangesCondition (range : TimeRange) (ranges : List TimeRange) :
    words (rangesCondition (range :: ranges)) = range.words ++ alternativeWords ranges := by
  rw [← intercalate_alternativeWords]
  apply words_intercalate (List.append_ne_nil_of_left_ne_nil range.words_ne_nil _)
  intro word member
  rcases List.mem_append.mp member with first | later
  · exact isSolid_words word first
  · rcases List.mem_flatMap.mp later with ⟨range, _, member⟩
    rcases List.mem_cons.mp member with joint | member
    · rw [joint]
      exact .ofList (by decide)
    · exact isSolid_words word member

/-! Parentheses that a word opens itself stay with it. -/

theorem loosen_append {word : String} {first : Char} {rest : List Char}
    (begins : word.toList = first :: rest) (bare : first ≠ '(')
    (paired : word.toList.count ')' = word.toList.count '(') (closing : Nat) :
    loosen (word ++ String.ofList (List.replicate closing ')')) =
      word :: List.replicate closing ")" := by
  have text : (word ++ String.ofList (List.replicate closing ')')).toList =
      word.toList ++ List.replicate closing ')' := by
    rw [String.toList_append, String.toList_ofList]
  have unopened : (word.toList ++ List.replicate closing ')').dropWhile (· = '(') =
      word.toList ++ List.replicate closing ')' := by
    rw [begins, List.cons_append, List.dropWhile_cons_of_neg (by simpa using bare)]
  have unpaired : '(' ∉ List.replicate closing ')' := by simp [List.mem_replicate]
  have excess : (word.toList ++ List.replicate closing ')').count ')' -
      (word.toList ++ List.replicate closing ')').count '(' = closing := by
    rw [List.count_append, List.count_append, paired, List.count_replicate_self,
      List.count_eq_zero.mpr unpaired, Nat.add_zero, Nat.add_sub_cancel_left]
  unfold loosen
  dsimp only
  rw [text, unopened, excess, ← String.length_toList, text, List.length_append,
    List.length_replicate, Nat.sub_self, Nat.add_sub_cancel, List.take_left,
    String.ofList_toList]
  rfl

theorem loosen_unixTime (seconds : Int) (closing : Nat) :
    loosen (unixTime seconds ++ String.ofList (List.replicate closing ')')) =
      unixTime seconds :: List.replicate closing ")" := by
  have text : (unixTime seconds).toList =
      "FROM_UNIXTIME(".toList ++ (toString seconds).toList ++ [')'] := by
    have closing : ")".toList = [')'] := rfl
    unfold unixTime
    rw [String.toList_append, String.toList_append, closing]
  have opened : '(' ∉ (toString seconds).toList := by
    intro member
    have part := isNumberPart_toString _ member
    contradiction
  have closed : ')' ∉ (toString seconds).toList := by
    intro member
    have part := isNumberPart_toString _ member
    contradiction
  have paired : (unixTime seconds).toList.count ')' = (unixTime seconds).toList.count '(' := by
    rw [text]
    simp only [List.count_append, List.count_eq_zero.mpr opened, List.count_eq_zero.mpr closed]
    decide
  exact loosen_append (text.trans rfl) (by decide) paired closing

theorem flatMap_loosen_words (range : TimeRange) :
    range.words.flatMap loosen = range.looseWords := by
  have opening : loosen "(timestamp" = ["(", "timestamp"] := by decide
  have first := loosen_unixTime range.first 0
  have last := loosen_unixTime range.last 1
  have fixed : ∀ word ∈ [">=", "AND", "timestamp", "<="], loosen word = [word] := by decide
  rw [List.replicate_zero, String.ofList_nil, String.append_empty] at first
  change loosen (unixTime range.last ++ ")") = [unixTime range.last, ")"] at last
  simp only [List.forall_mem_cons] at fixed
  rcases fixed with ⟨least, joint, column, greatest, _⟩
  simp only [TimeRange.words, List.flatMap_cons, List.flatMap_nil, opening, least, first, joint,
    column, greatest, last]
  rfl

theorem flatMap_loosen_alternativeWords (ranges : List TimeRange) :
    (alternativeWords ranges).flatMap loosen =
      ranges.flatMap fun range => "OR" :: range.looseWords := by
  have joint : loosen "OR" = ["OR"] := by decide
  induction ranges with
  | nil => rfl
  | cons range ranges induction =>
      have later : alternativeWords (range :: ranges) =
          "OR" :: (range.words ++ alternativeWords ranges) := rfl
      rw [later, List.flatMap_cons, joint, List.flatMap_append, flatMap_loosen_words, induction]
      rfl

/-! ## The reading of the condition -/

def alternativePieces : (index : Nat) → List TimeRange → List Piece
  | _, [] => []
  | index, range :: ranges => .or :: (range.pieces index ++ alternativePieces (index + 2) ranges)

/-- The ranges are joined from the left. -/
def alternatives (left : Formula) : (index : Nat) → List TimeRange → Formula
  | _, [] => left
  | index, range :: ranges => alternatives (.either left (range.formula index)) (index + 2) ranges

theorem readPieces_bound (index : Nat) (mark : String) (seconds : Int)
    (marked : mark ≠ "IS" ∧ mark ≠ "NOT") (rest : List String) :
    readPieces index .operand ("timestamp" :: mark :: unixTime seconds :: rest) =
      (readPieces (index + 1) .joint rest).map
        (.condition index (boundText mark (toString seconds)) :: ·) := by
  have condition : Query.IsCondition ["timestamp", mark, unixTime seconds] := by
    refine ⟨_, _, rfl, by decide, fun negated => absurd negated.1 (by decide), ?_⟩
    rw [List.head?_cons, furtherWords, if_neg (by decide), if_neg (by decide),
      if_neg (by simpa using marked)]
    rfl
  have text : " ".intercalate ["timestamp", mark, unixTime seconds] =
      boundText mark (toString seconds) := by
    have before : "timestamp " = "timestamp" ++ " " := rfl
    have behind : " FROM_UNIXTIME(" = " " ++ "FROM_UNIXTIME(" := rfl
    unfold boundText unixTime
    rw [before, behind]
    simp only [String.intercalate_cons_cons, String.intercalate_singleton, String.append_assoc]
  rw [← text]
  exact Query.readPieces_condition index condition rest

theorem readPieces_looseWords (range : TimeRange) (index : Nat) (rest : List String) :
    readPieces index .operand (range.looseWords ++ rest) =
      (readPieces (index + 2) .joint rest).map (range.pieces index ++ ·) := by
  have joint (rest : List String) : readPieces (index + 1) .joint ("AND" :: rest) =
      (readPieces (index + 1) .operand rest).map (.and :: ·) := rfl
  simp only [TimeRange.looseWords, List.cons_append, List.nil_append]
  rw [Query.readPieces_opening, readPieces_bound index ">=" range.first (by decide), joint,
    readPieces_bound (index + 1) "<=" range.last (by decide), Query.readPieces_closing]
  simp only [Option.map_map]
  rfl

theorem readPieces_alternatives (ranges : List TimeRange) (index : Nat) :
    readPieces index .joint (ranges.flatMap fun range => "OR" :: range.looseWords) =
      some (alternativePieces index ranges) := by
  induction ranges generalizing index with
  | nil => rfl
  | cons range ranges induction =>
      have joint (rest : List String) : readPieces index .joint ("OR" :: rest) =
          (readPieces index .operand rest).map (.or :: ·) := rfl
      rw [List.flatMap_cons, List.cons_append, joint, readPieces_looseWords, induction]
      rfl

theorem TimeRange.reads_pieces (range : TimeRange) (index : Nat) :
    Reads .conjunction (range.pieces index) (range.formula index) :=
  .conjunction (.group (.disjunction (.both (.conjunction (.condition _ _)) (.condition _ _))))

theorem reads_alternatives {front : List Piece} {left : Formula}
    (read : Reads .disjunction front left) (index : Nat) (ranges : List TimeRange) :
    Reads .disjunction (front ++ alternativePieces index ranges)
      (alternatives left index ranges) := by
  induction ranges generalizing front left index with
  | nil =>
      rw [alternativePieces, List.append_nil]
      exact read
  | cons range ranges induction =>
      have joined := induction (.either read (range.reads_pieces index)) (index + 2)
      rwa [List.append_assoc, List.cons_append] at joined

theorem holdsAt_formula {range : TimeRange} {index : Nat} {time : ℚ} :
    (range.formula index).HoldsAt time ↔ range.Holds time :=
  and_congr boundHolds_least_iff boundHolds_greatest_iff

theorem holdsAt_alternatives {left : Formula} {index : Nat} {ranges : List TimeRange} {time : ℚ} :
    (alternatives left index ranges).HoldsAt time ↔ left.HoldsAt time ∨ IsShown ranges time := by
  induction ranges generalizing left index with
  | nil => simp [alternatives, IsShown]
  | cons range ranges induction =>
      rw [alternatives, induction, Formula.HoldsAt, holdsAt_formula, or_assoc]
      simp [IsShown]

theorem readsTimesAs_rangesCondition (range : TimeRange) (ranges : List TimeRange) :
    ReadsTimesAs (rangesCondition (range :: ranges))
      (alternatives (range.formula 0) 2 ranges) := by
  refine ⟨range.pieces 0 ++ alternativePieces 2 ranges, ?_,
    reads_alternatives (.disjunction (range.reads_pieces 0)) 2 ranges⟩
  rw [words_rangesCondition, List.flatMap_append, flatMap_loosen_words,
    flatMap_loosen_alternativeWords, readPieces_looseWords, readPieces_alternatives]
  rfl

theorem readsTimesAs_unique {text : String} {first second : Formula}
    (one : ReadsTimesAs text first) (other : ReadsTimesAs text second) : first = second := by
  rcases one with ⟨pieces, read, readsFirst⟩
  rcases other with ⟨others, readOthers, readsSecond⟩
  have same : pieces = others := Option.some.inj (read.symm.trans readOthers)
  subst same
  exact reads_unique readsFirst readsSecond

/-- The condition on time stands in parentheses of its own in the row statement. -/
theorem encloses_rangesCondition {schema : Schema}
    (named : Query.isIdentifier schema.database = true) (plan : LogsPlan) (limit : Nat)
    (ranges : List TimeRange) :
    Encloses (rowStatement schema plan limit ranges) " WHERE (" (rangesCondition ranges) := by
  have selecting : IsPiece "SELECT " := .ofList (by decide)
  have source : IsPiece " FROM " := .ofList (by decide)
  have opening : Passes outside ⟨.none, [')']⟩ " WHERE (" := .ofList (by decide)
  have front := ((selecting.append isPiece_rowColumns).append source).append
    (isPiece_table named)
  refine ⟨(isPiece_rangesCondition ranges).isContained,
    "SELECT " ++ ", ".intercalate rowColumns ++ " FROM " ++ schema.table,
    joinedCondition plan.condition ++ " ORDER BY " ++ plan.order.clause schema ++ " LIMIT " ++
      limit.repr ++ " " ++ settingsClause, ?_, (front.append opening).reaches⟩
  unfold rowStatement
  simp only [String.append_assoc]

/-- A row statement asks for the rows of its ranges: its condition on time has one reading, which
holds at a time if and only if one of the ranges does. -/
theorem rowStatement_reads_ranges {schema : Schema}
    (named : Query.isIdentifier schema.database = true) (plan : LogsPlan) (limit : Nat)
    {ranges : List TimeRange} (nonempty : ranges ≠ []) :
    Encloses (rowStatement schema plan limit ranges) " WHERE (" (rangesCondition ranges) ∧
    ∃ formula, ReadsTimesAs (rangesCondition ranges) formula ∧
      (∀ other, ReadsTimesAs (rangesCondition ranges) other → other = formula) ∧
      ∀ time, formula.HoldsAt time ↔ IsShown ranges time := by
  refine ⟨encloses_rangesCondition named plan limit ranges, ?_⟩
  cases ranges with
  | nil => contradiction
  | cons range ranges =>
      have reads := readsTimesAs_rangesCondition range ranges
      refine ⟨_, reads, fun other read => readsTimesAs_unique read reads, ?_⟩
      intro time
      rw [holdsAt_alternatives, holdsAt_formula]
      simp [IsShown]

end LogQuery
