import LogQuery.Proofs.Sql.Words

namespace LogQuery.Sql

/-! ## The parts of a condition

A parenthesis that stands as a word of its own groups, and `NOT` in front of such a
parenthesis negates. All else at the place of an operand belongs to one comparison or
one test for a field, and its first words tell how many words it has. -/

inductive Piece where
  | condition (index : Nat) (text : String)
  | not
  | and
  | or
  | opening
  | closing
  deriving DecidableEq, Repr

/-- What the next word is taken for. Inside a condition the words that were taken are
kept, and the number of words that come after the next one. -/
inductive Expected where
  | operand
  | inside (more : Nat) (taken : List String)
  | joint
  deriving DecidableEq, Repr

def startsWith (start word : String) : Bool :=
  start.toList.isPrefixOf word.toList

/-- How many words a condition has after its second one. -/
def furtherWords (first : String) (second : Option String) : Nat :=
  if startsWith "(mapContains(" first then 7
  else if startsWith "match(" first then 0
  else if second = some "IS" ∨ second = some "NOT" then 2
  else 1

/-- The conditions are numbered from the left. -/
def readPieces : (index : Nat) → Expected → List String → Option (List Piece)
  | _, .joint, [] => some []
  | _, .operand, [] => none
  | _, .inside _ _, [] => none
  | index, .operand, word :: rest =>
      if word = "(" then (readPieces index .operand rest).map (.opening :: ·)
      else if word = "NOT" ∧ rest.head? = some "(" then
        (readPieces index .operand rest).map (.not :: ·)
      else readPieces index (.inside (furtherWords word rest.head?) [word]) rest
  | index, .inside 0 taken, word :: rest =>
      (readPieces (index + 1) .joint rest).map
        (.condition index (" ".intercalate (taken ++ [word])) :: ·)
  | index, .inside (more + 1) taken, word :: rest =>
      readPieces index (.inside more (taken ++ [word])) rest
  | index, .joint, word :: rest =>
      if word = ")" then (readPieces index .joint rest).map (.closing :: ·)
      else if word = "AND" then (readPieces index .operand rest).map (.and :: ·)
      else if word = "OR" then (readPieces index .operand rest).map (.or :: ·)
      else none

/-! ## The reading of a condition

Parentheses bind first, then `NOT`, then `AND`, then `OR`; both junctions lean to the
left. -/

inductive Formula where
  | condition (index : Nat) (text : String)
  | not (inner : Formula)
  | both (left right : Formula)
  | either (left right : Formula)
  deriving DecidableEq, Repr

namespace Formula

def conditions : Formula → List (Nat × String)
  | .condition index text => [(index, text)]
  | .not inner => inner.conditions
  | .both left right => left.conditions ++ right.conditions
  | .either left right => left.conditions ++ right.conditions

/-- The truth value, given the values of the conditions by their numbers. -/
def value (assignment : Nat → Bool) : Formula → Bool
  | .condition index _ => assignment index
  | .not inner => !inner.value assignment
  | .both left right => left.value assignment && right.value assignment
  | .either left right => left.value assignment || right.value assignment

end Formula

inductive Level where
  | negation
  | conjunction
  | disjunction

inductive Reads : Level → List Piece → Formula → Prop
  | condition (index : Nat) (text : String) :
      Reads .negation [.condition index text] (.condition index text)
  | not {pieces : List Piece} {formula : Formula} :
      Reads .negation pieces formula → Reads .negation (.not :: pieces) (.not formula)
  | group {pieces : List Piece} {formula : Formula} :
      Reads .disjunction pieces formula →
        Reads .negation (.opening :: (pieces ++ [.closing])) formula
  | conjunction {pieces : List Piece} {formula : Formula} :
      Reads .negation pieces formula → Reads .conjunction pieces formula
  | both {front back : List Piece} {left right : Formula} :
      Reads .conjunction front left → Reads .negation back right →
        Reads .conjunction (front ++ .and :: back) (.both left right)
  | disjunction {pieces : List Piece} {formula : Formula} :
      Reads .conjunction pieces formula → Reads .disjunction pieces formula
  | either {front back : List Piece} {left right : Formula} :
      Reads .disjunction front left → Reads .conjunction back right →
        Reads .disjunction (front ++ .or :: back) (.either left right)

def ReadsAs (text : String) (formula : Formula) : Prop :=
  ∃ pieces, readPieces 0 .operand (words text) = some pieces ∧
    Reads .disjunction pieces formula

/-! ## There is at most one reading

A machine follows the pieces from left to right. For each parenthesis that is open it
keeps the alternatives that are complete, the conjunction that is not, and the number of
negations that wait for their operand. -/

structure Frame where
  alternatives : Option Formula
  conjunction : Option Formula
  negations : Nat

namespace Frame

def empty : Frame := ⟨none, none, 0⟩

def negate : Nat → Formula → Formula
  | 0, formula => formula
  | count + 1, formula => negate count (.not formula)

def operand (frame : Frame) (formula : Formula) : Frame :=
  let negated := negate frame.negations formula
  match frame.conjunction with
  | none => ⟨frame.alternatives, some negated, 0⟩
  | some left => ⟨frame.alternatives, some (.both left negated), 0⟩

def result? (frame : Frame) : Option Formula :=
  match frame.alternatives with
  | none => frame.conjunction
  | some left => frame.conjunction.map (.either left ·)

end Frame

def follow : Frame × List Frame → Piece → Option (Frame × List Frame)
  | (frame, outer), .condition index text =>
      some (frame.operand (.condition index text), outer)
  | (frame, outer), .not => some ({ frame with negations := frame.negations + 1 }, outer)
  | (frame, outer), .and => some (frame, outer)
  | (frame, outer), .or => frame.result?.map fun left => (⟨some left, none, 0⟩, outer)
  | (frame, outer), .opening => some (.empty, frame :: outer)
  | (frame, parent :: outer), .closing =>
      frame.result?.map fun inner => (parent.operand inner, outer)
  | (_, []), .closing => none

/-- What the machine makes of pieces that have a reading. -/
def Level.Follows : Level → List Piece → Formula → Prop
  | .negation, pieces, formula => ∀ frame outer,
      pieces.foldlM follow (frame, outer) = some (frame.operand formula, outer)
  | .conjunction, pieces, formula => ∀ alternatives outer,
      pieces.foldlM follow (⟨alternatives, none, 0⟩, outer) =
        some (⟨alternatives, some formula, 0⟩, outer)
  | .disjunction, pieces, formula => ∀ outer, ∃ frame,
      pieces.foldlM follow (.empty, outer) = some (frame, outer) ∧
        frame.result? = some formula

theorem follows_of_reads {level : Level} {pieces : List Piece} {formula : Formula}
    (reads : Reads level pieces formula) : level.Follows pieces formula := by
  induction reads with
  | condition index text =>
      intro frame outer
      rfl
  | not reads induction =>
      intro frame outer
      rw [List.foldlM_cons]
      exact induction _ outer
  | group reads induction =>
      intro frame outer
      rcases induction (frame :: outer) with ⟨inner, followed, finished⟩
      rw [List.foldlM_cons]
      change (_ ++ [Piece.closing]).foldlM follow (Frame.empty, frame :: outer) = _
      rw [List.foldlM_append, followed]
      change (inner.result?.map fun formula => (frame.operand formula, outer)).bind some = _
      rw [finished]
      rfl
  | conjunction reads induction =>
      intro alternatives outer
      exact induction ⟨alternatives, none, 0⟩ outer
  | both front back inductionFront inductionBack =>
      intro alternatives outer
      rw [List.foldlM_append, inductionFront alternatives outer]
      exact inductionBack ⟨alternatives, some _, 0⟩ outer
  | disjunction reads induction =>
      intro outer
      exact ⟨_, induction none outer, rfl⟩
  | @either front back left right front back inductionFront inductionBack =>
      intro outer
      rcases inductionFront outer with ⟨frame, followed, finished⟩
      refine ⟨⟨some left, some right, 0⟩, ?_, rfl⟩
      rw [List.foldlM_append, followed]
      change ((frame.result?.map fun left => ((⟨some left, none, 0⟩ : Frame), outer)).bind
        fun state => _) = _
      rw [finished]
      exact inductionBack (some left) outer

/-- Pieces have one reading at most. -/
theorem reads_unique {pieces : List Piece} {first second : Formula}
    (one : Reads .disjunction pieces first) (other : Reads .disjunction pieces second) :
    first = second := by
  rcases follows_of_reads one [] with ⟨frame, followed, finished⟩
  rcases follows_of_reads other [] with ⟨frame', followed', finished'⟩
  have sameFrame : (frame, ([] : List Frame)) = (frame', []) :=
    Option.some.inj (followed.symm.trans followed')
  cases sameFrame
  exact Option.some.inj (finished.symm.trans finished')

theorem readsAs_unique {text : String} {first second : Formula}
    (one : ReadsAs text first) (other : ReadsAs text second) : first = second := by
  rcases one with ⟨pieces, read, readsFirst⟩
  rcases other with ⟨others, readOthers, readsSecond⟩
  have same : pieces = others := Option.some.inj (read.symm.trans readOthers)
  subst same
  exact reads_unique readsFirst readsSecond

end LogQuery.Sql
