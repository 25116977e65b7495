namespace LogQuery.Sql

/-! ## The scan of a statement

A statement is scanned from left to right, as the store reads it. Inside a string
literal a backslash takes the next character with it; a quoted name has no escapes. -/

inductive Quote where
  | none
  | literal
  | escape
  | name
  deriving DecidableEq, Repr

def Quote.next (quote : Quote) (character : Char) : Quote :=
  match quote with
  | .none =>
      if character = '\'' then .literal
      else if character = '`' then .name
      else .none
  | .literal =>
      if character = '\'' then .none
      else if character = '\\' then .escape
      else .literal
  | .escape => .literal
  | .name => if character = '`' then .none else .name

/-- A place in a statement: the quote that it is in, and the brackets that must still
be closed, the innermost first. -/
structure Place where
  quote : Quote
  closers : List Char
  deriving DecidableEq, Repr

def outside : Place := ⟨.none, []⟩

/-! Outside quotes the scan stops at a closing bracket that does not fit, and at every
mark that would end the statement, start a comment or open a quote of another kind. -/

def closersAfter (closers : List Char) (character : Char) : Option (List Char) :=
  if character = '(' then some (')' :: closers)
  else if character = '[' then some (']' :: closers)
  else if character = ')' ∨ character = ']' then
    match closers with
    | [] => none
    | closer :: closers => if character = closer then some closers else none
  else some closers

def isForbidden (last character : Char) : Bool :=
  character = ';' || character = '"' || character = '#' ||
    (character = '-' && last = '-') || (character = '*' && last = '/')

structure Scan where
  place : Place
  last : Char
  deriving DecidableEq, Repr

namespace Scan

def start : Scan := ⟨outside, ' '⟩

def step (scan : Scan) (character : Char) : Option Scan :=
  match scan.place.quote with
  | .none =>
      if isForbidden scan.last character then none
      else
        (closersAfter scan.place.closers character).map fun closers =>
          ⟨⟨Quote.none.next character, closers⟩, character⟩
  | quote => some ⟨⟨quote.next character, scan.place.closers⟩, character⟩

def run (scan : Scan) : List Char → Option Scan
  | [] => some scan
  | character :: rest => (scan.step character).bind fun scan => scan.run rest

theorem run_append (scan : Scan) (left right : List Char) :
    scan.run (left ++ right) = (scan.run left).bind fun middle => middle.run right := by
  induction left generalizing scan with
  | nil => rfl
  | cons character left induction =>
      rw [List.cons_append, run, run, Option.bind_assoc]
      congr 1
      funext next
      exact induction next

end Scan

/-- The scan of the text ends outside quotes, with these brackets still open. -/
def Reaches (closers : List Char) (text : String) : Prop :=
  ∃ last, Scan.start.run text.toList = some ⟨⟨.none, closers⟩, last⟩

/-- The scan of the text ends outside quotes and outside brackets. -/
def IsContained (text : String) : Prop :=
  Reaches [] text

/-! ## What stands around

Brackets that are open around a text, below all that it opens itself, are left as
they are. -/

def Place.within (place : Place) (around : List Char) : Place :=
  ⟨place.quote, place.closers ++ around⟩

def Scan.within (scan : Scan) (around : List Char) : Scan :=
  ⟨scan.place.within around, scan.last⟩

theorem closersAfter_within {closers next : List Char} {character : Char}
    (around : List Char) (closed : closersAfter closers character = some next) :
    closersAfter (closers ++ around) character = some (next ++ around) := by
  unfold closersAfter at closed ⊢
  split at closed
  · next opens => cases closed; rw [if_pos opens]; rfl
  · next noParen =>
      rw [if_neg noParen]
      split at closed
      · next opens => cases closed; rw [if_pos opens]; rfl
      · next noBracket =>
          rw [if_neg noBracket]
          split at closed
          · next closes =>
              rw [if_pos closes]
              cases closers with
              | nil => contradiction
              | cons closer closers =>
                  dsimp only [List.cons_append] at closed ⊢
                  split at closed
                  · next fits => cases closed; rw [if_pos fits]
                  · contradiction
          · next inert => cases closed; rw [if_neg inert]

theorem Scan.step_within {scan next : Scan} {character : Char} (around : List Char)
    (stepped : scan.step character = some next) :
    (scan.within around).step character = some (next.within around) := by
  rcases scan with ⟨⟨quote, closers⟩, last⟩
  cases quote with
  | none =>
      rw [Scan.within, Place.within]
      unfold step at stepped ⊢
      dsimp only at stepped ⊢
      split at stepped
      · contradiction
      · next allowed =>
          rw [if_neg allowed]
          rcases Option.map_eq_some_iff.mp stepped with ⟨rest, closed, rfl⟩
          rw [closersAfter_within around closed]
          rfl
  | literal => cases stepped; rfl
  | escape => cases stepped; rfl
  | name => cases stepped; rfl

theorem Scan.run_within {scan final : Scan} {text : List Char} (around : List Char)
    (ran : scan.run text = some final) :
    (scan.within around).run text = some (final.within around) := by
  induction text generalizing scan with
  | nil => cases ran; rfl
  | cons character text induction =>
      rcases Option.bind_eq_some_iff.mp ran with ⟨next, stepped, ranRest⟩
      rw [Scan.run, Scan.step_within around stepped, Option.bind_some]
      exact induction ranRest

/-! ## Pieces of a statement

A piece takes the scan from one place to another, whatever is open around it and
whatever character stands before it, as long as that is no minus. -/

def Passes (before after : Place) (text : String) : Prop :=
  ∀ around last, last ≠ '-' → ∃ last', last' ≠ '-' ∧
    Scan.run ⟨before.within around, last⟩ text.toList =
      some ⟨after.within around, last'⟩

/-- A piece that starts and ends outside quotes and leaves the brackets balanced. -/
abbrev IsPiece (text : String) : Prop :=
  Passes outside outside text

namespace Passes

variable {before middle after : Place} {left right text : String}

theorem append (first : Passes before middle left) (second : Passes middle after right) :
    Passes before after (left ++ right) := by
  intro around last noMinus
  rcases first around last noMinus with ⟨last', noMinus', ranFirst⟩
  rcases second around last' noMinus' with ⟨last'', noMinus'', ranSecond⟩
  refine ⟨last'', noMinus'', ?_⟩
  rw [String.toList_append, Scan.run_append, ranFirst, Option.bind_some, ranSecond]

theorem empty : Passes before before "" :=
  fun _ last noMinus => ⟨last, noMinus, rfl⟩

theorem reaches {closers : List Char} (passes : Passes outside ⟨.none, closers⟩ text) :
    Reaches closers text := by
  rcases passes [] ' ' (by decide) with ⟨last, _, ran⟩
  refine ⟨last, ran.trans ?_⟩
  rw [Place.within, List.append_nil]

end Passes

theorem IsPiece.inside {text : String} (piece : IsPiece text) (closers : List Char) :
    Passes ⟨.none, closers⟩ ⟨.none, closers⟩ text := by
  intro around last noMinus
  exact piece (closers ++ around) last noMinus

theorem IsPiece.isContained {text : String} (piece : IsPiece text) : IsContained text :=
  piece.reaches

/-! ### Fixed texts

What stands before a text matters only for a star, which may not follow a slash. So
the scan of a fixed text from a blank tells what it does everywhere. -/

def passes (before after : Place) (text : List Char) : Bool :=
  text.head? ≠ some '*' &&
    match Scan.run ⟨before, ' '⟩ text with
    | some scan => scan.place = after && scan.last ≠ '-'
    | none => false

theorem Scan.step_last {place : Place} {last character : Char} (noMinus : last ≠ '-')
    (noStar : character ≠ '*') :
    Scan.step ⟨place, last⟩ character = Scan.step ⟨place, ' '⟩ character := by
  have same : isForbidden last character = isForbidden ' ' character := by
    simp [isForbidden, noMinus, noStar]
  rcases place with ⟨quote, closers⟩
  cases quote with
  | none => simp only [step, same]
  | literal => rfl
  | escape => rfl
  | name => rfl

theorem Passes.ofList {before after : Place} {first : Char} {text : List Char}
    (passed : passes before after (first :: text) = true) :
    Passes before after (String.ofList (first :: text)) := by
  intro around last noMinus
  rw [String.toList_ofList]
  rw [passes, Bool.and_eq_true, List.head?_cons, decide_eq_true_eq] at passed
  rcases passed with ⟨noStar, passed⟩
  split at passed
  · next scan ran =>
      rw [Bool.and_eq_true, decide_eq_true_eq, decide_eq_true_eq] at passed
      rcases passed with ⟨rfl, noMinus'⟩
      refine ⟨scan.last, noMinus', ?_⟩
      have fromBlank := Scan.run_within around ran
      rw [Scan.run, Scan.step_last noMinus (ne_of_apply_ne some noStar)]
      exact fromBlank
  · contradiction

/-! ### Plain texts

Outside escapes, a character that is none of these marks leaves the scan where it is. -/

def marks : List Char :=
  ['\'', '`', '\\', '(', '[', ')', ']', ';', '"', '#', '-', '*']

theorem notMem_of_any_eq_false {excluded : List Char} {isPart : Char → Bool}
    (none : excluded.any isPart = false) {character : Char} (part : isPart character = true) :
    character ∉ excluded :=
  fun member => List.any_eq_false.mp none character member part

theorem Scan.step_plain {place : Place} (noEscape : place.quote ≠ .escape)
    {last character : Char} (plain : character ∉ marks) :
    Scan.step ⟨place, last⟩ character = some ⟨place, character⟩ := by
  simp only [marks, List.mem_cons, List.not_mem_nil, or_false, not_or] at plain
  rcases place with ⟨quote, closers⟩
  cases quote with
  | none => simp [step, isForbidden, closersAfter, Quote.next, plain]
  | literal => simp [step, Quote.next, plain]
  | escape => exact absurd rfl noEscape
  | name => simp [step, Quote.next, plain]

theorem Scan.run_plain {place : Place} (noEscape : place.quote ≠ .escape)
    {first : Char} {text : List Char}
    (plain : ∀ character ∈ first :: text, character ∉ marks) (last : Char) :
    ∃ last', last' ∉ marks ∧ Scan.run ⟨place, last⟩ (first :: text) = some ⟨place, last'⟩ := by
  induction text generalizing first last with
  | nil =>
      refine ⟨first, plain first List.mem_cons_self, ?_⟩
      rw [run, step_plain noEscape (plain first List.mem_cons_self), Option.bind_some, run]
  | cons second text induction =>
      rw [run, step_plain noEscape (plain first List.mem_cons_self), Option.bind_some]
      exact induction (fun character member =>
        plain character (List.mem_cons_of_mem first member)) first

theorem ne_minus_of_notMem_marks {character : Char} (plain : character ∉ marks) :
    character ≠ '-' := by
  rintro rfl
  exact plain (by decide)

theorem Passes.plain {place : Place} (noEscape : place.quote ≠ .escape) {text : List Char}
    (plain : ∀ character ∈ text, character ∉ marks) :
    Passes place place (String.ofList text) := by
  intro around last noMinus
  rw [String.toList_ofList]
  cases text with
  | nil => exact ⟨last, noMinus, rfl⟩
  | cons first text =>
      have stays : (place.within around).quote ≠ .escape := noEscape
      rcases Scan.run_plain stays plain last with ⟨last', plain', ran⟩
      exact ⟨last', ne_minus_of_notMem_marks plain', ran⟩

/-! ### Joined pieces -/

/-- A piece between an opening text and the text that closes what it opened. -/
theorem IsPiece.enclosed {closers : List Char} {opening text closing : String}
    (opens : Passes outside ⟨.none, closers⟩ opening) (piece : IsPiece text)
    (closes : Passes ⟨.none, closers⟩ outside closing) :
    IsPiece (opening ++ text ++ closing) :=
  (opens.append (piece.inside closers)).append closes

theorem IsPiece.intercalate {separator : String} (between : IsPiece separator)
    {texts : List String} (pieces : ∀ text ∈ texts, IsPiece text) :
    IsPiece (separator.intercalate texts) := by
  induction texts with
  | nil => exact .empty
  | cons head tail induction =>
      rcases List.forall_mem_cons.mp pieces with ⟨headPiece, tailPieces⟩
      cases tail with
      | nil => exact headPiece
      | cons second tail =>
          rw [String.intercalate_cons_cons]
          exact (headPiece.append between).append (induction tailPieces)

/-! ## Parts of a statement

A part stands in a text between two pieces. -/

def StandsIn (part text : String) : Prop :=
  ∃ front back, text = front ++ part ++ back ∧ IsPiece front ∧ IsPiece back

namespace StandsIn

variable {part text other : String}

theorem behind {front : String} (piece : IsPiece front) : StandsIn part (front ++ part) :=
  ⟨front, "", by rw [String.append_empty], piece, .empty⟩

theorem append {back : String} (stands : StandsIn part text) (piece : IsPiece back) :
    StandsIn part (text ++ back) := by
  rcases stands with ⟨front, behind, rfl, frontPiece, behindPiece⟩
  exact ⟨front, behind ++ back, by rw [String.append_assoc], frontPiece,
    behindPiece.append piece⟩

theorem trans (inner : StandsIn part other) (outer : StandsIn other text) :
    StandsIn part text := by
  rcases inner with ⟨front, back, rfl, frontPiece, backPiece⟩
  rcases outer with ⟨before, after, rfl, beforePiece, afterPiece⟩
  refine ⟨before ++ front, back ++ after, ?_, beforePiece.append frontPiece,
    backPiece.append afterPiece⟩
  simp only [String.append_assoc]

theorem isPiece (stands : StandsIn part text) (piece : IsPiece part) : IsPiece text := by
  rcases stands with ⟨front, back, rfl, frontPiece, backPiece⟩
  exact (frontPiece.append piece).append backPiece

theorem intercalate {separator : String} (between : IsPiece separator)
    {texts : List String} (pieces : ∀ text ∈ texts, IsPiece text) (member : part ∈ texts) :
    StandsIn part (separator.intercalate texts) := by
  induction texts with
  | nil => contradiction
  | cons head tail induction =>
      rcases List.forall_mem_cons.mp pieces with ⟨headPiece, tailPieces⟩
      cases tail with
      | nil =>
          rw [List.mem_singleton] at member
          rw [member]
          exact ⟨"", "", by simp, .empty, .empty⟩
      | cons second tail =>
          rw [String.intercalate_cons_cons]
          rcases List.mem_cons.mp member with rfl | later
          · exact ⟨"", separator ++ separator.intercalate (second :: tail), by
              simp [String.append_assoc], .empty,
              between.append (IsPiece.intercalate between tailPieces)⟩
          · exact (induction tailPieces later).trans (.behind (headPiece.append between))

end StandsIn

/-- The condition stands alone between the opening text and the parenthesis that closes
it. -/
def Encloses (statement opening condition : String) : Prop :=
  IsContained condition ∧ ∃ front back,
    statement = front ++ opening ++ condition ++ ")" ++ back ∧
      Reaches [')'] (front ++ opening)

theorem StandsIn.encloses {statement opening condition : String}
    (stands : StandsIn (opening ++ condition ++ ")") statement)
    (opens : Passes outside ⟨.none, [')']⟩ opening) (piece : IsPiece condition) :
    Encloses statement opening condition := by
  rcases stands with ⟨front, back, rfl, frontPiece, backPiece⟩
  refine ⟨piece.isContained, front, back, ?_, (frontPiece.append opens).reaches⟩
  simp only [String.append_assoc]

end LogQuery.Sql
