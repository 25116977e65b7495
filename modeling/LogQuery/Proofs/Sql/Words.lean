import LogQuery.Proofs.Query.Contained

namespace LogQuery.Sql

open LogQuery.Query

/-! ## The words of a condition

The text of a condition is cut at the blanks that stand outside quotes. -/

def wordsFrom : Quote → List Char → List (List Char)
  | _, [] => [[]]
  | quote, character :: rest =>
      if quote = .none ∧ character = ' ' then [] :: wordsFrom .none rest
      else (wordsFrom (quote.next character) rest).modifyHead (character :: ·)

def words (text : String) : List String :=
  (wordsFrom .none text.toList).map String.ofList

/-! ## Texts without a cut

A solid text leads from one quote to another and has no blank outside quotes. -/

def solidFrom : Quote → List Char → Option Quote
  | quote, [] => some quote
  | quote, character :: rest =>
      if quote = .none ∧ character = ' ' then none
      else solidFrom (quote.next character) rest

def Solid (before after : Quote) (text : String) : Prop :=
  solidFrom before text.toList = some after

abbrev IsSolid (text : String) : Prop :=
  Solid .none .none text

theorem solidFrom_append (quote : Quote) (left right : List Char) :
    solidFrom quote (left ++ right) =
      (solidFrom quote left).bind fun middle => solidFrom middle right := by
  induction left generalizing quote with
  | nil => rfl
  | cons character left induction =>
      rw [List.cons_append, solidFrom, solidFrom]
      split
      · rfl
      · exact induction (quote.next character)

theorem wordsFrom_append {before after : Quote} {word : List Char}
    (solid : solidFrom before word = some after) (rest : List Char) :
    wordsFrom before (word ++ rest) = (wordsFrom after rest).modifyHead (word ++ ·) := by
  induction word generalizing before with
  | nil =>
      cases solid
      rw [List.nil_append]
      cases wordsFrom _ rest <;> rfl
  | cons character word induction =>
      rw [solidFrom] at solid
      rw [List.cons_append, wordsFrom]
      split at solid
      · contradiction
      · next within =>
          rw [if_neg within, induction solid, List.modifyHead_modifyHead]
          rfl

/-- Solid texts are found again as the words of the text that joins them. -/
theorem words_intercalate {texts : List String} (nonempty : texts ≠ [])
    (solid : ∀ text ∈ texts, IsSolid text) : words (" ".intercalate texts) = texts := by
  have cut : wordsFrom .none (" ".intercalate texts).toList = texts.map String.toList := by
    induction texts with
    | nil => exact absurd rfl nonempty
    | cons head tail induction =>
        rcases List.forall_mem_cons.mp solid with ⟨headSolid, tailSolid⟩
        cases tail with
        | nil =>
            have ends := wordsFrom_append headSolid []
            rw [List.append_nil] at ends
            rw [String.intercalate_singleton, ends]
            simp [wordsFrom]
        | cons second tail =>
            have later := induction (List.cons_ne_nil second tail) tailSolid
            have blank : " ".toList = [' '] := rfl
            rw [String.intercalate_cons_cons, String.toList_append, String.toList_append,
              List.append_assoc, wordsFrom_append headSolid, blank, List.singleton_append,
              wordsFrom, if_pos ⟨rfl, rfl⟩, later, List.modifyHead_cons, List.append_nil]
            rfl
  rw [words, cut, List.map_map]
  simp

namespace Solid

variable {before middle after : Quote} {left right : String}

theorem append (first : Solid before middle left) (second : Solid middle after right) :
    Solid before after (left ++ right) := by
  rw [Solid, String.toList_append, solidFrom_append, first, Option.bind_some]
  exact second

theorem ofList {text : List Char} (solid : solidFrom before text = some after) :
    Solid before after (String.ofList text) := by
  rw [Solid, String.toList_ofList]
  exact solid

end Solid

/-! ## Solid texts of a condition -/

def quoteMarks : List Char :=
  ['\'', '`', '\\', ' ']

theorem Solid.plain {quote : Quote} (noEscape : quote ≠ .escape) {text : List Char}
    (plain : ∀ character ∈ text, character ∉ quoteMarks) :
    Solid quote quote (String.ofList text) := by
  apply Solid.ofList
  induction text with
  | nil => rfl
  | cons character text induction =>
      rcases List.forall_mem_cons.mp plain with ⟨notMark, rest⟩
      simp only [quoteMarks, List.mem_cons, List.not_mem_nil, or_false, not_or] at notMark
      have stays : quote.next character = quote := by
        cases quote with
        | none => simp [Quote.next, notMark]
        | literal => simp [Quote.next, notMark]
        | escape => exact absurd rfl noEscape
        | name => simp [Quote.next, notMark]
      rw [solidFrom, if_neg fun blank => notMark.2.2.2 blank.2, stays]
      exact induction rest

theorem solid_identifier {quote : Quote} (noEscape : quote ≠ .escape) {name : String}
    (named : isIdentifier name = true) : Solid quote quote name := by
  rw [← String.ofList_toList (s := name)]
  apply Solid.plain noEscape
  intro character member
  exact notMem_of_any_eq_false (by decide)
    (isIdentifierPart_of_isIdentifier named character member)

def isNumberPart (character : Char) : Bool :=
  character.isDigit || ['+', '-', '.', 'e', 'E'].contains character

theorem isNumberPart_of_isNumber {text : List Char} (number : IsNumber text) :
    ∀ character ∈ text, isNumberPart character = true := by
  have digits {digits : List Char} (allDigits : IsDigits digits) :
      ∀ character ∈ digits, isNumberPart character = true := by
    intro character member
    rw [isNumberPart, allDigits.2 character member, Bool.true_or]
  have sign {sign : List Char} (signed : IsSign sign) :
      ∀ character ∈ sign, isNumberPart character = true := by
    rcases signed with rfl | rfl | rfl
    · exact List.forall_mem_nil _
    · exact List.forall_mem_singleton.mpr (by decide)
    · exact List.forall_mem_singleton.mpr (by decide)
  rcases number with ⟨_, _, fraction, exponent, rfl, signed, allDigits, fractional,
    exponential⟩
  have inFraction : ∀ character ∈ fraction, isNumberPart character = true := by
    rcases fractional with rfl | ⟨_, rfl, allDigits⟩
    · exact List.forall_mem_nil _
    · exact List.forall_mem_cons.mpr ⟨by decide, digits allDigits⟩
  have inExponent : ∀ character ∈ exponent, isNumberPart character = true := by
    rcases exponential with rfl | ⟨mark, _, _, rfl, marked, signed, allDigits⟩
    · exact List.forall_mem_nil _
    · refine List.forall_mem_cons.mpr ⟨?_, List.forall_mem_append.mpr
        ⟨sign signed, digits allDigits⟩⟩
      rw [isExponentMark, Bool.or_eq_true, decide_eq_true_eq, decide_eq_true_eq] at marked
      rcases marked with rfl | rfl <;> decide
  simp only [List.forall_mem_append]
  exact ⟨⟨⟨sign signed, digits allDigits⟩, inFraction⟩, inExponent⟩

theorem solid_number {text : String} (number : IsNumber text.toList) : IsSolid text := by
  rw [← String.ofList_toList (s := text)]
  apply Solid.plain (by decide)
  intro character member
  exact notMem_of_any_eq_false (by decide) (isNumberPart_of_isNumber number character member)

theorem solidFrom_quotedTail {tail : List Char} (quoted : QuotedTail tail) :
    solidFrom .literal tail = some .none := by
  induction quoted with
  | close => rfl
  | escape escaped quoted induction => exact induction
  | @plain character tail noQuote noEscape quoted induction =>
      have stays : Quote.literal.next character = .literal := by
        rw [Quote.next, if_neg noQuote, if_neg noEscape]
      rw [solidFrom, if_neg (by simp), stays]
      exact induction

theorem solid_literal {text : String} (literal : IsLiteral text.toList) : IsSolid text := by
  rcases literal with ⟨tail, split, quoted⟩
  change solidFrom .none text.toList = some .none
  rw [split]
  exact solidFrom_quotedTail quoted

theorem solid_mapColumn (kind : FieldKind) : IsSolid kind.mapColumn := by
  cases kind with
  | string => exact .ofList (by decide)
  | number => exact .ofList (by decide)

theorem solid_reference (kind : FieldKind) {field : String}
    (named : isIdentifier field = true) : IsSolid (kind.reference field) := by
  have opening : Solid .none .literal "['" := .ofList (by decide)
  have closing : Solid .literal .none "']" := .ofList (by decide)
  have key : Solid .literal .literal field := solid_identifier (by decide) named
  exact (((solid_mapColumn kind).append opening).append key).append closing

theorem solid_resolve (schema : Schema) (snapshot : FieldSnapshot) (context : TypeContext)
    {field : String} (named : isIdentifier field = true) :
    IsSolid (schema.resolve snapshot context field) := by
  unfold Schema.resolve
  split
  · exact solid_identifier (by decide) named
  · cases context with
    | number => exact solid_reference .number named
    | string => exact solid_reference .string named
    | unknown =>
        dsimp only
        split
        · exact solid_reference .number named
        · exact solid_reference .string named

/-! ## Texts that are no calls

Before its first string literal the text of an operand opens no parenthesis, so it
cannot be taken for a call. -/

def NoCall (text : String) : Prop :=
  '(' ∉ text.toList.takeWhile (· ≠ '\'')

theorem noCall_of_notMem {text : String} (absent : '(' ∉ text.toList) : NoCall text :=
  fun member => absent ((List.takeWhile_sublist _).subset member)

theorem noCall_identifier {name : String} (named : isIdentifier name = true) :
    NoCall name := by
  apply noCall_of_notMem
  intro member
  have part := isIdentifierPart_of_isIdentifier named _ member
  contradiction

theorem noCall_number {text : String} (number : IsNumber text.toList) : NoCall text := by
  apply noCall_of_notMem
  intro member
  have part := isNumberPart_of_isNumber number _ member
  contradiction

theorem noCall_literal {text : String} (literal : IsLiteral text.toList) : NoCall text := by
  rcases literal with ⟨tail, split, _⟩
  rw [NoCall, split]
  simp

theorem noCall_reference (kind : FieldKind) (field : String) :
    NoCall (kind.reference field) := by
  cases kind <;> simp [NoCall, FieldKind.reference, FieldKind.mapColumn, String.toList_append]

theorem noCall_resolve (schema : Schema) (snapshot : FieldSnapshot) (context : TypeContext)
    {field : String} (named : isIdentifier field = true) :
    NoCall (schema.resolve snapshot context field) := by
  unfold Schema.resolve
  split
  · exact noCall_identifier named
  · cases context with
    | number => exact noCall_reference .number field
    | string => exact noCall_reference .string field
    | unknown =>
        dsimp only
        split
        · exact noCall_reference .number field
        · exact noCall_reference .string field

/-- A text that starts with a call opens a parenthesis before any literal. -/
theorem isPrefixOf_eq_false_of_noCall {text : String} (noCall : NoCall text)
    {start : List Char} (calls : '(' ∈ start) (unquoted : '\'' ∉ start) :
    start.isPrefixOf text.toList = false := by
  have plain : ∀ character ∈ start, decide (character ≠ '\'') = true := by
    intro character member
    exact decide_eq_true (ne_of_mem_of_not_mem member unquoted)
  rw [Bool.eq_false_iff]
  intro starts
  rw [List.isPrefixOf_iff_prefix] at starts
  rcases starts with ⟨rest, split⟩
  rw [NoCall, ← split, List.takeWhile_append_of_pos plain] at noCall
  exact noCall (List.mem_append_left _ calls)

end LogQuery.Sql
