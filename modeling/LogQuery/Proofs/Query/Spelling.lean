import Mathlib.Data.List.Forall2
import LogQuery.Proofs.Query.Lexemes

namespace LogQuery.Query

/-! ## The texts of a token

Of a keyword each letter may be in either case; every other token has one text. -/

def InAnyCase (letters text : List Char) : Prop :=
  List.Forall₂ (fun letter written => written = letter ∨ written = letter.toUpper)
    letters text

/-- A text that a token may be printed as. The end of the input has none. -/
def Token.IsPrintedAs : Token → List Char → Prop
  | .keyword word, text => InAnyCase word.spelling.toList text
  | .identifier name, text => text = name.toList
  | .number digits, text => text = digits.toList
  | .literal quoted, text => text = quoted.toList
  | .operator symbol, text => text = symbol.spelling.toList
  | .openParen, text => text = ['(']
  | .closeParen, text => text = [')']
  | .endOfInput, _ => False

/-- A name that is not read as a keyword. -/
def IsPlainName (name : String) : Prop :=
  ∀ word : Keyword, ¬InAnyCase word.spelling.toList name.toList

def IsSpace (text : List Char) : Prop :=
  ∀ character ∈ text, isSeparator character = true

instance (text : List Char) : Decidable (IsSpace text) :=
  decidable_of_iff (text.all isSeparator = true) List.all_eq_true

/-! ## Letter case -/

theorem toNat_toLower (character : Char) :
    character.toLower.toNat =
      if 65 ≤ character.toNat ∧ character.toNat ≤ 90 then character.toNat + 32
      else character.toNat := by
  unfold Char.toLower
  split
  · next upper =>
      have bounds : 65 ≤ character.toNat ∧ character.toNat ≤ 90 := upper
      rw [if_pos bounds]
      change (character.val + 32).toNat = character.toNat + 32
      rw [UInt32.toNat_add]
      exact Nat.mod_eq_of_lt (by change character.toNat + 32 < 2 ^ 32; omega)
  · next notUpper => exact (if_neg notUpper).symm

theorem toNat_toUpper (character : Char) :
    character.toUpper.toNat =
      if 97 ≤ character.toNat ∧ character.toNat ≤ 122 then character.toNat - 32
      else character.toNat := by
  unfold Char.toUpper
  split
  · next lower =>
      have bounds : 97 ≤ character.toNat ∧ character.toNat ≤ 122 := lower
      rw [if_pos bounds]
      -- Adding the difference of the two cases wraps around.
      change (character.val + ('A'.val - 'a'.val)).toNat = character.toNat - 32
      rw [UInt32.toNat_add]
      change (character.toNat + 4294967264) % 2 ^ 32 = character.toNat - 32
      omega
  · next notLower => exact (if_neg notLower).symm

theorem toLower_eq_iff {letter written : Char} (notUpper : letter.isUpper = false) :
    written.toLower = letter ↔ written = letter ∨ written = letter.toUpper := by
  have bounds : ¬(65 ≤ letter.toNat ∧ letter.toNat ≤ 90) := of_decide_eq_false notUpper
  simp only [← Char.toNat_inj, toNat_toLower, toNat_toUpper]
  split <;> split <;> omega

theorem map_toLower_eq_iff {letters text : List Char}
    (noneUpper : ∀ letter ∈ letters, letter.isUpper = false) :
    text.map Char.toLower = letters ↔ InAnyCase letters text := by
  induction letters generalizing text with
  | nil => rw [List.map_eq_nil_iff, InAnyCase, List.forall₂_nil_left_iff]
  | cons letter letters induction =>
      rcases List.forall_mem_cons.mp noneUpper with ⟨notUpper, rest⟩
      cases text with
      | nil => simp [InAnyCase]
      | cons written text =>
          rw [List.map_cons, List.cons.injEq, toLower_eq_iff notUpper, induction rest]
          unfold InAnyCase
          rw [List.forall₂_cons]

theorem Keyword.isUpper_eq_false (word : Keyword) :
    ∀ letter ∈ word.spelling.toList, letter.isUpper = false := by
  have lower : (word.spelling.toList.all fun letter => !letter.isUpper) = true := by
    cases word <;> decide
  intro letter member
  rw [← Bool.not_eq_true']
  exact List.all_eq_true.mp lower letter member

theorem Keyword.ofWord?_eq_some_iff {word : Keyword} {text : List Char} :
    Keyword.ofWord? text = some word ↔ InAnyCase word.spelling.toList text := by
  rw [← map_toLower_eq_iff word.isUpper_eq_false]
  constructor
  · intro found
    have lowered := List.find?_some (show List.find? _ _ = some word from found)
    exact of_decide_eq_true lowered
  · intro lowered
    rw [ofWord?, lowered]
    cases word <;> decide

theorem Keyword.ofWord?_eq_none_iff {name : String} :
    Keyword.ofWord? name.toList = none ↔ IsPlainName name := by
  unfold ofWord? IsPlainName
  simp only [List.find?_eq_none, decide_eq_true_eq]
  constructor
  · intro unequal word spelled
    refine unequal word ?_ ((map_toLower_eq_iff word.isUpper_eq_false).mpr spelled)
    cases word <;> decide
  · intro plain word _ lowered
    exact plain word ((map_toLower_eq_iff word.isUpper_eq_false).mp lowered)

/-! ## Where a token ends

A scanner goes on as long as it can. At the end of the text, and at a separator, none
can. -/

def Stops (goesOn : Char → Bool) (rest : List Char) : Prop :=
  ∀ first ∈ rest.head?, goesOn first = false

def StandsApart (rest : List Char) : Prop :=
  ∀ first ∈ rest.head?, isSeparator first = true

theorem isSeparator_iff_mem {character : Char} :
    isSeparator character = true ↔ character ∈ [' ', '\t', '\r', '\n'] := by
  simp [isSeparator, or_assoc]

theorem StandsApart.stops {goesOn : Char → Bool} {rest : List Char}
    (apart : StandsApart rest) (none : [' ', '\t', '\r', '\n'].any goesOn = false) :
    Stops goesOn rest := by
  intro first member
  have separator := isSeparator_iff_mem.mp (apart first member)
  exact eq_false_of_ne_true (List.any_eq_false.mp none first separator)

/-- A number may go on with more digits, with a fraction or with an exponent. -/
def continuesNumber (character : Char) : Bool :=
  character.isDigit || character = '.' || isExponentMark character

/-- What could still be taken for a part of the token, where it stands behind the text. -/
def Token.continues : Token → Char → Bool
  | .keyword _ => isIdentifierPart
  | .identifier _ => isIdentifierPart
  | .number _ => continuesNumber
  | .operator .equal => (· = '~')
  | .operator .less => (· = '=')
  | .operator .greater => (· = '=')
  | _ => fun _ => false

theorem StandsApart.stops_continues {rest : List Char} (apart : StandsApart rest)
    (token : Token) : Stops token.continues rest := by
  apply apart.stops
  cases token with
  | operator symbol => cases symbol <;> rfl
  | _ => rfl

theorem IsSpace.standsApart {space : List Char} (isSpace : IsSpace space) :
    StandsApart space :=
  fun first member => isSpace first (List.mem_of_mem_head? member)

theorem IsSpace.standsApart_append {space : List Char} (isSpace : IsSpace space)
    (nonempty : space ≠ []) (rest : List Char) : StandsApart (space ++ rest) := by
  intro first member
  rw [List.head?_append_of_ne_nil _ nonempty] at member
  exact isSpace first (List.mem_of_mem_head? member)

namespace Stops

variable {goesOn : Char → Bool} {front rest : List Char}

theorem cons {first : Char} (stops : goesOn first = false) : Stops goesOn (first :: rest) := by
  intro found member
  cases member
  exact stops

theorem append (frontStops : Stops goesOn front) (restStops : Stops goesOn rest) :
    Stops goesOn (front ++ rest) := by
  cases front with
  | nil => exact restStops
  | cons first front => exact cons (frontStops first rfl)

theorem mono {other : Char → Bool} (stops : Stops goesOn rest)
    (fewer : ∀ character, other character = true → goesOn character = true) :
    Stops other rest := by
  intro first member
  apply eq_false_of_ne_true
  intro continued
  have found := fewer first continued
  rw [stops first member] at found
  contradiction

theorem takeWhile_eq_nil (stops : Stops goesOn rest) : rest.takeWhile goesOn = [] := by
  cases rest with
  | nil => rfl
  | cons first rest => exact List.takeWhile_cons_of_neg (by rw [stops first rfl]; decide)

theorem dropWhile_eq_self (stops : Stops goesOn rest) : rest.dropWhile goesOn = rest := by
  cases rest with
  | nil => rfl
  | cons first rest => exact List.dropWhile_cons_of_neg (by rw [stops first rfl]; decide)

theorem takeWhile_append (stops : Stops goesOn rest)
    (all : ∀ character ∈ front, goesOn character = true) :
    (front ++ rest).takeWhile goesOn = front := by
  rw [List.takeWhile_append_of_pos all, stops.takeWhile_eq_nil, List.append_nil]

theorem dropWhile_append (stops : Stops goesOn rest)
    (all : ∀ character ∈ front, goesOn character = true) :
    (front ++ rest).dropWhile goesOn = rest := by
  rw [List.dropWhile_append_of_pos all, stops.dropWhile_eq_self]

end Stops

/-! ## Numbers -/

def isSignMark (character : Char) : Bool :=
  character = '+' || character = '-'

theorem IsDigits.stops {goesOn : Char → Bool} {digits : List Char} (isDigits : IsDigits digits)
    (none : ∀ digit : Char, digit.isDigit = true → goesOn digit = false) (rest : List Char) :
    Stops goesOn (digits ++ rest) := by
  rcases isDigits with ⟨nonempty, all⟩
  cases digits with
  | nil => contradiction
  | cons digit digits => exact .cons (none digit (all digit List.mem_cons_self))

theorem isSignMark_eq_false_of_isDigit {digit : Char} (isDigit : digit.isDigit = true) :
    isSignMark digit = false := by
  unfold isSignMark
  rw [Bool.or_eq_false_iff, decide_eq_false_iff_not, decide_eq_false_iff_not]
  constructor
  · rintro rfl
    contradiction
  · rintro rfl
    contradiction

theorem IsNumber.exists_first {text : List Char} (number : IsNumber text) :
    ∃ first tail, text = first :: tail ∧ (first.isDigit = true ∨ isSignMark first = true) := by
  rcases number with ⟨sign, digits, fraction, exponent, rfl, signed, ⟨nonempty, all⟩, _⟩
  rcases signed with rfl | rfl | rfl
  · cases digits with
    | nil => contradiction
    | cons digit digits =>
        exact ⟨digit, digits ++ fraction ++ exponent, rfl, .inl (all digit List.mem_cons_self)⟩
  · exact ⟨'+', digits ++ fraction ++ exponent, rfl, .inr rfl⟩
  · exact ⟨'-', digits ++ fraction ++ exponent, rfl, .inr rfl⟩

theorem scanDigits_append {digits rest : List Char} (isDigits : IsDigits digits)
    (stops : Stops Char.isDigit rest) : scanDigits (digits ++ rest) = some (digits, rest) := by
  rcases isDigits with ⟨nonempty, all⟩
  unfold scanDigits
  rw [stops.takeWhile_append all, stops.dropWhile_append all]
  split
  · contradiction
  · rfl

theorem scanSign_append {sign rest : List Char} (signed : IsSign sign)
    (stops : Stops isSignMark rest) : scanSign (sign ++ rest) = (sign, rest) := by
  rcases signed with rfl | rfl | rfl
  · rw [List.nil_append]
    unfold scanSign
    split
    · exact absurd (stops '+' rfl) (by decide)
    · exact absurd (stops '-' rfl) (by decide)
    · rfl
  · rfl
  · rfl

theorem scanFraction_append {fraction rest : List Char} (fractional : IsFraction fraction)
    (noPoint : Stops (· = '.') rest) (noDigit : Stops Char.isDigit rest) :
    scanFraction (fraction ++ rest) = (fraction, rest) := by
  rcases fractional with rfl | ⟨digits, rfl, isDigits⟩
  · rw [List.nil_append]
    unfold scanFraction
    split
    · exact absurd (noPoint '.' rfl) (by decide)
    · rfl
  · rw [List.cons_append, scanFraction, scanDigits_append isDigits noDigit]

theorem scanExponent_append {exponent rest : List Char} (exponential : IsExponent exponent)
    (noMark : Stops isExponentMark rest) (noDigit : Stops Char.isDigit rest) :
    scanExponent (exponent ++ rest) = (exponent, rest) := by
  rcases exponential with rfl | ⟨mark, sign, digits, rfl, marked, signed, isDigits⟩
  · rw [List.nil_append]
    cases rest with
    | nil => rfl
    | cons first rest => rw [scanExponent, noMark first rfl, if_neg Bool.false_ne_true]
  · have behindSign := isDigits.stops (fun _ => isSignMark_eq_false_of_isDigit) rest
    rw [List.cons_append, List.append_assoc, scanExponent, if_pos marked,
      scanSign_append signed behindSign]
    dsimp only
    rw [scanDigits_append isDigits noDigit]
    rfl

theorem IsFraction.noDigit {fraction : List Char} (fractional : IsFraction fraction) :
    Stops Char.isDigit fraction := by
  rcases fractional with rfl | ⟨digits, rfl, _⟩
  · intro first impossible
    contradiction
  · exact .cons (by decide)

theorem IsExponent.stops {exponent : List Char} (exponential : IsExponent exponent)
    {goesOn : Char → Bool} (none : ['e', 'E'].any goesOn = false) :
    Stops goesOn exponent := by
  rcases exponential with rfl | ⟨mark, _, _, rfl, marked, _⟩
  · intro first impossible
    contradiction
  · have isMark : mark ∈ ['e', 'E'] := by
      simpa [isExponentMark] using marked
    exact .cons (eq_false_of_ne_true (List.any_eq_false.mp none mark isMark))

theorem scanNumber_append {text rest : List Char} (number : IsNumber text)
    (stops : Stops continuesNumber rest) : scanNumber (text ++ rest) = some (text, rest) := by
  rcases number with ⟨sign, digits, fraction, exponent, rfl, signed, isDigits, fractional,
    exponential⟩
  have noDigit : Stops Char.isDigit rest := stops.mono (by simp +contextual [continuesNumber])
  have noMark : Stops isExponentMark rest := stops.mono (by simp +contextual [continuesNumber])
  have noPoint : Stops (· = '.') rest := stops.mono (by simp +contextual [continuesNumber])
  have behindFraction : Stops Char.isDigit (exponent ++ rest) :=
    (exponential.stops (by decide)).append noDigit
  have pointless : Stops (· = '.') (exponent ++ rest) :=
    (exponential.stops (by decide)).append noPoint
  have behindDigits : Stops Char.isDigit (fraction ++ (exponent ++ rest)) :=
    fractional.noDigit.append behindFraction
  have behindSign := isDigits.stops (fun _ => isSignMark_eq_false_of_isDigit)
    (fraction ++ (exponent ++ rest))
  simp only [List.append_assoc]
  unfold scanNumber
  rw [scanSign_append signed behindSign]
  dsimp only
  rw [scanDigits_append isDigits behindDigits]
  dsimp only
  rw [scanFraction_append fractional pointless behindFraction]
  dsimp only
  rw [scanExponent_append exponential noMark noDigit]
  simp only [List.append_assoc]

/-! ## The other classes -/

theorem scanQuoted_append {tail : List Char} (quoted : QuotedTail tail) (rest : List Char) :
    scanQuoted (tail ++ rest) = some (tail, rest) := by
  induction quoted with
  | close => rfl
  | escape escaped quoted induction =>
      rw [List.cons_append, List.cons_append, scanQuoted, induction]
      rfl
  | plain notQuote notEscape quoted induction =>
      rw [List.cons_append, scanQuoted, induction]
      · rfl
      · exact notQuote
      · intro escaped tail isEscape
        exact absurd isEscape notEscape
      · intro isEscape
        exact absurd isEscape notEscape

theorem isDigit_eq_false_of_isIdentifierStart {first : Char}
    (starts : isIdentifierStart first = true) : first.isDigit = false := by
  rw [isIdentifierStart, Bool.or_eq_true, decide_eq_true_eq] at starts
  rcases starts with letter | rfl
  · change (decide (65 ≤ first.toNat ∧ first.toNat ≤ 90) ||
      (decide (97 ≤ first.toNat) && decide (first.toNat ≤ 122))) = true at letter
    have bounds : (65 ≤ first.toNat ∧ first.toNat ≤ 90) ∨
        (97 ≤ first.toNat ∧ first.toNat ≤ 122) := by
      simpa using letter
    apply eq_false_of_ne_true
    intro digit
    rw [Char.isDigit, Bool.and_eq_true, decide_eq_true_eq, decide_eq_true_eq] at digit
    have digitBounds : 48 ≤ first.toNat ∧ first.toNat ≤ 57 := digit
    omega
  · decide

theorem scanNumber_eq_none {first : Char} (noDigit : first.isDigit = false)
    (noSign : isSignMark first = false) (rest : List Char) :
    scanNumber (first :: rest) = none := by
  have unsigned : scanSign (first :: rest) = ([], first :: rest) :=
    scanSign_append (.inl rfl) (.cons noSign)
  have noDigits : scanDigits (first :: rest) = none := by
    rw [scanDigits, List.takeWhile_cons_of_neg (by rw [noDigit]; decide)]
  unfold scanNumber
  rw [unsigned]
  dsimp only
  rw [noDigits]

/-- No literal, number or symbol starts as a word does. -/
theorem scanToken_eq_scanWord {first : Char} (starts : isIdentifierStart first = true)
    (rest : List Char) : scanToken first rest = scanWord first rest := by
  have notMark : first ∉ ['\'', '+', '-', '!', '<', '>', '=', '(', ')', '~'] := by
    intro member
    have noStart : ['\'', '+', '-', '!', '<', '>', '=', '(', ')', '~'].any
        isIdentifierStart = false := by decide
    exact List.any_eq_false.mp noStart first member starts
  simp only [List.mem_cons, List.not_mem_nil, or_false, not_or] at notMark
  have noDigit := isDigit_eq_false_of_isIdentifierStart starts
  have noSign : isSignMark first = false := by simp [isSignMark, notMark]
  have noSymbol : scanSymbol (first :: rest) = none := by
    unfold scanSymbol
    split <;> simp_all
  unfold scanToken
  rw [if_neg notMark.1, scanNumber_eq_none noDigit noSign, noSymbol]

/-! ## Every class

A word is scanned if, where it stands apart from what follows, the scanner reads its
token, and nothing of what follows. -/

def Scans (token : Token) (word rest : List Char) : Prop :=
  ∃ first tail, word = first :: tail ∧
    scanToken first (tail ++ rest) = .ok ⟨token, word, rest⟩

theorem isSeparator_eq_false_of_scanToken {first : Char} {input : List Char}
    {reading : Reading} (scanned : scanToken first input = .ok reading) :
    isSeparator first = false := by
  apply eq_false_of_ne_true
  intro separator
  have separators := isSeparator_iff_mem.mp separator
  simp only [List.mem_cons, List.not_mem_nil, or_false] at separators
  rcases separators with rfl | rfl | rfl | rfl <;> contradiction

theorem scans_number {text : String} {rest : List Char} (number : IsNumber text.toList)
    (stops : Stops continuesNumber rest) : Scans (.number text) text.toList rest := by
  have scanned := scanNumber_append number stops
  have nonempty := ne_nil_of_scanNumber scanned
  rcases split : text.toList with _ | ⟨first, tail⟩
  · exact absurd split nonempty
  · rw [split, List.cons_append] at scanned
    have notQuote : first ≠ '\'' := by
      rintro rfl
      contradiction
    refine ⟨first, tail, rfl, ?_⟩
    unfold scanToken
    rw [if_neg notQuote, scanned]
    dsimp only
    rw [← split, String.ofList_toList]

theorem scans_literal {text : String} (literal : IsLiteral text.toList) (rest : List Char) :
    Scans (.literal text) text.toList rest := by
  rcases literal with ⟨tail, split, quoted⟩
  refine ⟨'\'', tail, split, ?_⟩
  unfold scanToken
  rw [if_pos rfl, scanQuoted_append quoted]
  dsimp only
  rw [← split, String.ofList_toList]

theorem scans_word {first : Char} {tail rest : List Char}
    (starts : isIdentifierStart first = true)
    (goesOn : ∀ character ∈ tail, isIdentifierPart character = true)
    (stops : Stops isIdentifierPart rest) :
    Scans (Token.ofWord (first :: tail)) (first :: tail) rest := by
  refine ⟨first, tail, rfl, ?_⟩
  rw [scanToken_eq_scanWord starts, scanWord, if_pos starts, stops.takeWhile_append goesOn,
    stops.dropWhile_append goesOn]

theorem scans_identifier {name : String} {rest : List Char}
    (named : isIdentifier name = true) (plain : IsPlainName name)
    (stops : Stops isIdentifierPart rest) : Scans (.identifier name) name.toList rest := by
  have word : Token.ofWord name.toList = .identifier name := by
    rw [Token.ofWord, Keyword.ofWord?_eq_none_iff.mpr plain, String.ofList_toList]
  rw [isIdentifier] at named
  rw [← word]
  rcases split : name.toList with _ | ⟨first, tail⟩
  · rw [split] at named
    contradiction
  · rw [split, isIdentifierChars, Bool.and_eq_true, List.all_eq_true] at named
    exact scans_word named.1 named.2 stops

theorem InAnyCase.exists_letter {letters text : List Char} (spelled : InAnyCase letters text) :
    ∀ written ∈ text, ∃ letter ∈ letters, written = letter ∨ written = letter.toUpper := by
  induction spelled with
  | nil =>
      intro written member
      contradiction
  | cons either spelled induction =>
      intro written member
      rcases List.mem_cons.mp member with rfl | later
      · exact ⟨_, List.mem_cons_self, either⟩
      · rcases induction written later with ⟨letter, inLetters, found⟩
        exact ⟨letter, List.mem_cons_of_mem _ inLetters, found⟩

theorem Keyword.isIdentifierStart_of_spelled {word : Keyword} {text : List Char}
    (spelled : InAnyCase word.spelling.toList text) :
    ∀ written ∈ text, isIdentifierStart written = true := by
  have bothCases : ∀ letter ∈ word.spelling.toList,
      isIdentifierStart letter = true ∧ isIdentifierStart letter.toUpper = true := by
    simp only [← Bool.and_eq_true]
    apply List.all_eq_true.mp
    cases word <;> decide
  intro written member
  rcases spelled.exists_letter written member with ⟨letter, inWord, rfl | rfl⟩
  · exact (bothCases _ inWord).1
  · exact (bothCases _ inWord).2

theorem scans_keyword {word : Keyword} {text rest : List Char}
    (spelled : InAnyCase word.spelling.toList text) (stops : Stops isIdentifierPart rest) :
    Scans (.keyword word) text rest := by
  have known : Token.ofWord text = .keyword word := by
    rw [Token.ofWord, Keyword.ofWord?_eq_some_iff.mpr spelled]
  have starts := Keyword.isIdentifierStart_of_spelled spelled
  rw [← known]
  rcases text with _ | ⟨first, tail⟩
  · have sameLength := spelled.length_eq
    exact absurd sameLength (by cases word <;> decide)
  · rcases List.forall_mem_cons.mp starts with ⟨firstStarts, tailStarts⟩
    refine scans_word firstStarts ?_ stops
    intro character member
    rw [isIdentifierPart, tailStarts character member, Bool.true_or, Bool.true_or]

theorem scanToken_of_symbol {first : Char} {rest : List Char} {reading : Reading}
    (notQuote : first ≠ '\'') (noDigit : first.isDigit = false)
    (noSign : isSignMark first = false)
    (symbol : scanSymbol (first :: rest) = some reading) :
    scanToken first rest = .ok reading := by
  unfold scanToken
  rw [if_neg notQuote, scanNumber_eq_none noDigit noSign, symbol]

/-- Behind `=`, `<` and `>` another mark could follow that makes a longer operator. -/
theorem scans_operator (operator : Operator) {rest : List Char}
    (stops : Stops (Token.operator operator).continues rest) :
    Scans (.operator operator) operator.spelling.toList rest := by
  have differs (mark : Char) (continued : (Token.operator operator).continues mark = true)
      (tail : List Char) : rest ≠ mark :: tail := by
    rintro rfl
    rw [stops mark rfl] at continued
    contradiction
  cases operator with
  | equal =>
      have noTilde := differs '~' rfl
      refine ⟨'=', [], rfl, scanToken_of_symbol (by decide) rfl rfl ?_⟩
      simp [scanSymbol, Operator.spelling]
  | less =>
      have noEqual := differs '=' rfl
      refine ⟨'<', [], rfl, scanToken_of_symbol (by decide) rfl rfl ?_⟩
      simp [scanSymbol, Operator.spelling]
  | greater =>
      have noEqual := differs '=' rfl
      refine ⟨'>', [], rfl, scanToken_of_symbol (by decide) rfl rfl ?_⟩
      simp [scanSymbol, Operator.spelling]
  | _ => exact ⟨_, _, rfl, rfl⟩

/-- A word that a token can be read from, where it ends. Names that are keywords are not
read as names. -/
structure Token.IsReadFrom (token : Token) (word : List Char) : Prop where
  lexed : token.IsLexed
  printed : token.IsPrintedAs word
  plain : ∀ name, token = .identifier name → IsPlainName name

theorem scans_of_stops {token : Token} {word rest : List Char} (read : token.IsReadFrom word)
    (stops : Stops token.continues rest) : Scans token word rest := by
  rcases read with ⟨lexed, printed, plain⟩
  cases token with
  | keyword known => exact scans_keyword printed stops
  | identifier name =>
      cases printed
      exact scans_identifier lexed (plain name rfl) stops
  | number text =>
      cases printed
      exact scans_number lexed stops
  | literal text =>
      cases printed
      exact scans_literal lexed rest
  | operator symbol =>
      cases printed
      exact scans_operator symbol stops
  | openParen =>
      cases printed
      exact ⟨_, _, rfl, rfl⟩
  | closeParen =>
      cases printed
      exact ⟨_, _, rfl, rfl⟩
  | endOfInput => contradiction

end LogQuery.Query
