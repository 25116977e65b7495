import LogQuery.Query.Token

namespace LogQuery.Query

/-! Scanners take the characters still to be read and answer what they read
together with the rest. Every scanner gives back all it was given: what it read
followed by the rest is its input. -/

abbrev Scanned := List Char × List Char

def scanDigits (input : List Char) : Option Scanned :=
  match input.takeWhile Char.isDigit with
  | [] => none
  | digits => some (digits, input.dropWhile Char.isDigit)

def scanSign : List Char → Scanned
  | '+' :: rest => (['+'], rest)
  | '-' :: rest => (['-'], rest)
  | input => ([], input)

/-- A point with digits after it; without digits the point is left alone. -/
def scanFraction : List Char → Scanned
  | '.' :: rest =>
      match scanDigits rest with
      | some (digits, rest) => ('.' :: digits, rest)
      | none => ([], '.' :: rest)
  | input => ([], input)

def isExponentMark (character : Char) : Bool :=
  character = 'e' || character = 'E'

/-- An exponent needs digits; without them its mark is left alone. -/
def scanExponent : List Char → Scanned
  | [] => ([], [])
  | mark :: rest =>
      if isExponentMark mark then
        let (sign, afterSign) := scanSign rest
        match scanDigits afterSign with
        | some (digits, rest) => (mark :: sign ++ digits, rest)
        | none => ([], mark :: rest)
      else ([], mark :: rest)

def scanNumber (input : List Char) : Option Scanned :=
  let (sign, afterSign) := scanSign input
  match scanDigits afterSign with
  | none => none
  | some (digits, afterDigits) =>
      let (fraction, afterFraction) := scanFraction afterDigits
      let (exponent, rest) := scanExponent afterFraction
      some (sign ++ digits ++ fraction ++ exponent, rest)

/-- Reads up to and including the closing quote. A backslash takes the next
character with it. -/
def scanQuoted : List Char → Option Scanned
  | [] => none
  | '\'' :: rest => some (['\''], rest)
  | '\\' :: escaped :: rest =>
      (scanQuoted rest).map fun (body, rest) => ('\\' :: escaped :: body, rest)
  | ['\\'] => none
  | character :: rest =>
      (scanQuoted rest).map fun (body, rest) => (character :: body, rest)

/-- A token, the text it was read from, and the rest. -/
structure Reading where
  token : Token
  text : List Char
  rest : List Char
  deriving DecidableEq, Repr

/-- Of two operators that both fit, the longer one is meant. -/
def scanSymbol : List Char → Option Reading
  | '!' :: '=' :: rest => some ⟨.operator .notEqual, ['!', '='], rest⟩
  | '<' :: '=' :: rest => some ⟨.operator .lessEqual, ['<', '='], rest⟩
  | '>' :: '=' :: rest => some ⟨.operator .greaterEqual, ['>', '='], rest⟩
  | '=' :: '~' :: rest => some ⟨.operator .ilike, ['=', '~'], rest⟩
  | '!' :: '~' :: rest => some ⟨.operator .notIlike, ['!', '~'], rest⟩
  | '(' :: rest => some ⟨.openParen, ['('], rest⟩
  | ')' :: rest => some ⟨.closeParen, [')'], rest⟩
  | '=' :: rest => some ⟨.operator .equal, ['='], rest⟩
  | '<' :: rest => some ⟨.operator .less, ['<'], rest⟩
  | '>' :: rest => some ⟨.operator .greater, ['>'], rest⟩
  | '~' :: rest => some ⟨.operator .pattern, ['~'], rest⟩
  | _ => none

def Keyword.ofWord? (word : List Char) : Option Keyword :=
  [Keyword.and, .or, .not, .present].find? fun keyword =>
    word.map Char.toLower = keyword.spelling.toList

def Token.ofWord (word : List Char) : Token :=
  match Keyword.ofWord? word with
  | some known => .keyword known
  | none => .identifier (String.ofList word)

/-! At a quote only a string literal can follow. Elsewhere numbers come before
symbols and symbols before words. -/

inductive LexicalFault where
  | unterminatedString
  | illegalCharacter (character : Char)
  deriving DecidableEq, Repr

def LexicalFault.message : LexicalFault → String
  | .unterminatedString => "unterminated string literal"
  | .illegalCharacter character => "illegal character `" ++ character.toString ++ "`"

def scanWord (first : Char) (rest : List Char) : Except LexicalFault Reading :=
  if isIdentifierStart first then
    let word := first :: rest.takeWhile isIdentifierPart
    .ok ⟨Token.ofWord word, word, rest.dropWhile isIdentifierPart⟩
  else .error (.illegalCharacter first)

def scanToken (first : Char) (rest : List Char) : Except LexicalFault Reading :=
  if first = '\'' then
    match scanQuoted rest with
    | some (body, rest) =>
        .ok ⟨.literal (String.ofList ('\'' :: body)), '\'' :: body, rest⟩
    | none => .error .unterminatedString
  else
    match scanNumber (first :: rest) with
    | some (text, rest) => .ok ⟨.number (String.ofList text), text, rest⟩
    | none =>
        match scanSymbol (first :: rest) with
        | some reading => .ok reading
        | none => scanWord first rest

/-! No scanner loses a character, and a token's text is never empty. So each
token shortens the input, and reading token after token ends. -/

theorem append_of_scanDigits {input digits rest : List Char}
    (scanned : scanDigits input = some (digits, rest)) : digits ++ rest = input := by
  unfold scanDigits at scanned
  split at scanned
  · contradiction
  · cases scanned
    exact List.takeWhile_append_dropWhile

theorem ne_nil_of_scanDigits {input digits rest : List Char}
    (scanned : scanDigits input = some (digits, rest)) : digits ≠ [] := by
  unfold scanDigits at scanned
  split at scanned
  · contradiction
  · next nonempty =>
      cases scanned
      exact nonempty

theorem append_scanSign (input : List Char) :
    (scanSign input).1 ++ (scanSign input).2 = input := by
  unfold scanSign
  split <;> rfl

theorem append_scanFraction (input : List Char) :
    (scanFraction input).1 ++ (scanFraction input).2 = input := by
  unfold scanFraction
  split
  · split
    · next scanned => simp [append_of_scanDigits scanned]
    · rfl
  · rfl

theorem append_scanExponent (input : List Char) :
    (scanExponent input).1 ++ (scanExponent input).2 = input := by
  unfold scanExponent
  split
  · rfl
  · next mark rest =>
      split
      · have sign := append_scanSign rest
        dsimp only
        split
        · next scanned =>
            simp only [List.cons_append, List.append_assoc,
              append_of_scanDigits scanned, sign]
        · rfl
      · rfl

theorem append_of_scanNumber {input text rest : List Char}
    (scanned : scanNumber input = some (text, rest)) : text ++ rest = input := by
  unfold scanNumber at scanned
  dsimp only at scanned
  split at scanned
  · contradiction
  · next digits afterDigits scannedDigits =>
      cases scanned
      simp only [List.append_assoc, append_scanExponent, append_scanFraction,
        append_of_scanDigits scannedDigits, append_scanSign]

theorem ne_nil_of_scanNumber {input text rest : List Char}
    (scanned : scanNumber input = some (text, rest)) : text ≠ [] := by
  unfold scanNumber at scanned
  dsimp only at scanned
  split at scanned
  · contradiction
  · next scannedDigits =>
      cases scanned
      simp [ne_nil_of_scanDigits scannedDigits]

theorem append_of_scanQuoted {input body rest : List Char}
    (scanned : scanQuoted input = some (body, rest)) : body ++ rest = input := by
  fun_induction scanQuoted input generalizing body rest with
  | case1 => contradiction
  | case2 => cases scanned; rfl
  | case3 escaped tail induction =>
      obtain ⟨⟨inner, after⟩, found, same⟩ := Option.map_eq_some_iff.mp scanned
      cases same
      simp [induction found]
  | case4 => contradiction
  | case5 character tail _ _ _ induction =>
      obtain ⟨⟨inner, after⟩, found, same⟩ := Option.map_eq_some_iff.mp scanned
      cases same
      simp [induction found]

theorem append_of_scanSymbol {input : List Char} {reading : Reading}
    (scanned : scanSymbol input = some reading) :
    reading.text ++ reading.rest = input := by
  unfold scanSymbol at scanned
  split at scanned <;> cases scanned <;> rfl

theorem ne_nil_of_scanSymbol {input : List Char} {reading : Reading}
    (scanned : scanSymbol input = some reading) : reading.text ≠ [] := by
  unfold scanSymbol at scanned
  split at scanned <;> cases scanned <;> simp

theorem append_of_scanToken {first : Char} {input : List Char} {reading : Reading}
    (scanned : scanToken first input = .ok reading) :
    reading.text ++ reading.rest = first :: input := by
  unfold scanToken at scanned
  split at scanned
  · next quote =>
      split at scanned
      · next found =>
          cases scanned
          simp [append_of_scanQuoted found, quote]
      · contradiction
  · split at scanned
    · next found =>
        cases scanned
        exact append_of_scanNumber found
    · split at scanned
      · next found =>
          cases scanned
          exact append_of_scanSymbol found
      · unfold scanWord at scanned
        split at scanned
        · cases scanned
          simp [List.takeWhile_append_dropWhile]
        · contradiction

theorem ne_nil_of_scanToken {first : Char} {input : List Char} {reading : Reading}
    (scanned : scanToken first input = .ok reading) : reading.text ≠ [] := by
  unfold scanToken at scanned
  split at scanned
  · split at scanned
    · cases scanned
      simp
    · contradiction
  · split at scanned
    · next found =>
        cases scanned
        exact ne_nil_of_scanNumber found
    · split at scanned
      · next found =>
          cases scanned
          exact ne_nil_of_scanSymbol found
      · unfold scanWord at scanned
        split at scanned
        · cases scanned
          simp
        · contradiction

theorem length_lt_of_scanToken {first : Char} {input : List Char} {reading : Reading}
    (scanned : scanToken first input = .ok reading) :
    reading.rest.length < (first :: input).length := by
  rw [← append_of_scanToken scanned, List.length_append]
  have positive := List.length_pos_iff.mpr (ne_nil_of_scanToken scanned)
  omega

/-! Between tokens only spaces, tabs, carriage returns and newlines are
skipped. -/

def isSeparator (character : Char) : Bool :=
  character = ' ' || character = '\t' || character = '\r' || character = '\n'

def utf8Length : List Char → Nat
  | [] => 0
  | character :: rest => character.utf8Size + utf8Length rest

structure LexicalError where
  fault : LexicalFault
  position : Nat
  fragment : List Char
  deriving DecidableEq, Repr

theorem length_lt_of_dropWhile {keep : Char → Bool} {input rest after : List Char}
    {first : Char} (found : input.dropWhile keep = first :: rest)
    (shorter : after.length < (first :: rest).length) :
    after.length < input.length := by
  have dropped := (List.dropWhile_sublist keep (l := input)).length_le
  rw [found] at dropped
  omega

/-- The tokens of `input`, whose first character stands at byte `position`. The
last one is the end of input. -/
def scanTokens (position : Nat) (input : List Char) :
    Except LexicalError (List Lexeme) :=
  let start := position + utf8Length (input.takeWhile isSeparator)
  match found : input.dropWhile isSeparator with
  | [] => .ok [⟨.endOfInput, start⟩]
  | first :: rest =>
      match scanned : scanToken first rest with
      | .error fault => .error ⟨fault, start, first :: rest⟩
      | .ok reading =>
          have := length_lt_of_dropWhile found (length_lt_of_scanToken scanned)
          match scanTokens (start + utf8Length reading.text) reading.rest with
          | .error error => .error error
          | .ok lexemes => .ok (⟨reading.token, start⟩ :: lexemes)
termination_by input.length

def tokenize (input : String) : Except LexicalError (List Lexeme) :=
  scanTokens 0 input.toList

end LogQuery.Query
