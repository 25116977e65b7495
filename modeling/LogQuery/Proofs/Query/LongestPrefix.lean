import LogQuery.Proofs.Query.Slices

namespace LogQuery.Query

/-! ## Less text behind a token

Where a scanner stopped it also stops if the rest is cut short, and what it cannot read it
cannot read from a part either. So a shorter rest changes no token in front of it. -/

variable {cut rest : List Char}

theorem Stops.of_isPrefix {goesOn : Char → Bool} (stops : Stops goesOn rest)
    (isCut : cut <+: rest) : Stops goesOn cut := by
  rcases isCut with ⟨later, rfl⟩
  intro first member
  exact stops first (by simp [Option.mem_def.mp member])

theorem stops_of_forall_ne {mark : Char} (differs : ∀ tail, rest = mark :: tail → False) :
    Stops (· = mark) rest := by
  intro first member
  cases rest with
  | nil => contradiction
  | cons other tail =>
      cases member
      apply decide_eq_false
      rintro rfl
      exact differs tail rfl

theorem stops_dropWhile (goesOn : Char → Bool) (input : List Char) :
    Stops goesOn (input.dropWhile goesOn) := by
  intro first member
  have stopped := List.head?_dropWhile_not goesOn input
  rw [Option.mem_def.mp member] at stopped
  simpa using stopped

/-! ### Symbols and literals -/

theorem stops_of_scanSymbol {input : List Char} {reading : Reading}
    (scanned : scanSymbol input = some reading) :
    Stops reading.token.continues reading.rest := by
  unfold scanSymbol at scanned
  split at scanned <;> cases scanned
  case h_8 noTilde => exact stops_of_forall_ne noTilde
  case h_9 noEqual => exact stops_of_forall_ne noEqual
  case h_10 noEqual => exact stops_of_forall_ne noEqual
  all_goals exact fun _ _ => rfl

theorem scanSymbol_eq_none_of_isPrefix {input : List Char} (isCut : cut <+: input)
    (failed : scanSymbol input = none) : scanSymbol cut = none := by
  rcases isCut with ⟨later, rfl⟩
  unfold scanSymbol at failed
  split at failed
  case h_12 notEqual lessEqual greaterEqual ilike notIlike opens closes equal less greater
      pattern =>
    unfold scanSymbol
    split
    · exact absurd rfl (notEqual _)
    · exact absurd rfl (lessEqual _)
    · exact absurd rfl (greaterEqual _)
    · exact absurd rfl (ilike _)
    · exact absurd rfl (notIlike _)
    · exact absurd rfl (opens _)
    · exact absurd rfl (closes _)
    · exact absurd rfl (equal _)
    · exact absurd rfl (less _)
    · exact absurd rfl (greater _)
    · exact absurd rfl (pattern _)
    · rfl
  all_goals contradiction

theorem scanQuoted_eq_none_of_isPrefix {input : List Char} (isCut : cut <+: input)
    (failed : scanQuoted input = none) : scanQuoted cut = none := by
  rcases isCut with ⟨later, rfl⟩
  rcases found : scanQuoted cut with _ | ⟨body, after⟩
  · rfl
  · have longer := scanQuoted_append (quotedTail_of_scanQuoted found) (after ++ later)
    rw [← List.append_assoc, append_of_scanQuoted found, failed] at longer
    contradiction

/-! ### Numbers -/

theorem scanDigits_eq_none_iff {input : List Char} :
    scanDigits input = none ↔ Stops Char.isDigit input := by
  cases input with
  | nil => exact ⟨nofun, fun _ => rfl⟩
  | cons first input =>
      cases digit : first.isDigit with
      | false => simp [scanDigits, Stops, digit]
      | true => simp [scanDigits, Stops, digit]

theorem stops_of_scanDigits {input digits : List Char}
    (scanned : scanDigits input = some (digits, rest)) : Stops Char.isDigit rest := by
  unfold scanDigits at scanned
  split at scanned
  · contradiction
  · cases scanned
    exact stops_dropWhile Char.isDigit input

theorem scanDigits_cut {input digits : List Char}
    (scanned : scanDigits input = some (digits, rest)) (isCut : cut <+: rest) :
    scanDigits (digits ++ cut) = some (digits, cut) :=
  scanDigits_append (isDigits_of_scanDigits scanned)
    ((stops_of_scanDigits scanned).of_isPrefix isCut)

theorem scanDigits_eq_none_of_isPrefix {input : List Char} (isCut : cut <+: input)
    (failed : scanDigits input = none) : scanDigits cut = none :=
  scanDigits_eq_none_iff.mpr ((scanDigits_eq_none_iff.mp failed).of_isPrefix isCut)

/-- Cutting short what the sign is read from cuts what is behind the sign. -/
theorem prefix_scanSign {input : List Char} (isCut : cut <+: input) :
    (scanSign cut).2 <+: (scanSign input).2 := by
  rcases isCut with ⟨later, rfl⟩
  cases cut with
  | nil => exact List.nil_prefix
  | cons first cut =>
      by_cases plus : first = '+'
      · simp [scanSign, plus]
      · by_cases minus : first = '-'
        · simp [scanSign, minus]
        · simp [scanSign, plus, minus]

theorem scanFraction_cut {input fraction : List Char}
    (scanned : scanFraction input = (fraction, rest)) (isCut : cut <+: rest) :
    scanFraction (fraction ++ cut) = (fraction, cut) := by
  unfold scanFraction at scanned
  split at scanned
  · split at scanned
    · next found =>
        cases scanned
        rw [List.cons_append, scanFraction, scanDigits_cut found isCut]
    · next failed =>
        cases scanned
        cases cut with
        | nil => rfl
        | cons first cut =>
            rcases List.cons_prefix_cons.mp isCut with ⟨rfl, shorter⟩
            rw [List.nil_append, scanFraction, scanDigits_eq_none_of_isPrefix shorter failed]
  · next noPoint =>
      cases scanned
      have stops := (stops_of_forall_ne fun tail => noPoint tail).of_isPrefix isCut
      rw [List.nil_append]
      unfold scanFraction
      split
      · exact absurd (stops '.' rfl) (by decide)
      · rfl

theorem scanExponent_cut {input exponent : List Char}
    (scanned : scanExponent input = (exponent, rest)) (isCut : cut <+: rest) :
    scanExponent (exponent ++ cut) = (exponent, cut) := by
  unfold scanExponent at scanned
  split at scanned
  · cases scanned
    rw [List.prefix_nil.mp isCut]
    rfl
  · next mark tail =>
      split at scanned
      · next marked =>
          dsimp only at scanned
          split at scanned
          · next digits _ found =>
              cases scanned
              have behindSign := (isDigits_of_scanDigits found).stops
                (fun _ => isSignMark_eq_false_of_isDigit) cut
              rw [List.cons_append, List.cons_append, List.append_assoc, scanExponent, if_pos marked,
                scanSign_append (isSign_scanSign tail) behindSign]
              dsimp only
              rw [scanDigits_cut found isCut]
              rfl
          · next failed =>
              cases scanned
              cases cut with
              | nil => rfl
              | cons first cut =>
                  rcases List.cons_prefix_cons.mp isCut with ⟨rfl, shorter⟩
                  rw [List.nil_append, scanExponent, if_pos marked]
                  dsimp only
                  rw [scanDigits_eq_none_of_isPrefix (prefix_scanSign shorter) failed]
      · next unmarked =>
          cases scanned
          cases cut with
          | nil => rfl
          | cons first cut =>
              rcases List.cons_prefix_cons.mp isCut with ⟨rfl, _⟩
              rw [List.nil_append, scanExponent, if_neg unmarked]

theorem scanNumber_parts {input text : List Char}
    (scanned : scanNumber input = some (text, rest)) :
    ∃ digits afterDigits fraction afterFraction exponent,
      scanDigits (scanSign input).2 = some (digits, afterDigits) ∧
        scanFraction afterDigits = (fraction, afterFraction) ∧
        scanExponent afterFraction = (exponent, rest) ∧
        text = (scanSign input).1 ++ digits ++ fraction ++ exponent := by
  unfold scanNumber at scanned
  dsimp only at scanned
  split at scanned
  · contradiction
  · next found =>
      cases scanned
      exact ⟨_, _, _, _, _, found, rfl, rfl, rfl⟩

theorem scanNumber_cut {input text : List Char}
    (scanned : scanNumber input = some (text, rest)) (isCut : cut <+: rest) :
    scanNumber (text ++ cut) = some (text, cut) := by
  rcases scanNumber_parts scanned with ⟨digits, afterDigits, fraction, afterFraction, exponent,
    readDigits, readFraction, readExponent, rfl⟩
  have exponentWhole := append_scanExponent afterFraction
  have fractionWhole := append_scanFraction afterDigits
  rw [readExponent] at exponentWhole
  rw [readFraction] at fractionWhole
  have behindFraction : exponent ++ cut <+: afterFraction := by
    rw [← exponentWhole]
    exact (List.prefix_append_right_inj exponent).mpr isCut
  have behindDigits : fraction ++ (exponent ++ cut) <+: afterDigits := by
    rw [← fractionWhole]
    exact (List.prefix_append_right_inj fraction).mpr behindFraction
  have behindSign := (isDigits_of_scanDigits readDigits).stops
    (fun _ => isSignMark_eq_false_of_isDigit) (fraction ++ (exponent ++ cut))
  simp only [List.append_assoc]
  unfold scanNumber
  rw [scanSign_append (isSign_scanSign input) behindSign]
  dsimp only
  rw [scanDigits_cut readDigits behindDigits]
  dsimp only
  rw [scanFraction_cut readFraction behindFraction]
  dsimp only
  rw [scanExponent_cut readExponent isCut]
  simp only [List.append_assoc]

theorem scanNumber_eq_none_of_isPrefix {input : List Char} (isCut : cut <+: input)
    (failed : scanNumber input = none) : scanNumber cut = none := by
  unfold scanNumber at failed ⊢
  dsimp only at failed ⊢
  split at failed
  · next noDigits =>
      rw [scanDigits_eq_none_of_isPrefix (prefix_scanSign isCut) noDigits]
  · contradiction

/-! ### Tokens -/

theorem scans_of_scanToken {first : Char} {input : List Char} {reading : Reading}
    (scanned : scanToken first input = .ok reading) :
    Scans reading.token reading.text reading.rest := by
  have whole := append_of_scanToken scanned
  rcases split : reading.text with _ | ⟨other, tail⟩
  · exact absurd split (ne_nil_of_scanToken scanned)
  · rw [split, List.cons_append] at whole
    cases whole
    refine ⟨first, tail, rfl, ?_⟩
    rw [scanned, ← split]

theorem Token.continues_ofWord (word : List Char) :
    (Token.ofWord word).continues = isIdentifierPart := by
  unfold ofWord
  split <;> rfl

/-- How much of the rest is there makes no difference to the token in front of it. -/
theorem Scans.of_isPrefix {token : Token} {word : List Char} (scans : Scans token word rest)
    (isCut : cut <+: rest) : Scans token word cut := by
  rcases scans with ⟨first, tail, rfl, scanned⟩
  have read := isReadFrom_of_scanToken scanned
  rcases scanToken_cases scanned with ⟨_, _, _, _, same⟩ | ⟨text, _, number, same⟩ | symbol |
    ⟨_, same⟩
  · cases same
    exact scans_of_stops read fun _ _ => rfl
  · cases same
    have shorter := scanNumber_cut number isCut
    have noQuote : first ≠ '\'' := by
      rintro rfl
      contradiction
    refine ⟨first, tail, rfl, ?_⟩
    unfold scanToken
    rw [if_neg noQuote, ← List.cons_append, shorter]
  · exact scans_of_stops read ((stops_of_scanSymbol symbol).of_isPrefix isCut)
  · have isWord : token = Token.ofWord _ := congrArg Reading.token same
    have behind : rest = List.dropWhile isIdentifierPart _ := congrArg Reading.rest same
    have stops : Stops token.continues rest := by
      rw [isWord, Token.continues_ofWord, behind]
      exact stops_dropWhile isIdentifierPart _
    exact scans_of_stops read (stops.of_isPrefix isCut)

/-- At a quote the literal does not end; any other character starts no token. -/
def LexicalFault.at (first : Char) : LexicalFault :=
  if first = '\'' then .unterminatedString else .illegalCharacter first

theorem scanToken_eq_error_iff {first : Char} {fault : LexicalFault} :
    scanToken first rest = .error fault ↔
      fault = .at first ∧
        if first = '\'' then scanQuoted rest = none
        else scanNumber (first :: rest) = none ∧ scanSymbol (first :: rest) = none ∧
          isIdentifierStart first = false := by
  unfold scanToken LexicalFault.at
  by_cases quote : first = '\''
  · rw [if_pos quote, if_pos quote, if_pos quote]
    split
    · next found => simp [found]
    · next failed => simp [failed, eq_comm]
  · rw [if_neg quote, if_neg quote, if_neg quote]
    split
    · next found => simp [found]
    · next noNumber =>
        split
        · next found => simp [found]
        · next noSymbol =>
            unfold scanWord
            split
            · next starts => simp [starts]
            · next starts => simp [noNumber, noSymbol, starts, eq_comm]

theorem scanToken_error_of_isPrefix {first : Char} {fault : LexicalFault}
    (failed : scanToken first rest = .error fault) (isCut : cut <+: rest) :
    scanToken first cut = .error fault := by
  have longer : first :: cut <+: first :: rest := List.cons_prefix_cons.mpr ⟨rfl, isCut⟩
  rw [scanToken_eq_error_iff] at failed ⊢
  rcases failed with ⟨same, unread⟩
  refine ⟨same, ?_⟩
  split at unread
  · next quote =>
      rw [if_pos quote]
      exact scanQuoted_eq_none_of_isPrefix isCut unread
  · next noQuote =>
      rcases unread with ⟨noNumber, noSymbol, noWord⟩
      rw [if_neg noQuote]
      exact ⟨scanNumber_eq_none_of_isPrefix longer noNumber,
        scanSymbol_eq_none_of_isPrefix longer noSymbol, noWord⟩

/-! ## The end of the longest part that can be read -/

/-- What the error of a text says of its parts: `read` is what can be read of it, and with
any more of it the same error stands at the same place. -/
structure EndsAt (position : Nat) (input : List Char) (error : LexicalError)
    (read : List Char) : Prop where
  whole : input = read ++ error.fragment
  position_eq : error.position = position + utf8Length read
  readable : ∃ lexemes, scanTokens position read = .ok lexemes
  unreadable : ∀ more, more ≠ [] → more <+: error.fragment →
    scanTokens position (read ++ more) = .error { error with fragment := more }
  fault_eq : ∃ first rest, error.fragment = first :: rest ∧ error.fault = .at first

theorem scanTokens_of_unread (position : Nat) {space : List Char} {first : Char}
    {fault : LexicalFault} (isSpace : IsSpace space) (noSpace : isSeparator first = false)
    (failed : scanToken first rest = .error fault) :
    scanTokens position (space ++ first :: rest) =
      .error ⟨fault, position + utf8Length space, first :: rest⟩ := by
  have stops : Stops isSeparator (first :: rest) := .cons noSpace
  have taken := stops.takeWhile_append isSpace
  have dropped := stops.dropWhile_append isSpace
  unfold scanTokens
  split
  · next found =>
      rw [dropped] at found
      contradiction
  · next found =>
      rw [dropped] at found
      cases found
      split
      · next unread =>
          rw [failed] at unread
          cases unread
          dsimp only
          rw [taken]
      · next read =>
          rw [failed] at read
          contradiction

namespace EndsAt

variable {position : Nat} {space : List Char}

theorem ofFault (position : Nat) {first : Char} {fault : LexicalFault}
    (isSpace : IsSpace space) (noSpace : isSeparator first = false)
    (failed : scanToken first rest = .error fault) :
    EndsAt position (space ++ first :: rest)
      ⟨fault, position + utf8Length space, first :: rest⟩ space where
  whole := rfl
  position_eq := rfl
  readable := by
    rcases scanTokens_space position isSpace with ⟨start, scanned⟩
    exact ⟨_, scanned⟩
  unreadable := by
    intro more nonempty isCut
    cases more with
    | nil => contradiction
    | cons other more =>
        rcases List.cons_prefix_cons.mp isCut with ⟨rfl, shorter⟩
        exact scanTokens_of_unread position isSpace noSpace
          (scanToken_error_of_isPrefix failed shorter)
  fault_eq := ⟨first, rest, rfl, (scanToken_eq_error_iff.mp failed).1⟩

theorem cons {token : Token} {word read : List Char} {error : LexicalError}
    (isSpace : IsSpace space) (scans : Scans token word rest)
    (later : EndsAt (position + utf8Length space + utf8Length word) rest error read) :
    EndsAt position (space ++ (word ++ rest)) error (space ++ (word ++ read)) where
  whole := by simp [later.whole]
  position_eq := by
    rw [later.position_eq, utf8Length_append, utf8Length_append]
    omega
  readable := by
    have shorter : read <+: rest := ⟨error.fragment, later.whole.symm⟩
    rcases later.readable with ⟨lexemes, scanned⟩
    rw [scanTokens_append position isSpace (scans.of_isPrefix shorter), scanned]
    exact ⟨_, rfl⟩
  unreadable := by
    intro more nonempty isCut
    have shorter : read ++ more <+: rest := by
      rw [later.whole]
      exact (List.prefix_append_right_inj read).mpr isCut
    rw [List.append_assoc, List.append_assoc,
      scanTokens_append position isSpace (scans.of_isPrefix shorter),
      later.unreadable more nonempty isCut]
    rfl
  fault_eq := later.fault_eq

end EndsAt

theorem exists_endsAt_of_scanTokens {position : Nat} {input : List Char}
    {error : LexicalError} (failed : scanTokens position input = .error error) :
    ∃ read, EndsAt position input error read := by
  fun_induction scanTokens position input generalizing error with
  | case1 => contradiction
  | case2 position input start first rest dropped fault =>
      rename_i unread
      cases failed
      have noSpace : isSeparator first = false :=
        stops_dropWhile isSeparator input first (by rw [dropped]; rfl)
      have ends := EndsAt.ofFault position (isSpace_takeWhile input) noSpace unread
      rw [← dropped, List.takeWhile_append_dropWhile, dropped] at ends
      exact ⟨_, ends⟩
  | case3 position input start first rest dropped reading scannedToken _ failure unread =>
      rename_i induction
      cases failed
      rcases induction unread with ⟨read, later⟩
      have whole : input = input.takeWhile isSeparator ++ (reading.text ++ reading.rest) := by
        rw [append_of_scanToken scannedToken, ← dropped, List.takeWhile_append_dropWhile]
      -- The first token is read whatever part of the rest is there.
      have ends := EndsAt.cons (isSpace_takeWhile input) (scans_of_scanToken scannedToken) later
      rw [← whole] at ends
      exact ⟨_, ends⟩
  | case4 => contradiction

theorem LexicalFault.message_illegalCharacter (first : Char) :
    (LexicalFault.illegalCharacter first).message =
      "illegal character `" ++ first.toString ++ "`" := rfl

theorem LexicalFault.message_illegalCharacter_ne (first : Char) :
    (LexicalFault.illegalCharacter first).message ≠ LexicalFault.unterminatedString.message := by
  have illegal : "illegal character `".toList = 'i' :: "llegal character `".toList := by
    decide +kernel
  have unterminated : LexicalFault.unterminatedString.message.toList =
      'u' :: "nterminated string literal".toList := by
    decide +kernel
  intro same
  have letters := congrArg String.toList same
  rw [message_illegalCharacter, String.append_assoc, String.toList_append, illegal,
    unterminated, List.cons_append] at letters
  exact absurd (List.cons.inj letters).1 (by decide)

theorem LexicalFault.message_at_eq_iff (first : Char) :
    (LexicalFault.at first).message = LexicalFault.unterminatedString.message ↔
      first = '\'' := by
  unfold LexicalFault.at
  split
  · next quote => exact ⟨fun _ => quote, fun _ => rfl⟩
  · next noQuote =>
      exact ⟨fun same => absurd same (message_illegalCharacter_ne first),
        fun quote => absurd quote noQuote⟩

/-- A lexical error stands at the end of the longest part of the text, from its start, that
can be read. -/
theorem tokenize_error_longest {input : String} {error : LexicalError}
    (failed : tokenize input = .error error) :
    ∃ read first rest, input.toList = read ++ error.fragment ∧
      error.position = (String.ofList read).utf8ByteSize ∧
      (∃ lexemes, tokenize (String.ofList read) = .ok lexemes) ∧
      (∀ longer, longer <+: input.toList → read.length < longer.length →
        ∃ other, tokenize (String.ofList longer) = .error other) ∧
      error.fragment = first :: rest ∧
      (error.fault.message = "unterminated string literal" ↔ first = '\'') ∧
      (first ≠ '\'' → error.fault.message = "illegal character `" ++ first.toString ++ "`") := by
  rcases exists_endsAt_of_scanTokens failed with ⟨read, ends⟩
  rcases ends.fault_eq with ⟨first, rest, fragment, fault⟩
  refine ⟨read, first, rest, ends.whole, ?_, ?_, ?_, fragment, ?_, ?_⟩
  · rw [ends.position_eq, Nat.zero_add, utf8Length_eq_utf8ByteSize]
  · simpa [tokenize] using ends.readable
  · intro longer isPart isLonger
    have starts : read <+: input.toList := ⟨error.fragment, ends.whole.symm⟩
    rcases List.prefix_of_prefix_length_le starts isPart (Nat.le_of_lt isLonger) with
      ⟨more, rfl⟩
    have nonempty : more ≠ [] := by
      rintro rfl
      simp at isLonger
    have isCut : more <+: error.fragment := by
      rw [ends.whole] at isPart
      exact (List.prefix_append_right_inj read).mp isPart
    refine ⟨{ error with fragment := more }, ?_⟩
    rw [tokenize, String.toList_ofList]
    exact ends.unreadable more nonempty isCut
  · rw [fault]
    exact LexicalFault.message_at_eq_iff first
  · intro noQuote
    rw [fault, LexicalFault.at, if_neg noQuote, LexicalFault.message_illegalCharacter]

/-! A sign behind an unfinished exponent, which only digits could complete. -/

def unfinishedText : String :=
  "a = '€' _and_ 1e+&"

theorem tokenize_unfinishedText :
    tokenize unfinishedText = .error ⟨.illegalCharacter '+', 18, ['+', '&']⟩ ∧
      ∃ read first rest, unfinishedText.toList = read ++ ['+', '&'] ∧
        18 = (String.ofList read).utf8ByteSize ∧
        (∃ lexemes, tokenize (String.ofList read) = .ok lexemes) ∧
        (∀ longer, longer <+: unfinishedText.toList → read.length < longer.length →
          ∃ other, tokenize (String.ofList longer) = .error other) ∧
        ['+', '&'] = first :: rest ∧
        ((LexicalFault.illegalCharacter '+').message = "unterminated string literal" ↔
          first = '\'') ∧
        (first ≠ '\'' → (LexicalFault.illegalCharacter '+').message =
          "illegal character `" ++ first.toString ++ "`") := by
  have failed : tokenize unfinishedText = .error ⟨.illegalCharacter '+', 18, ['+', '&']⟩ := by
    decide +kernel
  exact ⟨failed, tokenize_error_longest failed⟩

end LogQuery.Query
