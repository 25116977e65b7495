import LogQuery.Proofs.Outcome
import LogQuery.Proofs.Query.Printed

namespace LogQuery.Query

/-! ## Lengths in bytes -/

theorem utf8Length_append (front back : List Char) :
    utf8Length (front ++ back) = utf8Length front + utf8Length back := by
  induction front with
  | nil => simp [utf8Length]
  | cons first front induction =>
      simp only [List.cons_append, utf8Length, induction]
      omega

theorem utf8Length_eq_utf8ByteSize (text : List Char) :
    utf8Length text = (String.ofList text).utf8ByteSize := by
  induction text with
  | nil => rfl
  | cons first text induction =>
      rw [utf8Length, induction, String.ofList_cons, String.utf8ByteSize_append,
        String.utf8ByteSize_singleton]

/-! ## The word of a token -/

theorem isPrintedAs_of_scanSymbol {input : List Char} {reading : Reading}
    (scanned : scanSymbol input = some reading) :
    reading.token.IsPrintedAs reading.text := by
  unfold scanSymbol at scanned
  split at scanned <;> cases scanned <;> rfl

theorem Token.isPrintedAs_ofWord (word : List Char) : (Token.ofWord word).IsPrintedAs word := by
  unfold ofWord
  split
  · next known found => exact Keyword.ofWord?_eq_some_iff.mp found
  · exact String.toList_ofList.symm

theorem Token.isPlainName_of_ofWord {word : List Char} {name : String}
    (same : Token.ofWord word = .identifier name) : IsPlainName name := by
  unfold ofWord at same
  split at same
  · contradiction
  · next unknown =>
      cases same
      apply Keyword.ofWord?_eq_none_iff.mp
      rw [String.toList_ofList]
      exact unknown

theorem ne_identifier_of_scanSymbol {input : List Char} {reading : Reading}
    (scanned : scanSymbol input = some reading) (name : String) :
    reading.token ≠ .identifier name := by
  unfold scanSymbol at scanned
  split at scanned <;> cases scanned <;> nofun

theorem isReadFrom_of_scanToken {first : Char} {input : List Char} {reading : Reading}
    (scanned : scanToken first input = .ok reading) :
    reading.token.IsReadFrom reading.text := by
  have lexed := isLexed_of_scanToken scanned
  rcases scanToken_cases scanned with ⟨_, _, _, _, rfl⟩ | ⟨_, _, _, rfl⟩ | symbol | ⟨_, rfl⟩
  · exact ⟨lexed, String.toList_ofList.symm, nofun⟩
  · exact ⟨lexed, String.toList_ofList.symm, nofun⟩
  · exact ⟨lexed, isPrintedAs_of_scanSymbol symbol,
      fun name same => absurd same (ne_identifier_of_scanSymbol symbol name)⟩
  · exact ⟨lexed, Token.isPrintedAs_ofWord _, fun _ => Token.isPlainName_of_ofWord⟩

/-! ## Slices of a text -/

/-- A word of a text, the space in front of it, and the lexeme that it is read as. -/
structure Slice where
  space : List Char
  word : List Char
  lexeme : Lexeme

def Slice.text (slice : Slice) : List Char :=
  slice.space ++ slice.word

/-- The text that slices make one behind the other. -/
def sliced (slices : List Slice) : List Char :=
  slices.flatMap Slice.text

/-- The lexemes of a text that starts at byte `position`, as slices of it. Only space stands
between the words, and behind the last one. -/
structure IsSliced (position : Nat) (input : List Char) (lexemes : List Lexeme)
    (slices : List Slice) (ending : List Char) : Prop where
  whole : input = sliced slices ++ ending
  lexemes_eq : lexemes =
    slices.map Slice.lexeme ++ [⟨.endOfInput, position + utf8Length input⟩]
  isSpace : ∀ slice ∈ slices, IsSpace slice.space
  isRead : ∀ slice ∈ slices, slice.lexeme.token.IsReadFrom slice.word
  endsInSpace : IsSpace ending
  position_eq : ∀ front slice back, slices = front ++ slice :: back →
    slice.lexeme.position = position + utf8Length (sliced front ++ slice.space)

theorem isSpace_takeWhile (input : List Char) : IsSpace (input.takeWhile isSeparator) :=
  List.all_eq_true.mp List.all_takeWhile

namespace IsSliced

variable {position : Nat}

theorem ofSpace (position : Nat) {space : List Char} (isSpace : IsSpace space) :
    IsSliced position space [⟨.endOfInput, position + utf8Length space⟩] [] space where
  whole := rfl
  lexemes_eq := rfl
  isSpace := List.forall_mem_nil _
  isRead := List.forall_mem_nil _
  endsInSpace := isSpace
  position_eq := by simp

theorem cons {space word rest ending : List Char} {token : Token} {lexemes : List Lexeme}
    {slices : List Slice} (isSpace : IsSpace space) (isRead : token.IsReadFrom word)
    (later : IsSliced (position + utf8Length space + utf8Length word) rest lexemes slices
      ending) :
    IsSliced position (space ++ (word ++ rest)) (⟨token, position + utf8Length space⟩ :: lexemes)
      (⟨space, word, ⟨token, position + utf8Length space⟩⟩ :: slices) ending where
  whole := by simp [sliced, Slice.text, later.whole]
  lexemes_eq := by
    rw [later.lexemes_eq]
    simp only [utf8Length_append, Nat.add_assoc, List.map_cons, List.cons_append]
  isSpace := List.forall_mem_cons.mpr ⟨isSpace, later.isSpace⟩
  isRead := List.forall_mem_cons.mpr ⟨isRead, later.isRead⟩
  endsInSpace := later.endsInSpace
  position_eq := by
    intro front slice back split
    cases front with
    | nil =>
        cases split
        rfl
    | cons first front =>
        cases split
        rw [later.position_eq front slice back rfl]
        simp only [sliced, List.flatMap_cons, Slice.text, utf8Length_append, Nat.add_assoc]

end IsSliced

theorem exists_isSliced_of_scanTokens {position : Nat} {input : List Char}
    {lexemes : List Lexeme} (scanned : scanTokens position input = .ok lexemes) :
    ∃ slices ending, IsSliced position input lexemes slices ending := by
  fun_induction scanTokens position input generalizing lexemes with
  | case1 position input start =>
      rename_i dropped
      cases scanned
      have spaceOnly : input = input.takeWhile isSeparator := by
        rw [← List.append_nil (input.takeWhile isSeparator), ← dropped,
          List.takeWhile_append_dropWhile]
      have isSliced := IsSliced.ofSpace position (isSpace_takeWhile input)
      rw [← spaceOnly] at isSliced
      refine ⟨[], input, ?_⟩
      change IsSliced position input
        [⟨.endOfInput, position + utf8Length (input.takeWhile isSeparator)⟩] [] input
      rw [← spaceOnly]
      exact isSliced
  | case2 => contradiction
  | case3 => contradiction
  | case4 position input start first rest dropped reading scannedToken _ lexemes scannedRest =>
      rename_i induction
      cases scanned
      rcases induction scannedRest with ⟨slices, ending, later⟩
      have whole : input = input.takeWhile isSeparator ++ (reading.text ++ reading.rest) := by
        rw [append_of_scanToken scannedToken, ← dropped, List.takeWhile_append_dropWhile]
      have isSliced := IsSliced.cons (isSpace_takeWhile input)
        (isReadFrom_of_scanToken scannedToken) later
      rw [← whole] at isSliced
      exact ⟨_, _, isSliced⟩

/-- Reading the tokens of a text loses nothing of it. -/
theorem tokenize_lossless {input : String} {lexemes : List Lexeme}
    (tokenized : tokenize input = .ok lexemes) :
    ∃ slices ending, input.toList = sliced slices ++ ending ∧
      lexemes = slices.map Slice.lexeme ++ [⟨.endOfInput, input.utf8ByteSize⟩] ∧
      (∀ slice ∈ slices, IsSpace slice.space ∧ slice.lexeme.token.IsReadFrom slice.word) ∧
      IsSpace ending ∧
      ∀ front slice back, slices = front ++ slice :: back →
        slice.lexeme.position = (String.ofList (sliced front ++ slice.space)).utf8ByteSize := by
  rcases exists_isSliced_of_scanTokens tokenized with ⟨slices, ending, isSliced⟩
  have wholeSize : 0 + utf8Length input.toList = input.utf8ByteSize := by
    rw [Nat.zero_add, utf8Length_eq_utf8ByteSize, String.ofList_toList]
  refine ⟨slices, ending, isSliced.whole, ?_, ?_, isSliced.endsInSpace, ?_⟩
  · rw [isSliced.lexemes_eq, wholeSize]
  · exact fun slice member => ⟨isSliced.isSpace slice member, isSliced.isRead slice member⟩
  · intro front slice back split
    rw [isSliced.position_eq front slice back split, Nat.zero_add, utf8Length_eq_utf8ByteSize]

/-! Keywords in mixed case, an escaped quote, a character of two bytes, and little space. -/

def crowdedText : String :=
  "\t_Not_(a=~'é\\'')_OR_ b<=-1.5e+3\r\n"

def crowdedLexemes : List Lexeme :=
  [⟨.keyword .not, 1⟩, ⟨.openParen, 6⟩, ⟨.identifier "a", 7⟩, ⟨.operator .ilike, 8⟩,
    ⟨.literal "'é\\''", 10⟩, ⟨.closeParen, 16⟩, ⟨.keyword .or, 17⟩, ⟨.identifier "b", 22⟩,
    ⟨.operator .lessEqual, 23⟩, ⟨.number "-1.5e+3", 25⟩, ⟨.endOfInput, 34⟩]

theorem tokenize_crowdedText :
    tokenize crowdedText = .ok crowdedLexemes ∧
      ∃ slices ending, crowdedText.toList = sliced slices ++ ending ∧
        crowdedLexemes = slices.map Slice.lexeme ++ [⟨.endOfInput, crowdedText.utf8ByteSize⟩] ∧
        (∀ slice ∈ slices, IsSpace slice.space ∧ slice.lexeme.token.IsReadFrom slice.word) ∧
        IsSpace ending ∧
        ∀ front slice back, slices = front ++ slice :: back →
          slice.lexeme.position =
            (String.ofList (sliced front ++ slice.space)).utf8ByteSize := by
  have tokenized : tokenize crowdedText = .ok crowdedLexemes :=
    eq_ok_of_toOption (by decide +kernel)
  exact ⟨tokenized, tokenize_lossless tokenized⟩

end LogQuery.Query
