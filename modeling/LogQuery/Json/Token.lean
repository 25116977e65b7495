import LogQuery.Json.Number
import LogQuery.Text.Hexadecimal

namespace LogQuery.Json

/-! The tokens of a JSON text. A string or a number may be well formed and still
have no value: a string with half of a surrogate pair, a number beyond every
double. A text that goes wrong ends in `malformed`. -/

inductive Token where
  | openArray
  | closeArray
  | openObject
  | closeObject
  | comma
  | colon
  | null
  | boolean (value : Bool)
  | number (value : Option JsonNumber)
  | text (value : Option String)
  | malformed
  deriving Repr

/-! ## Strings

A character stands for itself or is escaped; an escape by code gives one UTF-16
unit, and two units may make up one character. -/

inductive StringUnit where
  | character (character : Char)
  | code (code : Nat)
  deriving Repr

def hexCode? (first second third fourth : Char) : Option Nat := do
  let first ← Text.hexValue? first
  let second ← Text.hexValue? second
  let third ← Text.hexValue? third
  let fourth ← Text.hexValue? fourth
  some (((first * 16 + second) * 16 + third) * 16 + fourth)

def simpleEscape? : Char → Option Char
  | '"' => some '"'
  | '\\' => some '\\'
  | '/' => some '/'
  | 'b' => some '\x08'
  | 'f' => some '\x0c'
  | 'n' => some '\n'
  | 'r' => some '\r'
  | 't' => some '\t'
  | _ => none

/-- Reads up to the closing quote; `done` holds the units read, last one
first. -/
def takeString (done : List StringUnit) :
    List Char → Option (List StringUnit × List Char)
  | [] => none
  | '"' :: rest => some (done.reverse, rest)
  | '\\' :: 'u' :: first :: second :: third :: fourth :: rest =>
      match hexCode? first second third fourth with
      | some code => takeString (.code code :: done) rest
      | none => none
  | '\\' :: escaped :: rest =>
      match simpleEscape? escaped with
      | some character => takeString (.character character :: done) rest
      | none => none
  | character :: rest =>
      if character.toNat < 0x20 ∨ character = '\\' then none
      else takeString (.character character :: done) rest

def isHighSurrogate (code : Nat) : Bool :=
  0xD800 ≤ code && code < 0xDC00

def isLowSurrogate (code : Nat) : Bool :=
  0xDC00 ≤ code && code < 0xE000

def joinUnits (done : List Char) : List StringUnit → Option (List Char)
  | [] => some done.reverse
  | .character character :: rest => joinUnits (character :: done) rest
  | .code high :: .code low :: rest =>
      if isHighSurrogate high then
        if isLowSurrogate low then
          let code := 0x10000 + (high - 0xD800) * 0x400 + (low - 0xDC00)
          joinUnits (Char.ofNat code :: done) rest
        else none
      else if isLowSurrogate high then none
      else joinUnits (Char.ofNat high :: done) (.code low :: rest)
  | .code code :: rest =>
      if isHighSurrogate code || isLowSurrogate code then none
      else joinUnits (Char.ofNat code :: done) rest

def stringValue (units : List StringUnit) : Option String :=
  (joinUnits [] units).map String.ofList

/-! ## Tokens

Each token takes at least one character. -/

def isSpace (character : Char) : Bool :=
  character = ' ' || character = '\t' || character = '\r' || character = '\n'

theorem length_le_of_takeString {done units : List StringUnit}
    {input rest : List Char} (taken : takeString done input = some (units, rest)) :
    rest.length ≤ input.length := by
  fun_induction takeString done input with
  | case1 => contradiction
  | case2 done after =>
      cases taken
      simp
  | case3 _ _ _ _ _ _ _ _ induction =>
      have := induction taken
      simp only [List.length_cons]
      omega
  | case4 => contradiction
  | case5 _ _ _ _ _ _ induction =>
      have := induction taken
      simp only [List.length_cons]
      omega
  | case6 => contradiction
  | case7 => contradiction
  | case8 _ _ _ _ _ _ _ induction =>
      have := induction taken
      simp only [List.length_cons]
      omega

theorem length_lt_of_takeDigits {input digits rest : List Char}
    (taken : takeDigits input = some (digits, rest)) : rest.length < input.length := by
  unfold takeDigits at taken
  split at taken
  · contradiction
  · next nonempty =>
      cases taken
      have joined := congrArg List.length
        (List.takeWhile_append_dropWhile (p := Char.isDigit) (l := input))
      rw [List.length_append] at joined
      have positive := List.length_pos_iff.mpr nonempty
      omega

theorem length_lt_of_takeWhole {input whole rest : List Char}
    (taken : takeWhole input = some (whole, rest)) : rest.length < input.length := by
  unfold takeWhole at taken
  split at taken
  · contradiction
  · exact length_lt_of_takeDigits taken

theorem length_le_of_takeFraction {input rest : List Char} {fraction : Option (List Char)}
    (taken : takeFraction input = some (fraction, rest)) :
    rest.length ≤ input.length := by
  unfold takeFraction at taken
  split at taken
  · obtain ⟨⟨digits, after⟩, found, same⟩ := Option.map_eq_some_iff.mp taken
    cases same
    have shorter := length_lt_of_takeDigits found
    simp only [List.length_cons]
    omega
  · cases taken
    exact Nat.le_refl _

theorem length_le_of_takeSignedDigits {input rest : List Char} {value : Int}
    (taken : takeSignedDigits input = some (value, rest)) :
    rest.length ≤ input.length := by
  unfold takeSignedDigits at taken
  split at taken <;>
    obtain ⟨⟨digits, after⟩, found, same⟩ := Option.map_eq_some_iff.mp taken <;>
    cases same <;>
    have shorter := length_lt_of_takeDigits found <;>
    grind

theorem length_le_of_takeExponent {input rest : List Char} {exponent : Option Int}
    (taken : takeExponent input = some (exponent, rest)) :
    rest.length ≤ input.length := by
  unfold takeExponent at taken
  split at taken
  · cases taken
    exact Nat.le_refl _
  · split at taken
    · obtain ⟨⟨value, after⟩, found, same⟩ := Option.map_eq_some_iff.mp taken
      cases same
      have shorter := length_le_of_takeSignedDigits found
      simp only [List.length_cons]
      omega
    · cases taken
      exact Nat.le_refl _

theorem length_lt_of_takeNumber {input rest : List Char} {text : NumberText}
    (taken : takeNumber input = some (text, rest)) : rest.length < input.length := by
  unfold takeNumber at taken
  simp only [Option.bind_eq_bind, Option.bind_eq_some_iff, Prod.exists] at taken
  obtain ⟨whole, afterWhole, foundWhole, fraction, afterFraction, foundFraction,
    exponent, afterExponent, foundExponent, same⟩ := taken
  cases same
  have shorter := length_lt_of_takeWhole foundWhole
  have minus : (takeMinus input).2.length ≤ input.length := by
    unfold takeMinus
    split <;> simp
  have := length_le_of_takeFraction foundFraction
  have := length_le_of_takeExponent foundExponent
  omega

def scanTokens (done : List Token) (input : List Char) : List Token :=
  match input with
  | [] => done.reverse
  | '[' :: rest => scanTokens (.openArray :: done) rest
  | ']' :: rest => scanTokens (.closeArray :: done) rest
  | '\x7b' :: rest => scanTokens (.openObject :: done) rest
  | '\x7d' :: rest => scanTokens (.closeObject :: done) rest
  | ',' :: rest => scanTokens (.comma :: done) rest
  | ':' :: rest => scanTokens (.colon :: done) rest
  | 'n' :: 'u' :: 'l' :: 'l' :: rest => scanTokens (.null :: done) rest
  | 't' :: 'r' :: 'u' :: 'e' :: rest => scanTokens (.boolean true :: done) rest
  | 'f' :: 'a' :: 'l' :: 's' :: 'e' :: rest => scanTokens (.boolean false :: done) rest
  | '"' :: rest =>
      match taken : takeString [] rest with
      | some (units, after) =>
          have := length_le_of_takeString taken
          scanTokens (.text (stringValue units) :: done) after
      | none => (.malformed :: done).reverse
  | character :: rest =>
      if isSpace character then scanTokens done rest
      else
        match taken : takeNumber (character :: rest) with
        | some (parts, after) =>
            have := length_lt_of_takeNumber taken
            scanTokens (.number parts.value? :: done) after
        | none => (.malformed :: done).reverse
termination_by input.length
decreasing_by all_goals grind

def tokens (text : String) : List Token :=
  scanTokens [] text.toList

end LogQuery.Json
