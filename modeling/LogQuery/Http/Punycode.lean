namespace LogQuery.Http.Punycode

/-! Text of any script is written with ASCII letters, digits and hyphens. The ASCII
characters come first, as they are. The others follow after a hyphen, in the order of
their codes: each is a number that counts the places, for this and for every smaller
code, at which no character is put in. -/

def base : Nat := 36

def firstCode : Nat := 0x80

def firstBias : Nat := 72

/-- Numbers that do not fit in 32 bits are refused. -/
def maxNumber : Nat := Nat.pow 2 32 - 1

/-! ## Digits

A number is written with its lowest digit first. Which digit may end it depends on
its position and on the bias, which follows the size of the numbers before. -/

def digitValue? (character : Char) : Option Nat :=
  if 'a' ≤ character ∧ character ≤ 'z' then some (character.toNat - 'a'.toNat)
  else if 'A' ≤ character ∧ character ≤ 'Z' then some (character.toNat - 'A'.toNat)
  else if character.isDigit then some (character.toNat - '0'.toNat + 26)
  else none

def digit (value : Nat) : Char :=
  if value < 26 then Char.ofNat ('a'.toNat + value)
  else Char.ofNat ('0'.toNat + (value - 26))

/-- Digits below the threshold end a number. -/
def threshold (bias position : Nat) : Nat :=
  max 1 (min 26 (position * base - bias))

/-- How often the number must be cut down, and what is left of it. -/
def cutDown (number : Nat) : Nat × Nat :=
  if 455 < number then
    let (times, rest) := cutDown (number / 35)
    (times + 1, rest)
  else (0, number)
termination_by number
decreasing_by omega

def adapt (number length : Nat) (isFirst : Bool) : Nat :=
  let damped := if isFirst then number / 700 else number / 2
  let (times, rest) := cutDown (damped + damped / length)
  times * base + base * rest / (rest + 38)

/-! ## Reading -/

def readNumber (bias position weight value : Nat) :
    List Char → Option (Nat × List Char)
  | [] => none
  | character :: rest =>
      match digitValue? character with
      | none => none
      | some digit =>
          let value := value + digit * weight
          let threshold := threshold bias position
          let next := weight * (base - threshold)
          if maxNumber < value then none
          else if digit < threshold then some (value, rest)
          else if maxNumber < next then none
          else readNumber bias (position + 1) next value rest

theorem length_lt_of_readNumber {bias position weight value number : Nat}
    {input rest : List Char}
    (read : readNumber bias position weight value input = some (number, rest)) :
    rest.length < input.length := by
  induction input generalizing position weight value with
  | nil => contradiction
  | cons character input induction =>
      rw [readNumber] at read
      split at read
      · contradiction
      · simp only at read
        split at read
        · contradiction
        · split at read
          · cases read
            simp
          · split at read
            · contradiction
            · have := induction read
              simp only [List.length_cons]
              omega

def isScalar (code : Nat) : Bool :=
  code < 0xD800 || (0xDFFF < code && code < 0x110000)

/-- Puts characters into a text, beginning with the given code at the given place. -/
def insertAll (bias code place : Nat) (text : List Char) (input : List Char) :
    Option (List Char) :=
  match input with
  | [] => some text
  | first :: more =>
      match read : readNumber bias 1 1 place (first :: more) with
      | none => none
      | some (number, rest) =>
          let length := text.length + 1
          let code := code + number / length
          let index := number % length
          if isScalar code then
            insertAll (adapt (number - place) length (place = 0)) code (index + 1)
              (text.insertIdx index (Char.ofNat code)) rest
          else none
termination_by input.length
decreasing_by exact length_lt_of_readNumber read

/-- The ASCII characters before the last hyphen, and what follows it. A hyphen at the
very beginning is no separator. -/
def split (input : List Char) : List Char × List Char :=
  match input.reverse.dropWhile (· ≠ '-') with
  | [] => ([], input)
  | [_] => ([], input)
  | _ :: plain => (plain.reverse, (input.reverse.takeWhile (· ≠ '-')).reverse)

def isPlain (character : Char) : Bool :=
  character.toNat < firstCode

def decode (input : List Char) : Option (List Char) :=
  let (plain, rest) := split input
  if plain.all isPlain then insertAll firstBias firstCode 0 plain rest else none

/-! ## Writing -/

theorem threshold_pos (bias position : Nat) : 1 ≤ threshold bias position := by
  unfold threshold
  omega

def writeNumber (bias position number : Nat) : List Char :=
  let limit := threshold bias position
  if small : number < limit then [digit number]
  else
    have : (number - limit) / (base - limit) < number := by
      have positive : 1 ≤ limit := threshold_pos bias position
      have bound := Nat.div_le_self (number - limit) (base - limit)
      omega
    digit (limit + (number - limit) % (base - limit)) ::
      writeNumber bias (position + 1) ((number - limit) / (base - limit))
termination_by number

/-- What was written, the number to write next, and how many characters it counts
among. -/
structure Writing where
  output : List Char
  number : Nat
  bias : Nat
  length : Nat

/-- Passes one character of the text while the characters of one code are put in. -/
def Writing.pass (plain code : Nat) (state : Writing) (character : Char) : Writing :=
  if character.toNat < code then { state with number := state.number + 1 }
  else if character.toNat = code then
    { output := state.output ++ writeNumber state.bias 1 state.number
      number := 0
      bias := adapt state.number (state.length + 1) (state.length = plain)
      length := state.length + 1 }
  else state

/-- Puts in the characters of one code after another, from `code` on. -/
def writeCodes (text : List Char) (plain : Nat) :
    (code : Nat) → Writing → List Nat → List Char
  | _, state, [] => state.output
  | code, state, next :: codes =>
      let state := { state with
        number := state.number + (next - code) * (state.length + 1) }
      let state := text.foldl (Writing.pass plain next) state
      writeCodes text plain (next + 1) { state with number := state.number + 1 } codes

def otherCodes (text : List Char) : List Nat :=
  (((text.filter fun character => !isPlain character).map Char.toNat).mergeSort
    fun left right => left ≤ right).eraseDups

def encode (text : List Char) : List Char :=
  let plain := text.filter isPlain
  (if plain = [] then [] else plain ++ ['-']) ++
    writeCodes text plain.length firstCode ⟨[], 0, firstBias, plain.length⟩
      (otherCodes text)

end LogQuery.Http.Punycode
