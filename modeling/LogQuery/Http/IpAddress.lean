import LogQuery.Text.Integer
import LogQuery.Text.Hexadecimal

namespace LogQuery.Http

/-! Numeric addresses: four octets in decimal, or eight groups in hexadecimal.
Readers take what they can from the front and leave the rest. -/

def takeChar (expected : Char) : List Char → Option (List Char)
  | [] => none
  | first :: rest => if first = expected then some rest else none

/-- Decimal digits without a limit on their number but on their value. -/
def takeDecimal (limit : Nat) (input : List Char) : Option (Nat × List Char) :=
  let digits := input.takeWhile Char.isDigit
  let value := Text.digitsValue digits
  if digits = [] ∨ limit < value then none
  else some (value, input.dropWhile Char.isDigit)

/-- An octet has no leading zeros. -/
def takeOctet (input : List Char) : Option (Nat × List Char) :=
  match input.takeWhile Char.isDigit with
  | '0' :: _ :: _ => none
  | digits => if 3 < digits.length then none else takeDecimal 255 input

def takeV4 (input : List Char) : Option (List Nat × List Char) := do
  let (first, rest) ← takeOctet input
  let rest ← takeChar '.' rest
  let (second, rest) ← takeOctet rest
  let rest ← takeChar '.' rest
  let (third, rest) ← takeOctet rest
  let rest ← takeChar '.' rest
  let (fourth, rest) ← takeOctet rest
  some ([first, second, third, fourth], rest)

/-- One to four hexadecimal digits. -/
def takeGroup (input : List Char) : Option (Nat × List Char) :=
  let digits := input.takeWhile Text.isHexDigit
  if digits = [] ∨ 4 < digits.length then none
  else
    some (Text.hexDigitsValue digits, input.dropWhile Text.isHexDigit)

/-- A colon before all groups but the first. -/
def takeSeparator (isFirst : Bool) (input : List Char) : Option (List Char) :=
  if isFirst then some input else takeChar ':' input

/-- Up to `room` groups, of which a dotted address at the end makes two. Tells also
whether there was one. -/
def takeGroups (isFirst : Bool) (room : Nat) (input : List Char) :
    List Nat × Bool × List Char :=
  match room with
  | 0 => ([], false, input)
  | room + 1 =>
      let dotted :=
        if 0 < room then (takeSeparator isFirst input).bind takeV4 else none
      match dotted with
      | some ([first, second, third, fourth], rest) =>
          ([first * 256 + second, third * 256 + fourth], true, rest)
      | _ =>
          match (takeSeparator isFirst input).bind takeGroup with
          | none => ([], false, input)
          | some (group, rest) =>
              let (groups, ended, rest) := takeGroups false room rest
              (group :: groups, ended, rest)

/-- Eight groups, or fewer around a double colon that stands for zeros. -/
def takeV6 (input : List Char) : Option (List Nat × List Char) :=
  let (leading, dotted, rest) := takeGroups true 8 input
  if leading.length = 8 then some (leading, rest)
  else if dotted then none
  else do
    let rest ← takeChar ':' rest
    let rest ← takeChar ':' rest
    let (trailing, _, rest) := takeGroups true (7 - leading.length) rest
    let missing := 8 - leading.length - trailing.length
    some (leading ++ List.replicate missing 0 ++ trailing, rest)

/-! ## Writing

The longest run of at least two zero groups, the first of equals, is written as a
double colon. An address that stands for one of the older kind ends in it. -/

def dottedText (octets : List Nat) : String :=
  ".".intercalate (octets.map Nat.repr)

def hexGroup (group : Nat) : String :=
  String.ofList (Nat.toDigits 16 group)

def groupsText (groups : List Nat) : String :=
  ":".intercalate (groups.map hexGroup)

def zeroRun (groups : List Nat) : Nat :=
  (groups.takeWhile (· = 0)).length

/-- Start and length of the longest run of zeros; `best` is the longest so far. -/
def longestZeros (best : Nat × Nat) (position : Nat) : List Nat → Nat × Nat
  | [] => best
  | group :: rest =>
      let run := zeroRun (group :: rest)
      longestZeros (if best.2 < run then (position, run) else best) (position + 1) rest

def v6Text (groups : List Nat) : String :=
  match groups with
  | [0, 0, 0, 0, 0, 0xFFFF, high, low] =>
      "::ffff:" ++ dottedText [high / 256, high % 256, low / 256, low % 256]
  | _ =>
      let (start, length) := longestZeros (0, 0) 0 groups
      if length < 2 then groupsText groups
      else groupsText (groups.take start) ++ "::" ++ groupsText (groups.drop (start + length))

end LogQuery.Http
