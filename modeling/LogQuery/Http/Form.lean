import LogQuery.Http.Percent

namespace LogQuery.Http

/-! A form is a list of named values, written as a query string: pairs are joined
by ampersands, names and values by equals signs. Inside a name or a value a plus
sign stands for a space, and percent signs for bytes. -/

abbrev Form := List (String × String)

/-! ## Reading -/

def plusToSpace (character : Char) : Char :=
  if character = '+' then ' ' else character

def decodePart (part : List Char) : String :=
  Text.utf8Decode (percentDecode (Text.utf8Bytes (part.map plusToSpace)))

/-- A pair without an equals sign is a name with the empty value. -/
def readPair (pair : List Char) : String × String :=
  (decodePart (pair.takeWhile (· ≠ '=')),
    decodePart ((pair.dropWhile (· ≠ '=')).drop 1))

def Form.read (query : List Char) : Form :=
  ((query.splitOn '&').filter (· ≠ [])).map readPair

/-! ## Writing -/

def isUnreserved (byte : UInt8) : Bool :=
  let character := Char.ofNat byte.toNat
  character.isAlphanum || ['*', '-', '.', '_'].contains character

def encodeByte (byte : UInt8) : List Char :=
  if isUnreserved byte then [Char.ofNat byte.toNat]
  else if byte = 0x20 then ['+']
  else percentEncode byte

def encodePart (part : String) : String :=
  String.ofList ((Text.utf8Bytes part.toList).flatMap encodeByte)

def Form.write (form : Form) : String :=
  "&".intercalate (form.map fun pair => encodePart pair.1 ++ "=" ++ encodePart pair.2)

/-! ## Looking up -/

inductive FormFault where
  | repeated (name : String)
  | notNumber (name : String)
  deriving DecidableEq, Repr

/-- The value of a name that may be left out but not given twice. -/
def Form.value? (form : Form) (name : String) : Except FormFault (Option String) :=
  match form.filter (·.1 = name) with
  | [] => .ok none
  | [pair] => .ok (some pair.2)
  | _ => .error (.repeated name)

/-- A number is read by `read`, which takes no blanks. -/
def Form.number? (form : Form) (name : String) (read : String → Except ε α) :
    Except FormFault (Option α) := do
  match ← form.value? name with
  | none => .ok none
  | some text =>
      match read text with
      | .ok value => .ok (some value)
      | .error _ => .error (.notNumber name)

end LogQuery.Http
