import LogQuery.Json.Reader

namespace LogQuery.Json

/-! Reading a text straight into a record. Of two faults the one that comes first
in the text counts, so a value of the wrong type is reported even if the text
goes wrong after it. -/

inductive BodyFault where
  | malformed
  | mismatch
  deriving DecidableEq, Repr

abbrev Decoder (α : Type) := List Token → Except BodyFault (α × List Token)

/-- The fault of a token that starts no value of the wanted type. -/
def Token.fault : Token → BodyFault
  | .null => .mismatch
  | .boolean _ => .mismatch
  | .number (some _) => .mismatch
  | .text (some _) => .mismatch
  | .openArray => .mismatch
  | .openObject => .mismatch
  | _ => .malformed

def refuse : List Token → BodyFault
  | [] => .malformed
  | token :: _ => token.fault

namespace Decoder

def string : Decoder String
  | .text (some value) :: rest => .ok (value, rest)
  | tokens => .error (refuse tokens)

/-- A whole number of 64 bits. -/
def integer : Decoder Int
  | .number (some (.integer value)) :: rest =>
      if value ≤ Text.maxInteger64 then .ok (value, rest) else .error .mismatch
  | tokens => .error (refuse tokens)

/-- Skips a value of any type. -/
def skip : Decoder Unit := fun tokens =>
  match skippingRules.takeValue tokens with
  | some (_, rest) => .ok ((), rest)
  | none => .error .malformed

def expect (expected : Token → Bool) : Decoder Unit
  | token :: rest => if expected token then .ok ((), rest) else .error .malformed
  | [] => .error .malformed

def isColon : Token → Bool
  | .colon => true
  | _ => false

/-- The items after the first, up to the end of the array. `remaining` bounds the
items by the tokens left. -/
def moreItems (item : Decoder α) (remaining : Nat) (done : List α) :
    Decoder (List α) := fun tokens =>
  match remaining, tokens with
  | _, .closeArray :: rest => .ok (done.reverse, rest)
  | _, .comma :: .closeArray :: _ => .error .malformed
  | remaining + 1, .comma :: rest => do
      let (value, rest) ← item rest
      moreItems item remaining (value :: done) rest
  | _, _ => .error .malformed

def list (item : Decoder α) : Decoder (List α)
  | .openArray :: .closeArray :: rest => .ok ([], rest)
  | .openArray :: rest => do
      let (value, rest) ← item rest
      moreItems item rest.length [value] rest
  | tokens => .error (refuse tokens)

end Decoder

/-- A field of a record and how its value is read into it. -/
structure FieldDecoder (α : Type) where
  key : String
  decode : α → Decoder α

/-! A record is an object, or an array with the values of the first fields in
their order. Fields that are left out keep their value; an object may have fields
that the record does not know, but no field twice. -/

namespace Record

def member (fields : List (FieldDecoder α)) (seen : List String) (record : α)
    (key : String) : Decoder (α × List String) := fun tokens =>
  match fields.find? (·.key = key) with
  | some field =>
      if seen.contains key then .error .mismatch
      else do
        let ((), rest) ← Decoder.expect Decoder.isColon tokens
        let (record, rest) ← field.decode record rest
        .ok ((record, key :: seen), rest)
  | none => do
      let ((), rest) ← Decoder.expect Decoder.isColon tokens
      let ((), rest) ← Decoder.skip rest
      .ok ((record, seen), rest)

def moreMembers (fields : List (FieldDecoder α)) (remaining : Nat)
    (seen : List String) (record : α) : Decoder α := fun tokens =>
  match remaining, tokens with
  | _, .closeObject :: rest => .ok (record, rest)
  | remaining + 1, .comma :: .text (some key) :: rest => do
      let ((record, seen), rest) ← member fields seen record key rest
      moreMembers fields remaining seen record rest
  | _, _ => .error .malformed

def members (fields : List (FieldDecoder α)) (record : α) : Decoder α
  | .closeObject :: rest => .ok (record, rest)
  | .text (some key) :: rest => do
      let ((record, seen), rest) ← member fields [] record key rest
      moreMembers fields rest.length seen record rest
  | _ => .error .malformed

def moreValues (record : α) : List (FieldDecoder α) → Decoder α
  | _, .closeArray :: rest => .ok (record, rest)
  | field :: fields, .comma :: rest =>
      match rest with
      | .closeArray :: _ => .error .malformed
      | _ => do
          let (record, rest) ← field.decode record rest
          moreValues record fields rest
  | _, _ => .error .malformed

def values (record : α) : List (FieldDecoder α) → Decoder α
  | _, .closeArray :: rest => .ok (record, rest)
  | field :: fields, tokens => do
      let (record, rest) ← field.decode record tokens
      moreValues record fields rest
  | [], _ => .error .malformed

def decode (fields : List (FieldDecoder α)) (record : α) : Decoder α
  | .openObject :: rest => members fields record rest
  | .openArray :: rest => values record fields rest
  | tokens => .error (refuse tokens)

/-- Reads a text that holds one record and nothing else. -/
def read (fields : List (FieldDecoder α)) (record : α) (text : String) :
    Except BodyFault α := do
  let (record, rest) ← decode fields record (tokens text)
  if rest.isEmpty then .ok record else .error .malformed

end Record

end LogQuery.Json
