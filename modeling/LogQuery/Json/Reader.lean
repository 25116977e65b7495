import LogQuery.Json.Token

namespace LogQuery.Json

/-! A document is read token by token. The containers still open are kept on a
stack, innermost first; what was read of each is kept last item first. -/

inductive Enclosing where
  | array (items : List Json)
  | object (fields : List (String × Json)) (key : String)

/-- What the reader waits for. -/
inductive Progress where
  | value (enclosing : List Enclosing)
  | firstItem (enclosing : List Enclosing)
  | firstKey (enclosing : List Enclosing)
  | nextKey (fields : List (String × Json)) (enclosing : List Enclosing)
  | colon (fields : List (String × Json)) (key : String) (enclosing : List Enclosing)
  | afterItem (items : List Json) (enclosing : List Enclosing)
  | afterField (fields : List (String × Json)) (enclosing : List Enclosing)

inductive Advance where
  | reading (progress : Progress)
  | finished (value : Json)
  | failed

/-! A strict reader refuses strings and numbers without a value and bounds the
nesting. A document that is only skipped needs neither. -/

structure ReaderRules where
  maxDepth : Option Nat
  lenient : Bool

def strictRules : ReaderRules :=
  ⟨some 127, false⟩

def skippingRules : ReaderRules :=
  ⟨none, true⟩

namespace ReaderRules

def mayOpen (rules : ReaderRules) (enclosing : List Enclosing) : Bool :=
  match rules.maxDepth with
  | none => true
  | some depth => enclosing.length < depth

def resolve (rules : ReaderRules) (otherwise : α) : Option α → Option α
  | some value => some value
  | none => if rules.lenient then some otherwise else none

def complete (value : Json) : List Enclosing → Advance
  | [] => .finished value
  | .array items :: enclosing => .reading (.afterItem (value :: items) enclosing)
  | .object fields key :: enclosing =>
      .reading (.afterField ((key, value) :: fields) enclosing)

def begin (rules : ReaderRules) (enclosing : List Enclosing) : Token → Advance
  | .null => complete .null enclosing
  | .boolean value => complete (.boolean value) enclosing
  | .number value =>
      match rules.resolve (.integer 0) value with
      | some value => complete (.number value) enclosing
      | none => .failed
  | .text value =>
      match rules.resolve "" value with
      | some value => complete (.text value) enclosing
      | none => .failed
  | .openArray =>
      if rules.mayOpen enclosing then .reading (.firstItem enclosing) else .failed
  | .openObject =>
      if rules.mayOpen enclosing then .reading (.firstKey enclosing) else .failed
  | _ => .failed

def readKey (rules : ReaderRules) (fields : List (String × Json))
    (enclosing : List Enclosing) (key : Option String) : Advance :=
  match rules.resolve "" key with
  | some key => .reading (.colon fields key enclosing)
  | none => .failed

def step (rules : ReaderRules) : Progress → Token → Advance
  | .value enclosing, token => rules.begin enclosing token
  | .firstItem enclosing, .closeArray => complete (.array []) enclosing
  | .firstItem enclosing, token => rules.begin (.array [] :: enclosing) token
  | .firstKey enclosing, .closeObject => complete (.object []) enclosing
  | .firstKey enclosing, .text key => rules.readKey [] enclosing key
  | .nextKey fields enclosing, .text key => rules.readKey fields enclosing key
  | .colon fields key enclosing, .colon =>
      .reading (.value (.object fields key :: enclosing))
  | .afterItem items enclosing, .comma => .reading (.value (.array items :: enclosing))
  | .afterItem items enclosing, .closeArray =>
      complete (.array items.reverse) enclosing
  | .afterField fields enclosing, .comma => .reading (.nextKey fields enclosing)
  | .afterField fields enclosing, .closeObject =>
      complete (Json.ofFields fields.reverse) enclosing
  | _, _ => .failed

def run (rules : ReaderRules) (progress : Progress) :
    List Token → Option (Json × List Token)
  | [] => none
  | token :: rest =>
      match rules.step progress token with
      | .reading progress => rules.run progress rest
      | .finished value => some (value, rest)
      | .failed => none

/-- Reads one value and gives back the tokens after it. -/
def takeValue (rules : ReaderRules) (tokens : List Token) :
    Option (Json × List Token) :=
  rules.run (.value []) tokens

end ReaderRules

/-- Reads a text that holds one document and nothing else. -/
def readWith (rules : ReaderRules) (text : String) : Option Json :=
  match rules.takeValue (tokens text) with
  | some (value, []) => some value
  | _ => none

def read (text : String) : Option Json :=
  readWith strictRules text

end LogQuery.Json
