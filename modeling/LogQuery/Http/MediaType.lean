namespace LogQuery.Http

/-! A media type is a type and a subtype, then parameters. Types are compared
without regard to case. A subtype may end in a suffix, which stands after its last
plus sign and says how the rest is written down. -/

structure MediaType where
  type : String
  subtype : String
  suffix : Option String
  deriving DecidableEq, Repr

namespace MediaType

def tokenMarks : List Char :=
  ['!', '#', '$', '%', '&', '\'', '*', '+', '-', '.', '^', '_', '\x60', '|', '~']

def isTokenChar (character : Char) : Bool :=
  character.isAlphanum || tokenMarks.contains character

def isToken (characters : List Char) : Bool :=
  !characters.isEmpty && characters.all isTokenChar

def isQuotedChar (character : Char) : Bool :=
  ' ' ≤ character && character ≤ '~'

/-! ## Parameters

Every parameter follows a semicolon, after which there may be spaces. Its value is
a token, which the last parameter may lack, or stands in quotes. A quoted value has
at least one character, and only its first one may be a quote. -/

inductive ParameterState where
  | start
  | name
  | valueStart
  | value
  | quoteStart
  | quote
  | quoteEnd
  deriving DecidableEq, Repr

namespace ParameterState

def next? : ParameterState → Char → Option ParameterState
  | .start, character =>
      if character = ' ' then some .start
      else if isTokenChar character then some .name
      else none
  | .name, character =>
      if character = '=' then some .valueStart
      else if isTokenChar character then some .name
      else none
  | .valueStart, character =>
      if character = '"' then some .quoteStart
      else if isTokenChar character then some .value
      else none
  | .value, character =>
      if character = ';' then some .start
      else if isTokenChar character then some .value
      else none
  | .quoteStart, character => if isQuotedChar character then some .quote else none
  | .quote, character =>
      if character = '"' then some .quoteEnd
      else if isQuotedChar character then some .quote
      else none
  | .quoteEnd, character =>
      if character = ' ' then some .quoteEnd
      else if character = ';' then some .start
      else none

/-- Whether the parameters may end here. -/
def isFinal : ParameterState → Bool
  | .name => false
  | .quoteStart => false
  | .quote => false
  | _ => true

end ParameterState

/-- Whether a text, read on from a state, is a list of parameters. -/
def areParameters : ParameterState → List Char → Bool
  | state, [] => state.isFinal
  | state, character :: rest =>
      match state.next? character with
      | none => false
      | some state => areParameters state rest

/-! ## Reading -/

def lowerText (characters : List Char) : String :=
  String.ofList (characters.map Char.toLower)

/-- The parts before and after the last plus sign, unless nothing stands before
it. -/
def splitSuffix (subtype : List Char) : List Char × Option (List Char) :=
  match (subtype.reverse.dropWhile (· ≠ '+')).drop 1 with
  | [] => (subtype, none)
  | stem => (stem.reverse, some (subtype.reverse.takeWhile (· ≠ '+')).reverse)

def parse? (text : String) : Option MediaType :=
  let essence := text.toList.takeWhile (· ≠ ';')
  let parameters := (text.toList.dropWhile (· ≠ ';')).drop 1
  let type := essence.takeWhile (· ≠ '/')
  let subtype := (essence.dropWhile (· ≠ '/')).drop 1
  if isToken type && isToken subtype && areParameters .start parameters then
    let (stem, suffix) := splitSuffix subtype
    some ⟨lowerText type, lowerText stem, suffix.map lowerText⟩
  else none

/-- Whether a body of this type is a JSON document. -/
def isJson (mediaType : MediaType) : Bool :=
  mediaType.type = "application" &&
    (mediaType.subtype = "json" || mediaType.suffix = some "json")

end MediaType

end LogQuery.Http
