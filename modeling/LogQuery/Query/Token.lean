namespace LogQuery.Query

/-! Words of the filter language. Keywords may be written in any letter case;
operators and parentheses have one spelling each. -/

inductive Keyword where
  | and
  | or
  | not
  | present
  deriving DecidableEq, Repr

def Keyword.spelling : Keyword → String
  | .and => "_and_"
  | .or => "_or_"
  | .not => "_not_"
  | .present => "_exists_"

inductive Operator where
  | equal
  | notEqual
  | less
  | lessEqual
  | greater
  | greaterEqual
  | pattern
  | ilike
  | notIlike
  deriving DecidableEq, Repr

def Operator.spelling : Operator → String
  | .equal => "="
  | .notEqual => "!="
  | .less => "<"
  | .lessEqual => "<="
  | .greater => ">"
  | .greaterEqual => ">="
  | .pattern => "~"
  | .ilike => "=~"
  | .notIlike => "!~"

/-! Numbers and string literals keep their source text, so a literal still
carries its quotes and escapes. -/

inductive Token where
  | keyword (word : Keyword)
  | identifier (name : String)
  | number (text : String)
  | literal (text : String)
  | operator (symbol : Operator)
  | openParen
  | closeParen
  | endOfInput
  deriving DecidableEq, Repr

/-- How a token is named in a message. -/
def Token.describe : Token → String
  | .keyword word => "keyword `" ++ word.spelling ++ "`"
  | .identifier name => "field `" ++ name ++ "`"
  | .number text => "number `" ++ text ++ "`"
  | .literal text => "string " ++ text
  | .operator symbol => "operator `" ++ symbol.spelling ++ "`"
  | .openParen => "`(`"
  | .closeParen => "`)`"
  | .endOfInput => "end of input"

/-- A token and the byte offset at which it starts. -/
structure Lexeme where
  token : Token
  position : Nat
  deriving DecidableEq, Repr

/-! An identifier starts with an ASCII letter or an underscore and goes on with
those, ASCII digits and slashes. -/

def isIdentifierStart (character : Char) : Bool :=
  character.isAlpha || character = '_'

def isIdentifierPart (character : Char) : Bool :=
  isIdentifierStart character || character.isDigit || character = '/'

def isIdentifierChars : List Char → Bool
  | [] => false
  | first :: rest => isIdentifierStart first && rest.all isIdentifierPart

def isIdentifier (text : String) : Bool :=
  isIdentifierChars text.toList

end LogQuery.Query
