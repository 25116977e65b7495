import LogQuery.Text.Blank

namespace LogQuery.Config

/-! A setting of the store is a key and a value with an equals sign between them.
The key is a word of ASCII letters, digits and underscores. -/

structure Setting where
  key : String
  value : String
  deriving DecidableEq, Repr

inductive SettingFault where
  | missingEquals (text : String)
  | invalidKey (key : String)
  deriving DecidableEq, Repr

def SettingFault.message : SettingFault → String
  | .missingEquals text => "invalid setting `" ++ text ++ "`: expected key=value"
  | .invalidKey key => "invalid setting key `" ++ key ++ "`"

def isKeyChar (character : Char) : Bool :=
  character.isAlphanum || character = '_'

/-- What stands before and after the first occurrence of a character. -/
def splitAtFirst? (separator : Char) (text : List Char) :
    Option (List Char × List Char) :=
  match text.dropWhile (· ≠ separator) with
  | [] => none
  | _ :: after => some (text.takeWhile (· ≠ separator), after)

def Setting.parse (text : String) : Except SettingFault Setting :=
  match splitAtFirst? '=' text.toList with
  | none => .error (.missingEquals text)
  | some (key, value) =>
      let key := Text.trimBlanks key
      if key ≠ [] ∧ key.all isKeyChar then
        .ok ⟨String.ofList key, String.ofList (Text.trimBlanks value)⟩
      else .error (.invalidKey (String.ofList key))

end LogQuery.Config
