import LogQuery.Unicode.CombiningClass
import LogQuery.Unicode.Composite

namespace LogQuery.Unicode

/-! A text may be written with composites or with their parts. Its normal form uses
composites wherever it can, and has the marks of each letter in the order of their
classes. -/

/-- Puts a character after those read before, the last one first. A mark goes before
the marks of higher classes. -/
def insertMark (character : Char) : List Char → List Char
  | [] => [character]
  | previous :: before =>
      if 0 < combiningClass character ∧
          combiningClass character < combiningClass previous then
        previous :: insertMark character before
      else character :: previous :: before

def orderMarks (text : List Char) : List Char :=
  (text.foldl (fun before character => insertMark character before) []).reverse

/-- The last letter read and its marks, and what came before, the last one first. -/
structure Composing where
  before : List Char := []
  letter : Option Char := none
  marks : List Char := []

namespace Composing

def written (state : Composing) : List Char :=
  state.marks ++ state.letter.toList ++ state.before

/-- A mark of the same class, or any mark before a letter, keeps a character from the
letter. -/
def isBlocked (state : Composing) (character : Char) : Bool :=
  match state.marks with
  | [] => false
  | mark :: _ => combiningClass character ≤ combiningClass mark

def joined? (state : Composing) (character : Char) : Option Char :=
  if state.isBlocked character then none
  else state.letter.bind fun letter => composite? letter character

def push (state : Composing) (character : Char) : Composing :=
  match state.joined? character with
  | some letter => { state with letter := some letter }
  | none =>
      if combiningClass character = 0 then
        { before := state.written, letter := some character }
      else { state with marks := character :: state.marks }

end Composing

def compose (text : List Char) : List Char :=
  (text.foldl Composing.push {}).written.reverse

def normalize (text : List Char) : List Char :=
  compose (orderMarks (text.flatMap parts))

end LogQuery.Unicode
