import LogQuery.Http.NameMapping
import LogQuery.Http.Punycode
import LogQuery.Unicode.Direction
import LogQuery.Unicode.Joining
import LogQuery.Unicode.Mark
import LogQuery.Unicode.Normalization

namespace LogQuery.Http.DomainName

open Unicode (Direction Joining)

/-! A domain name is a list of labels with dots between them. A label in another script
than ASCII is sent in a written form that starts with `xn--`; both forms name the same
domain. A name is refused as a whole if one of its labels is no good. -/

abbrev Label := List Char

def writtenMark : List Char := ['x', 'n', '-', '-']

/-! Labels must not be too long to be written or read. -/

def maxLabelLength : Nat := 1000

def maxWrittenLength : Nat := 2000

/-! ## Characters -/

def forbiddenMarks : List Char :=
  ['%', '#', '/', ':', '<', '>', '?', '@', '[', '\\', ']', '^', '|']

def isForbidden (character : Char) : Bool :=
  character ≤ ' ' || character = '\x7f' || forbiddenMarks.contains character

/-! ## Joiners

Two characters without a shape tell whether the letters at their sides join. The one
that keeps them apart may stand between letters that would join, and both may stand
after a sign that takes the vowel from a letter. -/

def nonJoiner : Char := '\u200c'

def joiner : Char := '\u200d'

/-- Whether the next letter joins towards a side. -/
def joinsTowards (side : Joining) : List Char → Bool
  | [] => false
  | character :: rest =>
      match Unicode.joining character with
      | .transparent => joinsTowards side rest
      | joining => joining = side || joining = .both

/-- What stands before is given from the last character on. -/
def mayJoin (before : List Char) (character : Char) (after : List Char) : Bool :=
  match before with
  | [] => false
  | previous :: _ =>
      Unicode.isVirama previous ||
        (character = nonJoiner && joinsTowards .left before && joinsTowards .right after)

def areJoinersGood (before : List Char) : List Char → Bool
  | [] => true
  | character :: after =>
      ((character ≠ nonJoiner && character ≠ joiner) || mayJoin before character after) &&
        areJoinersGood (character :: before) after

/-! ## Labels -/

def isAscii (label : Label) : Bool :=
  label.all Punycode.isPlain

def isGoodLabel (label : Label) : Bool :=
  !label.any isForbidden && !label.head?.any Unicode.isMark && areJoinersGood [] label &&
    (isAscii label || label.length ≤ maxLabelLength)

/-- The label that a written form stands for. It must be one that a name in its normal
form can have. -/
def readWritten (code : List Char) : Option Label :=
  if code.getLast?.all (· = '-') || maxWrittenLength < code.length then none
  else
    match Punycode.decode code with
    | none => none
    | some label =>
        if label.all isNameChar && Unicode.normalize label = label then some label
        else none

def readLabel (label : Label) : Option Label := do
  let label ←
    if writtenMark.isPrefixOf label then readWritten (label.drop writtenMark.length)
    else some label
  if isGoodLabel label then some label else none

/-! ## Directions

Where a name has a letter that is written from right to left, no label may look as if
its characters stood in another order. -/

def isRightToLeft (direction : Direction) : Bool :=
  [.rightToLeft, .arabicLetter, .arabicNumber].contains direction

/-- Directions that fit into a label of either direction. -/
def fitsBoth (direction : Direction) : Bool :=
  [.europeanNumber, .europeanSeparator, .commonSeparator, .europeanTerminator, .neutral,
    .boundary, .nonspacing].contains direction

def isLeftToRightLabel (directions ending : List Direction) : Bool :=
  directions.all (fun direction => direction = .leftToRight || fitsBoth direction) &&
    ending.head?.any [Direction.leftToRight, .europeanNumber].contains

def isRightToLeftLabel (directions ending : List Direction) : Bool :=
  directions.all (fun direction => isRightToLeft direction || fitsBoth direction) &&
    ending.head?.any (fun last => isRightToLeft last || last = .europeanNumber) &&
    !(directions.contains .arabicNumber && directions.contains .europeanNumber)

/-- The first character decides the direction of a label. Marks at its end do not
count. -/
def hasGoodDirections (label : Label) : Bool :=
  let directions := label.map Unicode.direction
  let ending := directions.reverse.dropWhile (· = .nonspacing)
  match directions with
  | [] => true
  | .leftToRight :: _ => isLeftToRightLabel directions ending
  | .rightToLeft :: _ => isRightToLeftLabel directions ending
  | .arabicLetter :: _ => isRightToLeftLabel directions ending
  | _ => false

def areDirectionsGood (labels : List Label) : Bool :=
  !labels.any (·.any fun character => isRightToLeft (Unicode.direction character)) ||
    labels.all hasGoodDirections

/-! ## Names -/

def readLabels (name : List Char) : Option (List Label) := do
  let mapped ← name.mapM mapNameChar
  let labels ← ((Unicode.normalize mapped.flatten).splitOn '.').mapM readLabel
  if areDirectionsGood labels then some labels else none

def writeLabel (label : Label) : List Char :=
  if isAscii label then label else writtenMark ++ Punycode.encode label

/-- The written form of a name. -/
def toAscii (name : List Char) : Option String :=
  (readLabels name).map fun labels =>
    String.ofList ((labels.map writeLabel).intersperse ['.']).flatten

end LogQuery.Http.DomainName
