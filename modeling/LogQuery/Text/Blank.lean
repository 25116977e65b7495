namespace LogQuery.Text

/-! Blank characters are those with the Unicode property White_Space. Core's
`Char.isWhitespace` knows only four of them, so the set is listed here as
ranges of code points. -/

def blankRanges : List (Nat × Nat) :=
  [(0x09, 0x0D), (0x20, 0x20), (0x85, 0x85), (0xA0, 0xA0), (0x1680, 0x1680),
    (0x2000, 0x200A), (0x2028, 0x2029), (0x202F, 0x202F), (0x205F, 0x205F),
    (0x3000, 0x3000)]

def isBlank (character : Char) : Bool :=
  blankRanges.any fun range =>
    range.1 ≤ character.toNat && character.toNat ≤ range.2

/-! Trimming drops the blanks at both ends of a text. -/

def trimStart (characters : List Char) : List Char :=
  characters.dropWhile isBlank

def trimEnd (characters : List Char) : List Char :=
  (characters.reverse.dropWhile isBlank).reverse

def trimBlanks (characters : List Char) : List Char :=
  trimEnd (trimStart characters)

def trim (text : String) : String :=
  String.ofList (trimBlanks text.toList)

theorem toList_trim (text : String) :
    (trim text).toList = trimBlanks text.toList := by
  simp [trim]

def isBlankText (text : String) : Bool :=
  text.toList.all isBlank

end LogQuery.Text
