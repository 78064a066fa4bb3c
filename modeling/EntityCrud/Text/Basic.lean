/-! Characters of texts: ranges of code points, blanks and letters. A character is blank when it has
the Unicode property White_Space; a text is blank when all its characters are. Only the letters `A` to
`Z` have a lower case here, so that a name is never equal to one written with letters of another
alphabet. -/
namespace EntityCrud.Text

/-- The code point of the character lies in one of the inclusive ranges. -/
def inRanges (ranges : List (Nat × Nat)) (c : Char) : Bool :=
  ranges.any fun (low, high) => decide (low ≤ c.toNat) && decide (c.toNat ≤ high)

/-- The code points with the Unicode property White_Space, as inclusive ranges. -/
def blankRanges : List (Nat × Nat) :=
  [(0x09, 0x0D), (0x20, 0x20), (0x85, 0x85), (0xA0, 0xA0), (0x1680, 0x1680), (0x2000, 0x200A),
    (0x2028, 0x2029), (0x202F, 0x202F), (0x205F, 0x205F), (0x3000, 0x3000)]

def isBlankChar (c : Char) : Bool := inRanges blankRanges c

/-- The text without its blank characters at both ends. -/
def trim (s : String) : String :=
  String.ofList ((s.toList.dropWhile isBlankChar).reverse.dropWhile isBlankChar).reverse

/-- The text has no character that is not blank. -/
def isBlank (s : String) : Bool := s.toList.all isBlankChar

/-- The text with the letters `A` to `Z` in lower case; every other character stays. -/
def lowerAscii (s : String) : String := String.ofList (s.toList.map Char.toLower)

def sameIgnoringCase (a b : String) : Bool := lowerAscii a == lowerAscii b

def isWordStart (c : Char) : Bool := c.isAlpha || c == '_'

def isWordRest (c : Char) : Bool := c.isAlphanum || c == '_'

end EntityCrud.Text
