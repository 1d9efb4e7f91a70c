/-! White space in the sense of the character set, and trimming by it. -/

namespace RuleTree

/-- Has the character the property White_Space? -/
def isBlank (c : Char) : Bool :=
  let n := c.toNat
  (9 ≤ n && n ≤ 13) || n == 32 || n == 0x85 || n == 0xA0 || n == 0x1680 ||
    (0x2000 ≤ n && n ≤ 0x200A) || n == 0x2028 || n == 0x2029 || n == 0x202F || n == 0x205F ||
    n == 0x3000

/-- Drops blanks from the front. -/
def trimLeft (cs : List Char) : List Char := cs.dropWhile isBlank

/-- Drops blanks from both ends. -/
def trimBlanks (cs : List Char) : List Char := (trimLeft (trimLeft cs).reverse).reverse

/-- Nothing but blanks. -/
def allBlank (s : String) : Bool := s.toList.all isBlank

/-- Trimmed, with the letters A to Z in lower case: the form in which keywords are compared. -/
def keyword (s : String) : String := String.ofList ((trimBlanks s.toList).map Char.toLower)

end RuleTree
