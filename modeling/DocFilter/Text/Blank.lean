/-!
# Blank characters

The characters that count as blank space, and the removal of blanks at both ends of a text.
-/

namespace DocFilter

/-- The blank characters: the Unicode white space, and the four information separators. -/
def isBlank (c : Char) : Bool :=
  let n := c.toNat
  (9 ≤ n && n ≤ 13) || (28 ≤ n && n ≤ 32) || n == 0x85 || n == 0xA0 || n == 0x1680 ||
    (0x2000 ≤ n && n ≤ 0x200A) || n == 0x2028 || n == 0x2029 || n == 0x202F || n == 0x205F ||
    n == 0x3000

/-- The blank characters without the information separators: those that may stand around a
number. -/
def isSpace (c : Char) : Bool := isBlank c && !(28 ≤ c.toNat && c.toNat ≤ 31)

/-- A list of characters without those at its two ends that satisfy a test. -/
def trimWhere (test : Char → Bool) (cs : List Char) : List Char :=
  ((cs.dropWhile test).reverse.dropWhile test).reverse

def stripChars (cs : List Char) : List Char := trimWhere isBlank cs

def strip (s : String) : String := String.ofList (stripChars s.toList)

/-- Whether a text has only blanks, or nothing. -/
def isAllBlank (s : String) : Bool := s.toList.all isBlank

end DocFilter
