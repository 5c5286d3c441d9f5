/-!
Blank characters, and texts freed of blanks at their ends.
-/

namespace ContentTracker.Text

/-- The characters that count as blank at the ends of a text: the ASCII blanks, the four ASCII
separators, and the spaces and line ends of other scripts. A zero-width space is not blank. -/
def isBlank (c : Char) : Bool :=
  let n := c.toNat
  (9 ≤ n && n ≤ 13) || (28 ≤ n && n ≤ 32) || n = 0x85 || n = 0xa0 || n = 0x1680 ||
    (0x2000 ≤ n && n ≤ 0x200a) || n = 0x2028 || n = 0x2029 || n = 0x202f || n = 0x205f ||
    n = 0x3000

/-- Drops blanks at both ends. -/
def stripChars (cs : List Char) : List Char :=
  ((cs.dropWhile isBlank).reverse.dropWhile isBlank).reverse

def strip (text : String) : String := String.ofList (stripChars text.toList)

end ContentTracker.Text
