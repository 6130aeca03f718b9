/-!
# Blanks

The characters that count as white space at the ends of values and lines: those of Unicode, and
the four separators of the ASCII range.
-/

namespace LedgerNet.Text

/-- The blanks beyond the ASCII range. -/
def wideBlanks : List Nat :=
  [0x85, 0xa0, 0x1680, 0x2000, 0x2001, 0x2002, 0x2003, 0x2004, 0x2005, 0x2006, 0x2007, 0x2008,
   0x2009, 0x200a, 0x2028, 0x2029, 0x202f, 0x205f, 0x3000]

/-- Whether a character is white space. -/
def isBlank (c : Char) : Bool :=
  let n := c.toNat
  if n < 0x80 then n == 0x20 || (9 ≤ n && n ≤ 13) || (0x1c ≤ n && n ≤ 0x1f)
  else wideBlanks.contains n

/-- Characters without the blanks at their end. -/
def trimRight (cs : List Char) : List Char := (cs.reverse.dropWhile isBlank).reverse

/-- Characters without the blanks at their start. -/
def trimLeft (cs : List Char) : List Char := cs.dropWhile isBlank

/-- Characters without the blanks at either end. -/
def trim (cs : List Char) : List Char := trimRight (trimLeft cs)

end LedgerNet.Text
