/-!
# Numerals

The decimal text of whole numbers. A number of very many digits has none, so a message that would
show one cannot be written.
-/

namespace LedgerNet.Text

/-- The greatest number of digits that are written. -/
def digitLimit : Nat := 4300

/-- Whether a number has few enough digits to be written. -/
def isWritable (n : Int) : Bool := n.natAbs < Nat.pow 10 digitLimit

/-- A number in decimal, if it can be written. -/
def numeral? (n : Int) : Option String := if isWritable n then some (toString n) else none

end LedgerNet.Text
