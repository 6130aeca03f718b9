import LedgerNet.Octets

/-!
# Bytes of text

Text is stored as UTF-8. Not every byte string is text.
-/

namespace LedgerNet.Octets

/-- The bytes of text. -/
def ofText (s : String) : Octets := s.toUTF8.toList

/-- The text that a byte string holds, if it is well formed. -/
def toText? (b : Octets) : Option String := String.fromUTF8? ⟨b.toArray⟩

end LedgerNet.Octets
