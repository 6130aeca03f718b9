import LedgerNet.Octets.Hex
import LedgerNet.Text.Printable

/-!
# Quoted text

How messages show text and byte strings inside quotes. Single quotes are used unless the text
holds a single quote and no double one. The quote and the backslash are escaped by a backslash;
tab, line feed and carriage return have short escapes; other unprintable characters show their
code point in two, four or eight hexadecimal digits. In byte strings every byte outside the
printable ASCII range shows two digits.
-/

namespace LedgerNet.Text

/-- The low `width` hexadecimal digits of a number. -/
def hexDigits : (width : Nat) → (n : Nat) → List Char
  | 0, _ => []
  | w + 1, n => hexDigits w (n / 16) ++ [Octets.hexDigit (n % 16)]

/-- The escape that shows a code point. -/
def codeEscape (n : Nat) : List Char :=
  if n < 0x100 then '\\' :: 'x' :: hexDigits 2 n
  else if n < 0x10000 then '\\' :: 'u' :: hexDigits 4 n
  else '\\' :: 'U' :: hexDigits 8 n

/-- The quote that surrounds a text. -/
def quoteFor (cs : List Char) : Char :=
  if cs.contains '\'' && !cs.contains '"' then '"' else '\''

/-- One character inside quotes. -/
def quoteChar (quote c : Char) : List Char :=
  if c = quote || c = '\\' then ['\\', c]
  else if c = '\t' then ['\\', 't']
  else if c = '\n' then ['\\', 'n']
  else if c = '\r' then ['\\', 'r']
  else if isPrintable c then [c]
  else codeEscape c.toNat

/-- Text inside quotes. -/
def quoted (s : String) : String :=
  let cs := s.toList
  let q := quoteFor cs
  String.ofList (q :: cs.flatMap (quoteChar q) ++ [q])

/-- The bytes of a string as characters of the first 256 code points. -/
def latin (b : Octets) : List Char := b.map fun x => Char.ofNat x.toNat

/-- One byte inside quotes. -/
def quoteOctet (quote c : Char) : List Char :=
  if c.toNat < 0x7f then quoteChar quote c else codeEscape c.toNat

/-- A byte string inside quotes. -/
def quotedOctets (b : Octets) : String :=
  let cs := latin b
  let q := quoteFor cs
  String.ofList ('b' :: q :: cs.flatMap (quoteOctet q) ++ [q])

/-- A buffer's bytes inside quotes, where a single quote is escaped whichever quote surrounds it. -/
def quotedBuffer (b : Octets) : String :=
  let cs := latin b
  let q := quoteFor cs
  let shown (c : Char) : List Char := if c = '\'' then ['\\', c] else quoteOctet q c
  String.ofList ('b' :: q :: cs.flatMap shown ++ [q])

/-- Texts inside quotes, as a list. -/
def quotedList (xs : List String) : String := "[" ++ String.intercalate ", " (xs.map quoted) ++ "]"

end LedgerNet.Text
