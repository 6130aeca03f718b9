import LedgerNet.Octets

/-!
# Hexadecimal text

`toHex` writes two lower-case digits for each byte. `ofHex?` reads digits of either case and
allows blanks of the ASCII range between two bytes, not inside one. Hashes are displayed in
reverse byte order, which is `toDisplay`.
-/

namespace LedgerNet.Octets

/-- The lower-case digit for a number below sixteen. -/
def hexDigit (n : Nat) : Char :=
  if n < 10 then Char.ofNat (48 + n) else Char.ofNat (87 + n)

/-- The value of a hexadecimal digit. -/
def hexValue? (c : Char) : Option Nat :=
  if '0' ≤ c ∧ c ≤ '9' then some (c.toNat - 48)
  else if 'a' ≤ c ∧ c ≤ 'f' then some (c.toNat - 87)
  else if 'A' ≤ c ∧ c ≤ 'F' then some (c.toNat - 55)
  else none

/-- Two lower-case digits for each byte. -/
def toHexChars (b : Octets) : List Char :=
  b.flatMap fun x => [hexDigit (x.toNat / 16), hexDigit (x.toNat % 16)]

/-- The bytes as hexadecimal text. -/
def toHex (b : Octets) : String := String.ofList (toHexChars b)

/-- The bytes in reverse order as hexadecimal text, the way hashes are shown. -/
def toDisplay (b : Octets) : String := toHex b.reverse

/-- Whether a character may stand between two bytes of hexadecimal text. -/
def isHexGap (c : Char) : Bool :=
  c == ' ' || ('\t' ≤ c && c ≤ '\r')

/-- Reads hexadecimal digits by pairs, with gaps between the pairs. -/
def ofHexChars? : List Char → Option Octets
  | [] => some []
  | c :: rest =>
    if isHexGap c then ofHexChars? rest
    else match rest with
      | [] => none
      | d :: rest => do
        let hi ← hexValue? c
        let lo ← hexValue? d
        let tail ← ofHexChars? rest
        return UInt8.ofNat (16 * hi + lo) :: tail

/-- The bytes that hexadecimal text stands for. -/
def ofHex? (s : String) : Option Octets := ofHexChars? s.toList

end LedgerNet.Octets
