import LedgerNet.Ledger.Reader

/-!
# Variable-length numbers and byte strings

A number below `0xfd` is one byte; larger ones are a mark and 2, 4 or 8 bytes, least significant
first, always the fewest that hold the number. A byte string is its length and then its bytes.
-/

namespace LedgerNet.Ledger

/-- The greatest number of bytes in a message. -/
def maxPayload : Nat := 1024 * 1024 * 32

/-! ## Numbers -/

/-- The shortest form of a number; an integer outside the 64-bit range has none. -/
def VarInt.write (n : Int) : Except Octets.FieldError Octets :=
  if n < 0xfd then Octets.field 1 n
  else if n ≤ 0xffff then ([0xfd] ++ ·) <$> Octets.fieldLE 2 n
  else if n ≤ 0xffffffff then ([0xfe] ++ ·) <$> Octets.fieldLE 4 n
  else ([0xff] ++ ·) <$> Octets.fieldLE 8 n

/-- The number of `width` bytes behind a mark, which has to need them. -/
def readWide (mark width least : Nat) : Reader Nat := do
  let n ← Reader.number width
  if n < least then throw (.nonCanonical n mark least)
  return n

/-- The next number. -/
def VarInt.read : Reader Nat := do
  let mark ← Reader.number 1
  if mark = 0xff then readWide mark 8 0x100000000
  else if mark = 0xfe then readWide mark 4 0x10000
  else if mark = 0xfd then readWide mark 2 0xfd
  else return mark

/-! ## Byte strings -/

/-- A byte string behind its length. -/
def VarBytes.write (b : Octets) : Except Octets.FieldError Octets :=
  (· ++ b) <$> VarInt.write b.length

/-- The next byte string, of at most `limit` bytes; the field's name is for the error. -/
def VarBytes.read (limit : Int) (field : String) : Reader Octets := do
  let count ← VarInt.read
  if limit < count then throw (.oversized field count limit)
  Reader.take count

/-! ## Sequences -/

/-- The bytes of several parts, in order; the first that does not fit decides. -/
def encodeAll {α : Type} (encode : α → Except Octets.FieldError Octets) :
    List α → Except Octets.FieldError Octets
  | [] => .ok []
  | x :: xs => do
    let b ← encode x
    let rest ← encodeAll encode xs
    return b ++ rest

end LedgerNet.Ledger
