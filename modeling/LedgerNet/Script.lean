import LedgerNet.Octets

/-!
# Script pushes

How data is pushed onto a script's stack, as far as coinbase scripts need it. `pushData` takes the
shortest form: a single opcode for the empty string and for the bytes 1 to 16 and `0x81`, else the
data behind its length. `number` is the shortest signed form of an integer, little-endian with the
sign in the top bit, and `pushInt` pushes it.
-/

namespace LedgerNet.Script

/-! ## Opcodes -/

/-- Pushes the empty string. -/
def opZero : UInt8 := 0x00

/-- Announces a length of one byte. -/
def opLength1 : UInt8 := 0x4c

/-- Announces a length of two bytes. -/
def opLength2 : UInt8 := 0x4d

/-- Announces a length of four bytes. -/
def opLength4 : UInt8 := 0x4e

/-- Pushes the number minus one. -/
def opMinusOne : UInt8 := 0x4f

/-- The opcode just before those that push the numbers 1 to 16. -/
def opBeforeOne : UInt8 := 0x50

/-- The byte that stands for minus one as a script number. -/
def minusOne : UInt8 := 0x81

/-! ## Numbers -/

/-- The shortest signed form: the magnitude from its low end, with the sign in the top bit of the
last byte, in a byte of its own where that bit is taken. -/
def number (n : Int) : Octets :=
  if n = 0 then []
  else
    let m := Octets.littleEndian (Octets.byteLength n.natAbs) n.natAbs
    let last := m.getLast?.getD 0
    let sign : UInt8 := if n < 0 then 0x80 else 0
    if last &&& 0x80 ≠ 0 then m ++ [sign] else m.dropLast ++ [last ||| sign]

/-! ## Pushes -/

/-- The opcode that stands for some data by itself. -/
def opcode? : (data : Octets) → Option UInt8
  | [] => some opZero
  | [x] =>
    if x = 0 then some opZero
    else if x ≤ 16 then some (opBeforeOne + x)
    else if x = minusOne then some opMinusOne
    else none
  | _ => none

/-- What announces a number of bytes, in the shortest form that holds it. -/
def lengthPrefix (n : Nat) : Except Octets.FieldError Octets :=
  if n < opLength1.toNat then .ok [UInt8.ofNat n]
  else if n ≤ 0xff then (opLength1 :: ·) <$> Octets.fieldLE 1 n
  else if n ≤ 0xffff then (opLength2 :: ·) <$> Octets.fieldLE 2 n
  else (opLength4 :: ·) <$> Octets.fieldLE 4 n

/-- The shortest push of some data, whose length has to fit four bytes. -/
def pushData (data : Octets) : Except Octets.FieldError Octets :=
  match opcode? data with
  | some op => .ok [op]
  | none => (· ++ data) <$> lengthPrefix data.length

/-- The shortest push of an integer. -/
def pushInt (n : Int) : Except Octets.FieldError Octets :=
  if n = 0 then .ok [opZero]
  else if n = -1 then .ok [opMinusOne]
  else if 1 ≤ n ∧ n ≤ 16 then .ok [opBeforeOne + UInt8.ofNat n.toNat]
  else pushData (number n)

end LedgerNet.Script
