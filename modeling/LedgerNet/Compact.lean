import LedgerNet.Octets

/-!
# Compact targets

A target is written in compact form as an exponent above a mantissa of 23 bits with a sign bit:
`(-1) ^ sign * mantissa * 256 ^ (exponent - 3)`. The mantissa keeps the leading digits only, so
large numbers lose their tail. `decode` has the number for every compact form, and `decode?` only
those that can be held.
-/

namespace LedgerNet.Compact

/-- The weight of the sign bit. -/
def signBit : Nat := 0x00800000

/-- The weight of the exponent. -/
def exponentUnit : Nat := 0x01000000

/-- The magnitude that an exponent and a mantissa stand for. -/
def magnitude (exponent mantissa : Nat) : Nat :=
  if mantissa = 0 then 0
  else if exponent ≤ 3 then mantissa / Nat.pow 256 (3 - exponent)
  else mantissa * Nat.pow 256 (exponent - 3)

/-- The number that a compact form stands for. A negative form stands for zero, because its
exponent is negative. -/
def decode (c : Int) : Int :=
  let n := magnitude (c.toNat / exponentUnit) (c.toNat % signBit)
  if c.toNat / signBit % 2 = 1 then -(n : Int) else n

/-! ## Numbers that cannot be held -/

/-- Why a compact form stands for a number that cannot be held. -/
inductive SizeError where
  /-- The number has more digits than can be counted. -/
  | uncountable
  /-- There is no room for the number. -/
  | noRoom
  deriving DecidableEq, Repr

/-- The number of bits in a digit of a number that is held. -/
def digitBits : Nat := 30

/-- The greatest number of digits that can be counted. -/
def digitLimit : Nat := 2305843009213693945

/-- The greatest number of bits below a mantissa with which all digits can be counted. -/
def bitLimit : Nat := digitBits * (digitLimit - 1)

/-- The bits below the mantissa of a compact form. -/
def tailBits (c : Int) : Nat := 8 * (c.toNat / exponentUnit - 3)

/-- The number that a compact form stands for, if it can be held where there is room in memory for
`room` bytes. -/
def decode? (room : Nat) (c : Int) : Except SizeError Int :=
  if c.toNat % signBit = 0 then .ok 0
  else if bitLimit < tailBits c then .error .uncountable
  else if 8 * room ≤ tailBits c then .error .noRoom
  else .ok (decode c)

/-! ## Compact forms -/

/-- The compact form of a magnitude other than zero. -/
def encodeMagnitude (n : Nat) : Nat :=
  let e := Octets.byteLength n
  let m := if e ≤ 3 then n * Nat.pow 256 (3 - e) else n / Nat.pow 256 (e - 3)
  if m < signBit then e * exponentUnit + m else (e + 1) * exponentUnit + m / 256

/-- The compact form of a number: its leading digits, cut off toward zero. -/
def encode (n : Int) : Nat :=
  if n = 0 then 0
  else encodeMagnitude n.natAbs + (if n < 0 then signBit else 0)

end LedgerNet.Compact
