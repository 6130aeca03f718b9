import LedgerNet.Octets

/-!
# The AES round

Arithmetic in the field of 256 elements modulo `x^8 + x^4 + x^3 + x + 1`, the substitution box made
from it, and the keyless AES round on a state of sixteen bytes held column by column. Three of the
digest functions are built on these.
-/

namespace LedgerNet.Digest.Aes

/-! ## The field -/

/-- Twice a field element. -/
def double (x : UInt8) : UInt8 := (x <<< 1) ^^^ (if x &&& 0x80 = 0 then 0 else 0x1b)

/-- The product of two field elements, by the binary digits of the second. -/
def mul (x y : UInt8) : UInt8 :=
  let step (st : UInt8 × UInt8) (i : Nat) : UInt8 × UInt8 :=
    let (acc, p) := st
    (if (y >>> UInt8.ofNat i) &&& 1 = 0 then acc else acc ^^^ p, double p)
  ((List.range 8).foldl step (0, x)).1

/-- The multiplicative inverse, `x ^ 254`; zero is its own. -/
def inverse (x : UInt8) : UInt8 :=
  let x2 := mul x x
  let x3 := mul x2 x
  let x6 := mul x3 x3
  let x12 := mul x6 x6
  let x15 := mul x12 x3
  let x30 := mul x15 x15
  let x60 := mul x30 x30
  let x120 := mul x60 x60
  let x126 := mul x120 x6
  let x127 := mul x126 x
  mul x127 x127

/-! ## The substitution box -/

/-- A byte rotated to the left. -/
def rotl8 (x : UInt8) (n : UInt8) : UInt8 := (x <<< n) ||| (x >>> (8 - n))

/-- The inverse followed by the affine map. -/
def substitute (x : UInt8) : UInt8 :=
  let y := inverse x
  y ^^^ rotl8 y 1 ^^^ rotl8 y 2 ^^^ rotl8 y 3 ^^^ rotl8 y 4 ^^^ 0x63

/-- `substitute` as a table. -/
def table : Vector UInt8 256 := Vector.ofFn fun i => substitute (UInt8.ofNat i)

/-- The substitution of a byte, by the table. -/
def sbox (x : UInt8) : UInt8 := table.get ⟨x.toNat, UInt8.toNat_lt x⟩

/-! ## The round -/

/-- A state of four columns of four bytes. -/
abbrev Block := Vector UInt8 16

/-- Mixes four bytes that stand in one column. -/
def mixColumn (a b c d : UInt8) : UInt8 × UInt8 × UInt8 × UInt8 :=
  let all := a ^^^ b ^^^ c ^^^ d
  (a ^^^ all ^^^ double (a ^^^ b), b ^^^ all ^^^ double (b ^^^ c),
   c ^^^ all ^^^ double (c ^^^ d), d ^^^ all ^^^ double (d ^^^ a))

/-- Substitutes every byte, moves row `r` left by `r` columns, and mixes the columns. -/
def round (s : Block) : Block :=
  let column (k : Nat) : UInt8 × UInt8 × UInt8 × UInt8 :=
    mixColumn (sbox s[4 * k % 16]) (sbox s[(4 * k + 5) % 16])
      (sbox s[(4 * k + 10) % 16]) (sbox s[(4 * k + 15) % 16])
  let (a0, a1, a2, a3) := column 0
  let (b0, b1, b2, b3) := column 1
  let (c0, c1, c2, c3) := column 2
  let (d0, d1, d2, d3) := column 3
  #v[a0, a1, a2, a3, b0, b1, b2, b3, c0, c1, c2, c3, d0, d1, d2, d3]

/-- The exclusive or of two states. -/
def xor (s t : Block) : Block := Vector.zipWith (· ^^^ ·) s t

/-- The first sixteen bytes of a string, short strings filled up with zeros. -/
def ofOctets (b : Octets) : Block :=
  let bytes := b.toArray
  Vector.ofFn fun i => bytes.getD i 0

end LedgerNet.Digest.Aes
