import LedgerNet.Text.Numeral

/-!
# Octets

Byte strings, the numbers they stand for, and fields of a fixed width.

- `littleEndian w n` and `bigEndian w n` write the low `w` bytes of `n`; `natLE` and `natBE`
  read any byte string.
- `ofNat` is the shortest big-endian form, in which zero is the empty string.
- `field w n` is the big-endian field of `w` bytes, which refuses negative and too large
  integers; `pad w b` widens a byte string on the left and refuses one that is too long.
-/

namespace LedgerNet

/-- A byte string. -/
abbrev Octets := List UInt8

namespace Octets

/-! ## Numbers -/

/-- The low `w` bytes of `n`, least significant first. -/
def littleEndian : (w : Nat) → (n : Nat) → Octets
  | 0, _ => []
  | w + 1, n => UInt8.ofNat n :: littleEndian w (n / 256)

/-- The low `w` bytes of `n`, most significant first. -/
def bigEndian (w n : Nat) : Octets := (littleEndian w n).reverse

/-- The number whose bytes are `b`, least significant first. -/
def natLE (b : Octets) : Nat := b.foldr (fun x n => x.toNat + 256 * n) 0

/-- The number whose bytes are `b`, most significant first. -/
def natBE (b : Octets) : Nat := b.foldl (fun n x => 256 * n + x.toNat) 0

/-- How many binary digits `n` has; zero has none. -/
def bitLength (n : Nat) : Nat := if n = 0 then 0 else n.log2 + 1

/-- How many bytes `n` has; zero has none. -/
def byteLength (n : Nat) : Nat := (bitLength n + 7) / 8

/-- The shortest big-endian form of `n`; zero is the empty string. -/
def ofNat (n : Nat) : Octets := bigEndian (byteLength n) n

/-! ## Fields -/

/-- Why a value does not fit a field. -/
inductive FieldError where
  /-- The integer is negative. -/
  | negative
  /-- The value takes `size` bytes and the field has `limit`. -/
  | overflows (size : Nat) (limit : Int)
  deriving DecidableEq, Repr

/-- The text of a misfit, if it can be written. -/
def FieldError.message? : FieldError → Option String
  | .negative => some "a negative integer has no unsigned form"
  | .overflows size limit =>
    (Text.numeral? limit).map fun limit => s!"value of {size} bytes overflows length {limit}"

/-- The big-endian field of `w` bytes for `n`, which has to lie in `0 .. 256 ^ w - 1`. -/
def field (w : Nat) (n : Int) : Except FieldError Octets :=
  if n < 0 then .error .negative
  else if n < Nat.pow 256 w then .ok (bigEndian w n.toNat)
  else .error (.overflows (byteLength n.toNat) w)

/-- The little-endian field of `w` bytes for `n`. -/
def fieldLE (w : Nat) (n : Int) : Except FieldError Octets :=
  (field w n).map List.reverse

/-- The byte string widened to `w` bytes by zeros on the left. -/
def pad (w : Nat) (b : Octets) : Except FieldError Octets :=
  if b.length ≤ w then .ok (List.replicate (w - b.length) 0 ++ b)
  else .error (.overflows b.length w)

/-! ## Signed integers -/

/-- The least number of bytes whose two's complement range holds `i`. -/
def signedLength (i : Int) : Nat :=
  (bitLength (if i < 0 then (-(i + 1)).toNat else i.toNat) + 8) / 8

/-- The shortest big-endian form of `i`: two's complement if `signed`, else the plain number,
which then may not be negative. -/
def ofInt (signed : Bool) (i : Int) : Except FieldError Octets :=
  if signed then
    .ok (bigEndian (signedLength i) (i % Nat.pow 256 (signedLength i)).toNat)
  else if i < 0 then .error .negative
  else .ok (ofNat i.toNat)

/-- The integer whose big-endian form is `b`: two's complement if `signed`, else the plain number.
-/
def toInt (signed : Bool) (b : Octets) : Int :=
  let n := natBE b
  let size := Nat.pow 256 b.length
  if signed && decide (size ≤ 2 * n) && !b.isEmpty then (n : Int) - size else n

/-! ## Blocks -/

/-- The first `count` consecutive blocks of `size` bytes. -/
def blocks (size : Nat) : (count : Nat) → Octets → List Octets
  | 0, _ => []
  | count + 1, b => b.take size :: blocks size count (b.drop size)

/-- Whether every byte is zero. -/
def isZero (b : Octets) : Bool := b.all (· == 0)

/-- A string of `n` zero bytes. -/
def zeros (n : Nat) : Octets := List.replicate n 0

end Octets

end LedgerNet
