import LedgerNet.Octets

/-!
# Words

Machine words of 32 and 64 bits as the digest functions use them: rotations, reading words from
byte strings in either byte order, and writing them back.
-/

namespace LedgerNet.Digest

/-! ## Rotations -/

/-- A 32-bit word rotated to the left; the amount counts modulo 32. -/
@[inline] def rotl32 (x : UInt32) (n : UInt32) : UInt32 := (x <<< n) ||| (x >>> (32 - n))

/-- A 32-bit word rotated to the right. -/
@[inline] def rotr32 (x : UInt32) (n : UInt32) : UInt32 := (x >>> n) ||| (x <<< (32 - n))

/-- A 64-bit word rotated to the left; the amount counts modulo 64. -/
@[inline] def rotl64 (x : UInt64) (n : UInt64) : UInt64 := (x <<< n) ||| (x >>> (64 - n))

/-- A 64-bit word rotated to the right. -/
@[inline] def rotr64 (x : UInt64) (n : UInt64) : UInt64 := (x >>> n) ||| (x <<< (64 - n))

/-! ## Words of a byte string -/

/-- The `i`-th piece of `size` bytes. -/
def piece (size i : Nat) (b : Octets) : Octets := (b.drop (size * i)).take size

/-- The first `n` big-endian words of 32 bits. -/
def words32BE (n : Nat) (b : Octets) : Vector UInt32 n :=
  Vector.ofFn fun i => UInt32.ofNat (Octets.natBE (piece 4 i b))

/-- The first `n` little-endian words of 32 bits. -/
def words32LE (n : Nat) (b : Octets) : Vector UInt32 n :=
  Vector.ofFn fun i => UInt32.ofNat (Octets.natLE (piece 4 i b))

/-- The first `n` big-endian words of 64 bits. -/
def words64BE (n : Nat) (b : Octets) : Vector UInt64 n :=
  Vector.ofFn fun i => UInt64.ofNat (Octets.natBE (piece 8 i b))

/-- The first `n` little-endian words of 64 bits. -/
def words64LE (n : Nat) (b : Octets) : Vector UInt64 n :=
  Vector.ofFn fun i => UInt64.ofNat (Octets.natLE (piece 8 i b))

/-- The bytes of 32-bit words, each most significant byte first. -/
def bytes32BE (ws : List UInt32) : Octets := ws.flatMap fun w => Octets.bigEndian 4 w.toNat

/-- The bytes of 32-bit words, each least significant byte first. -/
def bytes32LE (ws : List UInt32) : Octets := ws.flatMap fun w => Octets.littleEndian 4 w.toNat

/-- The bytes of 64-bit words, each most significant byte first. -/
def bytes64BE (ws : List UInt64) : Octets := ws.flatMap fun w => Octets.bigEndian 8 w.toNat

/-- The bytes of 64-bit words, each least significant byte first. -/
def bytes64LE (ws : List UInt64) : Octets := ws.flatMap fun w => Octets.littleEndian 8 w.toNat

/-! ## Padding -/

/-- How many zero bytes follow `length` bytes to end `tail` bytes before a multiple of `size`. -/
def gap (size tail length : Nat) : Nat := (2 * size - tail - length % size) % size

/-- All whole blocks of `size` bytes. -/
def wholeBlocks (size : Nat) (b : Octets) : List Octets := Octets.blocks size (b.length / size) b

/-- The blocks of a padded message of `length` bytes, each with the number of message bits up to
its end, or zero if it holds none. -/
def counted (size length : Nat) (bs : List Octets) : List (Octets × Nat) :=
  bs.zipIdx.map fun (b, i) =>
    (b, if size * i < length then 8 * min length (size * (i + 1)) else 0)

end LedgerNet.Digest
