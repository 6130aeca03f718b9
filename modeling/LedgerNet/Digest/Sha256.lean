import LedgerNet.Digest.Word

/-!
# SHA-256

The digest of 32 bytes that transactions, merkle nodes and base-58 checksums use, always twice
over: `doubleSha256 b = sha256 (sha256 b)`.
-/

namespace LedgerNet.Digest.Sha256

/-- The state: eight words. -/
abbrev State := Vector UInt32 8

/-- The fractional parts of the square roots of the first eight primes. -/
def initial : State :=
  #v[0x6a09e667, 0xbb67ae85, 0x3c6ef372, 0xa54ff53a, 0x510e527f, 0x9b05688c, 0x1f83d9ab, 0x5be0cd19]

/-- The fractional parts of the cube roots of the first sixty-four primes. -/
def constants : List UInt32 :=
  [0x428a2f98, 0x71374491, 0xb5c0fbcf, 0xe9b5dba5, 0x3956c25b, 0x59f111f1, 0x923f82a4, 0xab1c5ed5,
   0xd807aa98, 0x12835b01, 0x243185be, 0x550c7dc3, 0x72be5d74, 0x80deb1fe, 0x9bdc06a7, 0xc19bf174,
   0xe49b69c1, 0xefbe4786, 0x0fc19dc6, 0x240ca1cc, 0x2de92c6f, 0x4a7484aa, 0x5cb0a9dc, 0x76f988da,
   0x983e5152, 0xa831c66d, 0xb00327c8, 0xbf597fc7, 0xc6e00bf3, 0xd5a79147, 0x06ca6351, 0x14292967,
   0x27b70a85, 0x2e1b2138, 0x4d2c6dfc, 0x53380d13, 0x650a7354, 0x766a0abb, 0x81c2c92e, 0x92722c85,
   0xa2bfe8a1, 0xa81a664b, 0xc24b8b70, 0xc76c51a3, 0xd192e819, 0xd6990624, 0xf40e3585, 0x106aa070,
   0x19a4c116, 0x1e376c08, 0x2748774c, 0x34b0bcb5, 0x391c0cb3, 0x4ed8aa4a, 0x5b9cca4f, 0x682e6ff3,
   0x748f82ee, 0x78a5636f, 0x84c87814, 0x8cc70208, 0x90befffa, 0xa4506ceb, 0xbef9a3f7, 0xc67178f2]

/-- The window of sixteen schedule words moved on by one word. -/
def advance (w : Vector UInt32 16) : Vector UInt32 16 :=
  let a (i : Nat) : UInt32 := w.getD i 0
  let s0 := rotr32 (a 1) 7 ^^^ rotr32 (a 1) 18 ^^^ (a 1 >>> 3)
  let s1 := rotr32 (a 14) 17 ^^^ rotr32 (a 14) 19 ^^^ (a 14 >>> 10)
  let next := a 0 + s0 + a 9 + s1
  Vector.ofFn fun i => if i.val + 1 < 16 then a (i.val + 1) else next

/-- One round with a constant and the front of the schedule window. -/
def round (st : State × Vector UInt32 16) (k : UInt32) : State × Vector UInt32 16 :=
  let (state, window) := st
  let s (i : Nat) : UInt32 := state.getD i 0
  let s1 := rotr32 (s 4) 6 ^^^ rotr32 (s 4) 11 ^^^ rotr32 (s 4) 25
  let ch := (s 4 &&& s 5) ^^^ (~~~(s 4) &&& s 6)
  let t1 := s 7 + s1 + ch + k + window.getD 0 0
  let s0 := rotr32 (s 0) 2 ^^^ rotr32 (s 0) 13 ^^^ rotr32 (s 0) 22
  let maj := (s 0 &&& s 1) ^^^ (s 0 &&& s 2) ^^^ (s 1 &&& s 2)
  (#v[t1 + s0 + maj, s 0, s 1, s 2, s 3 + t1, s 4, s 5, s 6], advance window)

/-- Mixes one block of 64 bytes into the state. -/
def compress (s : State) (block : Octets) : State :=
  let (t, _) := constants.foldl round (s, words32BE 16 block)
  Vector.zipWith (· + ·) s t

/-- The message, a one bit, zeros, and the length in bits as eight bytes. -/
def padded (b : Octets) : Octets :=
  b ++ [0x80] ++ Octets.zeros (gap 64 8 (b.length + 1)) ++ Octets.bigEndian 8 (8 * b.length)

end Sha256

/-- The SHA-256 digest. -/
def sha256 (b : Octets) : Octets :=
  bytes32BE ((wholeBlocks 64 (Sha256.padded b)).foldl Sha256.compress Sha256.initial).toList

/-- The SHA-256 digest of the SHA-256 digest. -/
def doubleSha256 (b : Octets) : Octets := sha256 (sha256 b)

end LedgerNet.Digest
