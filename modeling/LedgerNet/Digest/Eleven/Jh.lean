import LedgerNet.Digest.Word

/-!
# JH-512

Fifth stage of the eleven-stage digest. The state of 1024 bits is regrouped into 256 nibbles, which
go through 42 rounds of substitution, a linear map on pairs, and a permutation; the round constants
come from a small sibling of the same round.
-/

namespace LedgerNet.Digest.Jh

/-! ## Nibbles -/

/-- The substitution box where the round constant has a zero bit. -/
def boxZero : Vector UInt8 16 := #v[9, 0, 4, 11, 13, 12, 3, 15, 1, 10, 2, 6, 7, 5, 8, 14]

/-- The substitution box where the round constant has a one bit. -/
def boxOne : Vector UInt8 16 := #v[3, 12, 6, 13, 5, 7, 1, 9, 15, 2, 0, 4, 11, 10, 14, 8]

/-- A nibble through one of the boxes. -/
def substitute (one : Bool) (x : UInt8) : UInt8 :=
  if one then boxOne[x.toNat % 16] else boxZero[x.toNat % 16]

/-- Twice a nibble in the field modulo `x^4 + x + 1`. -/
def double (x : UInt8) : UInt8 := ((x <<< 1) &&& 15) ^^^ (if x &&& 8 = 0 then 0 else 3)

/-! ## The round on `2 * n` nibbles -/

/-- One nibble of the linear map: the second of each pair gains twice the first, and then the
first gains twice the second. -/
def linear (v : Array UInt8) (i : Nat) : UInt8 :=
  let a := v.getD (i - i % 2) 0
  let b := v.getD (i - i % 2 + 1) 0
  let d := b ^^^ double a
  if i % 2 = 0 then a ^^^ double d else d

/-- Where the permutation takes the nibble for place `i` from. The last two of every four nibbles
change places, the even ones go to the first half and the odd ones to the second, and neighbours in
the second half change places. -/
def source (n i : Nat) : Nat :=
  let j := if i < n then i else i + 1 - 2 * (i % 2)
  let k := if j < n then 2 * j else 2 * (j - n) + 1
  if k % 4 = 2 then k + 1 else if k % 4 = 3 then k - 1 else k

/-- One round; `pick i` chooses the box for nibble `i`. -/
def round (n : Nat) (pick : Nat → Bool) (q : Array UInt8) : Array UInt8 :=
  let v := Array.ofFn fun (i : Fin (2 * n)) => substitute (pick i) (q.getD i 0)
  Array.ofFn fun (i : Fin (2 * n)) => linear v (source n i)

/-! ## Round constants -/

/-- The first round constant, from the square root of two. -/
def firstConstant : Array UInt8 :=
  let digits : List UInt8 := Octets.bigEndian 32
    0x6a09e667f3bcc908b2fb1366ea957d3e3adec17512775099da2f590b0667322a
  (digits.flatMap fun (x : UInt8) => [x >>> 4, x &&& 15]).toArray

/-- The constants of all rounds, each a round of the small sibling after the one before. -/
def constants : List (Array UInt8) :=
  (List.range 41).foldl (fun cs _ =>
    cs ++ [round 32 (fun _ => false) (cs.getLast?.getD firstConstant)]) [firstConstant]

/-- Bit `i` of a string of nibbles, most significant first. -/
def bitOf (nibbles : Array UInt8) (i : Nat) : Bool :=
  (nibbles.getD (i / 4) 0 >>> UInt8.ofNat (3 - i % 4)) &&& 1 = 1

/-! ## The compression -/

/-- Bit `i` of a byte string, most significant first. -/
def bit (b : Array UInt8) (i : Nat) : UInt8 :=
  (b.getD (i / 8) 0 >>> UInt8.ofNat (7 - i % 8)) &&& 1

/-- Collects the bits of the state that stand 256 apart into nibbles. -/
def group (b : Array UInt8) : Array UInt8 :=
  Array.ofFn fun (i : Fin 256) =>
    let k := i.val / 2 + 128 * (i.val % 2)
    (bit b k <<< 3) ||| (bit b (k + 256) <<< 2) ||| (bit b (k + 512) <<< 1) ||| bit b (k + 768)

/-- Puts the bits of the nibbles back to their places. -/
def ungroup (q : Array UInt8) : Array UInt8 :=
  Array.ofFn fun (i : Fin 128) =>
    (List.range 8).foldl (fun acc t =>
      let place := 8 * i.val + t
      let k := place % 256
      let nibble := q.getD (2 * (k % 128) + k / 128) 0
      (acc <<< 1) ||| ((nibble >>> UInt8.ofNat (3 - place / 256)) &&& 1)) 0

/-- The bijection on the state. -/
def permute (b : Array UInt8) : Array UInt8 :=
  ungroup (constants.foldl (fun q c => round 128 (bitOf c) q) (group b))

/-- Adds a byte string to the state from byte `start` on. -/
def addAt (start : Nat) (m : Array UInt8) (h : Array UInt8) : Array UInt8 :=
  Array.ofFn fun (i : Fin 128) =>
    h.getD i 0 ^^^ (if start ≤ i.val then m.getD (i.val - start) 0 else 0)

/-- Mixes a block of 64 bytes into the state. -/
def compress (h : Array UInt8) (block : Octets) : Array UInt8 :=
  let m := block.toArray
  addAt 64 m (permute (addAt 0 m h))

/-- The state after the digest size alone. -/
def initial : Array UInt8 :=
  compress (Octets.littleEndian 128 2).toArray (Octets.zeros 64)

/-- The message, a one bit, zeros, and the length in bits as sixteen bytes; at least one block
holds no message. -/
def padded (b : Octets) : Octets :=
  b ++ [0x80] ++ Octets.zeros (47 + gap 64 0 b.length) ++ Octets.bigEndian 16 (8 * b.length)

end Jh

/-- The JH digest of 512 bits. -/
def jh512 (b : Octets) : Octets :=
  ((wholeBlocks 64 (Jh.padded b)).foldl Jh.compress Jh.initial).toList.drop 64

end LedgerNet.Digest
