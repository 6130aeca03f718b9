import LedgerNet.Digest.Word
import LedgerNet.Digest.Aes

/-!
# SHAvite-512

Ninth stage of the eleven-stage digest. A block cipher of fourteen rounds on four blocks of sixteen
bytes, whose round keys are expanded from the message block and the number of message bits.
-/

namespace LedgerNet.Digest.Shavite

/-- Four words, read as one AES state. -/
abbrev Quad := Aes.Block

/-- The initial chaining value. -/
def initial : Octets :=
  bytes32LE
    [0x72fccdd8, 0x79ca4727, 0x128a077b, 0x40d55aec, 0xd1901a06, 0x430ae307, 0xb29f5cd1, 0xdf07fbfc,
     0x8e45d73d, 0x681ab538, 0xbde86578, 0xdd577e47, 0xe275eade, 0x502d9fcd, 0xb9357178, 0x022a4b9a]

/-! ## Round keys -/

/-- The key quads made so far. -/
abbrev Keys := Array Quad

/-- The key quad of a place; a place not yet filled holds zeros. -/
def quadAt (keys : Keys) (i : Nat) : Quad := keys.getD i (Vector.replicate 16 0)

/-- The sixteen bytes that begin one word into the quad at place `i`. -/
def straddle (keys : Keys) (i : Nat) : Quad :=
  let a := quadAt keys i
  let b := quadAt keys (i + 1)
  (a.drop 4 ++ b.take 4).cast (by decide)

/-- The bit counter as four words, in the order in which it enters at a place of the schedule. -/
def counterAt (count : Nat) (i : Nat) : Option Quad :=
  let c (k : Nat) : UInt32 := UInt32.ofNat (count >>> (32 * k))
  let quad (w x y z : UInt32) : Option Quad := some (Aes.ofOctets (bytes32LE [w, x, y, ~~~z]))
  match i with
  | 8 => quad (c 0) (c 1) (c 2) (c 3)
  | 41 => quad (c 3) (c 2) (c 1) (c 0)
  | 79 => quad (c 2) (c 3) (c 0) (c 1)
  | 110 => quad (c 1) (c 0) (c 3) (c 2)
  | _ => none

/-- Appends the key quad of place `i`. Places go by sixteens: in the first eight a quad comes from
an AES round, in the second eight from two earlier quads alone. -/
def extend (count : Nat) (keys : Keys) (i : Nat) : Keys :=
  let next :=
    if i / 8 % 2 = 1 then
      let q := Aes.xor (Aes.round (straddleTurned keys (i - 8))) (quadAt keys (i - 1))
      match counterAt count i with
      | some c => Aes.xor q c
      | none => q
    else Aes.xor (quadAt keys (i - 8)) (straddle keys (i - 2))
  keys.push next
where
  /-- The quad at a place with its first word moved to the end. -/
  straddleTurned (keys : Keys) (i : Nat) : Quad :=
    let a := quadAt keys i
    (a.drop 4 ++ a.take 4).cast (by decide)

/-- The 112 key quads of a block. -/
def schedule (count : Nat) (block : Octets) : Keys :=
  let start : Keys := Array.ofFn fun (i : Fin 8) => Aes.ofOctets (piece 16 i block)
  ((List.range 112).drop 8).foldl (extend count) start

/-! ## The cipher -/

/-- Four AES rounds with the four key quads from place `i` on. -/
def quadRound (keys : Keys) (i : Nat) (x : Quad) : Quad :=
  [i, i + 1, i + 2, i + 3].foldl (fun x k => Aes.round (Aes.xor x (quadAt keys k))) x

/-- One round: each odd quarter changes the even one before it, and the quarters move on. -/
def round (keys : Keys) (s : Vector Quad 4) (r : Nat) : Vector Quad 4 :=
  let a := Aes.xor s[0] (quadRound keys (8 * r) s[1])
  let c := Aes.xor s[2] (quadRound keys (8 * r + 4) s[3])
  #v[s[3], a, s[1], c]

/-- The new chaining value from a block and the number of message bits up to its end. -/
def compress (h : Octets) (block : Octets × Nat) : Octets :=
  let keys := schedule block.2 block.1
  let start : Vector Quad 4 := Vector.ofFn fun i => Aes.ofOctets (piece 16 i h)
  let s := (List.range 14).foldl (round keys) start
  List.zipWith (· ^^^ ·) h (s.toList.flatMap Vector.toList)

/-- The message, a one bit, zeros, the length in bits as sixteen bytes, and the digest size. -/
def padded (b : Octets) : Octets :=
  b ++ [0x80] ++ Octets.zeros (gap 128 18 (b.length + 1)) ++ Octets.littleEndian 16 (8 * b.length)
    ++ Octets.littleEndian 2 512

end Shavite

/-- The SHAvite digest of 512 bits. -/
def shavite512 (b : Octets) : Octets :=
  (counted 128 b.length (wholeBlocks 128 (Shavite.padded b))).foldl
    Shavite.compress Shavite.initial

end LedgerNet.Digest
