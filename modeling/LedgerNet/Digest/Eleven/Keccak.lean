import LedgerNet.Digest.Word

/-!
# Keccak-512

Sixth stage of the eleven-stage digest. A sponge with blocks of 72 bytes over the permutation of
twenty-five words, with a single one bit between the message and the closing bit.
-/

namespace LedgerNet.Digest.Keccak

/-- Five rows of five words, row by row. -/
abbrev State := Vector UInt64 25

/-- The round constants. -/
def constants : List UInt64 :=
  [0x0000000000000001, 0x0000000000008082, 0x800000000000808a, 0x8000000080008000,
   0x000000000000808b, 0x0000000080000001, 0x8000000080008081, 0x8000000000008009,
   0x000000000000008a, 0x0000000000000088, 0x0000000080008009, 0x000000008000000a,
   0x000000008000808b, 0x800000000000008b, 0x8000000000008089, 0x8000000000008003,
   0x8000000000008002, 0x8000000000000080, 0x000000000000800a, 0x800000008000000a,
   0x8000000080008081, 0x8000000000008080, 0x0000000080000001, 0x8000000080008008]

/-- How far each word is rotated. -/
def offsets : Vector UInt64 25 :=
  #v[0, 1, 62, 28, 27, 36, 44, 6, 55, 20, 3, 10, 43, 25, 39, 41, 45, 15, 21, 8, 18, 2, 61, 56, 14]

/-- One round: column parities, rotation and transposition, the row map, and the constant. -/
def round (a : State) (constant : UInt64) : State :=
  let parity : Vector UInt64 5 := Vector.ofFn fun x =>
    a[x.val] ^^^ a[x.val + 5] ^^^ a[x.val + 10] ^^^ a[x.val + 15] ^^^ a[x.val + 20]
  let effect : Vector UInt64 5 := Vector.ofFn fun x =>
    parity[(x.val + 4) % 5] ^^^ rotl64 parity[(x.val + 1) % 5] 1
  let turned : Vector UInt64 25 := Vector.ofFn fun i =>
    rotl64 (a[i] ^^^ effect[i.val % 5]) offsets[i]
  -- the word at column x of row y comes from column x + 3 y of row x
  let moved : Vector UInt64 25 := Vector.ofFn fun i =>
    turned[(i.val % 5 + 3 * (i.val / 5)) % 5 + 5 * (i.val % 5)]
  let mapped : State := Vector.ofFn fun i =>
    let row := 5 * (i.val / 5)
    moved[i] ^^^ (~~~moved[row + (i.val + 1) % 5] &&& moved[row + (i.val + 2) % 5])
  mapped.set 0 (mapped[0] ^^^ constant)

/-- The twenty-four rounds. -/
def permute (a : State) : State := constants.foldl round a

/-- Adds a block of 72 bytes and permutes. -/
def absorb (a : State) (block : Octets) : State :=
  let m := words64LE 9 block
  permute (Vector.ofFn fun i => if h : i.val < 9 then a[i] ^^^ m[i.val] else a[i])

/-- The message, a one bit, zeros and a closing one bit. -/
def padded (b : Octets) : Octets :=
  let n := gap 72 0 (b.length + 1)
  b ++ (if n = 0 then [0x81] else [0x01] ++ Octets.zeros (n - 1) ++ [0x80])

end Keccak

/-- The Keccak digest of 512 bits. -/
def keccak512 (b : Octets) : Octets :=
  let a := (wholeBlocks 72 (Keccak.padded b)).foldl Keccak.absorb (Vector.replicate 25 0)
  bytes64LE (a.toList.take 8)

end LedgerNet.Digest
