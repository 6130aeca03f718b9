import LedgerNet.Digest.Word
import LedgerNet.Digest.Aes

/-!
# Groestl-512

Third stage of the eleven-stage digest. Two permutations of an array of eight rows and sixteen
columns of bytes, each of fourteen rounds, are combined in every step.
-/

namespace LedgerNet.Digest.Groestl

/-- The array, held column by column. -/
abbrev State := Vector UInt8 128

/-- The two permutations. -/
inductive Kind where
  | p
  | q

/-- How far each row moves to the left. -/
def shifts : Kind → Vector Nat 8
  | .p => #v[0, 1, 2, 3, 4, 5, 6, 11]
  | .q => #v[1, 3, 5, 11, 0, 2, 4, 6]

/-- The constant added to the byte of a row and column in a round. -/
def constant (kind : Kind) (r row column : Nat) : UInt8 :=
  let mark := UInt8.ofNat (16 * column) ^^^ UInt8.ofNat r
  match kind with
  | .p => if row = 0 then mark else 0
  | .q => if row = 7 then 0xff ^^^ mark else 0xff

/-- The first row of the circulant matrix that mixes a column. -/
def weights : Vector UInt8 8 := #v[2, 2, 3, 4, 5, 3, 5, 7]

/-- A byte times one of the weights. -/
def scale (w x : UInt8) : UInt8 :=
  let x2 := Aes.double x
  let x4 := Aes.double x2
  (if w &&& 1 = 0 then 0 else x) ^^^ (if w &&& 2 = 0 then 0 else x2)
    ^^^ (if w &&& 4 = 0 then 0 else x4)

/-- One round of a permutation. -/
def round (kind : Kind) (s : State) (r : Nat) : State :=
  let shift := shifts kind
  let substituted : State := Vector.ofFn fun i =>
    Aes.sbox (s[i] ^^^ constant kind r (i % 8) (i / 8))
  let moved (row column : Nat) : UInt8 :=
    substituted[(8 * (column + shift[row % 8]) + row % 8) % 128]
  Vector.ofFn fun i =>
    (List.range 8).foldl (fun acc k =>
      acc ^^^ scale weights[(k + 8 - i.val % 8) % 8] (moved k (i / 8))) 0

/-- The fourteen rounds. -/
def permute (kind : Kind) (s : State) : State := (List.range 14).foldl (round kind) s

/-- The exclusive or of two arrays. -/
def xor (s t : State) : State := Vector.zipWith (· ^^^ ·) s t

/-- The array that holds a block. -/
def ofOctets (b : Octets) : State :=
  let bytes := b.toArray
  Vector.ofFn fun i => bytes.getD i 0

/-- The new chaining value from a block and the old one. -/
def compress (h : State) (block : Octets) : State :=
  let m := ofOctets block
  xor (xor (permute .p (xor h m)) (permute .q m)) h

/-- The initial chaining value: the digest size in bits. -/
def initial : State := ofOctets (Octets.bigEndian 128 512)

/-- The message, a one bit, zeros, and the number of blocks as eight bytes. -/
def padded (b : Octets) : Octets :=
  let n := gap 128 8 (b.length + 1)
  b ++ [0x80] ++ Octets.zeros n ++ Octets.bigEndian 8 ((b.length + 9 + n) / 128)

end Groestl

/-- The Groestl-512 digest. -/
def groestl512 (b : Octets) : Octets :=
  let h := (wholeBlocks 128 (Groestl.padded b)).foldl Groestl.compress Groestl.initial
  (Groestl.xor (Groestl.permute .p h) h).toList.drop 64

end LedgerNet.Digest
