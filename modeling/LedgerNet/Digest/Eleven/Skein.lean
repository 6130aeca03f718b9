import LedgerNet.Digest.Word

/-!
# Skein-512

Fourth stage of the eleven-stage digest. Each block is enciphered by Threefish-512 under the
chaining value and a tweak that counts the bytes; a last block of zeros yields the digest.
-/

namespace LedgerNet.Digest.Skein

/-- Eight words: a chaining value, a block or a cipher state. -/
abbrev Words := Vector UInt64 8

/-- The chaining value after the configuration for 512 bits of output. -/
def initial : Words :=
  #v[0x4903adff749c51ce, 0x0d95de399746df03, 0x8fd1934127c79bce, 0x9a255629ff352cb1,
     0x5db62599df6ca7b0, 0xeabe394ca9d5c3f4, 0x991112c71a75b523, 0xae18a40b660fcc33]

/-! ## Threefish-512 -/

/-- The rotation amounts of eight rounds. -/
def rotations : Vector (Vector UInt64 4) 8 :=
  #v[#v[46, 36, 19, 37], #v[33, 27, 14, 42], #v[17, 49, 36, 39], #v[44, 9, 54, 56],
     #v[39, 30, 34, 24], #v[13, 50, 10, 17], #v[25, 29, 39, 43], #v[8, 35, 56, 22]]

/-- Key words with their parity word, and tweak words with theirs. -/
structure Schedule where
  key : Vector UInt64 9
  tweak : Vector UInt64 3

/-- The schedule of a key and a tweak. -/
def schedule (k : Words) (t0 t1 : UInt64) : Schedule where
  key := k.push (k.foldl (· ^^^ ·) 0x1bd11bdaa9fc1a22)
  tweak := #v[t0, t1, t0 ^^^ t1]

/-- Adds the subkey of number `s`. -/
def addSubkey (sch : Schedule) (s : Nat) (v : Words) : Words :=
  Vector.ofFn fun i =>
    let extra : UInt64 :=
      if i.val = 5 then sch.tweak[s % 3]
      else if i.val = 6 then sch.tweak[(s + 1) % 3]
      else if i.val = 7 then UInt64.ofNat s else 0
    v.get i + sch.key.getD ((s + i) % 9) 0 + extra

/-- Four mixing steps and the word permutation. -/
def round (v : Words) (d : Nat) : Words :=
  let w (i : Nat) : UInt64 := v.getD i 0
  let r := rotations.getD (d % 8) (Vector.replicate 4 0)
  let mixed (i j : Nat) : UInt64 := rotl64 (w j) (r.getD (i / 2) 0) ^^^ (w i + w j)
  #v[w 2 + w 3, mixed 0 1, w 4 + w 5, mixed 6 7, w 6 + w 7, mixed 4 5, w 0 + w 1, mixed 2 3]

/-- Seventy-two rounds, a subkey before each four and one at the end. -/
def threefish (sch : Schedule) (block : Words) : Words :=
  let v := (List.range 18).foldl (fun v s =>
    [4 * s, 4 * s + 1, 4 * s + 2, 4 * s + 3].foldl round (addSubkey sch s v)) block
  addSubkey sch 18 v

/-! ## Chaining -/

/-- What a block stands for. -/
inductive Role where
  | message
  | output

/-- The bits of the tweak that name the role. -/
def Role.bits : Role → UInt64
  | .message => (48 : UInt64) <<< 56
  | .output => (63 : UInt64) <<< 56

/-- The chaining value after a block that ends at `position` bytes. -/
def chain (role : Role) (first last : Bool) (position : Nat) (h m : Words) : Words :=
  let firstBit : UInt64 := if first then (1 : UInt64) <<< 62 else 0
  let lastBit : UInt64 := if last then (1 : UInt64) <<< 63 else 0
  let t1 := role.bits ||| firstBit ||| lastBit
  let e := threefish (schedule h (UInt64.ofNat position) t1) m
  Vector.zipWith (· ^^^ ·) e m

/-- The blocks of a message of `length` bytes; the empty message has one. -/
def blockCount (length : Nat) : Nat := max 1 ((length + 63) / 64)

/-- The chaining value after the whole message. -/
def absorb (b : Octets) : Words :=
  let count := blockCount b.length
  ((Octets.blocks 64 count b).zipIdx).foldl (fun h (block, i) =>
    chain .message (i = 0) (i + 1 = count) (min b.length (64 * (i + 1))) h
      (words64LE 8 block)) initial

end Skein

/-- The Skein-512 digest of 512 bits. -/
def skein512 (b : Octets) : Octets :=
  bytes64LE (Skein.chain .output true true 8 (Skein.absorb b) (Vector.replicate 8 0)).toList

end LedgerNet.Digest
