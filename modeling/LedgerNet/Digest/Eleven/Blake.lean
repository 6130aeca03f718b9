import LedgerNet.Digest.Word

/-!
# BLAKE-512

First stage of the eleven-stage digest. Sixteen rounds on a state of sixteen words; the number of
message bits read so far enters every block.
-/

namespace LedgerNet.Digest.Blake

/-- The chaining value. -/
abbrev Chain := Vector UInt64 8

/-- The working state. -/
abbrev State := Vector UInt64 16

/-- The initial chaining value. -/
def initial : Chain :=
  #v[0x6a09e667f3bcc908, 0xbb67ae8584caa73b, 0x3c6ef372fe94f82b, 0xa54ff53a5f1d36f1,
     0x510e527fade682d1, 0x9b05688c2b3e6c1f, 0x1f83d9abfb41bd6b, 0x5be0cd19137e2179]

/-- The leading fractional digits of pi. -/
def constants : Vector UInt64 16 :=
  #v[0x243f6a8885a308d3, 0x13198a2e03707344, 0xa4093822299f31d0, 0x082efa98ec4e6c89,
     0x452821e638d01377, 0xbe5466cf34e90c6c, 0xc0ac29b7c97c50dd, 0x3f84d5b5b5470917,
     0x9216d5d98979fb1b, 0xd1310ba698dfb5ac, 0x2ffd72dbd01adfb7, 0xb8e1afed6a267e96,
     0xba7c9045f12c7f99, 0x24a19947b3916cf7, 0x0801f2e2858efc16, 0x636920d871574e69]

/-- The ten orders in which a round reads the message words. -/
def orders : Vector (Vector (Fin 16) 16) 10 :=
  #v[#v[0, 1, 2, 3, 4, 5, 6, 7, 8, 9, 10, 11, 12, 13, 14, 15],
     #v[14, 10, 4, 8, 9, 15, 13, 6, 1, 12, 0, 2, 11, 7, 5, 3],
     #v[11, 8, 12, 0, 5, 2, 15, 13, 10, 14, 3, 6, 7, 1, 9, 4],
     #v[7, 9, 3, 1, 13, 12, 11, 14, 2, 6, 5, 10, 4, 0, 15, 8],
     #v[9, 0, 5, 7, 2, 4, 10, 15, 14, 1, 11, 12, 6, 8, 3, 13],
     #v[2, 12, 6, 10, 0, 11, 8, 3, 4, 13, 7, 5, 15, 14, 1, 9],
     #v[12, 5, 1, 15, 14, 13, 4, 10, 0, 7, 6, 3, 9, 2, 8, 11],
     #v[13, 11, 7, 14, 12, 1, 3, 9, 5, 0, 15, 4, 8, 6, 2, 10],
     #v[6, 15, 14, 9, 11, 3, 0, 8, 12, 2, 13, 7, 1, 4, 10, 5],
     #v[10, 2, 8, 4, 7, 6, 1, 5, 15, 11, 9, 14, 3, 12, 13, 0]]

/-- The quarter step on four words of the state with two words of the message. -/
def quarter (m : Vector UInt64 16) (order : Vector (Fin 16) 16) (k : Fin 8)
    (a b c d : Fin 16) (v : State) : State :=
  let i := order[2 * k.val]
  let j := order[2 * k.val + 1]
  let va := v[a] + v[b] + (m[i] ^^^ constants[j])
  let vd := rotr64 (v[d] ^^^ va) 32
  let vc := v[c] + vd
  let vb := rotr64 (v[b] ^^^ vc) 25
  let va := va + vb + (m[j] ^^^ constants[i])
  let vd := rotr64 (vd ^^^ va) 16
  let vc := vc + vd
  let vb := rotr64 (vb ^^^ vc) 11
  (((v.set a va).set b vb).set c vc).set d vd

/-- One round: four columns, then four diagonals. -/
def round (m : Vector UInt64 16) (v : State) (r : Nat) : State :=
  let q := quarter m orders[r % 10]
  let v := q 3 3 7 11 15 (q 2 2 6 10 14 (q 1 1 5 9 13 (q 0 0 4 8 12 v)))
  q 7 3 4 9 14 (q 6 2 7 8 13 (q 5 1 6 11 12 (q 4 0 5 10 15 v)))

/-- Mixes one block of 128 bytes, with the number of message bits up to its end. -/
def compress (h : Chain) (block : Octets × Nat) : Chain :=
  let (b, count) := block
  let m := words64BE 16 b
  let low := UInt64.ofNat count
  let high := UInt64.ofNat (count >>> 64)
  let k (i : Nat) : UInt64 := constants.getD i 0
  let rest : Vector UInt64 8 :=
    #v[k 0, k 1, k 2, k 3, low ^^^ k 4, low ^^^ k 5, high ^^^ k 6, high ^^^ k 7]
  let v := (List.range 16).foldl (round m) (h ++ rest)
  Vector.ofFn fun i => h.get i ^^^ v.getD i.val 0 ^^^ v.getD (i.val + 8) 0

/-- The padded message: a one bit, zeros, a one bit, and the length in bits as sixteen bytes. -/
def padded (b : Octets) : Octets :=
  let n := gap 128 16 (b.length + 1)
  let fill : Octets :=
    if n = 0 then [0x81] else [0x80] ++ Octets.zeros (n - 1) ++ [0x01]
  b ++ fill ++ Octets.bigEndian 16 (8 * b.length)

end Blake

/-- The BLAKE-512 digest. -/
def blake512 (b : Octets) : Octets :=
  bytes64BE ((counted 128 b.length (wholeBlocks 128 (Blake.padded b))).foldl
    Blake.compress Blake.initial).toList

end LedgerNet.Digest
