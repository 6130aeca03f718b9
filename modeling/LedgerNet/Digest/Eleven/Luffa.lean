import LedgerNet.Digest.Word

/-!
# Luffa-512

Seventh stage of the eleven-stage digest. Five lanes of eight words take in blocks of 32 bytes;
the lanes are mixed with each other by doubling in a ring and then permuted one by one.
-/

namespace LedgerNet.Digest.Luffa

/-- One lane. -/
abbrev Lane := Vector UInt32 8

/-- The five lanes. -/
abbrev State := Vector Lane 5

/-- The initial lanes. -/
def initial : State :=
  #v[#v[0x6d251e69, 0x44b051e0, 0x4eaa6fb4, 0xdbf78465, 0x6e292011, 0x90152df4, 0xee058139, 0xdef610bb],
     #v[0xc3b44b95, 0xd9d2f256, 0x70eee9a0, 0xde099fa3, 0x5d9b0557, 0x8fc944b3, 0xcf1ccf0e, 0x746cd581],
     #v[0xf7efc89d, 0x5dba5781, 0x04016ce5, 0xad659c05, 0x0306194f, 0x666d1836, 0x24aa230a, 0x8b264ae7],
     #v[0x858075d5, 0x36d79cce, 0xe571f7d7, 0x204b1f67, 0x35870c6a, 0x57e9e923, 0x14bcb808, 0x7cde72ce],
     #v[0x6c68e9be, 0x5ec41e22, 0xc825b7c7, 0xaffb4363, 0xf5df3999, 0x0fc688f1, 0xb07224cc, 0x03e86cea]]

/-- For each lane the constants of its eight steps, one for word 0 and one for word 4. -/
def constants : Vector (List (UInt32 × UInt32)) 5 :=
  #v[[(0x303994a6, 0xe0337818), (0xc0e65299, 0x441ba90d), (0x6cc33a12, 0x7f34d442),
      (0xdc56983e, 0x9389217f), (0x1e00108f, 0xe5a8bce6), (0x7800423d, 0x5274baf4),
      (0x8f5b7882, 0x26889ba7), (0x96e1db12, 0x9a226e9d)],
     [(0xb6de10ed, 0x01685f3d), (0x70f47aae, 0x05a17cf4), (0x0707a3d4, 0xbd09caca),
      (0x1c1e8f51, 0xf4272b28), (0x707a3d45, 0x144ae5cc), (0xaeb28562, 0xfaa7ae2b),
      (0xbaca1589, 0x2e48f1c1), (0x40a46f3e, 0xb923c704)],
     [(0xfc20d9d2, 0xe25e72c1), (0x34552e25, 0xe623bb72), (0x7ad8818f, 0x5c58a4a4),
      (0x8438764a, 0x1e38e2e7), (0xbb6de032, 0x78e38b9d), (0xedb780c8, 0x27586719),
      (0xd9847356, 0x36eda57f), (0xa2c78434, 0x703aace7)],
     [(0xb213afa5, 0xe028c9bf), (0xc84ebe95, 0x44756f91), (0x4e608a22, 0x7e8fce32),
      (0x56d858fe, 0x956548be), (0x343b138f, 0xfe191be2), (0xd0ec4e3d, 0x3cb226e5),
      (0x2ceb4882, 0x5944a28e), (0xb3ad2208, 0xa1c4c355)],
     [(0xf0d2e9e3, 0x5090d577), (0xac11d7fa, 0x2d1925ab), (0x1bcb66f2, 0xb46496ac),
      (0x6f2d9bc9, 0xd1925ab0), (0x78602649, 0x29131ab6), (0x8edae952, 0x0fc053c3),
      (0x3b6ba548, 0x3f014f0c), (0xedae9520, 0xfc053c31)]]

/-! ## Mixing the lanes -/

/-- The exclusive or of two lanes. -/
def xor (a b : Lane) : Lane := Vector.zipWith (· ^^^ ·) a b

/-- Twice a lane, as a polynomial with 32 elements side by side. -/
def double (a : Lane) : Lane :=
  let w (i : Nat) : UInt32 := a.getD i 0
  #v[w 7, w 0 ^^^ w 7, w 1, w 2 ^^^ w 7, w 3 ^^^ w 7, w 4, w 5, w 6]

/-- Twice each lane plus its neighbour `step` places on. -/
def ring (step : Nat) (s : State) : State :=
  Vector.ofFn fun i => xor (double s[i]) s[(i.val + step) % 5]

/-- Mixes the lanes with each other and with a block. -/
def inject (s : State) (m : Lane) : State :=
  let total := s.foldl xor (Vector.replicate 8 0)
  let spread : State := s.map (xor (double total))
  let mixed := ring 4 (ring 1 spread)
  let m1 := double m
  let m2 := double m1
  let m3 := double m2
  let m4 := double m3
  Vector.zipWith xor mixed #v[m, m1, m2, m3, m4]

/-! ## Permuting a lane -/

/-- Substitutes the nibbles that stand in the same bit of four words. -/
def subCrumb (a0 a1 a2 a3 : UInt32) : UInt32 × UInt32 × UInt32 × UInt32 :=
  let t := a0
  let a0 := a0 ||| a1
  let a2 := a2 ^^^ a3
  let a1 := ~~~a1
  let a0 := a0 ^^^ a3
  let a3 := a3 &&& t
  let a1 := a1 ^^^ a3
  let a3 := a3 ^^^ a2
  let a2 := a2 &&& a0
  let a0 := ~~~a0
  let a2 := a2 ^^^ a1
  let a1 := a1 ||| a3
  let t := t ^^^ a1
  let a3 := a3 ^^^ a2
  let a2 := a2 &&& a1
  let a1 := a1 ^^^ a0
  (t, a1, a2, a3)

/-- Mixes two words. -/
def mixWord (u v : UInt32) : UInt32 × UInt32 :=
  let v := v ^^^ u
  let u := rotl32 u 2 ^^^ v
  let v := rotl32 v 14 ^^^ u
  let u := rotl32 u 10 ^^^ v
  (u, rotl32 v 1)

/-- One step of a lane. -/
def step (a : Lane) (c : UInt32 × UInt32) : Lane :=
  let w (i : Nat) : UInt32 := a.getD i 0
  let (a0, a1, a2, a3) := subCrumb (w 0) (w 1) (w 2) (w 3)
  let (a5, a6, a7, a4) := subCrumb (w 5) (w 6) (w 7) (w 4)
  let (a0, a4) := mixWord a0 a4
  let (a1, a5) := mixWord a1 a5
  let (a2, a6) := mixWord a2 a6
  let (a3, a7) := mixWord a3 a7
  #v[a0 ^^^ c.1, a1, a2, a3, a4 ^^^ c.2, a5, a6, a7]

/-- Rotates the second half of lane `j` by `j` and then makes its eight steps. -/
def permuteLane (j : Fin 5) (a : Lane) : Lane :=
  let r := UInt32.ofNat j
  let w (i : Nat) : UInt32 := a.getD i 0
  let tweaked : Lane := #v[w 0, w 1, w 2, w 3,
    rotl32 (w 4) r, rotl32 (w 5) r, rotl32 (w 6) r, rotl32 (w 7) r]
  (constants.get j).foldl step tweaked

/-- Takes in one block of 32 bytes. -/
def absorb (s : State) (block : Octets) : State :=
  let mixed := inject s (words32BE 8 block)
  Vector.ofFn fun j => permuteLane j mixed[j]

/-- Half of the digest: the sum of the lanes. -/
def half (s : State) : Octets := bytes32BE (s.foldl xor (Vector.replicate 8 0)).toList

/-- The message, a one bit, and zeros. -/
def padded (b : Octets) : Octets := b ++ [0x80] ++ Octets.zeros (gap 32 0 (b.length + 1))

end Luffa

/-- The Luffa digest of 512 bits. -/
def luffa512 (b : Octets) : Octets :=
  let s := (wholeBlocks 32 (Luffa.padded b)).foldl Luffa.absorb Luffa.initial
  let s1 := Luffa.absorb s (Octets.zeros 32)
  let s2 := Luffa.absorb s1 (Octets.zeros 32)
  Luffa.half s1 ++ Luffa.half s2

end LedgerNet.Digest
