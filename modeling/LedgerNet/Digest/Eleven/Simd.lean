import LedgerNet.Digest.Word

/-!
# SIMD-512

Tenth stage of the eleven-stage digest. The bytes of a block are transformed over the field of 257
elements and spread over 256 words, which drive thirty-two steps of eight parallel Feistel ladders.
-/

namespace LedgerNet.Digest.Simd

/-- One row of eight words. -/
abbrev Row := Vector UInt32 8

/-- The four rows of the state. -/
structure State where
  a : Row
  b : Row
  c : Row
  d : Row

/-- The initial state. -/
def initial : State where
  a := #v[0x0ba16b95, 0x72f999ad, 0x9fecc2ae, 0xba3264fc, 0x5e894929, 0x8e9f30e5, 0x2f1daa37, 0xf0f2c558]
  b := #v[0xac506643, 0xa90635a5, 0xe25b878b, 0xaab7878f, 0x88817f7a, 0x0a02892b, 0x559a7550, 0x598f657e]
  c := #v[0x7eef60a1, 0x6b70e3e8, 0x9c1714d1, 0xb958e2a8, 0xab02675e, 0xed1c014f, 0xcd8d65bb, 0xfdb7a257]
  d := #v[0x09254899, 0xd699c7bc, 0x9019b6dc, 0x2b9022e4, 0x8fa14956, 0x21bf9bd3, 0xb94d0943, 0x6ffddc22]

/-! ## The transform -/

/-- The powers of 41, an element of order 256. -/
def powers : Array Nat :=
  ((List.range 256).foldl (fun (acc : Array Nat × Nat) _ =>
    (acc.1.push acc.2, acc.2 * 41 % 257)) (#[], 1)).1

/-- The power of 41 with exponent `e`. -/
def power (e : Nat) : Nat := powers.getD (e % 256) 0

/-- The transformed block: value `i` is the message as a polynomial at the `i`-th power of 41, plus
an offset that tells the last block from the others. -/
def transform (last : Bool) (block : Array UInt8) : Array Nat :=
  Array.ofFn fun (i : Fin 256) =>
    let offset := power (255 * i) + (if last then power (253 * i) else 0)
    ((List.range 128).foldl (fun acc j =>
      acc + (block.getD j 0).toNat * power (i * j)) offset) % 257

/-- A field element lifted to `-128 .. 128`, times a factor, in sixteen bits. -/
def spread (factor : Int) (y : Nat) : UInt32 :=
  let lifted : Int := if y ≤ 128 then y else (y : Int) - 257
  UInt32.ofNat ((lifted * factor) % 65536).toNat

/-! ## The schedule -/

/-- Which sixteen transformed values each step reads. -/
def order : Vector Nat 32 :=
  #v[4, 6, 0, 2, 7, 5, 3, 1, 15, 11, 12, 8, 9, 13, 10, 14,
     17, 18, 23, 20, 22, 21, 16, 19, 30, 24, 25, 31, 27, 29, 28, 26]

/-- The eight words of a step. -/
def wordsOf (y : Array Nat) (step : Nat) : Row :=
  let k := order[step % 32]
  let pair (factor : Int) (lo hi : Nat) : UInt32 :=
    spread factor (y.getD lo 0) ||| (spread factor (y.getD hi 0) <<< 16)
  Vector.ofFn fun j =>
    let base := 16 * k + 2 * j.val
    if k < 16 then pair 185 base (base + 1)
    else if k < 24 then pair 233 (base - 256) (base - 128)
    else pair 233 (base - 383) (base - 255)

/-- The Boolean function that chooses. -/
def choose (x y z : UInt32) : UInt32 := ((y ^^^ z) &&& x) ^^^ z

/-- The Boolean function of the majority. -/
def majority (x y z : UInt32) : UInt32 := (z &&& y) ||| ((z ||| y) &&& x)

/-- Which ladder a ladder looks at, as a pattern of bits to change, by the number of the step. -/
def partners : Vector Nat 7 := #v[1, 6, 2, 3, 5, 7, 4]

/-- The rotations of the four rounds. -/
def rotations : Vector (Vector UInt32 4) 4 :=
  #v[#v[3, 23, 17, 27], #v[28, 19, 22, 7], #v[29, 9, 15, 5], #v[4, 13, 10, 25]]

/-- One step on all ladders. -/
def step (f : UInt32 → UInt32 → UInt32 → UInt32) (r s : UInt32) (number : Nat) (w : Row)
    (st : State) : State :=
  let turned : Row := st.a.map fun x => rotl32 x r
  let partner := partners[number % 7]
  { a := Vector.ofFn fun j =>
      rotl32 (st.d.get j + w.get j + f (st.a.get j) (st.b.get j) (st.c.get j)) s
        + turned[(j.val ^^^ partner) % 8]
    b := turned
    c := st.b
    d := st.c }

/-- The step of a number below thirty-two, which reads its words from the transformed block. -/
def scheduledStep (y : Array Nat) (st : State) (number : Nat) : State :=
  let p := rotations[number / 8 % 4]
  let f := if number % 8 < 4 then choose else majority
  step f p[number % 4] p[(number + 1) % 4] number (wordsOf y number) st

/-- The exclusive or of two rows. -/
def xor (a b : Row) : Row := Vector.zipWith (· ^^^ ·) a b

/-- The new state from a block and the old one; the old rows drive four more steps. -/
def compress (last : Bool) (h : State) (block : Octets) : State :=
  let y := transform last block.toArray
  let row (i : Nat) : Row := words32LE 8 (piece 32 i block)
  let start : State := ⟨xor h.a (row 0), xor h.b (row 1), xor h.c (row 2), xor h.d (row 3)⟩
  let st := (List.range 32).foldl (scheduledStep y) start
  step choose 25 4 35 h.d (step choose 10 25 34 h.c (step choose 13 10 33 h.b
    (step choose 4 13 32 h.a st)))

/-- The message filled up with zeros to whole blocks. -/
def padded (b : Octets) : Octets := b ++ Octets.zeros (gap 128 0 b.length)

end Simd

/-- The SIMD digest of 512 bits; the last block holds the length in bits. -/
def simd512 (b : Octets) : Octets :=
  let h := (wholeBlocks 128 (Simd.padded b)).foldl (Simd.compress false) Simd.initial
  let h := Simd.compress true h (Octets.littleEndian 128 (8 * b.length))
  bytes32LE (h.a.toList ++ h.b.toList)

end LedgerNet.Digest
