import LedgerNet.Digest.Word
import LedgerNet.Digest.Aes

/-!
# ECHO-512

Last stage of the eleven-stage digest. An AES round writ large: sixteen blocks of sixteen bytes are
substituted by two AES rounds each, moved by rows and mixed by columns, ten times over.
-/

namespace LedgerNet.Digest.Echo

/-- Sixteen AES states, held column by column. -/
abbrev State := Vector Aes.Block 16

/-- Substitutes every block by two AES rounds, the first of them keyed by a counter that goes on
from block to block. -/
def substitute (counter : Nat) (s : State) : State :=
  Vector.ofFn fun i =>
    Aes.round (Aes.xor (Aes.round (s.get i)) (Aes.ofOctets (Octets.littleEndian 16 (counter + i))))

/-- Moves row `r` of the blocks left by `r` columns. -/
def shiftRows (s : State) : State :=
  Vector.ofFn fun i => s[(i.val + 4 * (i.val % 4)) % 16]

/-- Mixes the columns of blocks, byte by byte. -/
def mixColumns (s : State) : State :=
  Vector.ofFn fun i =>
    let base := 4 * (i.val / 4)
    Vector.ofFn fun j =>
      let at0 := (s.get i).get j
      let at1 := s[base + (i.val + 1) % 4].get j
      let at2 := s[base + (i.val + 2) % 4].get j
      let at3 := s[base + (i.val + 3) % 4].get j
      Aes.double (at0 ^^^ at1) ^^^ at1 ^^^ at2 ^^^ at3

/-- One big round. -/
def round (counter : Nat) (s : State) (r : Nat) : State :=
  mixColumns (shiftRows (substitute (counter + 16 * r) s))

/-- The new chaining value from a block and the number of message bits up to its end. -/
def compress (v : Vector Aes.Block 8) (block : Octets × Nat) : Vector Aes.Block 8 :=
  let bytes := block.1.toArray
  let m : Vector Aes.Block 8 := Vector.ofFn fun i => Vector.ofFn fun j =>
    bytes.getD (16 * i.val + j.val) 0
  let w := (List.range 10).foldl (round block.2) (v ++ m)
  let part (i : Nat) : Aes.Block := w.getD i (Vector.replicate 16 0)
  Vector.ofFn fun i => Aes.xor (Aes.xor (v.get i) (m.get i)) (Aes.xor (part i) (part (i + 8)))

/-- The initial chaining value: the digest size in every block. -/
def initial : Vector Aes.Block 8 := Vector.replicate 8 (Aes.ofOctets (Octets.littleEndian 16 512))

/-- The message, a one bit, zeros, the digest size, and the length in bits as sixteen bytes. -/
def padded (b : Octets) : Octets :=
  b ++ [0x80] ++ Octets.zeros (gap 128 18 (b.length + 1)) ++ Octets.littleEndian 2 512
    ++ Octets.littleEndian 16 (8 * b.length)

end Echo

/-- The ECHO digest of 512 bits. -/
def echo512 (b : Octets) : Octets :=
  let v := (counted 128 b.length (wholeBlocks 128 (Echo.padded b))).foldl
    Echo.compress Echo.initial
  (v.toList.take 4).flatMap Vector.toList

end LedgerNet.Digest
