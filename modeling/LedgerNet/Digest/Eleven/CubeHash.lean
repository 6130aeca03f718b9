import LedgerNet.Digest.Word

/-!
# CubeHash-512

Eighth stage of the eleven-stage digest. Thirty-two words take in blocks of 32 bytes with sixteen
rounds after each, and ten times as many rounds before the first block and after the last.
-/

namespace LedgerNet.Digest.CubeHash

/-- The state. -/
abbrev State := Vector UInt32 32

/-- Half a round: the high half gains the low half, the low half is rotated, its words change
places, it takes in the high half, and the words of the high half change places. -/
def halfRound (turn : UInt32) (swapLow swapHigh : Nat) (x : State) : State :=
  let high : Vector UInt32 16 := Vector.ofFn fun i => x[i.val + 16] + x[i.val]
  let low : Vector UInt32 16 := Vector.ofFn fun i =>
    rotl32 x[(i.val ^^^ swapLow) % 16] turn ^^^ high.get i
  low ++ (Vector.ofFn fun (i : Fin 16) => high[(i.val ^^^ swapHigh) % 16])

/-- One round. -/
def round (x : State) : State := halfRound 11 4 1 (halfRound 7 8 2 x)

/-- Any number of rounds. -/
def rounds (n : Nat) (x : State) : State := (List.range n).foldl (fun x _ => round x) x

/-- The initial state: digest bytes, block bytes and rounds, well mixed. -/
def initial : State := rounds 160 ((((Vector.replicate 32 0).set 0 64).set 1 32).set 2 16)

/-- Takes in one block of 32 bytes. -/
def absorb (x : State) (block : Octets) : State :=
  let m := words32LE 8 block
  rounds 16 (Vector.ofFn fun i => if h : i.val < 8 then x[i] ^^^ m[i.val] else x[i])

/-- The message, a one bit, and zeros. -/
def padded (b : Octets) : Octets := b ++ [0x80] ++ Octets.zeros (gap 32 0 (b.length + 1))

end CubeHash

/-- The CubeHash digest of 512 bits. -/
def cubehash512 (b : Octets) : Octets :=
  let x := (wholeBlocks 32 (CubeHash.padded b)).foldl CubeHash.absorb CubeHash.initial
  bytes32LE ((CubeHash.rounds 160 (x.set 31 (x[31] ^^^ 1))).toList.take 16)

end LedgerNet.Digest
