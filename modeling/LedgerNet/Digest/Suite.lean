import LedgerNet.Digest.Sha256
import LedgerNet.Digest.Eleven

/-!
# Digest suites

A ledger uses two digests: one for transactions and merkle nodes, and one for the proof of work of
a block header. Everything above them is stated over a `DigestSuite`, two functions to strings of
32 bytes; `DigestSuite.standard` is the suite that the networks use.

A block is identified by its proof-of-work digest moved down one byte: the first byte is dropped
and a zero byte is put last, where display order shows it first.
-/

namespace LedgerNet

/-- The size of a digest in bytes. -/
def hashSize : Nat := 32

/-- The hash that stands for no transaction or block. -/
def zeroHash : Octets := Octets.zeros hashSize

/-- The two digests of a ledger, each of 32 bytes. -/
structure DigestSuite where
  /-- The digest of transactions and merkle nodes. -/
  content : Octets → Octets
  /-- The proof-of-work digest of a block header. -/
  work : Octets → Octets
  content_length : ∀ b, (content b).length = hashSize
  work_length : ∀ b, (work b).length = hashSize

/-- A byte string cut or widened on the left to the size of a digest. -/
def toHashSize (b : Octets) : Octets :=
  Octets.zeros (hashSize - b.length) ++ b.take hashSize

/-- The result has the size of a digest. -/
theorem length_toHashSize (b : Octets) : (toHashSize b).length = hashSize := by
  simp only [toHashSize, Octets.zeros, List.length_append, List.length_replicate, List.length_take]
  omega

/-- A digest that already has its size stays as it is. -/
theorem toHashSize_eq {b : Octets} (h : b.length = hashSize) : toHashSize b = b := by
  simp [toHashSize, Octets.zeros, h, List.take_of_length_le]

namespace DigestSuite

/-- The identity of a block from its serialized header. -/
def identity (d : DigestSuite) (header : Octets) : Octets := (d.work header).drop 1 ++ [0]

/-- An identity has the size of a digest. -/
theorem length_identity (d : DigestSuite) (header : Octets) :
    (d.identity header).length = hashSize := by
  simp [identity, d.work_length, hashSize]

/-- Double SHA-256 and the eleven-stage digest. -/
def standard : DigestSuite where
  content b := toHashSize (Digest.doubleSha256 b)
  work b := toHashSize (Digest.eleven b)
  content_length _ := length_toHashSize _
  work_length _ := length_toHashSize _

end DigestSuite

end LedgerNet
