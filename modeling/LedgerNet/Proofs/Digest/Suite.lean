import LedgerNet.Digest.Suite
import LedgerNet.Proofs.Octets.Fields

/-!
# The suite of the networks

Both digests of the networks have 32 bytes by themselves, so the standard suite cuts and widens
nothing: what holds for every suite holds of double SHA-256 and of the eleven-stage digest.
-/

namespace LedgerNet.Digest

theorem length_bytes32BE (ws : List UInt32) : (bytes32BE ws).length = 4 * ws.length := by
  induction ws with
  | nil => rfl
  | cons w ws ih =>
    rw [bytes32BE, List.flatMap_cons, List.length_append, Octets.length_bigEndian, ← bytes32BE, ih,
      List.length_cons]
    omega

theorem length_sha256 (b : Octets) : (sha256 b).length = hashSize := by
  rw [sha256, length_bytes32BE, Vector.length_toList, hashSize]

theorem length_doubleSha256 (b : Octets) : (doubleSha256 b).length = hashSize :=
  length_sha256 (sha256 b)

/-- The last stage gives four blocks of sixteen bytes. -/
theorem length_echo512 (b : Octets) : (echo512 b).length = 64 := by
  have hblocks : ∀ bs : List Aes.Block, (bs.flatMap Vector.toList).length = 16 * bs.length := by
    intro bs
    induction bs with
    | nil => rfl
    | cons v bs ih =>
      rw [List.flatMap_cons, List.length_append, Vector.length_toList, ih, List.length_cons]
      omega
  simp only [echo512, hblocks, List.length_take, Vector.length_toList]
  decide

theorem length_eleven (b : Octets) : (eleven b).length = hashSize := by
  simp only [eleven, stages, List.foldl_cons, List.foldl_nil, List.length_take, length_echo512]
  decide

end LedgerNet.Digest

namespace LedgerNet.DigestSuite

/-- Transactions and merkle nodes of the networks are digested by double SHA-256. -/
@[simp] theorem content_standard (b : Octets) : standard.content b = Digest.doubleSha256 b :=
  toHashSize_eq (Digest.length_doubleSha256 b)

/-- Headers of the networks are digested in eleven stages. -/
@[simp] theorem work_standard (b : Octets) : standard.work b = Digest.eleven b :=
  toHashSize_eq (Digest.length_eleven b)

end LedgerNet.DigestSuite
