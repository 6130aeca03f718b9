import LedgerNet.Proofs.Chain.GenesisCheck

/-!
# When the check of a genesis block fails

What is pinned for a network is text, or nothing for the merkle root. Then the check of a block that
was read from its bytes either succeeds, because the block is the one that is pinned, or ends with a
mismatch and a text that tells it. No other error is left.

## Main statements

- `check_succeeds_iff`: the check succeeds exactly for the block that is pinned.
- `check_error`: the check of a block that was read fails only with a mismatch.
-/

namespace LedgerNet.Chain.Genesis

open Ledger
open Outcome

variable {d : DigestSuite} {network : String} {B : Block} {hash root : Value}

/-! ## Pinned texts -/

/-- The hash is pinned as text, and the merkle root as text or not at all. -/
structure PinnedAsText (hash root : Value) : Prop where
  hash : ∃ s, hash = .text s
  root : root = .nothing ∨ ∃ s, root = .text s

theorem pins_text_iff {s : String} {x : Octets} : Pins (.text s) x ↔ s = x.toDisplay := by
  simp [Pins]

theorem pinned_text (s t : String) : pinned s (.text t) = .ok (s == t) := rfl

/-- The block is the one that is pinned: it has one transaction, a coinbase; its header commits to
it; and its merkle root, unless that is not pinned, and its hash are shown as the pinned texts. -/
structure Matches (d : DigestSuite) (B : Block) (hash root : Value) : Prop where
  transaction : ∃ tx, B.transactions = [tx] ∧ tx.isCoinbase ∧ tx.hash d = .ok B.header.merkleRoot
  root : root = .nothing ∨ root = .text B.header.merkleRoot.toDisplay
  hash : ∃ id, B.hash d = .ok id ∧ hash = .text id.toDisplay

/-- A check against texts succeeds exactly for the block that is pinned. -/
theorem check_succeeds_iff (h : PinnedAsText hash root) :
    (∃ s, check d network B hash root = .ok s) ↔ Matches d B hash root := by
  obtain ⟨⟨t, rfl⟩, hroot⟩ := h
  simp only [check_eq_ok_iff, pins_text_iff]
  constructor
  -- What the header commits to is the digest of the coinbase, so that is what is pinned.
  · rintro ⟨-, header, coinbase, ⟨⟨tx, htx, hcoinbase, hc⟩, hcommit, hheader⟩, hpin, rfl, rfl⟩
    refine ⟨⟨tx, htx, hcoinbase, ?_⟩, ?_, d.identity header, ?_, rfl⟩
    · exact map_eq_ok_iff.mpr ⟨coinbase, hc, hcommit.symm⟩
    · rw [hcommit]
      rcases hroot with rfl | ⟨r, rfl⟩
      · exact .inl rfl
      · exact .inr (congrArg Value.text (pins_text_iff.mp (hpin.resolve_left nofun)))
    · exact map_eq_ok_iff.mpr ⟨header, hheader, rfl⟩
  · rintro ⟨⟨tx, htx, hcoinbase, htxHash⟩, hpin, id, hid, ht⟩
    obtain ⟨coinbase, hc, hcommit⟩ := map_eq_ok_iff.mp htxHash
    obtain ⟨header, hheader, rfl⟩ := map_eq_ok_iff.mp hid
    injection ht with ht
    refine ⟨_, header, coinbase, ⟨⟨tx, htx, hcoinbase, hc⟩, hcommit.symm, hheader⟩, ?_, ht, rfl⟩
    rcases hpin with rfl | rfl
    · exact .inl rfl
    · exact .inr (pins_text_iff.mpr (by rw [hcommit]))

/-! ## Mismatches -/

/-- The error is a mismatch that has a text. -/
def IsTold (e : CheckError) : Prop :=
  ∃ m text, e = .mismatch m ∧ m.message? = some text

theorem coinbaseRoot_error (hB : B.InWireRange) {e : CheckError}
    (h : coinbaseRoot d network B = .error e) : IsTold e := by
  unfold coinbaseRoot at h
  split at h
  · rename_i tx htx
    rcases refuse_eq_error_iff.mp h with ⟨-, rfl⟩ | ⟨-, hroot⟩
    · exact ⟨_, _, rfl, rfl⟩
    · -- The transaction was read, so it has bytes to digest.
      obtain ⟨c, hc⟩ := (hB.transactions tx (htx ▸ List.mem_singleton_self tx)).exists_encode
      rw [(transactionRoot_singleton_eq_ok_iff htx).mpr ⟨c, hc, rfl⟩] at hroot
      cases hroot
  · cases h
    exact ⟨_, _, rfl, rfl⟩

theorem checkRoot_error (hB : B.InWireRange) (hroot : root = .nothing ∨ ∃ s, root = .text s)
    {e : CheckError} (h : checkRoot d network B root = .error e) : IsTold e := by
  unfold checkRoot at h
  rcases bind_eq_error_iff.mp h with h | ⟨actual, -, h⟩
  · exact coinbaseRoot_error hB h
  rcases refuse_eq_error_iff.mp h with ⟨-, rfl⟩ | ⟨-, h⟩
  · exact ⟨_, _, rfl, rfl⟩
  -- A root that is not pinned is not compared.
  rcases hroot with rfl | ⟨t, rfl⟩
  · cases h
  · simp only [pinned_text, ok_bind] at h
    split at h
    · cases h
      exact ⟨_, _, rfl, rfl⟩
    · cases h

theorem checkHash_error {actual : Octets} {t : String} {e : CheckError}
    (h : checkHash network actual (.text t) = .error e) : IsTold e := by
  simp only [checkHash, pinned_text, ok_bind] at h
  rcases refuse_eq_error_iff.mp h with ⟨-, rfl⟩ | ⟨-, h⟩
  · exact ⟨_, _, rfl, rfl⟩
  · cases h

/-- The check of a block that was read fails only with a mismatch that has a text. -/
theorem check_error (hB : B.InWireRange) (hpins : PinnedAsText hash root) {e : CheckError}
    (h : check d network B hash root = .error e) : IsTold e := by
  obtain ⟨⟨t, rfl⟩, hroot⟩ := hpins
  unfold check at h
  rcases bind_eq_error_iff.mp h with h | ⟨-, -, h⟩
  · exact checkRoot_error hB hroot h
  rcases bind_eq_error_iff.mp h with h | ⟨actual, -, h⟩
  · -- The header was read, so it has bytes to digest.
    obtain ⟨header, hheader⟩ := hB.header.exists_encode
    have hactual : B.hash d = .ok (d.identity header) := map_eq_ok_iff.mpr ⟨header, hheader, rfl⟩
    rw [hactual] at h
    cases h
  · exact checkHash_error h

end LedgerNet.Chain.Genesis
