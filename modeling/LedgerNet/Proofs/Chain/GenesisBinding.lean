import LedgerNet.Proofs.Chain.GenesisCheck

/-!
# What a pinned genesis hash commits to

The hash that is pinned for a network is that of a header, and reaches the transaction of the block
through the merkle root in the header. It does not reach the signature. Two blocks that pass the
check for one pinned hash are the same but for their signatures, or they show two headers or two
transactions that have one digest.

## Main statements

- `sameButSignature_of_commits`: blocks that commit to the same header and transaction.
- `genesisHash_binds_block`: blocks that pass the check for one pinned hash.
-/

namespace LedgerNet.Ledger

open Outcome (map_eq_ok_iff)

/-! ## Serialized forms -/

/-- The merkle root of a header stands behind the version and the hash of the block before. -/
theorem Header.merkleRoot_of_encode {h : Header} {c : Octets} (hc : h.encode = .ok c)
    (hroot : h.merkleRoot.length = hashSize) : (c.drop 36).take hashSize = h.merkleRoot := by
  obtain ⟨c₁, hc₁, c₂, hc₂, c₃, hc₃, c₄, -, c₅, -, c₆, -, rfl⟩ := Header.encode_eq_ok_iff.mp hc
  rw [Octets.pad_of_length_eq hroot] at hc₃
  injection hc₃ with hc₃
  have hfront : (c₁ ++ c₂).length = 36 := by
    rw [List.length_append, Octets.length_of_fieldLE hc₁, Octets.length_of_pad hc₂, hashSize]
  rw [← List.append_assoc, List.drop_left' hfront, List.take_left' (hc₃ ▸ hroot), hc₃]

/-- A block with one transaction is its header, the count, the transaction and the signature. -/
theorem Block.encode_of_singleton {b : Block} {tx : Tx} {header t : Octets}
    (htxs : b.transactions = [tx]) (hheader : b.header.encode = .ok header)
    (ht : tx.encode = .ok t) :
    b.encode = (fun signature => header ++ 1 :: t ++ signature) <$> VarBytes.write b.signature := by
  have hcount : VarInt.write (1 : Nat) = .ok [1] := by decide
  have htransactions : encodeAll Tx.encode [tx] = .ok t := by
    simp only [encodeAll, ht]
    exact congrArg Except.ok (List.append_nil t)
  rw [Block.encode, htxs, hheader, List.length_singleton, hcount, htransactions]
  cases VarBytes.write b.signature with
  | error e => rfl
  | ok signature => exact congrArg Except.ok (by simp)

end LedgerNet.Ledger

namespace LedgerNet.Chain.Genesis

open Ledger

/-- The serialized forms differ at most in the signatures behind them; where a signature has no
form the block has none. -/
def SameButSignature (A B : Block) : Prop :=
  ∃ body : Octets, A.encode = (body ++ ·) <$> VarBytes.write A.signature ∧
    B.encode = (body ++ ·) <$> VarBytes.write B.signature

/-- The digest of the transaction is read off the serialized header. -/
theorem Commits.root_of_header {d : DigestSuite} {b : Block} {header coinbase : Octets}
    (h : Commits d b header coinbase) : (header.drop 36).take hashSize = d.content coinbase := by
  rw [← h.root]
  exact Header.merkleRoot_of_encode h.header (h.root ▸ d.content_length coinbase)

/-- A block commits to one header and one transaction. -/
theorem Commits.unique {d : DigestSuite} {b : Block} {header header' coinbase coinbase' : Octets}
    (h : Commits d b header coinbase) (h' : Commits d b header' coinbase') :
    header = header' ∧ coinbase = coinbase' :=
  ⟨Except.ok.inj (h.header.symm.trans h'.header), h.transaction.unique h'.transaction⟩

theorem sameButSignature_of_commits {d : DigestSuite} {A B : Block} {header coinbase : Octets}
    (hA : Commits d A header coinbase) (hB : Commits d B header coinbase) :
    SameButSignature A B := by
  obtain ⟨x, hx, -, hxc⟩ := hA.transaction
  obtain ⟨y, hy, -, hyc⟩ := hB.transaction
  exact ⟨header ++ 1 :: coinbase, Block.encode_of_singleton hx hA.header hxc,
    Block.encode_of_singleton hy hB.header hyc⟩

/-! ## Binding -/

/-- **A pinned genesis hash binds the block up to its signature.** Two blocks that pass the check
for one pinned hash, whatever merkle roots are pinned for them, have the same serialized header and
the same serialized transaction, and then differ at most in their signatures; or they have two
different headers of 80 bytes with one identity; or one header and two different transactions with
one digest. -/
theorem genesisHash_binds_block {d : DigestSuite} {network₁ network₂ : String} {B₁ B₂ : Block}
    {hash root₁ root₂ : Value} {s₁ s₂ : String} (h₁ : check d network₁ B₁ hash root₁ = .ok s₁)
    (h₂ : check d network₂ B₂ hash root₂ = .ok s₂) :
    ∃ header₁ coinbase₁ header₂ coinbase₂,
      Commits d B₁ header₁ coinbase₁ ∧ Commits d B₂ header₂ coinbase₂ ∧
      (header₁ = header₂ ∧ coinbase₁ = coinbase₂ ∧ SameButSignature B₁ B₂ ∨
        header₁ ≠ header₂ ∧ header₁.length = 80 ∧ header₂.length = 80 ∧
          d.identity header₁ = d.identity header₂ ∨
        header₁ = header₂ ∧ coinbase₁ ≠ coinbase₂ ∧ d.content coinbase₁ = d.content coinbase₂) := by
  obtain ⟨header₁, coinbase₁, hB₁, -, hpin₁, -⟩ := check_eq_ok_iff.mp h₁
  obtain ⟨header₂, coinbase₂, hB₂, -, hpin₂, -⟩ := check_eq_ok_iff.mp h₂
  refine ⟨header₁, coinbase₁, header₂, coinbase₂, hB₁, hB₂, ?_⟩
  by_cases hheader : header₁ = header₂
  · -- One header holds one merkle root, which is the digest of both transactions.
    subst hheader
    have hcontent : d.content coinbase₁ = d.content coinbase₂ := by
      rw [← hB₁.root_of_header, hB₂.root_of_header]
    by_cases hcoinbase : coinbase₁ = coinbase₂
    · subst hcoinbase
      exact .inl ⟨rfl, rfl, sameButSignature_of_commits hB₁ hB₂⟩
    · exact .inr (.inr ⟨rfl, hcoinbase, hcontent⟩)
  · -- A pinned value shows one hash only, so the headers have it in common.
    have hidentity : d.identity header₁ = d.identity header₂ := hpin₁.unique hpin₂
    exact .inr (.inl ⟨hheader, Header.length_of_encode hB₁.header,
      Header.length_of_encode hB₂.header, hidentity⟩)

/-- A block and the same block with a signature pass the check for one hash on the networks' own
digests, with and without a pinned merkle root. -/
theorem genesisHash_binds_block_signed :
    let d := DigestSuite.standard
    let tx : Tx := { inputs := [{ previous := ⟨zeroHash, maxIndex⟩ }], outputs := [{}] }
    ∃ coinbase header, tx.encode = .ok coinbase ∧
      let root := d.content coinbase
      let block : Octets → Block := fun signature =>
        { header := { merkleRoot := root, bits := 0x207fffff }, transactions := [tx], signature }
      let hash := Value.text (d.identity header).toDisplay
      (∃ s, check d "main" (block []) hash .nothing = .ok s) ∧
        (∃ s, check d "test" (block [7]) hash (.text root.toDisplay) = .ok s) ∧
        SameButSignature (block []) (block [7]) := by
  intro d tx
  obtain ⟨coinbase, hcoinbase⟩ := Tx.InWireRange.exists_encode (t := tx) (by decide +kernel)
  let block : Octets → Block := fun signature =>
    { header := { merkleRoot := d.content coinbase, bits := 0x207fffff }
      transactions := [tx], signature }
  have hrange : (block []).header.InWireRange :=
    ⟨(by decide : Octets.Fits 4 1), rfl, d.content_length coinbase, (by decide : Octets.Fits 4 0),
      (by decide : Octets.Fits 4 0x207fffff), (by decide : Octets.Fits 4 0)⟩
  obtain ⟨header, hheader⟩ := hrange.exists_encode
  have hcommits : ∀ signature, Commits d (block signature) header coinbase := fun signature =>
    ⟨⟨tx, rfl, by decide, hcoinbase⟩, rfl, hheader⟩
  let shown := (d.identity header).toDisplay
  have h₁ : check d "main" (block []) (.text shown) .nothing = .ok shown :=
    check_eq_ok_iff.mpr ⟨header, coinbase, hcommits [], .inl rfl, .inl rfl, rfl⟩
  have h₂ : check d "test" (block [7]) (.text shown) (.text (d.content coinbase).toDisplay) =
      .ok shown :=
    check_eq_ok_iff.mpr ⟨header, coinbase, hcommits [7], .inr (.inl rfl), .inl rfl, rfl⟩
  refine ⟨coinbase, header, hcoinbase, ⟨_, h₁⟩, ⟨_, h₂⟩, ?_⟩
  obtain ⟨header₁, coinbase₁, header₂, coinbase₂, hB₁, hB₂, hcases⟩ :=
    genesisHash_binds_block h₁ h₂
  obtain ⟨rfl, rfl⟩ := hB₁.unique (hcommits [])
  obtain ⟨rfl, rfl⟩ := hB₂.unique (hcommits [7])
  rcases hcases with ⟨-, -, hsame⟩ | ⟨hne, -⟩ | ⟨-, hne, -⟩
  · exact hsame
  · exact absurd rfl hne
  · exact absurd rfl hne

end LedgerNet.Chain.Genesis
