import LedgerNet.Chain.Genesis
import LedgerNet.Proofs.Ledger.BlockFormat
import LedgerNet.Proofs.Octets.Display

/-!
# When the check of a genesis block succeeds

## Main statements

- `pinned_eq_ok_iff`: the only pinned values that match a hash are its display text and the byte
  string that the text stands for.
- `check_eq_ok_iff`: a check succeeds exactly for a block whose header commits to its one coinbase
  transaction and whose hashes are the pinned ones.
-/

namespace LedgerNet.Chain.Genesis

open Ledger
open Outcome (bind_eq_ok_iff map_eq_ok_iff mapError_eq_ok_iff pure_eq_ok_iff refuse_eq_ok_iff)

/-! ## Pinned values -/

/-- The value pins the hash: it is the text that displays the hash, or the bytes of that text. -/
def Pins (wanted : Value) (hash : Octets) : Prop :=
  wanted = .text hash.toDisplay ∨ wanted = .octets hash.reverse

/-- A value pins at most one hash. -/
theorem Pins.unique {wanted : Value} {x y : Octets} (hx : Pins wanted x) (hy : Pins wanted y) :
    x = y := by
  rcases hx with rfl | rfl <;> rcases hy with hy | hy
  · injection hy with hy
    exact Octets.toDisplay_injective hy
  · cases hy
  · cases hy
  · injection hy with hy
    exact List.reverse_inj.mp hy

/-- Text equals the same text and the byte string it stands for, and nothing else. -/
theorem equal_text_eq_ok_iff {s : String} {w : Value} :
    (Value.text s).equal w = .ok true ↔
      w = .text s ∨ ∃ b, w = .octets b ∧ Octets.ofHex? s = some b := by
  cases w with
  | text t =>
    simp only [Value.equal, Except.ok.injEq, beq_iff_eq, Value.text.injEq, reduceCtorEq, false_and,
      exists_false, or_false]
    exact eq_comm
  | octets b =>
    simp only [Value.equal, Value.standsFor, Value.toOctets]
    cases Octets.ofHex? s <;> simp
  | _ => simp [Value.equal, Value.equalNumbers?, Value.int?]

/-- The values that match a hash are those that pin it. -/
theorem pinned_eq_ok_iff {hash : Octets} {wanted : Value} :
    pinned hash.toDisplay wanted = .ok true ↔ Pins wanted hash := by
  rw [pinned, mapError_eq_ok_iff, equal_text_eq_ok_iff, Octets.ofHex?_toDisplay, Pins]
  simp [eq_comm]

/-! ## Commitment -/

/-- The block holds one transaction, a coinbase, with the serialized form `c`. -/
def HoldsCoinbase (b : Block) (c : Octets) : Prop :=
  ∃ tx, b.transactions = [tx] ∧ tx.isCoinbase ∧ tx.encode = .ok c

theorem HoldsCoinbase.unique {b : Block} {c c' : Octets} (h : HoldsCoinbase b c)
    (h' : HoldsCoinbase b c') : c = c' := by
  obtain ⟨tx, htx, -, hc⟩ := h
  obtain ⟨tx', htx', -, hc'⟩ := h'
  obtain rfl : tx = tx' := by simpa [htx] using htx'
  exact Except.ok.inj (hc.symm.trans hc')

/-- The merkle root of one transaction is the digest of its serialized form. -/
theorem transactionRoot_singleton_eq_ok_iff {d : DigestSuite} {b : Block} {tx : Tx}
    {root : Octets} (h : b.transactions = [tx]) :
    b.transactionRoot d = .ok root ↔ ∃ c, tx.encode = .ok c ∧ d.content c = root := by
  simp only [Block.transactionRoot, h, Tx.hash, List.mapM_cons, List.mapM_nil, map_eq_ok_iff,
    bind_eq_ok_iff, pure_eq_ok_iff]
  constructor
  · rintro ⟨-, ⟨-, ⟨c, hc, rfl⟩, -, rfl, rfl⟩, rfl⟩
    exact ⟨c, hc, by rw [Merkle.root]⟩
  · rintro ⟨c, hc, rfl⟩
    exact ⟨[d.content c], ⟨_, ⟨c, hc, rfl⟩, _, rfl, rfl⟩, by rw [Merkle.root]⟩

theorem coinbaseRoot_eq_ok_iff {d : DigestSuite} {network : String} {b : Block}
    {root : Octets} :
    coinbaseRoot d network b = .ok root ↔ ∃ c, HoldsCoinbase b c ∧ d.content c = root := by
  unfold coinbaseRoot
  split
  · rename_i tx htx
    simp only [refuse_eq_ok_iff, mapError_eq_ok_iff, transactionRoot_singleton_eq_ok_iff htx]
    constructor
    · rintro ⟨hcoinbase, c, hc, rfl⟩
      exact ⟨c, ⟨tx, htx, by simpa using hcoinbase, hc⟩, rfl⟩
    · rintro ⟨c, ⟨tx', htx', hcoinbase, hc⟩, rfl⟩
      obtain rfl : tx = tx' := by simpa [htx] using htx'
      exact ⟨by simp [hcoinbase], c, hc, rfl⟩
  · rename_i hmany
    constructor
    · intro h
      cases h
    · rintro ⟨c, ⟨tx, htx, -⟩, -⟩
      exact absurd htx (hmany tx)

theorem checkRoot_eq_ok_iff {d : DigestSuite} {network : String} {b : Block} {root : Value}
    {u : Unit} :
    checkRoot d network b root = .ok u ↔
      ∃ c, HoldsCoinbase b c ∧ b.header.merkleRoot = d.content c ∧
        (root = .nothing ∨ Pins root (d.content c)) := by
  simp only [checkRoot, bind_eq_ok_iff, refuse_eq_ok_iff, coinbaseRoot_eq_ok_iff, not_not]
  -- Comparing with a pinned root is one step for every root but `nothing`.
  have hcompare : ∀ actual : Octets, (do
      let same ← pinned actual.toDisplay root
      if !same then throw (CheckError.mismatch (.merkleRoot network root actual))) = .ok () ↔
        Pins root actual := by
    intro actual
    rw [← pinned_eq_ok_iff, bind_eq_ok_iff]
    constructor
    · rintro ⟨_ | _, hsame, hrefused⟩
      · cases hrefused
      · exact hsame
    · intro hsame
      exact ⟨true, hsame, rfl⟩
  constructor
  · rintro ⟨-, ⟨c, hc, rfl⟩, hroot, hpinned⟩
    refine ⟨c, hc, hroot, ?_⟩
    split at hpinned
    · exact .inl rfl
    · exact .inr ((hcompare _).mp hpinned)
  · rintro ⟨c, hc, hroot, hpinned⟩
    refine ⟨d.content c, ⟨c, hc, rfl⟩, hroot, ?_⟩
    split
    · rfl
    · rename_i hsome
      exact (hcompare _).mpr (hpinned.resolve_left hsome)

theorem checkHash_eq_ok_iff {network : String} {actual : Octets} {wanted : Value} {s : String} :
    checkHash network actual wanted = .ok s ↔ Pins wanted actual ∧ actual.toDisplay = s := by
  simp only [checkHash, bind_eq_ok_iff, refuse_eq_ok_iff, pure_eq_ok_iff, ← pinned_eq_ok_iff]
  constructor
  · rintro ⟨same, hsame, hrefused, rfl⟩
    obtain rfl : same = true := by simpa using hrefused
    exact ⟨hsame, rfl⟩
  · rintro ⟨hsame, rfl⟩
    exact ⟨true, hsame, by decide, rfl⟩

/-! ## The check -/

/-- A block whose header commits to its one coinbase transaction; `header` and `coinbase` are the
serialized forms of the two. -/
structure Commits (d : DigestSuite) (b : Block) (header coinbase : Octets) : Prop where
  transaction : HoldsCoinbase b coinbase
  root : b.header.merkleRoot = d.content coinbase
  header : b.header.encode = .ok header

/-- A check succeeds exactly for a block that commits to its coinbase transaction and has the pinned
hashes, and returns the hash of the block as it is displayed. -/
theorem check_eq_ok_iff {d : DigestSuite} {network : String} {b : Block} {hash root : Value}
    {s : String} :
    check d network b hash root = .ok s ↔
      ∃ header coinbase, Commits d b header coinbase ∧
        (root = .nothing ∨ Pins root (d.content coinbase)) ∧
        Pins hash (d.identity header) ∧ (d.identity header).toDisplay = s := by
  simp only [check, bind_eq_ok_iff, checkRoot_eq_ok_iff, mapError_eq_ok_iff, Block.hash,
    Header.hash, map_eq_ok_iff, checkHash_eq_ok_iff]
  constructor
  · rintro ⟨-, ⟨coinbase, htx, hroot, hrootPin⟩, -, ⟨header, hheader, rfl⟩, hpin, hs⟩
    exact ⟨header, coinbase, ⟨htx, hroot, hheader⟩, hrootPin, hpin, hs⟩
  · rintro ⟨header, coinbase, ⟨htx, hroot, hheader⟩, hrootPin, hpin, hs⟩
    exact ⟨(), ⟨coinbase, htx, hroot, hrootPin⟩, _, ⟨header, hheader, rfl⟩, hpin, hs⟩

end LedgerNet.Chain.Genesis
