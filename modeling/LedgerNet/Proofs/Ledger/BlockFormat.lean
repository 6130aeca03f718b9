import LedgerNet.Ledger.Block
import LedgerNet.Proofs.Ledger.TransactionFormat

/-!
# The block format

A block is read from a whole byte string exactly where the string is its serialized form, so every
byte string holds at most one block and every block is held by at most one byte string.

## Main statements

- `exact_header`, `exact_block`: reading a header and a block is exact for writing them.
- `selfDelimiting_block`: no serialized block continues another, in wire range or not.
- `blockFormat_exact`: both directions for whole byte strings, and what becomes of a serialized
  block that is cut or continued.
-/

namespace LedgerNet.Ledger

open Octets (Fits fieldLE pad)
open Outcome (bind_eq_ok_iff pure_eq_ok_iff)

/-! ## Wire range -/

/-- A header that can be read from the wire. -/
structure Header.InWireRange (h : Header) : Prop where
  version : Fits 4 h.version
  prevBlock : h.prevBlock.length = hashSize
  merkleRoot : h.merkleRoot.length = hashSize
  timestamp : Fits 4 h.timestamp
  bits : Fits 4 h.bits
  nonce : Fits 4 h.nonce

/-- A block that can be read from the wire. -/
structure Block.InWireRange (b : Block) : Prop where
  header : b.header.InWireRange
  transactions : ∀ t ∈ b.transactions, t.InWireRange
  signature : b.signature.length ≤ maxSignatureSize

instance (h : Header) : Decidable h.InWireRange :=
  decidable_of_iff (Fits 4 h.version ∧ h.prevBlock.length = hashSize ∧
      h.merkleRoot.length = hashSize ∧ Fits 4 h.timestamp ∧ Fits 4 h.bits ∧ Fits 4 h.nonce)
    ⟨fun ⟨version, prevBlock, merkleRoot, timestamp, bits, nonce⟩ =>
        ⟨version, prevBlock, merkleRoot, timestamp, bits, nonce⟩,
      fun r => ⟨r.version, r.prevBlock, r.merkleRoot, r.timestamp, r.bits, r.nonce⟩⟩

instance (b : Block) : Decidable b.InWireRange :=
  decidable_of_iff (b.header.InWireRange ∧ (∀ t ∈ b.transactions, t.InWireRange) ∧
      b.signature.length ≤ maxSignatureSize)
    ⟨fun ⟨header, transactions, signature⟩ => ⟨header, transactions, signature⟩,
      fun r => ⟨r.header, r.transactions, r.signature⟩⟩

/-! ## Headers -/

/-- The bytes of a header are those of its fields, in order. -/
theorem Header.encode_eq_ok_iff {h : Header} {c : Octets} :
    h.encode = .ok c ↔
      ∃ version, fieldLE 4 h.version = .ok version ∧
      ∃ prevBlock, pad hashSize h.prevBlock = .ok prevBlock ∧
      ∃ merkleRoot, pad hashSize h.merkleRoot = .ok merkleRoot ∧
      ∃ timestamp, fieldLE 4 h.timestamp = .ok timestamp ∧
      ∃ bits, fieldLE 4 h.bits = .ok bits ∧
      ∃ nonce, fieldLE 4 h.nonce = .ok nonce ∧
        version ++ (prevBlock ++ (merkleRoot ++ (timestamp ++ (bits ++ nonce)))) = c := by
  simp only [Header.encode, bind_eq_ok_iff, pure_eq_ok_iff, List.append_assoc]

/-- A serialized header has the size of a header. -/
theorem Header.length_of_encode {h : Header} {c : Octets} (hc : h.encode = .ok c) :
    c.length = headerSize := by
  obtain ⟨c₁, hc₁, c₂, hc₂, c₃, hc₃, c₄, hc₄, c₅, hc₅, c₆, hc₆, rfl⟩ :=
    Header.encode_eq_ok_iff.mp hc
  simp only [List.length_append, Octets.length_of_fieldLE hc₁, Octets.length_of_pad hc₂,
    Octets.length_of_pad hc₃, Octets.length_of_fieldLE hc₄, Octets.length_of_fieldLE hc₅,
    Octets.length_of_fieldLE hc₆]
  rfl

theorem selfDelimiting_header : SelfDelimiting Header.encode :=
  selfDelimiting_of_length fun _ _ h => Header.length_of_encode h

theorem Header.available_eq_ok_iff {b rest : Octets} {u : Unit} :
    available b = .ok u rest ↔ headerSize ≤ b.length ∧ b = rest := by
  unfold available
  split
  · simp only [reduceCtorEq, false_iff, not_and]
    omega
  · simp only [EStateM.Result.ok.injEq, true_and, iff_and_self]
    omega

/-- Headers are read exactly. -/
theorem exact_header : Exact Header.decode Header.InWireRange Header.encode := by
  intro b h rest
  simp only [Header.decode, Reader.bind_eq_ok_iff, Reader.pure_eq_ok_iff,
    Header.available_eq_ok_iff]
  constructor
  · rintro ⟨_, _, ⟨-, rfl⟩, version, b₁, hversion, prevBlock, b₂, hprevBlock, merkleRoot, b₃,
      hmerkleRoot, timestamp, b₄, htimestamp, bits, b₅, hbits, nonce, b₆, hnonce, rfl, rfl⟩
    obtain ⟨c₁, hc₁, rfl⟩ := Reader.number_eq_ok_iff.mp hversion
    obtain ⟨hprev, c₂, hc₂, rfl⟩ := (exact_take _ _ _ _).mp hprevBlock
    obtain ⟨hroot, c₃, hc₃, rfl⟩ := (exact_take _ _ _ _).mp hmerkleRoot
    obtain ⟨c₄, hc₄, rfl⟩ := Reader.number_eq_ok_iff.mp htimestamp
    obtain ⟨c₅, hc₅, rfl⟩ := Reader.number_eq_ok_iff.mp hbits
    obtain ⟨c₆, hc₆, rfl⟩ := Reader.number_eq_ok_iff.mp hnonce
    refine ⟨⟨Octets.fits_of_fieldLE hc₁, hprev, hroot, Octets.fits_of_fieldLE hc₄,
      Octets.fits_of_fieldLE hc₅, Octets.fits_of_fieldLE hc₆⟩,
      c₁ ++ (c₂ ++ (c₃ ++ (c₄ ++ (c₅ ++ c₆)))), ?_, by simp only [List.append_assoc]⟩
    exact Header.encode_eq_ok_iff.mpr
      ⟨c₁, hc₁, c₂, hc₂, c₃, hc₃, c₄, hc₄, c₅, hc₅, c₆, hc₆, rfl⟩
  · rintro ⟨hrange, c, hc, rfl⟩
    have hsize : headerSize ≤ (c ++ rest).length := by
      rw [List.length_append, Header.length_of_encode hc]
      exact Nat.le_add_right _ _
    obtain ⟨c₁, hc₁, c₂, hc₂, c₃, hc₃, c₄, hc₄, c₅, hc₅, c₆, hc₆, rfl⟩ :=
      Header.encode_eq_ok_iff.mp hc
    obtain ⟨version, prevBlock, merkleRoot, timestamp, bits, nonce⟩ := h
    obtain ⟨version, rfl, hversion⟩ := Reader.exists_number_of_fieldLE hc₁
    obtain ⟨timestamp, rfl, htimestamp⟩ := Reader.exists_number_of_fieldLE hc₄
    obtain ⟨bits, rfl, hbits⟩ := Reader.exists_number_of_fieldLE hc₅
    obtain ⟨nonce, rfl, hnonce⟩ := Reader.exists_number_of_fieldLE hc₆
    simp only [List.append_assoc] at hsize ⊢
    exact ⟨(), _, ⟨hsize, rfl⟩, version, _, hversion _,
      prevBlock, _, (exact_take _).read_write hrange.prevBlock hc₂ _,
      merkleRoot, _, (exact_take _).read_write hrange.merkleRoot hc₃ _,
      timestamp, _, htimestamp _, bits, _, hbits _, nonce, _, hnonce _, rfl, rfl⟩

/-- Headers in wire range can be written. -/
theorem Header.InWireRange.exists_encode {h : Header} (r : h.InWireRange) :
    ∃ c, h.encode = .ok c := by
  obtain ⟨c₁, hc₁⟩ := Octets.exists_fieldLE r.version
  obtain ⟨c₄, hc₄⟩ := Octets.exists_fieldLE r.timestamp
  obtain ⟨c₅, hc₅⟩ := Octets.exists_fieldLE r.bits
  obtain ⟨c₆, hc₆⟩ := Octets.exists_fieldLE r.nonce
  exact ⟨_, Header.encode_eq_ok_iff.mpr
    ⟨c₁, hc₁, _, Octets.pad_of_length_eq r.prevBlock, _, Octets.pad_of_length_eq r.merkleRoot,
      c₄, hc₄, c₅, hc₅, c₆, hc₆, rfl⟩⟩

/-! ## Blocks -/

/-- The bytes of a block are those of its header, its counted transactions and its signature. -/
theorem Block.encode_eq_ok_iff {b : Block} {c : Octets} :
    b.encode = .ok c ↔
      ∃ header, b.header.encode = .ok header ∧
      ∃ count, VarInt.write b.transactions.length = .ok count ∧
      ∃ transactions, encodeAll Tx.encode b.transactions = .ok transactions ∧
      ∃ signature, VarBytes.write b.signature = .ok signature ∧
        header ++ (count ++ (transactions ++ signature)) = c := by
  simp only [Block.encode, bind_eq_ok_iff, pure_eq_ok_iff, List.append_assoc]

/-- Blocks are read exactly. -/
theorem exact_block : Exact Block.decode Block.InWireRange Block.encode := by
  intro b B rest
  simp only [Block.decode, Reader.bind_eq_ok_iff, Reader.pure_eq_ok_iff]
  constructor
  · rintro ⟨header, b₁, hheader, n, b₂, hn, transactions, b₃, htransactions, signature, b₄,
      hsignature, rfl, rfl⟩
    obtain ⟨hhead, c₁, hc₁, rfl⟩ := (exact_header _ _ _).mp hheader
    obtain ⟨-, c₂, hc₂, rfl⟩ := (exact_varInt _ _ _).mp hn
    obtain ⟨⟨rfl, htxs⟩, c₃, hc₃, rfl⟩ := (exact_tx.times _ _ _ _).mp htransactions
    obtain ⟨hle, c₄, hc₄, rfl⟩ := (exact_varBytes _ _ _ _ _).mp hsignature
    refine ⟨⟨hhead, htxs, Int.ofNat_le.mp hle⟩, c₁ ++ (c₂ ++ (c₃ ++ c₄)), ?_,
      by simp only [List.append_assoc]⟩
    exact Block.encode_eq_ok_iff.mpr ⟨c₁, hc₁, c₂, hc₂, c₃, hc₃, c₄, hc₄, rfl⟩
  · rintro ⟨hrange, c, hc, rfl⟩
    obtain ⟨c₁, hc₁, c₂, hc₂, c₃, hc₃, c₄, hc₄, rfl⟩ := Block.encode_eq_ok_iff.mp hc
    simp only [List.append_assoc]
    exact ⟨B.header, _, exact_header.read_write hrange.header hc₁ _,
      B.transactions.length, _, exact_varInt.read_write trivial hc₂ _,
      B.transactions, _, (exact_tx.times _).read_write ⟨rfl, hrange.transactions⟩ hc₃ _,
      B.signature, _, (exact_varBytes _ _).read_write (Int.ofNat_le.mpr hrange.signature) hc₄ _,
      rfl, rfl⟩

/-- Blocks in wire range can be written. -/
theorem Block.InWireRange.exists_encode {b : Block} (r : b.InWireRange)
    (hcount : b.transactions.length < 2 ^ 64) : ∃ c, b.encode = .ok c := by
  obtain ⟨c₁, hc₁⟩ := r.header.exists_encode
  obtain ⟨c₂, hc₂⟩ := exists_varInt_write hcount
  obtain ⟨c₃, hc₃⟩ := exists_encodeAll fun t ht => (r.transactions t ht).exists_encode
  obtain ⟨c₄, hc₄⟩ := exists_varBytes_write (Nat.lt_of_le_of_lt r.signature (by decide))
  exact ⟨_, Block.encode_eq_ok_iff.mpr ⟨c₁, hc₁, c₂, hc₂, c₃, hc₃, c₄, hc₄, rfl⟩⟩

/-- Serialized blocks delimit themselves, whether or not they are in wire range. -/
theorem selfDelimiting_block : SelfDelimiting Block.encode := by
  intro x y c e r s hc he heq
  obtain ⟨c₁, hc₁, c₂, hc₂, c₃, hc₃, c₄, hc₄, rfl⟩ := Block.encode_eq_ok_iff.mp hc
  obtain ⟨e₁, he₁, e₂, he₂, e₃, he₃, e₄, he₄, rfl⟩ := Block.encode_eq_ok_iff.mp he
  simp only [List.append_assoc] at heq
  obtain ⟨rfl, h₂⟩ := selfDelimiting_header hc₁ he₁ heq
  obtain ⟨hcount, rfl, h₃⟩ := varInt_unique hc₂ he₂ h₂
  obtain ⟨rfl, h₄⟩ := selfDelimiting_encodeAll selfDelimiting_tx hcount hc₃ he₃ h₃
  obtain ⟨rfl, hrs⟩ := selfDelimiting_varBytes hc₄ he₄ h₄
  exact ⟨rfl, hrs⟩

/-! ## Whole byte strings -/

/-- A byte string holds the block that is read from it if nothing is left. -/
theorem Block.ofOctets_eq_ok_iff_decode {b : Octets} {B : Block} :
    Block.ofOctets b = .ok B ↔ Block.decode b = .ok B [] := by
  unfold Block.ofOctets
  split <;> simp_all

/-- A byte string holds a block exactly if it is the serialized form of a block in wire range. -/
theorem Block.ofOctets_eq_ok_iff {b : Octets} {B : Block} :
    Block.ofOctets b = .ok B ↔ B.InWireRange ∧ B.encode = .ok b := by
  rw [Block.ofOctets_eq_ok_iff_decode, exact_block]
  simp

/-- A byte string that begins a serialized block, or is begun by one, holds no block unless it is
that serialized form itself. -/
theorem Block.ofOctets_eq_error_of_prefix {b c : Octets} {B : Block} (hb : B.encode = .ok b)
    (hne : c ≠ b) (hpre : c <+: b ∨ b <+: c) : ∃ e, Block.ofOctets c = .error e := by
  cases hread : Block.ofOctets c with
  | error e => exact ⟨e, rfl⟩
  | ok C =>
    -- What is read from `c` is written as `c`, and no written form continues another.
    have hc : C.encode = .ok c := (Block.ofOctets_eq_ok_iff.mp hread).2
    rcases hpre with ⟨s, hs⟩ | ⟨s, hs⟩
    · have heq : c ++ s = b ++ [] := by rw [hs, List.append_nil]
      exact absurd (selfDelimiting_block hc hb heq).1 hne
    · have heq : c ++ [] = b ++ s := by rw [hs, List.append_nil]
      exact absurd (selfDelimiting_block hc hb heq).1 hne

/-- **The block format is exact in both directions.** A byte string holds a block exactly where
the block is in wire range and the string is its serialized form; every block in wire range, with
a number of transactions that can be counted, has such a form; no two byte strings hold the same
block; and a serialized block that is cut or continued holds none. -/
theorem blockFormat_exact (B : Block) :
    (∀ b, Block.ofOctets b = .ok B ↔ B.InWireRange ∧ B.encode = .ok b) ∧
    (B.InWireRange → B.transactions.length < 2 ^ 64 → ∃ b, B.encode = .ok b) ∧
    (∀ b c, Block.ofOctets b = .ok B → Block.ofOctets c = .ok B → b = c) ∧
    (∀ b c, B.encode = .ok b → c ≠ b → c <+: b ∨ b <+: c →
      ∃ e, Block.ofOctets c = .error e) := by
  refine ⟨fun b => Block.ofOctets_eq_ok_iff, fun r hcount => r.exists_encode hcount, ?_,
    fun b c hb hne hpre => Block.ofOctets_eq_error_of_prefix hb hne hpre⟩
  intro b c hb hc
  have hencode := (Block.ofOctets_eq_ok_iff.mp hb).2
  rw [(Block.ofOctets_eq_ok_iff.mp hc).2] at hencode
  injection hencode with hbc
  exact hbc.symm

/-- A signed block with one transaction is held by its serialized form, and not by that form with
a byte behind it. -/
theorem blockFormat_exact_signed :
    let B : Block := {
      header := { timestamp := 1465189200, bits := 0x1e0fffff, nonce := 4294967295 }
      transactions := [{ inputs := [{ previous := ⟨zeroHash, maxIndex⟩ }], outputs := [{}] }]
      signature := List.replicate 80 0x30 }
    B.InWireRange ∧
      ∃ b, Block.ofOctets b = .ok B ∧ ∃ e, Block.ofOctets (b ++ [0]) = .error e := by
  intro B
  have hrange : B.InWireRange := by decide +kernel
  obtain ⟨hexact, hwritten, -, hcut⟩ := blockFormat_exact B
  obtain ⟨b, hb⟩ := hwritten hrange (by decide)
  refine ⟨hrange, b, (hexact b).mpr ⟨hrange, hb⟩, ?_⟩
  exact hcut b (b ++ [0]) hb (by simp) (.inr (List.prefix_append b [0]))

end LedgerNet.Ledger
