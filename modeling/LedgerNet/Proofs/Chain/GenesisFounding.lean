import LedgerNet.Chain.Networks
import LedgerNet.Proofs.Chain.NetworkBuilding

/-!
# Genesis blocks that found networks

A plan whose numbers fit their fields, with a script that fits a message, makes a block that is read
back from its bytes and matches its own hash and merkle root. Any network can be given such a block
in place of its own, and keeps all else.

## Main statements

- `exists_founding_of_commits`: what commits to its transaction, and can be read, can found
  networks.
- `exists_build_founding`: what a plan makes can found networks.
- `plan_founds_networks`: what the plan's block does for every network.
-/

namespace LedgerNet.Chain

open Ledger
open Octets (Fits)
open Outcome

/-! ## Blocks that can found a network -/

namespace Genesis

/-- The block is read back from its bytes `c`, and matches its own hash `id` and merkle root
`root`. -/
structure Founding (d : DigestSuite) (B : Block) (c id root : Octets) : Prop where
  encode : B.encode = .ok c
  ofOctets : Block.ofOctets c = .ok B
  hash : B.hash d = .ok id
  transactionRoot : B.transactionRoot d = .ok root
  check : ∀ network,
    check d network B (.text id.toDisplay) (.text root.toDisplay) = .ok id.toDisplay

/-- A block in wire range that commits to its transaction can found a network. -/
theorem exists_founding_of_commits {d : DigestSuite} {B : Block} {header coinbase : Octets}
    (hrange : B.InWireRange) (h : Commits d B header coinbase) :
    ∃ c, Founding d B c (d.identity header) (d.content coinbase) := by
  -- One transaction is few enough for its count to be written.
  obtain ⟨tx, htx, -, htxBytes⟩ := h.transaction
  have hcount : B.transactions.length < 2 ^ 64 := by
    rw [htx, List.length_singleton]
    decide
  obtain ⟨c, hc⟩ := hrange.exists_encode hcount
  exact ⟨c, {
    encode := hc
    ofOctets := Block.ofOctets_eq_ok_iff.mpr ⟨hrange, hc⟩
    hash := map_eq_ok_iff.mpr ⟨header, h.header, rfl⟩
    transactionRoot := (transactionRoot_singleton_eq_ok_iff htx).mpr ⟨coinbase, htxBytes, rfl⟩
    check := fun _ =>
      check_eq_ok_iff.mpr ⟨header, coinbase, h, .inr (.inl rfl), .inl rfl, rfl⟩ }⟩

/-! ## Plans -/

/-- The numbers of the plan fit their fields, and its script fits a message. -/
structure Plan.InRange (plan : Plan) : Prop where
  script : ∃ s, script plan.message = .ok s ∧ s.length ≤ maxPayload
  txTime : Fits 4 plan.txTime
  timestamp : Fits 4 plan.timestamp
  bits : Fits 4 plan.bits
  nonce : Fits 4 plan.nonce
  version : Fits 4 plan.version

instance (message : String) : Decidable (∃ s, script message = .ok s ∧ s.length ≤ maxPayload) :=
  match h : script message with
  | .ok s => decidable_of_iff (s.length ≤ maxPayload) (by simp)
  | .error _ => .isFalse (by simp)

instance (plan : Plan) : Decidable plan.InRange :=
  decidable_of_iff ((∃ s, Genesis.script plan.message = .ok s ∧ s.length ≤ maxPayload) ∧
      Fits 4 plan.txTime ∧ Fits 4 plan.timestamp ∧ Fits 4 plan.bits ∧ Fits 4 plan.nonce ∧
      Fits 4 plan.version)
    ⟨fun ⟨script, txTime, timestamp, bits, nonce, version⟩ =>
        ⟨script, txTime, timestamp, bits, nonce, version⟩,
      fun h => ⟨h.script, h.txTime, h.timestamp, h.bits, h.nonce, h.version⟩⟩

theorem coinbaseOf_isCoinbase (script : Octets) (time : Int) :
    (coinbaseOf script time).isCoinbase = true := by
  have hzero : Octets.isZero zeroHash = true := by decide
  simp only [Tx.isCoinbase, coinbaseOf, Outpoint.isNull, Outpoint.make, hashOrZero, hzero,
    beq_self_eq_true, Bool.and_self]

/-- A coinbase transaction with a time and a script that fit their fields can be read from the
wire. -/
theorem inWireRange_coinbaseOf {script : Octets} {time : Int} (hscript : script.length ≤ maxPayload)
    (htime : Fits 4 time) : (coinbaseOf script time).InWireRange where
  version := (by decide : Fits 4 1)
  time := htime
  inputCount := (by decide : 1 ≤ maxInputs)
  inputs i hi := by
    obtain rfl := List.mem_singleton.mp hi
    exact ⟨rfl, (by decide : Fits 4 maxIndex), hscript, (by decide : Fits 4 maxSequence)⟩
  outputCount := (by decide : 1 ≤ maxOutputs)
  outputs o ho := by
    obtain rfl := List.mem_singleton.mp ho
    exact ⟨(by decide : Fits 8 0), Nat.zero_le _⟩
  lockTime := (by decide : Fits 4 0)

/-- The block of a plan, once its header commits to the transaction, can be read from the wire. -/
theorem Plan.InRange.block {plan : Plan} (h : plan.InRange) {tx : Tx} (htx : tx.InWireRange)
    {root : Octets} (hroot : root.length = hashSize) :
    { draft plan tx with
      header := { (draft plan tx).header with merkleRoot := root } : Block }.InWireRange where
  header := ⟨h.version, rfl, hroot, h.timestamp, h.bits, h.nonce⟩
  transactions t ht := by
    obtain rfl := List.mem_singleton.mp ht
    exact htx
  signature := Nat.zero_le _

theorem exists_build_founding {plan : Plan} (h : plan.InRange) (d : DigestSuite) :
    ∃ B c id root, build d plan = .ok B ∧ Founding d B c id root := by
  obtain ⟨script, hscript, hlength⟩ := h.script
  have htx := inWireRange_coinbaseOf hlength h.txTime
  obtain ⟨coinbase, hcoinbase⟩ := htx.exists_encode
  -- The draft has the root of its transaction, which the header then commits to.
  have hroot : (draft plan (coinbaseOf script plan.txTime)).transactionRoot d =
      .ok (d.content coinbase) :=
    (transactionRoot_singleton_eq_ok_iff rfl).mpr ⟨coinbase, hcoinbase, rfl⟩
  have hrange := h.block htx (d.content_length coinbase)
  obtain ⟨header, hheader⟩ := hrange.header.exists_encode
  have hcommits : Commits d _ header coinbase :=
    ⟨⟨_, rfl, coinbaseOf_isCoinbase script plan.txTime, hcoinbase⟩, rfl, hheader⟩
  obtain ⟨c, hfounding⟩ := exists_founding_of_commits hrange hcommits
  have hmade : Genesis.coinbase plan.message plan.txTime = .ok (coinbaseOf script plan.txTime) :=
    map_eq_ok_iff.mpr ⟨script, hscript, rfl⟩
  refine ⟨_, c, _, _, ?_, hfounding⟩
  rw [build, hmade, ok_bind]
  exact bind_eq_ok_iff.mpr ⟨_, hroot, rfl⟩

end Genesis

/-! ## Networks with another genesis block -/

namespace Network

variable {d : DigestSuite} {room : Nat} {p : Network} {B : Block} {c id root : Octets}

/-- The network with another genesis block. -/
def refounded (p : Network) (c id root : Octets) : Network :=
  { p with
    genesisBytes := c
    genesisHash := .text id.toDisplay
    genesisMerkleRoot := .text root.toDisplay }

/-- A genesis block, as it is given, with its hash and its merkle root. -/
def genesisValues (block : Value) (id root : Octets) : List (String × Value) :=
  [("genesisBlock", block), ("genesisHash", .text id.toDisplay),
    ("genesisMerkleRoot", .text root.toDisplay)]

theorem value_refounded {f : Field} (h : f ∉ [.genesisBlock, .genesisHash, .genesisMerkleRoot]) :
    (p.refounded c id root).value f = p.value f := by
  cases f <;> first | rfl | exact absurd (by decide) h

theorem Consistent.refounded (hp : p.Consistent d) (hB : Genesis.Founding d B c id root) :
    (p.refounded c id root).Consistent d where
  magicBytes := hp.magicBytes
  prefixes := hp.prefixes
  ports := hp.ports
  genesis := ⟨B, id.toDisplay, hB.ofOctets, hB.check _⟩

/-- The main network can be founded on any block that can found a network. -/
theorem consistent_main_refounded (hB : Genesis.Founding d B c id root) :
    (Networks.main.refounded c id root).Consistent d where
  magicBytes := (by decide +kernel : Networks.main.magicBytes.length = magicSize)
  prefixes k := by cases k <;> exact List.cons_ne_nil _ _
  ports := rfl
  genesis := ⟨B, id.toDisplay, hB.ofOctets, hB.check _⟩

theorem known_genesisValues (v : Value) : Known (genesisValues v id root) := by
  simp only [Known, genesisValues, List.forall_mem_cons, List.not_mem_nil, false_implies,
    implies_true, and_true]
  exact ⟨⟨.genesisBlock, rfl⟩, ⟨.genesisHash, rfl⟩, ⟨.genesisMerkleRoot, rfl⟩⟩

/-- A block that can found a network can take the place of any genesis block. -/
theorem derive_genesisValues (hp : p.Consistent d) (hB : Genesis.Founding d B c id root) {v : Value}
    (hv : blockBytes room v = .ok c) :
    derive d room p (genesisValues v id root) = .ok (p.refounded c id root) := by
  have hq := hp.refounded hB
  -- A field is read from what is given, or else from what the network keeps.
  refine derive_eq_ok_iff.mpr ⟨known_genesisValues v, build_eq_ok_iff.mpr ⟨fun f => ?_, hq⟩⟩
  by_cases hf : f ∈ [Field.genesisBlock, .genesisHash, .genesisMerkleRoot]
  · simp only [List.mem_cons, List.not_mem_nil, or_false] at hf
    rcases hf with rfl | rfl | rfl
    · exact hv
    · rfl
    · rfl
  · have hgiven :
        givenOr (genesisValues v id root) p.value f = (p.refounded c id root).value f := by
      rw [value_refounded hf]
      cases f <;> first | rfl | exact absurd (by decide) hf
    rw [hgiven]
    exact readAs_value hq.prefixes f

/-- **Every genesis block that is made from a plan can found a network.** Let the numbers of a plan
fit four bytes and its script fit a message. Then its block exists and can be written, it passes
the check with its own hash and merkle root under every name, and it is read back from its bytes.
Every network that there is derives one with this block, given as a block or as bytes, which keeps
the block and has all other values unchanged. -/
theorem plan_founds_networks {plan : Genesis.Plan} (h : plan.InRange) (d : DigestSuite) :
    ∃ B c id root, Genesis.build d plan = .ok B ∧ B.encode = .ok c ∧
      B.hash d = .ok id ∧ B.transactionRoot d = .ok root ∧
      (∀ network, Genesis.check d network B (.text id.toDisplay) (.text root.toDisplay) =
        .ok id.toDisplay) ∧
      Block.ofOctets c = .ok B ∧
      ∀ room p, Built d room p → ∀ v ∈ [Value.block B, .bytes c, .buffer c, .octets c],
        ∃ q, derive d room p [("genesisBlock", v), ("genesisHash", .text id.toDisplay),
            ("genesisMerkleRoot", .text root.toDisplay)] = .ok q ∧
          q.genesisBlock = .ok B ∧
          q.genesisHash = .text id.toDisplay ∧ q.genesisMerkleRoot = .text root.toDisplay ∧
          ∀ f ∉ [Field.genesisBlock, .genesisHash, .genesisMerkleRoot], q.value f = p.value f := by
  obtain ⟨B, c, id, root, hbuild, hB⟩ := Genesis.exists_build_founding h d
  refine ⟨B, c, id, root, hbuild, hB.encode, hB.hash, hB.transactionRoot, hB.check, hB.ofOctets,
    fun room p hp v hv => ?_⟩
  -- Whatever the form, the block is read as its bytes.
  have hbytes : blockBytes room v = .ok c := by
    simp only [List.mem_cons, List.not_mem_nil, or_false] at hv
    rcases hv with rfl | rfl | rfl | rfl
    · exact mapError_eq_ok_iff.mpr hB.encode
    all_goals rfl
  exact ⟨p.refounded c id root, derive_genesisValues (built_iff_consistent.mp hp) hB hbytes,
    hB.ofOctets, rfl, rfl, fun f hf => value_refounded hf⟩

/-- The main network, founded on the block of one plan, derives a network that is founded on the
block of another, with the digests of the networks. -/
theorem plan_founds_networks_main :
    let d := DigestSuite.standard
    let plan (nonce : Int) : Genesis.Plan := {
      message := Networks.message, txTime := Networks.txTime
      timestamp := 1465189200, bits := 0x1e0fffff, nonce }
    (plan 1).InRange ∧ (plan 2).InRange ∧
      ∃ A B p q a, Genesis.build d (plan 1) = .ok A ∧ Genesis.build d (plan 2) = .ok B ∧
        Built d 1024 p ∧ p.genesisBlock = .ok A ∧ derive d 1024 p a = .ok q ∧
        q.genesisBlock = .ok B ∧ q.value .name = .text "main" := by
  intro d plan
  have h₁ : (plan 1).InRange := by decide +kernel
  have h₂ : (plan 2).InRange := by decide +kernel
  obtain ⟨A, c, id, root, hA, hfounding⟩ := Genesis.exists_build_founding h₁ d
  obtain ⟨B, e, id', root', hB, -, -, -, -, -, hderive⟩ := plan_founds_networks h₂ d
  have hp : Built d 1024 (Networks.main.refounded c id root) :=
    built_iff_consistent.mpr (consistent_main_refounded hfounding)
  obtain ⟨q, hq, hblock, -, -, hkept⟩ := hderive _ _ hp (.block B) List.mem_cons_self
  exact ⟨h₁, h₂, A, B, _, q, _, hA, hB, hp, hfounding.ofOctets, hq, hblock,
    hkept .name (by decide)⟩

end Network

end LedgerNet.Chain
