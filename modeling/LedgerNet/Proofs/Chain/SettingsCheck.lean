import LedgerNet.Proofs.Chain.GenesisMismatch
import LedgerNet.Proofs.Chain.NetworkBuilding
import LedgerNet.Proofs.Chain.PrefixTable

/-!
# The settings of a network

Values of the documented forms are read without failure, but for numbers that are no prefixes. What
is left of a build are its checks, first those of the settings and then that of the genesis block.

## Main statements

- `build_eq_checks`: a build from such values succeeds, and fails, as its checks do.
- `settings_succeed_iff`: the settings pass their checks exactly if they are consistent.
- `settings_error`: a failure has a text, unless it would show a number of too many digits.
-/

namespace LedgerNet.Chain

open Outcome

/-! ## Failures -/

/-- The kinds of failures to build a network. -/
inductive FailureKind where
  /-- The genesis block does not match what is pinned. -/
  | integrity
  /-- The values are inconsistent in another way. -/
  | inconsistent
  /-- A value cannot be used at all, or a message cannot be written. -/
  | fault
  deriving DecidableEq, Repr

/-- The kind of a failure with a message; without one it is a fault. -/
def FailureKind.ofMessage (kind : FailureKind) (message : Option String) : FailureKind :=
  if message.isSome then kind else .fault

/-- The kind of an error. -/
def NetworkError.kind : NetworkError → FailureKind
  | .genesis (.mismatch m) => .ofMessage .integrity m.message?
  | .value (.field .negative) | .genesis (.field .negative) => .fault
  | e => .ofMessage .inconsistent e.message?

/-- The error would show a number of too many digits. -/
def NetworkError.ShowsTooMuch (e : NetworkError) : Prop :=
  ∃ n, ¬Text.isWritable n ∧
    (e = .prefixNumber n ∨ ∃ network port, port.int? = some n ∧ e = .samePorts network port)

namespace Network

variable {d : DigestSuite} {room : Nat} {v : Field → Value} {magic : Octets} {e : NetworkError}

/-! ## Documented forms -/

/-- The values have the forms that are documented for their fields. -/
structure Documented (v : Field → Value) : Prop where
  name : ∃ s, v .name = .text s
  magicBytes : ∃ b, (v .magicBytes).bytes? = some b
  alertSigningKey : ∃ b, (v .alertSigningKey).bytes? = some b
  defaultP2PPort : ∃ n, (v .defaultP2PPort).int? = some n
  defaultRpcPort : ∃ n, (v .defaultRpcPort).int? = some n
  /-- The genesis block is a block that has a serialized form, or bytes. -/
  genesisBlock : (∃ B c, v .genesisBlock = .block B ∧ B.encode = .ok c) ∨
    ∃ c, (v .genesisBlock).bytes? = some c
  pins : Genesis.PinnedAsText (v .genesisHash) (v .genesisMerkleRoot)
  base58Prefixes : ∃ rows, v .base58Prefixes = .table rows ∧ PrefixRows rows
  dnsSeeds : ∃ seeds, readSeeds (v .dnsSeeds) = .ok seeds
  fixedSeedPeers : ∃ peers, elements (v .fixedSeedPeers) = .ok peers

theorem Documented.exists_blockBytes (room : Nat) (h : Documented v) :
    ∃ c, blockBytes room (v .genesisBlock) = .ok c := by
  rcases h.genesisBlock with ⟨B, c, hB, hc⟩ | ⟨c, hc⟩
  · refine ⟨c, ?_⟩
    rw [hB]
    exact mapError_eq_ok_iff.mpr hc
  · refine ⟨c, ?_⟩
    have hraw :=
      mapError_eq_ok_iff (f := NetworkError.value).mpr (Value.toRawOctets_of_bytes? room hc)
    revert hc hraw
    cases v .genesisBlock <;> intro hc hraw <;> first | exact hraw | cases hc

/-- The settings are consistent, which have nothing to do with the genesis block. -/
structure SettingsHold (v : Field → Value) : Prop where
  name : ∃ n : ChainName, v .name = .text n.label
  magicBytes : ∃ b, (v .magicBytes).bytes? = some b ∧ b.length = 4
  prefixes : ∃ rows, v .base58Prefixes = .table rows ∧ PrefixesHold rows
  ports : (v .defaultP2PPort).int? ≠ (v .defaultRpcPort).int?

/-! ## Checks -/

/-- The checks of the settings, once the magic bytes were read. -/
def checkSettings (v : Field → Value) (magic : Octets) : Except NetworkError ChainName := do
  let read ← prefixRows (v .base58Prefixes)
  let name ← chainName (v .name)
  if magic.length ≠ magicSize then throw (.magicSize name.label magic.length)
  let _ ← prefixesOf name.label read
  checkPorts name.label (v .defaultP2PPort) (v .defaultRpcPort)
  return name

/-- A build from values of the documented forms succeeds, and fails, as its checks do. -/
theorem build_eq_checks (h : Documented v) {c : Octets}
    (hmagic : (v .magicBytes).bytes? = some magic)
    (hc : blockBytes room (v .genesisBlock) = .ok c) :
    (fun _ => ()) <$> build d room v =
      checkSettings v magic >>= fun name =>
        verifyGenesis d name.label c (v .genesisHash) (v .genesisMerkleRoot) := by
  obtain ⟨key, hkey⟩ := h.alertSigningKey
  obtain ⟨seeds, hseeds⟩ := h.dnsSeeds
  obtain ⟨lists, hlists, hseeds⟩ := bind_eq_ok_iff.mp hseeds
  obtain ⟨peers, hpeers⟩ := h.fixedSeedPeers
  have hmagic := mapError_eq_ok_iff (f := NetworkError.value).mpr
    (Value.toRawOctets_of_bytes? room hmagic)
  have hkey :=
    mapError_eq_ok_iff (f := NetworkError.value).mpr (Value.toRawOctets_of_bytes? room hkey)
  -- The readings that cannot fail are done; from here on both sides take the same checks in turn.
  simp only [build, checkSettings, hmagic, hkey, hlists, hseeds, hpeers, hc, ok_bind]
  cases prefixRows (v .base58Prefixes) with
  | error e => rfl
  | ok read =>
    simp only [ok_bind]
    cases chainName (v .name) with
    | error e => rfl
    | ok name =>
      simp only [ok_bind]
      split
      · rfl
      · cases prefixesOf name.label read with
        | error e => rfl
        | ok prefixes =>
          simp only [ok_bind]
          cases checkPorts name.label (v .defaultP2PPort) (v .defaultRpcPort) with
          | error e => rfl
          | ok u =>
            simp only [ok_bind, pure_bind]
            cases verifyGenesis d name.label c (v .genesisHash) (v .genesisMerkleRoot) <;> rfl

/-- The settings pass their checks exactly if they are consistent. -/
theorem settings_succeed_iff (h : Documented v) (hmagic : (v .magicBytes).bytes? = some magic) :
    (∃ name, checkSettings v magic = .ok name) ↔ SettingsHold v := by
  obtain ⟨rows, htable, hrows⟩ := h.base58Prefixes
  obtain ⟨m, hm⟩ := h.defaultP2PPort
  obtain ⟨n, hn⟩ := h.defaultRpcPort
  simp only [checkSettings, bind_eq_ok_iff, refuse_eq_ok_iff, chainName_eq_ok_iff,
    checkPorts_eq_ok_iff, pure_eq_ok_iff, Value.equal_of_int? hm hn, htable, not_not]
  constructor
  · rintro ⟨-, read, hread, name, hname, hsize, prefixes, hprefixes, -, hports, -⟩
    refine ⟨⟨name, hname⟩, ⟨magic, hmagic, hsize⟩, ⟨rows, htable, ?_⟩, ?_⟩
    · exact (prefixes_succeed_iff hrows name.label).mp ⟨read, prefixes, hread, hprefixes⟩
    · rw [hm, hn]
      simpa using hports
  · rintro ⟨⟨name, hname⟩, ⟨b, hb, hsize⟩, ⟨rows', htable', hholds⟩, hports⟩
    obtain rfl : magic = b := Option.some.inj (hmagic.symm.trans hb)
    obtain rfl : rows = rows' := by simpa [htable] using htable'
    obtain ⟨read, prefixes, hread, hprefixes⟩ := (prefixes_succeed_iff hrows name.label).mpr hholds
    rw [hm, hn] at hports
    exact ⟨name, read, hread, name, hname, hsize, prefixes, hprefixes, (),
      by simpa using hports, rfl⟩

/-! ## Failures of the settings -/

theorem chainName_error {s : String} (h : chainName (.text s) = .error e) :
    e = .chainName (.text s) := by
  -- Texts can be compared, so no other failure is left than that no name is equal.
  have hequal : ∀ n : ChainName,
      ((Value.text n.label).equal (.text s)).mapError NetworkError.value = .ok (n.label == s) :=
    fun _ => rfl
  simp only [chainName, hequal, ok_bind] at h
  split at h
  · cases h
  split at h
  · cases h
  split at h
  · cases h
  · cases h
    rfl

/-- A number that is no prefix can be told if it can be written. -/
theorem prefixNumber_kind (n : Int) :
    (NetworkError.prefixNumber n).kind = .inconsistent ∨
      (NetworkError.prefixNumber n).ShowsTooMuch := by
  by_cases hn : Text.isWritable n
  · left
    simp only [NetworkError.kind, NetworkError.message?, Text.numeral?_of_isWritable hn]
    rfl
  · exact .inr ⟨n, hn, .inl rfl⟩

/-- Ports that are equal can be told if they can be written. -/
theorem samePorts_kind (network : String) {port : Value} {n : Int} (hport : port.int? = some n) :
    (NetworkError.samePorts network port).kind = .inconsistent ∨
      (NetworkError.samePorts network port).ShowsTooMuch := by
  by_cases hwritable : port.isWritable
  · left
    have htext : port.text? = some port.toText := if_pos hwritable
    simp only [NetworkError.kind, NetworkError.message?, htext]
    rfl
  · right
    refine ⟨n, ?_, .inr ⟨network, port, hport, rfl⟩⟩
    cases port <;> cases hport
    · exact absurd rfl hwritable
    · exact hwritable

/-- **The settings fail with a text, or for a number of too many digits.** -/
theorem settings_error (h : Documented v) (herror : checkSettings v magic = .error e) :
    e.kind = .inconsistent ∨ e.ShowsTooMuch := by
  obtain ⟨rows, htable, hrows⟩ := h.base58Prefixes
  obtain ⟨s, hs⟩ := h.name
  obtain ⟨m, hm⟩ := h.defaultP2PPort
  obtain ⟨n, hn⟩ := h.defaultRpcPort
  unfold checkSettings at herror
  rw [htable, hs] at herror
  rcases bind_eq_error_iff.mp herror with herror | ⟨read, -, herror⟩
  · obtain ⟨n, rfl⟩ := prefixRows_error hrows herror
    exact prefixNumber_kind n
  rcases bind_eq_error_iff.mp herror with herror | ⟨name, -, herror⟩
  · exact .inl (chainName_error herror ▸ rfl)
  rcases refuse_eq_error_iff.mp herror with ⟨-, rfl⟩ | ⟨-, herror⟩
  · exact .inl rfl
  rcases bind_eq_error_iff.mp herror with herror | ⟨prefixes, -, herror⟩
  · rcases prefixesOf_error herror with ⟨kind, rfl⟩ | rfl
    · exact .inl rfl
    · exact .inl rfl
  rcases bind_eq_error_iff.mp herror with herror | ⟨-, -, hnone⟩
  · -- Two numbers can be compared, so the ports can only be refused for being equal.
    unfold checkPorts at herror
    rw [Value.equal_of_int? hm hn] at herror
    rcases bind_eq_error_iff.mp herror with hnone | ⟨same, -, herror⟩
    · cases hnone
    · split at herror
      · cases herror
        exact samePorts_kind _ hm
      · cases herror
  · cases hnone

end Network

end LedgerNet.Chain
