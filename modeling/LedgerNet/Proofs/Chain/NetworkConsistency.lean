import LedgerNet.Proofs.Chain.GenesisFounding
import LedgerNet.Proofs.Chain.NetworkHistory
import LedgerNet.Proofs.Chain.SettingsCheck

/-!
# Consistent values, and no others, define a network

A network exists exactly for values that are consistent, and stays so. Values of the documented
forms that define none fail in one of two ways: the settings are consistent, the genesis block can
be read and does not match what is pinned; or there is another inconsistency, which has a text
unless it would show a number of too many digits.

## Main statements

- `build_error`: which of the conditions fails, and how.
- `network_exists_iff_consistent`: when values define a network, how they fail to, and that networks
  stay consistent.
-/

namespace LedgerNet.Chain

open Outcome

/-- A number of too many digits cannot be shown, so the failure is a fault. -/
theorem NetworkError.ShowsTooMuch.kind {e : NetworkError} (h : e.ShowsTooMuch) :
    e.kind = .fault := by
  obtain ⟨n, hn, rfl | ⟨network, port, hport, rfl⟩⟩ := h
  · have hnumeral : Text.numeral? n = none := if_neg hn
    simp only [NetworkError.kind, NetworkError.message?, hnumeral]
    rfl
  · -- A port is a number or a flag, and both flags can be written.
    have htext : port.text? = none := by
      refine if_neg fun hwritable => hn ?_
      cases port <;> cases hport
      · rename_i b
        cases b <;> decide +kernel
      · exact hwritable
    simp only [NetworkError.kind, NetworkError.message?, htext]
    rfl

namespace Network

variable {d : DigestSuite} {room : Nat} {v : Field → Value} {e : NetworkError} {network : String}
  {c : Octets}
  {hash root : Value}

/-! ## The genesis block -/

/-- The genesis bytes pass their check exactly if they hold the block that is pinned. -/
theorem genesis_succeeds_iff (hpins : Genesis.PinnedAsText hash root) :
    (∃ u, verifyGenesis d network c hash root = .ok u) ↔
      ∃ G, Ledger.Block.ofOctets c = .ok G ∧ Genesis.Matches d G hash root := by
  simp only [verifyGenesis_eq_ok_iff]
  constructor
  · rintro ⟨-, G, s, hG, hs⟩
    exact ⟨G, hG, (Genesis.check_succeeds_iff hpins).mp ⟨s, hs⟩⟩
  · rintro ⟨G, hG, hmatches⟩
    obtain ⟨s, hs⟩ := (Genesis.check_succeeds_iff hpins).mpr hmatches
    exact ⟨(), G, s, hG, hs⟩

/-- The genesis bytes fail as they hold no block, or as they hold one that is not pinned. -/
theorem genesis_error (hpins : Genesis.PinnedAsText hash root)
    (h : verifyGenesis d network c hash root = .error e) :
    (∃ r, Ledger.Block.ofOctets c = .error r) ∧ e.kind = .inconsistent ∨
      (∃ G, Ledger.Block.ofOctets c = .ok G ∧ ¬Genesis.Matches d G hash root) ∧
        e.kind = .integrity := by
  unfold verifyGenesis at h
  rcases bind_eq_error_iff.mp h with h | ⟨G, hG, h⟩
  · left
    obtain ⟨r, hr, rfl⟩ := mapError_eq_error_iff.mp h
    -- Bytes that hold no block are told, as readers tell all their failures.
    obtain ⟨m, hm⟩ := Ledger.exists_message_of_ofOctets hr
    refine ⟨⟨r, hr⟩, ?_⟩
    simp only [NetworkError.kind, NetworkError.message?, hm]
    rfl
  · right
    rw [mapError_eq_ok_iff] at hG
    rcases bind_eq_error_iff.mp h with h | ⟨-, -, hnone⟩
    · obtain ⟨ce, hcheck, rfl⟩ := mapError_eq_error_iff.mp h
      -- The block was read, so it is in wire range and can only mismatch.
      have hrange := (Ledger.Block.ofOctets_eq_ok_iff.mp hG).1
      obtain ⟨m, text, rfl, htext⟩ := Genesis.check_error hrange hpins hcheck
      refine ⟨⟨G, hG, fun hmatches => ?_⟩, ?_⟩
      · obtain ⟨s, hs⟩ := (Genesis.check_succeeds_iff hpins).mpr hmatches
        rw [hs] at hcheck
        cases hcheck
      · simp only [NetworkError.kind, htext]
        rfl
    · cases hnone

/-! ## The values -/

/-- The genesis bytes hold a block. -/
def HoldsBlock (room : Nat) (v : Field → Value) (G : Ledger.Block) : Prop :=
  ∃ c, blockBytes room (v .genesisBlock) = .ok c ∧ Ledger.Block.ofOctets c = .ok G

/-- Values of the documented forms build a network exactly if they are consistent. -/
theorem build_succeeds_iff (h : Documented v) :
    (∃ p, build d room v = .ok p) ↔
      SettingsHold v ∧
        ∃ G, HoldsBlock room v G ∧ Genesis.Matches d G (v .genesisHash) (v .genesisMerkleRoot) := by
  obtain ⟨magic, hmagic⟩ := h.magicBytes
  obtain ⟨c, hc⟩ := h.exists_blockBytes room
  have hchecks := build_eq_checks (d := d) h hmagic hc
  constructor
  · rintro ⟨p, hp⟩
    rw [hp] at hchecks
    obtain ⟨name, hsettings, hgenesis⟩ := bind_eq_ok_iff.mp hchecks.symm
    obtain ⟨G, hG, hmatches⟩ := (genesis_succeeds_iff h.pins).mp ⟨_, hgenesis⟩
    exact ⟨(settings_succeed_iff h hmagic).mp ⟨name, hsettings⟩, G, ⟨c, hc, hG⟩, hmatches⟩
  · rintro ⟨hholds, G, ⟨c', hc', hG⟩, hmatches⟩
    obtain rfl : c = c' := Except.ok.inj (hc.symm.trans hc')
    obtain ⟨name, hsettings⟩ := (settings_succeed_iff h hmagic).mpr hholds
    obtain ⟨u, hgenesis⟩ := (genesis_succeeds_iff h.pins).mpr ⟨G, hG, hmatches⟩
    rw [hsettings, ok_bind, hgenesis] at hchecks
    obtain ⟨p, hp, -⟩ := map_eq_ok_iff.mp hchecks
    exact ⟨p, hp⟩

/-- Values of the documented forms fail for the first condition that does not hold: the settings,
a block in the genesis bytes, and that it is the one that is pinned. -/
theorem build_error (h : Documented v) (herror : build d room v = .error e) :
    ¬SettingsHold v ∧ (e.kind = .inconsistent ∨ e.kind = .fault ∧ e.ShowsTooMuch) ∨
    (SettingsHold v ∧ ¬∃ G, HoldsBlock room v G) ∧ e.kind = .inconsistent ∨
    (SettingsHold v ∧ ∃ G, HoldsBlock room v G ∧
      ¬Genesis.Matches d G (v .genesisHash) (v .genesisMerkleRoot)) ∧ e.kind = .integrity := by
  obtain ⟨magic, hmagic⟩ := h.magicBytes
  obtain ⟨c, hc⟩ := h.exists_blockBytes room
  have hchecks := build_eq_checks (d := d) h hmagic hc
  rw [map_eq_error_iff.mpr herror] at hchecks
  rcases bind_eq_error_iff.mp hchecks.symm with hsettings | ⟨name, hsettings, hgenesis⟩
  · left
    refine ⟨fun hholds => ?_, ?_⟩
    · obtain ⟨name, hname⟩ := (settings_succeed_iff h hmagic).mpr hholds
      rw [hname] at hsettings
      cases hsettings
    · exact (settings_error h hsettings).imp_right fun hmuch => ⟨hmuch.kind, hmuch⟩
  · right
    have hholds : SettingsHold v := (settings_succeed_iff h hmagic).mp ⟨name, hsettings⟩
    -- The settings passed, so it was the genesis block that failed.
    rcases genesis_error h.pins hgenesis with ⟨⟨r, hr⟩, hkind⟩ | ⟨⟨G, hG, hmismatch⟩, hkind⟩
    · refine .inl ⟨⟨hholds, ?_⟩, hkind⟩
      rintro ⟨G, c', hc', hG⟩
      obtain rfl : c = c' := Except.ok.inj (hc.symm.trans hc')
      rw [hr] at hG
      cases hG
    · exact .inr ⟨⟨hholds, G, ⟨c, hc, hG⟩, hmismatch⟩, hkind⟩

/-- The genesis block does not match what is pinned exactly where all else holds. -/
theorem integrity_iff (h : Documented v) (herror : build d room v = .error e) :
    e.kind = .integrity ↔
      SettingsHold v ∧
        ∃ G, HoldsBlock room v G ∧
          ¬Genesis.Matches d G (v .genesisHash) (v .genesisMerkleRoot) := by
  -- The three ways to fail exclude one another.
  rcases build_error h herror with ⟨hnot, hkind⟩ | ⟨⟨-, hnone⟩, hkind⟩ | ⟨hall, hkind⟩
  · refine iff_of_false ?_ fun hall => hnot hall.1
    rcases hkind with hkind | ⟨hkind, -⟩ <;> rw [hkind] <;> decide
  · refine iff_of_false ?_ fun hall => ?_
    · rw [hkind]
      decide
    · obtain ⟨-, G, hG, -⟩ := hall
      exact hnone ⟨G, hG⟩
  · exact iff_of_true hkind hall

/-- **A network exists exactly for consistent values, and stays consistent.** Let each field be
given a value of its documented form. There is a network exactly if the settings are consistent and
the genesis bytes hold a block that is the one that is pinned. A failure is one of integrity exactly
if the settings are consistent and the genesis bytes hold another block; any other failure is an
inconsistency with a text, unless it would show a number of too many digits. And whatever a program
does, each network that comes to be is consistent, and stays what it is. -/
theorem network_exists_iff_consistent (d : DigestSuite) (room : Nat) :
    (∀ given v, Complete given v → Documented v →
      ((∃ p, ofValues d room given = .ok p) ↔
        SettingsHold v ∧
          ∃ G, HoldsBlock room v G ∧
            Genesis.Matches d G (v .genesisHash) (v .genesisMerkleRoot)) ∧
      ∀ e, ofValues d room given = .error e →
        (e.kind = .integrity ↔
          SettingsHold v ∧
            ∃ G, HoldsBlock room v G ∧
              ¬Genesis.Matches d G (v .genesisHash) (v .genesisMerkleRoot)) ∧
        (e.kind = .integrity ∨ e.kind = .inconsistent ∨ e.kind = .fault ∧ e.ShowsTooMuch)) ∧
    (∀ moves more,
      (∀ p ∈ (World.run d room {} moves).networks, p.Consistent d) ∧
      (World.run d room {} moves).networks <+:
        ((World.run d room {} moves).run d room more).networks) := by
  constructor
  · intro given v hgiven h
    rw [ofValues_of_complete hgiven]
    refine ⟨build_succeeds_iff h, fun e herror => ⟨integrity_iff h herror, ?_⟩⟩
    rcases build_error h herror with ⟨-, hkind⟩ | ⟨-, hkind⟩ | ⟨-, hkind⟩
    · exact .inr hkind
    · exact .inr (.inl hkind)
    · exact .inl hkind
  · intro moves more
    -- At the start there are no networks.
    have hnone : ∀ p ∈ ({} : World).networks, p.Consistent d := fun p hp => by cases hp
    have hmade : ∀ p ∈ (World.run d room {} moves).networks, p.Consistent d :=
      (World.run_networks hnone moves).2
    exact ⟨hmade, (World.run_networks hmade more).1⟩

/-! ## The main network -/

theorem prefixRows_value (p : Network) :
    PrefixRows (PrefixKind.all.map fun k => (.int k.number, .bytes (p.prefixes.get k))) where
  keys row hrow := by
    obtain ⟨k, -, rfl⟩ := List.mem_map.mp hrow
    exact ⟨k.number, rfl⟩
  distinct := (by decide : kindKeys.Nodup)
  values row hrow := by
    obtain ⟨k, -, rfl⟩ := List.mem_map.mp hrow
    exact .inr rfl

/-- What a network keeps has the documented forms, if its ports and what is pinned for it have. -/
theorem documented_value {p : Network} {m n : Int} (hm : p.defaultP2PPort.int? = some m)
    (hn : p.defaultRpcPort.int? = some n)
    (hpins : Genesis.PinnedAsText p.genesisHash p.genesisMerkleRoot) : Documented p.value where
  name := ⟨_, rfl⟩
  magicBytes := ⟨_, rfl⟩
  alertSigningKey := ⟨_, rfl⟩
  defaultP2PPort := ⟨m, hm⟩
  defaultRpcPort := ⟨n, hn⟩
  genesisBlock := .inr ⟨_, rfl⟩
  pins := hpins
  base58Prefixes := ⟨_, rfl, prefixRows_value p⟩
  dnsSeeds := ⟨_, readSeeds_list p.dnsSeeds⟩
  fixedSeedPeers := ⟨_, rfl⟩

theorem settingsHold_value {p : Network} (hmagic : p.magicBytes.length = 4)
    (hprefixes : ∀ k, p.prefixes.get k ≠ [])
    (hports : p.defaultP2PPort.int? ≠ p.defaultRpcPort.int?) : SettingsHold p.value where
  name := ⟨p.name, rfl⟩
  magicBytes := ⟨_, rfl, hmagic⟩
  prefixes := by
    refine ⟨_, rfl, List.Perm.refl _, fun row hrow => ?_⟩
    obtain ⟨k, -, rfl⟩ := List.mem_map.mp hrow
    exact .inr ⟨_, rfl, hprefixes k⟩
  ports := hports

/-- No block has a hash without bytes. -/
theorem not_matches_empty {B : Ledger.Block} : ¬Genesis.Matches d B (.text "") root := by
  rintro ⟨-, -, id, hid, hshown⟩
  obtain ⟨header, -, rfl⟩ := map_eq_ok_iff.mp hid
  injection hshown with hshown
  have hempty : [] = d.identity header := Octets.toDisplay_injective hshown
  have hlength := d.length_identity header
  rw [← hempty] at hlength
  cases hlength

/-- The values of the main network, founded on the block of a plan, define it; with another hash
they fail for the genesis block. -/
theorem network_exists_iff_consistent_main :
    let d := DigestSuite.standard
    let room := 1024
    let given (p : Network) := Field.all.map fun f => (f.label, p.value f)
    ∃ p q e, ofValues d room (given p) = .ok q ∧
      ofValues d room (given { p with genesisHash := .text "" }) = .error e ∧
      e.kind = .integrity := by
  intro d room given
  obtain ⟨B, c, id, root, -, hB⟩ := Genesis.exists_build_founding
    (by decide +kernel : (⟨Networks.message, Networks.txTime, 0, 0, 0, 1⟩ : Genesis.Plan).InRange) d
  let p := Networks.main.refounded c id root
  let other : Network := { p with genesisHash := .text "" }
  obtain ⟨hvalues, -⟩ := network_exists_iff_consistent d room
  have hpins : ∀ hash, Genesis.PinnedAsText (.text hash) (.text root.toDisplay) :=
    fun hash => ⟨⟨hash, rfl⟩, .inr ⟨_, rfl⟩⟩
  have hmain : p.Consistent d := consistent_main_refounded hB
  have hports : some (17000 : Int) ≠ some 17001 := by decide
  -- The block matches its own hash, and no text without digits.
  have hmatches := (Genesis.check_succeeds_iff (hpins id.toDisplay)).mp ⟨_, hB.check ""⟩
  obtain ⟨hexists, -⟩ :=
    hvalues _ _ (complete_map_all p.value) (documented_value rfl rfl (hpins id.toDisplay))
  obtain ⟨q, hq⟩ := hexists.mpr ⟨settingsHold_value hmain.magicBytes hmain.prefixes hports,
    B, ⟨c, rfl, hB.ofOctets⟩, hmatches⟩
  obtain ⟨hexists, hfails⟩ :=
    hvalues _ _ (complete_map_all other.value) (documented_value rfl rfl (hpins ""))
  cases hbuild : ofValues d room (given other) with
  | ok q' =>
    obtain ⟨-, G, -, hG⟩ := hexists.mp ⟨q', hbuild⟩
    exact absurd hG not_matches_empty
  | error e =>
    have hsettings := settingsHold_value (p := other) hmain.magicBytes hmain.prefixes hports
    exact ⟨p, q, e, hq, hbuild, (hfails e hbuild).1.mpr
      ⟨hsettings, B, ⟨c, rfl, hB.ofOctets⟩, not_matches_empty⟩⟩

/-! ## Numbers of too many digits -/

/-- A table with such a number is refused before anything else is looked at. -/
theorem build_of_long_prefix (h : Documented v) {key : Value} {rows : List (Value × Value)}
    {n : Int}
    (htable : v .base58Prefixes = .table ((key, .int n) :: rows)) (hn : 255 < n) :
    build d room v = .error (.prefixNumber n) := by
  obtain ⟨magic, hmagic⟩ := h.magicBytes
  obtain ⟨c, hc⟩ := h.exists_blockBytes room
  have hprefix : readPrefix (.int n) = .error (.prefixNumber n) := if_neg (by omega)
  have hread : prefixRows (.table ((key, .int n) :: rows)) = .error (.prefixNumber n) := by
    simp only [prefixRows, List.mapM_cons, hprefix]
    rfl
  have hchecks := build_eq_checks (d := d) h hmagic hc
  rw [checkSettings, htable, hread] at hchecks
  exact map_eq_error_iff.mp hchecks

/-- The values of the main network with such a number as a prefix define no network, and fail with
no text: the message that would refuse the number cannot be written. -/
theorem network_exists_iff_consistent_long_prefix :
    ∃ given v e, Complete given v ∧ Documented v ∧ ¬SettingsHold v ∧
      ofValues DigestSuite.standard 1024 given = .error e ∧
      e.kind ≠ .integrity ∧ e.kind ≠ .inconsistent := by
  let n : Int := (Nat.pow 10 Text.digitLimit : Nat)
  let rest : List (Value × Value) :=
    [(.int 1, .bytes [112]), (.int 2, .bytes [202]), (.int 3, .bytes [0x04, 0x88, 0xb2, 0x1e]),
      (.int 4, .bytes [0x04, 0x88, 0xad, 0xe4])]
  let v (f : Field) : Value :=
    if f = .base58Prefixes then .table ((.int 0, .int n) :: rest) else Networks.main.value f
  have hmain : Documented Networks.main.value :=
    documented_value rfl rfl ⟨⟨_, rfl⟩, .inr ⟨_, rfl⟩⟩
  have hrows : PrefixRows ((.int 0, .int n) :: rest) := {
    keys := by simp [rest, Value.int?]
    distinct := (by decide : [some (0 : Int), some 1, some 2, some 3, some 4].Nodup)
    values := by simp [rest, Value.int?, Value.bytes?] }
  have hv : Documented v := { hmain with base58Prefixes := ⟨_, rfl, hrows⟩ }
  have hlarge : 255 < n := by decide +kernel
  have hbuild : build DigestSuite.standard 1024 v = .error (.prefixNumber n) :=
    build_of_long_prefix hv rfl hlarge
  -- The number has one digit too many to be shown.
  have hkind : (NetworkError.prefixNumber n).kind = .fault := by
    refine NetworkError.ShowsTooMuch.kind ⟨n, ?_, .inl rfl⟩
    decide +kernel
  refine ⟨_, v, _, complete_map_all v, hv, fun hholds => ?_,
    (ofValues_of_complete (complete_map_all v)).trans hbuild, ?_, ?_⟩
  · obtain ⟨rows, htable, hprefixes⟩ := hholds.prefixes
    obtain rfl : (.int 0, .int n) :: rest = rows := Value.table.inj htable
    rcases hprefixes.prefixes _ List.mem_cons_self with ⟨m, hm, -, hle⟩ | ⟨b, hb, -⟩
    · obtain rfl : n = m := Option.some.inj hm
      omega
    · cases hb
  · rw [hkind]
    decide
  · rw [hkind]
    decide

end Network

end LedgerNet.Chain
