import LedgerNet.Chain.Network
import LedgerNet.Proofs.Chain.GenesisCheck

/-!
# How fields are read

A field of a network may be given in several forms, and what the network keeps is what was read.
This module says when a value is read as what a network keeps, and when two values are read alike,
so that nobody can tell which of them was given.

- `ReadAs p f v`: the value is read as the field of the network.
- `readAs_value`: what a network keeps is read as itself.
- `Alike room f v w`: the two values are read alike for the field, failures included.
-/

namespace LedgerNet.Chain

open Outcome

/-! ## Names of fields -/

namespace Field

theorem mem_all (f : Field) : f ∈ all := by
  cases f <;> decide

theorem ofLabel?_label (f : Field) : ofLabel? f.label = some f := by
  cases f <;> rfl

theorem label_injective {f g : Field} (h : f.label = g.label) : f = g := by
  have hsame : some f = some g := by
    rw [← ofLabel?_label f, h, ofLabel?_label]
  injection hsame

theorem ofLabel?_isSome_iff {s : String} : (ofLabel? s).isSome ↔ ∃ f : Field, s = f.label := by
  constructor
  · intro h
    obtain ⟨f, hf⟩ := Option.isSome_iff_exists.mp h
    have hlabel := List.find?_some (p := fun f : Field => f.label == s) hf
    exact ⟨f, (beq_iff_eq.mp hlabel).symm⟩
  · rintro ⟨f, rfl⟩
    rw [ofLabel?_label]
    rfl

theorem lookup_map_label {fs : List Field} {f : Field} (h : f ∈ fs) (v : Field → Value) :
    (fs.map fun g => (g.label, v g)).lookup f.label = some (v f) := by
  induction fs with
  | nil => cases h
  | cons g fs ih =>
    rw [List.map_cons, List.lookup_cons]
    by_cases hfg : f = g
    · subst hfg
      simp
    · have hlabel : (f.label == g.label) = false :=
        beq_eq_false_iff_ne.mpr fun h => hfg (label_injective h)
      rw [hlabel]
      exact ih ((List.mem_cons.mp h).resolve_left hfg)

/-- Whether a network keeps the field just as it is given. -/
def isStored : Field → Bool
  | name | magicBytes | alertSigningKey | genesisBlock | base58Prefixes | dnsSeeds
  | fixedSeedPeers => false
  | _ => true

end Field

namespace Network

variable {room : Nat}

/-! ## Chain names -/

/-- No chain name is hexadecimal text. -/
theorem ofHex?_chainName (n : ChainName) : Octets.ofHex? n.label = none := by
  cases n <;> decide +kernel

theorem equal_chainName_eq_ok_iff {n : ChainName} {v : Value} :
    ((Value.text n.label).equal v).mapError NetworkError.value = .ok true ↔ v = .text n.label := by
  rw [mapError_eq_ok_iff, Genesis.equal_text_eq_ok_iff, ofHex?_chainName]
  simp

/-- A chain name is given as its text and in no other form. -/
theorem chainName_eq_ok_iff {v : Value} {n : ChainName} :
    chainName v = .ok n ↔ v = .text n.label := by
  constructor
  · intro h
    unfold chainName at h
    simp only [choose_eq_ok_iff, equal_chainName_eq_ok_iff, pure_eq_ok_iff] at h
    -- The names are tried in turn, and the last way is the refusal.
    rcases h with ⟨rfl, rfl⟩ | ⟨-, ⟨rfl, rfl⟩ | ⟨-, ⟨rfl, rfl⟩ | ⟨-, hrefused⟩⟩⟩
    · rfl
    · rfl
    · rfl
    · cases hrefused
  · rintro rfl
    cases n <;> rfl

/-! ## Prefixes -/

/-- A prefix is found under its kind, and is not empty. -/
theorem prefixOf_eq_ok_iff {network : String} {rows : List (Value × Octets)} {kind : PrefixKind}
    {x : Octets} :
    prefixOf network rows kind = .ok x ↔
      x ≠ [] ∧ ∃ key, rows.find? (fun row => row.1.sameKey (.int kind.number)) = some (key, x) := by
  unfold prefixOf
  split
  -- The pattern of a prefix that is found also asks for its first byte.
  · rename_i key y ys hfound
    simp only [hfound, Except.ok.injEq, Option.some.injEq, Prod.mk.injEq]
    constructor
    · rintro rfl
      exact ⟨List.cons_ne_nil y ys, key, rfl, rfl⟩
    · rintro ⟨-, -, -, rfl⟩
      rfl
  · rename_i hnone
    constructor
    · intro h
      cases h
    · rintro ⟨hne, key, hfound⟩
      obtain ⟨y, ys, rfl⟩ := List.exists_cons_of_ne_nil hne
      exact absurd hfound (hnone key y ys)

/-- The prefixes of a network are those of each kind, and there are no others. -/
theorem prefixesOf_eq_ok_iff {network : String} {rows : List (Value × Octets)} {p : Prefixes} :
    prefixesOf network rows = .ok p ↔
      (∀ k, prefixOf network rows k = .ok (p.get k)) ∧ rows.length = PrefixKind.all.length := by
  simp only [prefixesOf, bind_eq_ok_iff, refuse_eq_ok_iff, pure_eq_ok_iff, not_not]
  constructor
  · rintro ⟨pubkey, h₁, script, h₂, secret, h₃, extPublic, h₄, extSecret, h₅, hlength, rfl⟩
    refine ⟨fun k => ?_, hlength⟩
    cases k <;> assumption
  · rintro ⟨h, hlength⟩
    exact ⟨_, h .pubkey, _, h .script, _, h .secret, _, h .extPublic, _, h .extSecret, hlength, rfl⟩

/-- Which prefixes a table has does not depend on the network that they are for. -/
theorem prefixesOf_eq_ok_of_ok {network : String} {rows : List (Value × Octets)} {p : Prefixes}
    (h : prefixesOf network rows = .ok p) (other : String) : prefixesOf other rows = .ok p := by
  obtain ⟨hkinds, hlength⟩ := prefixesOf_eq_ok_iff.mp h
  refine prefixesOf_eq_ok_iff.mpr ⟨fun k => ?_, hlength⟩
  exact prefixOf_eq_ok_iff.mpr (prefixOf_eq_ok_iff.mp (hkinds k))

theorem prefixRows_prefixTable (p : Prefixes) :
    prefixRows (prefixTable p) = .ok (PrefixKind.all.map fun k => (.int k.number, p.get k)) := rfl

theorem prefixesOf_prefixTable {p : Prefixes} (h : ∀ k, p.get k ≠ []) (network : String) :
    prefixesOf network (PrefixKind.all.map fun k => (.int k.number, p.get k)) = .ok p := by
  refine prefixesOf_eq_ok_iff.mpr ⟨fun k => ?_, rfl⟩
  refine prefixOf_eq_ok_iff.mpr ⟨h k, .int k.number, ?_⟩
  cases k <;> rfl

/-! ## Reading -/

/-- The lists of seeds that a value holds. -/
def readSeeds (v : Value) : Except NetworkError (List (List Value)) := do
  (← elements v).mapM elements

/-- The prefixes that a value gives a network of each name. -/
def readPrefixes (v : Value) : Except NetworkError (String → Except NetworkError Prefixes) :=
  (fun rows network => prefixesOf network rows) <$> prefixRows v

/-- The value is read as the field of the network. A field without a form of its own is kept as it
is given. -/
def ReadAs (p : Network) (room : Nat) : Field → Value → Prop
  | .name, v => chainName v = .ok p.name
  | .magicBytes, v => v.toRawOctets room = .ok p.magicBytes
  | .alertSigningKey, v => v.toRawOctets room = .ok p.alertSigningKey
  | .genesisBlock, v => blockBytes room v = .ok p.genesisBytes
  | .base58Prefixes, v =>
    ∃ rows, prefixRows v = .ok rows ∧ ∀ network, prefixesOf network rows = .ok p.prefixes
  | .dnsSeeds, v => readSeeds v = .ok p.dnsSeeds
  | .fixedSeedPeers, v => elements v = .ok p.fixedSeedPeers
  | f, v => v = p.value f

/-- The two values are read alike for the field, or fail alike. -/
def Alike (room : Nat) : Field → Value → Value → Prop
  | .name, v, w => chainName v = chainName w
  | .magicBytes, v, w => v.toRawOctets room = w.toRawOctets room
  | .alertSigningKey, v, w => v.toRawOctets room = w.toRawOctets room
  | .genesisBlock, v, w => blockBytes room v = blockBytes room w
  | .base58Prefixes, v, w => readPrefixes v = readPrefixes w
  | .dnsSeeds, v, w => readSeeds v = readSeeds w
  | .fixedSeedPeers, v, w => elements v = elements w
  | _, v, w => v = w

theorem Alike.refl (f : Field) (v : Value) : Alike room f v v := by
  cases f <;> rfl

theorem ReadAs.eq_of_isStored {p : Network} {f : Field} {v : Value} (h : p.ReadAs room f v)
    (hf : f.isStored) : v = p.value f := by
  cases f <;> first | exact h | cases hf

theorem Alike.eq_of_isStored {f : Field} {v w : Value} (h : Alike room f v w) (hf : f.isStored) :
    v = w := by
  cases f <;> first | exact h | cases hf

/-- Two values that are read as what one network keeps are read alike. -/
theorem ReadAs.alike {p : Network} {f : Field} {v w : Value} (hv : p.ReadAs room f v)
    (hw : p.ReadAs room f w) : Alike room f v w := by
  cases f with
  | base58Prefixes =>
    -- The rows may differ; what they give a network of each name does not.
    obtain ⟨rows, hrows, hprefixes⟩ := hv
    obtain ⟨rows', hrows', hprefixes'⟩ := hw
    have hsame :
        (fun network => prefixesOf network rows) = fun network => prefixesOf network rows' :=
      funext fun network => (hprefixes network).trans (hprefixes' network).symm
    change readPrefixes v = readPrefixes w
    rw [readPrefixes, readPrefixes, hrows, hrows']
    exact congrArg Except.ok hsame
  | _ => exact hv.trans hw.symm

theorem readSeeds_list (seeds : List (List Value)) :
    readSeeds (.list (seeds.map .list)) = .ok seeds := by
  refine bind_eq_ok_iff.mpr ⟨seeds.map .list, rfl, mapM_eq_ok_iff.mpr ?_⟩
  rw [List.forall₂_map_left_iff]
  exact List.forall₂_same.mpr fun _ _ => rfl

/-- What a network keeps is read as itself, if its prefixes are not empty. -/
theorem readAs_value {p : Network} (h : ∀ k, p.prefixes.get k ≠ []) (f : Field) :
    p.ReadAs room f (p.value f) := by
  cases f with
  | name => exact chainName_eq_ok_iff.mpr rfl
  | base58Prefixes =>
    exact ⟨_, prefixRows_prefixTable p.prefixes, fun network => prefixesOf_prefixTable h network⟩
  | dnsSeeds => exact readSeeds_list p.dnsSeeds
  | _ => rfl

/-- A value is read as what one network keeps and as what another keeps only if the two keep the
same. -/
theorem ReadAs.value_eq {p q : Network} {f : Field} {v : Value} (hp : p.ReadAs room f v)
    (hq : q.ReadAs room f v) : p.value f = q.value f := by
  cases f with
  | name =>
    have hname : p.name = q.name := Except.ok.inj (Eq.trans (Eq.symm hp) hq)
    simp only [value, hname]
  | magicBytes =>
    have hbytes : p.magicBytes = q.magicBytes := Except.ok.inj (Eq.trans (Eq.symm hp) hq)
    simp only [value, hbytes]
  | alertSigningKey =>
    have hkey : p.alertSigningKey = q.alertSigningKey := Except.ok.inj (Eq.trans (Eq.symm hp) hq)
    simp only [value, hkey]
  | genesisBlock =>
    have hblock : p.genesisBytes = q.genesisBytes := Except.ok.inj (Eq.trans (Eq.symm hp) hq)
    simp only [value, hblock]
  | base58Prefixes =>
    obtain ⟨rows, hrows, hprefixes⟩ := hp
    obtain ⟨rows', hrows', hother⟩ := hq
    obtain rfl : rows = rows' := Except.ok.inj (hrows.symm.trans hrows')
    -- Any name will do, as the prefixes do not depend on it.
    have hsame : p.prefixes = q.prefixes := Except.ok.inj ((hprefixes "").symm.trans (hother ""))
    simp only [value, hsame]
  | dnsSeeds =>
    have hseeds : p.dnsSeeds = q.dnsSeeds := Except.ok.inj (Eq.trans (Eq.symm hp) hq)
    simp only [value, hseeds]
  | fixedSeedPeers =>
    have hpeers : p.fixedSeedPeers = q.fixedSeedPeers := Except.ok.inj (Eq.trans (Eq.symm hp) hq)
    simp only [value, hpeers]
  | _ => exact Eq.trans (Eq.symm hp) hq

end Network

end LedgerNet.Chain
