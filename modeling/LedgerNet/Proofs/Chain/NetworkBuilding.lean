import LedgerNet.Proofs.Chain.FieldReading

/-!
# Which networks there are

A network is built from a value for each field, or derived from a network that there is. What is
built is decided by how the values are read, and there is a network exactly where the values that it
keeps are consistent.

## Main statements

- `build_congr`: values that are read alike build alike.
- `build_eq_ok_iff`: a build succeeds exactly where the values are read as what a consistent network
  keeps.
- `ofValues_eq_ok_iff`, `derive_eq_ok_iff`: what may be given to a build, and under which names.
- `built_iff_consistent`: the networks that there are, are the consistent ones.
-/

namespace LedgerNet.Chain.Network

open Outcome

variable {d : DigestSuite} {room : Nat} {v w : Field → Value} {p q : Network}

/-! ## Building -/

/-- Values that are read alike build alike: both fail in the same way or both give one network. -/
theorem build_congr (h : ∀ f, Alike room f (v f) (w f)) : build d room v = build d room w := by
  have hname : chainName (v .name) = chainName (w .name) := h .name
  have hmagic : (v .magicBytes).toRawOctets room = (w .magicBytes).toRawOctets room := h .magicBytes
  have hkey : (v .alertSigningKey).toRawOctets room = (w .alertSigningKey).toRawOctets room :=
    h .alertSigningKey
  have hseeds : readSeeds (v .dnsSeeds) = readSeeds (w .dnsSeeds) := h .dnsSeeds
  have hpeers : elements (v .fixedSeedPeers) = elements (w .fixedSeedPeers) := h .fixedSeedPeers
  have hblock : blockBytes room (v .genesisBlock) = blockBytes room (w .genesisBlock) :=
    h .genesisBlock
  have hprefixes : readPrefixes (v .base58Prefixes) = readPrefixes (w .base58Prefixes) :=
    h .base58Prefixes
  -- The lists of seeds are read in two steps, and the rows of prefixes are looked at only later.
  have hlists : ∀ rest : List (List Value) → Except NetworkError Network,
      (elements (v .dnsSeeds) >>= fun lists => lists.mapM elements >>= rest) =
        elements (w .dnsSeeds) >>= fun lists => lists.mapM elements >>= rest := by
    intro rest
    rw [← bind_assoc, ← bind_assoc]
    exact congrArg (· >>= rest) hseeds
  have hstored : ∀ f, f.isStored = true → v f = w f := fun f => (h f).eq_of_isStored
  simp (disch := decide) only [build, hlists, hmagic, hkey, hpeers, hblock, hname, hstored]
  -- Rows that differ are rows of the same prefixes, whatever the network is called.
  cases hv : prefixRows (v .base58Prefixes) with
  | error e =>
    rw [readPrefixes, readPrefixes, hv, eq_comm, map_eq_error_iff.mpr rfl] at hprefixes
    simp only [map_eq_error_iff.mp hprefixes, error_bind]
  | ok rows =>
    rw [readPrefixes, readPrefixes, hv, eq_comm] at hprefixes
    obtain ⟨rows', hw, hsame⟩ := map_eq_ok_iff.mp hprefixes
    have hsame : ∀ network, prefixesOf network rows' = prefixesOf network rows := congrFun hsame
    simp only [hw, ok_bind, hsame]

/-! ## Consistency -/

/-- What a network keeps is consistent. Its name is a chain name by its type. -/
structure Consistent (d : DigestSuite) (p : Network) : Prop where
  magicBytes : p.magicBytes.length = magicSize
  prefixes : ∀ k, p.prefixes.get k ≠ []
  ports : p.defaultP2PPort.equal p.defaultRpcPort = .ok false
  /-- The genesis bytes hold a block that matches what is pinned. -/
  genesis : ∃ G s, p.genesisBlock = .ok G ∧
    Genesis.check d p.name.label G p.genesisHash p.genesisMerkleRoot = .ok s

theorem checkPorts_eq_ok_iff {network : String} {p2p rpc : Value} {u : Unit} :
    checkPorts network p2p rpc = .ok u ↔ p2p.equal rpc = .ok false := by
  simp only [checkPorts, choose_eq_ok_iff, mapError_eq_ok_iff]
  constructor
  · rintro (⟨-, hrefused⟩ | ⟨hequal, -⟩)
    · cases hrefused
    · exact hequal
  · intro hequal
    exact .inr ⟨hequal, rfl⟩

theorem verifyGenesis_eq_ok_iff {network : String} {bytes : Octets} {hash root : Value} {u : Unit} :
    verifyGenesis d network bytes hash root = .ok u ↔
      ∃ G s, Ledger.Block.ofOctets bytes = .ok G ∧ Genesis.check d network G hash root = .ok s := by
  simp only [verifyGenesis, bind_eq_ok_iff, mapError_eq_ok_iff, pure_eq_ok_iff]
  constructor
  · rintro ⟨G, hG, s, hs, -⟩
    exact ⟨G, s, hG, hs⟩
  · rintro ⟨G, s, hG, hs⟩
    exact ⟨G, hG, s, hs, trivial⟩

/-- A build succeeds exactly where the values are read as what a consistent network keeps. -/
theorem build_eq_ok_iff :
    build d room v = .ok p ↔ (∀ f, p.ReadAs room f (v f)) ∧ p.Consistent d := by
  simp only [build, bind_eq_ok_iff, refuse_eq_ok_iff, mapError_eq_ok_iff, pure_eq_ok_iff,
    checkPorts_eq_ok_iff, verifyGenesis_eq_ok_iff, not_not]
  constructor
  · rintro ⟨magicBytes, hmagic, key, hkey, rows, hrows, lists, hlists, seeds, hseeds, peers, hpeers,
      bytes, hbytes, name, hname, hsize, prefixes, hprefixes, -, hports, -, ⟨G, s, hG, hs⟩, rfl⟩
    -- Every step went well: the first ones are the readings, the others the consistency.
    have hkinds := (prefixesOf_eq_ok_iff.mp hprefixes).1
    refine ⟨fun f => ?read, hsize, fun k => (prefixOf_eq_ok_iff.mp (hkinds k)).1, hports,
      G, s, hG, hs⟩
    case read =>
      cases f with
      | name => exact hname
      | magicBytes => exact hmagic
      | alertSigningKey => exact hkey
      | genesisBlock => exact hbytes
      | base58Prefixes => exact ⟨rows, hrows, prefixesOf_eq_ok_of_ok hprefixes⟩
      | dnsSeeds => exact bind_eq_ok_iff.mpr ⟨lists, hlists, hseeds⟩
      | fixedSeedPeers => exact hpeers
      | _ => rfl
  · rintro ⟨hread, hsize, -, hports, G, s, hG, hs⟩
    -- The steps are put together again, in the order in which a build takes them.
    obtain ⟨lists, hlists, hseeds⟩ := bind_eq_ok_iff.mp (hread .dnsSeeds)
    obtain ⟨rows, hrows, hprefixes⟩ := hread .base58Prefixes
    have hstored : ∀ f, f.isStored = true → v f = p.value f := fun f => (hread f).eq_of_isStored
    refine ⟨_, hread .magicBytes, _, hread .alertSigningKey, rows, hrows, lists, hlists, _, hseeds,
      _, hread .fixedSeedPeers, _, hread .genesisBlock, _, hread .name, hsize, _, hprefixes _, (),
      ?ports, (), ⟨G, s, hG, ?genesis⟩, ?fields⟩
    case ports =>
      rw [hstored .defaultP2PPort rfl, hstored .defaultRpcPort rfl]
      exact hports
    case genesis =>
      rw [hstored .genesisHash rfl, hstored .genesisMerkleRoot rfl]
      exact hs
    case fields =>
      simp (disch := decide) only [hstored, value]

/-- What a consistent network keeps builds it again, and nothing else builds itself. -/
theorem build_value_eq_ok_iff : build d room p.value = .ok p ↔ p.Consistent d := by
  rw [build_eq_ok_iff]
  constructor
  · rintro ⟨-, hp⟩
    exact hp
  · intro hp
    exact ⟨readAs_value hp.prefixes, hp⟩

/-! ## Names of values -/

/-- Every name is that of a field. -/
def Known (given : List (String × Value)) : Prop :=
  ∀ row ∈ given, ∃ f : Field, row.1 = f.label

/-- The names that are those of no field. -/
def unknownNames (given : List (String × Value)) : List String :=
  (given.map Prod.fst).filter fun s => (Field.ofLabel? s).isNone

theorem unknownNames_eq_nil_iff {given : List (String × Value)} :
    unknownNames given = [] ↔ Known given := by
  simp only [unknownNames, List.filter_eq_nil_iff, List.mem_map, forall_exists_index, and_imp,
    Option.isNone_iff_eq_none, ← ne_eq, Option.ne_none_iff_isSome, Field.ofLabel?_isSome_iff, Known]
  constructor
  · intro h row hrow
    exact h row.1 row hrow rfl
  · rintro h - row hrow rfl
    exact h row hrow

theorem checkKnown_eq_ok_iff {given : List (String × Value)} {u : Unit} :
    checkKnown given = .ok u ↔ Known given := by
  rw [← unknownNames_eq_nil_iff, ← List.isEmpty_iff]
  change (if (unknownNames given).isEmpty then _ else _) = _ ↔ _
  split <;> rename_i h <;> simp [h]

theorem ownName_ne_label (f : Field) : ownName ≠ f.label := by
  cases f <;> decide

theorem lookup_ownName_of_known {given : List (String × Value)} (h : Known given) :
    given.lookup ownName = none := by
  rw [List.lookup_eq_none_iff]
  intro row hrow
  obtain ⟨f, hf⟩ := h row hrow
  rw [hf]
  exact bne_iff_ne.mpr (ownName_ne_label f)

theorem checkOwnName_of_known {given : List (String × Value)} (h : Known given) :
    checkOwnName given = .ok () := by
  rw [checkOwnName, lookup_ownName_of_known h]
  rfl

theorem derive_of_known {a : List (String × Value)} (h : Known a) :
    derive d room p a = build d room (givenOr a p.value) := by
  have hknown : checkKnown a = .ok () := checkKnown_eq_ok_iff.mpr h
  rw [derive, checkOwnName_of_known h, ok_bind, hknown, ok_bind]

/-- A network is derived exactly where values are given for fields, and build it. -/
theorem derive_eq_ok_iff {a : List (String × Value)} :
    derive d room p a = .ok q ↔ Known a ∧ build d room (givenOr a p.value) = .ok q := by
  constructor
  · intro h
    obtain ⟨-, -, h⟩ := bind_eq_ok_iff.mp h
    obtain ⟨_, hknown, hbuild⟩ := bind_eq_ok_iff.mp h
    exact ⟨checkKnown_eq_ok_iff.mp hknown, hbuild⟩
  · rintro ⟨hknown, hbuild⟩
    rw [derive_of_known hknown, hbuild]

/-- Each field is given its value, and nothing else is given. -/
structure Complete (given : List (String × Value)) (v : Field → Value) : Prop where
  known : Known given
  lookup : ∀ f : Field, given.lookup f.label = some (v f)

theorem givenOr_of_complete {given : List (String × Value)} (h : Complete given v)
    (other : Field → Value) : givenOr given other = v := by
  funext f
  rw [givenOr, h.lookup, Option.getD_some]

theorem ofValues_of_complete {given : List (String × Value)} (h : Complete given v) :
    ofValues d room given = build d room v := by
  -- Nothing is missing and nothing is unknown.
  have hmissing : (Field.all.map Field.label).filter (fun s => (given.lookup s).isNone) = [] := by
    rw [List.filter_eq_nil_iff]
    intro s hs
    obtain ⟨f, -, rfl⟩ := List.mem_map.mp hs
    rw [h.lookup]
    exact Bool.false_ne_true
  have hknown : checkKnown given = .ok () := checkKnown_eq_ok_iff.mpr h.known
  rw [ofValues, checkOwnName_of_known h.known, ok_bind, hmissing, hknown, givenOr_of_complete h]
  rfl

theorem complete_map_all (v : Field → Value) :
    Complete (Field.all.map fun f => (f.label, v f)) v where
  known row hrow := by
    obtain ⟨f, -, rfl⟩ := List.mem_map.mp hrow
    exact ⟨f, rfl⟩
  lookup f := Field.lookup_map_label f.mem_all v

/-- A network is defined exactly where a value is given for each field, and nothing else, and these
build it. -/
theorem ofValues_eq_ok_iff {given : List (String × Value)} :
    ofValues d room given = .ok p ↔ ∃ v, Complete given v ∧ build d room v = .ok p := by
  constructor
  · intro h
    simp only [ofValues, bind_eq_ok_iff, refuse_eq_ok_iff, checkKnown_eq_ok_iff,
      Bool.not_eq_true', Bool.not_eq_false, List.isEmpty_iff, List.filter_eq_nil_iff] at h
    -- What is left are the checks: every field is given, and nothing else.
    obtain ⟨-, -, hgiven, -, hknown, hbuild⟩ := h
    refine ⟨_, ⟨hknown, fun f => ?_⟩, hbuild⟩
    have hsome := hgiven f.label (List.mem_map_of_mem f.mem_all)
    rw [Option.isNone_iff_eq_none] at hsome
    obtain ⟨w, hw⟩ := Option.ne_none_iff_exists'.mp hsome
    rw [givenOr, hw, Option.getD_some]
  · rintro ⟨v, hv, hbuild⟩
    rw [ofValues_of_complete hv, hbuild]

/-! ## Networks that there are -/

/-- The network was defined by values, or derived from one that there is. -/
inductive Built (d : DigestSuite) (room : Nat) : Network → Prop where
  | ofValues {given : List (String × Value)} {p : Network} (h : ofValues d room given = .ok p) :
    Built d room p
  | derive {p q : Network} {overrides : List (String × Value)} (hp : Built d room p)
    (h : derive d room p overrides = .ok q) : Built d room q

/-- **The networks that there are, are the consistent ones.** -/
theorem built_iff_consistent : Built d room p ↔ p.Consistent d := by
  constructor
  · intro hp
    -- Both ways end in a build, so what the network was derived from does not matter.
    induction hp with
    | ofValues h =>
      obtain ⟨v, -, hbuild⟩ := ofValues_eq_ok_iff.mp h
      exact (build_eq_ok_iff.mp hbuild).2
    | derive hp h ih =>
      obtain ⟨-, hbuild⟩ := derive_eq_ok_iff.mp h
      exact (build_eq_ok_iff.mp hbuild).2
  -- A consistent network is defined by the values that it keeps.
  · intro hp
    exact .ofValues (ofValues_eq_ok_iff.mpr
      ⟨p.value, complete_map_all p.value, build_value_eq_ok_iff.mpr hp⟩)

end LedgerNet.Chain.Network
