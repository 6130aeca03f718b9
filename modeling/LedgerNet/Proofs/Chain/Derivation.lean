import LedgerNet.Proofs.Chain.GenesisFounding
import LedgerNet.Proofs.Entries

/-!
# Derivations in steps

A network that is derived in two steps is derived in one, from the values of both with the later
ones first. What is given is read as what the network keeps, and what it keeps is read as itself, so
each step starts from values that read like those that went into the step before.

## Main statements

- `lookup_overlay`: what two steps give together.
- `derive_derive`: two steps are one step, failures included.
- `derive_composes`: this, and what a derivation keeps.
-/

namespace LedgerNet.Chain.Network

open Outcome
open Entries (lookup_eq_of_perm lookup_filter_key lookup_map_value)

variable {d : DigestSuite} {room : Nat} {p q : Network} {a b : List (String × Value)}

/-! ## Values of two steps -/

/-- The values of two steps together: those of the first, unless the second has them, and then those
that only the second has. -/
def overlay (a b : List (String × Value)) : List (String × Value) :=
  (a.map fun row => (row.1, (b.lookup row.1).getD row.2)) ++
    b.filter fun row => (a.lookup row.1).isNone

/-- A name has the value of the second step, or else that of the first. -/
theorem lookup_overlay (a b : List (String × Value)) (s : String) :
    (overlay a b).lookup s = (b.lookup s).or (a.lookup s) := by
  rw [overlay, List.lookup_append, lookup_map_value fun s v => (b.lookup s).getD v,
    lookup_filter_key fun s => (a.lookup s).isNone]
  cases a.lookup s <;> cases b.lookup s <;> rfl

theorem unknownNames_overlay (ha : Known a) (b : List (String × Value)) :
    unknownNames (overlay a b) = unknownNames b := by
  -- The first step succeeded, so all its names are those of fields.
  have hfirst : unknownNames (a.map fun row => (row.1, (b.lookup row.1).getD row.2)) = [] := by
    refine unknownNames_eq_nil_iff.mpr fun row hrow => ?_
    obtain ⟨given, hgiven, rfl⟩ := List.mem_map.mp hrow
    exact ha given hgiven
  -- A name of no field is not among those of the first step, so none of them is dropped.
  have hkept : ∀ s, (Field.ofLabel? s).isNone → (a.lookup s).isNone := by
    intro s hs
    rw [Option.isNone_iff_eq_none] at hs ⊢
    rw [List.lookup_eq_none_iff]
    intro row hrow
    obtain ⟨f, hf⟩ := ha row hrow
    rw [bne_iff_ne]
    rintro rfl
    rw [hf, Field.ofLabel?_label] at hs
    cases hs
  rw [overlay]
  unfold unknownNames at hfirst ⊢
  rw [List.map_append, List.filter_append, hfirst, List.nil_append, List.filter_map,
    List.filter_map, List.filter_filter]
  refine congrArg _ (List.filter_congr fun row _ => ?_)
  simp only [Function.comp_apply, Bool.and_eq_left_iff_imp]
  exact hkept row.1

theorem checkKnown_overlay (ha : Known a) (b : List (String × Value)) :
    checkKnown (overlay a b) = checkKnown b := by
  have hcheck : ∀ given, checkKnown given = if (unknownNames given).isEmpty then Except.ok ()
      else .error (.unknown (unknownNames given)) := fun _ => rfl
  rw [hcheck, hcheck, unknownNames_overlay ha]

theorem checkOwnName_overlay (ha : Known a) (b : List (String × Value)) :
    checkOwnName (overlay a b) = checkOwnName b := by
  rw [checkOwnName, checkOwnName, lookup_overlay, lookup_ownName_of_known ha, Option.or_none]

/-! ## One step after another -/

/-- Two steps are one step with the values of both: it fails as the second step fails, or gives what
the second step gives. -/
theorem derive_derive (h : derive d room p a = .ok q) (b : List (String × Value)) :
    derive d room q b = derive d room p (overlay a b) := by
  obtain ⟨ha, hbuild⟩ := derive_eq_ok_iff.mp h
  obtain ⟨hread, hq⟩ := build_eq_ok_iff.mp hbuild
  -- Field by field, both sides start from values that are read alike.
  have hsame : build d room (givenOr b q.value) = build d room (givenOr (overlay a b) p.value) := by
    refine build_congr fun f => ?_
    rw [givenOr, givenOr, lookup_overlay]
    cases b.lookup f.label with
    | some v => exact Alike.refl f v
    | none =>
      -- What the first step was given is read as what `q` keeps.
      exact (readAs_value hq.prefixes f).alike (hread f)
  rw [derive, derive, checkOwnName_overlay ha, checkKnown_overlay ha, hsame]

theorem derive_nil (hp : p.Consistent d) : derive d room p [] = .ok p := by
  refine derive_eq_ok_iff.mpr ⟨fun row hrow => absurd hrow List.not_mem_nil, ?_⟩
  exact build_value_eq_ok_iff.mpr hp

theorem value_eq_of_derive (hp : p.Consistent d) (h : derive d room p a = .ok q) {f : Field}
    (hf : a.lookup f.label = none) : q.value f = p.value f := by
  obtain ⟨-, hbuild⟩ := derive_eq_ok_iff.mp h
  have hread : q.ReadAs room f (givenOr a p.value f) := (build_eq_ok_iff.mp hbuild).1 f
  rw [givenOr, hf, Option.getD_none] at hread
  exact hread.value_eq (readAs_value hp.prefixes f)

/-! ## Order of values -/

/-- The order of the values does not matter to a step that succeeds. -/
theorem derive_eq_ok_of_perm (hperm : a.Perm b) (hnames : (a.map Prod.fst).Nodup)
    (h : derive d room p a = .ok q) : derive d room p b = .ok q := by
  obtain ⟨ha, hbuild⟩ := derive_eq_ok_iff.mp h
  have hgiven : givenOr b p.value = givenOr a p.value := by
    funext f
    rw [givenOr, givenOr, lookup_eq_of_perm hperm hnames]
  refine derive_eq_ok_iff.mpr ⟨fun row hrow => ha row (hperm.mem_iff.mpr hrow), ?_⟩
  rw [hgiven, hbuild]

/-! ## Attributes -/

/-- The values of the fields under their names, the genesis block as a block. -/
def attributes (p : Network) : Except Ledger.ReadError (List (String × Value)) := do
  let block ← p.genesisBlock
  return Field.all.map fun f =>
    (f.label, if f = .genesisBlock then .block block else p.value f)

/-- A consistent network can show its attributes, and is what they define. -/
theorem exists_attributes (hp : p.Consistent d) :
    ∃ rows, p.attributes = .ok rows ∧ ofValues d room rows = .ok p := by
  obtain ⟨G, -, hG, -⟩ := hp.genesis
  refine ⟨_, bind_eq_ok_iff.mpr ⟨G, hG, rfl⟩, ?_⟩
  rw [ofValues_of_complete (complete_map_all fun f =>
    if f = .genesisBlock then .block G else p.value f), build_eq_ok_iff]
  refine ⟨fun f => ?_, hp⟩
  by_cases hf : f = .genesisBlock
  · -- A block that was read from bytes is written as these bytes.
    subst hf
    exact mapError_eq_ok_iff.mpr (Ledger.Block.ofOctets_eq_ok_iff.mp hG).2
  · rw [if_neg hf]
    exact readAs_value hp.prefixes f

/-! ## Composition -/

/-- **Deriving composes.** After a derivation that succeeds, a second one has the outcome of one
derivation from the values of both, be it a network or an error. A network is derived from itself
without values, and is defined by its own attributes; a field for which no value is given keeps its
value; and a derivation that succeeds does so in any order of its values. -/
theorem derive_composes (hp : Built d room p) :
    (∀ a b q, derive d room p a = .ok q → derive d room q b = derive d room p (overlay a b)) ∧
    derive d room p [] = .ok p ∧
    (∃ rows, p.attributes = .ok rows ∧ ofValues d room rows = .ok p) ∧
    (∀ a q f, derive d room p a = .ok q → a.lookup (Field.label f) = none → q.value f = p.value f) ∧
    (∀ a b q, a.Perm b → (a.map Prod.fst).Nodup →
      derive d room p a = .ok q → derive d room p b = .ok q) := by
  have hp : p.Consistent d := built_iff_consistent.mp hp
  exact ⟨fun a b q h => derive_derive h b, derive_nil hp, exists_attributes hp,
    fun a q f h hf => value_eq_of_derive hp h hf,
    fun a b q hperm hnames h => derive_eq_ok_of_perm hperm hnames h⟩

/-- The main network, founded anew twice in a row, is founded anew once, in either order of the
values. -/
theorem derive_composes_main :
    let d := DigestSuite.standard
    let room := 1024
    ∃ p q r a b, Built d room p ∧ derive d room p a = .ok q ∧ derive d room q b = .ok r ∧
      derive d room p (overlay a b) = .ok r ∧ derive d room p a.reverse = .ok q ∧
      r.value .magicBytes = p.value .magicBytes := by
  intro d room
  let plan (nonce : Int) : Genesis.Plan := {
    message := Networks.message, txTime := Networks.txTime
    timestamp := 1465189200, bits := 0x1e0fffff, nonce }
  obtain ⟨A, c, id, root, -, hA⟩ :=
    Genesis.exists_build_founding (by decide +kernel : (plan 1).InRange) d
  obtain ⟨B, e, id', root', -, hB⟩ :=
    Genesis.exists_build_founding (by decide +kernel : (plan 2).InRange) d
  have hmain := consistent_main_refounded hA
  let p := Networks.main.refounded c id root
  have hp : Built d room p := built_iff_consistent.mpr hmain
  obtain ⟨hcompose, -, -, hkept, horder⟩ := derive_composes hp
  have hq : derive d room p (genesisValues (.bytes e) id' root') = .ok (p.refounded e id' root') :=
    derive_genesisValues hmain hB rfl
  have hr : derive d room (p.refounded e id' root') (genesisValues (.buffer c) id root) =
      .ok ((p.refounded e id' root').refounded c id root) :=
    derive_genesisValues (hmain.refounded hB) hA rfl
  have hnames : ((genesisValues (.bytes e) id' root').map Prod.fst).Nodup :=
    (by decide : ["genesisBlock", "genesisHash", "genesisMerkleRoot"].Nodup)
  -- The second step takes the block back, from bytes in another form.
  have htwo := (hcompose _ (genesisValues (.buffer c) id root) _ hq).symm.trans hr
  exact ⟨p, _, _, _, _, hp, hq, hr, htwo,
    horder _ _ _ (List.reverse_perm _).symm hnames hq, hkept _ _ .magicBytes htwo rfl⟩

end LedgerNet.Chain.Network
