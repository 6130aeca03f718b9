import LedgerNet.Proofs.Chain.NetworkBuilding

/-!
# Networks over time

A program defines networks and derives others from them, attempts to change them, asks them for
their genesis blocks and edits the blocks that it was given. Whatever it does, a network that there
is stays what it is, and every network that comes to be is consistent.

## Main statements

- `World.networks_step`, `World.consistent_step`: what one move does to the networks.
- `World.run_networks`: what becomes of the networks in the end.
-/

namespace LedgerNet.Chain.Network

open Outcome

/-! ## Moves -/

/-- What a program holds: networks, in the order in which they were made, and the genesis blocks
that it was given. -/
structure World where
  networks : List Network := []
  blocks : List Ledger.Block := []

/-- A move of a program. A network or a block is named by its place. -/
inductive Move where
  | define (given : List (String × Value))
  | derive (i : Nat) (overrides : List (String × Value))
  /-- A field of a network, or an entry of its prefixes, is set or deleted. -/
  | change (i : Nat) (c : Change)
  /-- A network is asked for its genesis block. -/
  | take (i : Nat)
  /-- A block that was given is replaced by what it is edited to. -/
  | edit (j : Nat) (b : Ledger.Block)

namespace World

variable {d : DigestSuite} {room : Nat} {w : World}

/-- The world with one more network, if there is one. -/
def add (w : World) : Except NetworkError Network → World
  | .ok p => { w with networks := w.networks ++ [p] }
  | .error _ => w

/-- The world after a move. A move that fails, or names nothing, changes nothing. -/
def step (d : DigestSuite) (room : Nat) (w : World) : Move → World
  | .define given => w.add (ofValues d room given)
  | .derive i overrides =>
    match w.networks[i]? with
    | some p => w.add (derive d room p overrides)
    | none => w
  | .change i c =>
    match w.networks[i]?.map (fun p : Network => p.attempt c) with
    | some (.ok q) => { w with networks := w.networks.set i q }
    | _ => w
  | .take i =>
    match w.networks[i]?.map genesisBlock with
    | some (.ok b) => { w with blocks := w.blocks ++ [b] }
    | _ => w
  | .edit j b => { w with blocks := w.blocks.set j b }

/-- The world after a number of moves. -/
def run (d : DigestSuite) (room : Nat) (w : World) (moves : List Move) : World :=
  moves.foldl (step d room) w

theorem prefix_add (w : World) (made : Except NetworkError Network) :
    w.networks <+: (w.add made).networks := by
  cases made with
  | error e => exact List.prefix_rfl
  | ok p => exact List.prefix_append _ _

theorem consistent_add (hw : ∀ p ∈ w.networks, p.Consistent d)
    {made : Except NetworkError Network} (hmade : ∀ p, made = .ok p → p.Consistent d) :
    ∀ p ∈ (w.add made).networks, p.Consistent d := by
  cases made with
  | error e => exact hw
  | ok p =>
    intro q hq
    rcases List.mem_append.mp hq with hq | hq
    · exact hw q hq
    · exact hmade q (List.mem_singleton.mp hq ▸ rfl)

/-- Every attempt to change a network is refused, so the move changes nothing. -/
theorem step_change (d : DigestSuite) (room : Nat) (w : World) (i : Nat) (c : Change) :
    w.step d room (.change i c) = w := by
  -- Each kind of change has its own refusal.
  have hrefused : ∀ p : Network, ∃ e, p.attempt c = .error e := by
    intro p
    cases c <;> exact ⟨_, rfl⟩
  rw [step]
  cases w.networks[i]? with
  | none => rfl
  | some p =>
    obtain ⟨e, he⟩ := hrefused p
    simp only [Option.map_some, he]

theorem networks_step (d : DigestSuite) (room : Nat) (w : World) (move : Move) :
    w.networks <+: (w.step d room move).networks := by
  cases move with
  | define given => exact w.prefix_add _
  | derive i overrides =>
    rw [step]
    split
    · exact w.prefix_add _
    · exact List.prefix_rfl
  | change i c =>
    -- An attempt would be made in place, so it has to be known to change nothing.
    have hsame := step_change d room w i c
    exact (congrArg (w.networks <+: ·.networks) hsame).mpr List.prefix_rfl
  | take i =>
    rw [step]
    split <;> exact List.prefix_rfl
  | edit j b => exact List.prefix_rfl

theorem consistent_step (hw : ∀ p ∈ w.networks, p.Consistent d) (move : Move) :
    ∀ p ∈ (w.step d room move).networks, p.Consistent d := by
  cases move with
  | define given =>
    exact consistent_add hw fun p hp => built_iff_consistent.mp (.ofValues hp)
  | derive i overrides =>
    rw [step]
    split
    · rename_i p hp
      have hbuilt : Built d room p := built_iff_consistent.mpr (hw p (List.mem_of_getElem? hp))
      exact consistent_add hw fun q hq => built_iff_consistent.mp (.derive hbuilt hq)
    · exact hw
  | change i c =>
    rw [step_change]
    exact hw
  | take i =>
    rw [step]
    split <;> exact hw
  | edit j b => exact hw

/-- **Networks stay what they are, and all are consistent.** -/
theorem run_networks (hw : ∀ p ∈ w.networks, p.Consistent d) (moves : List Move) :
    w.networks <+: (w.run d room moves).networks ∧
      ∀ p ∈ (w.run d room moves).networks, p.Consistent d := by
  induction moves generalizing w with
  | nil => exact ⟨List.prefix_rfl, hw⟩
  | cons move moves ih =>
    obtain ⟨hkept, hconsistent⟩ := ih (consistent_step hw move)
    exact ⟨(networks_step d room w move).trans hkept, hconsistent⟩

end World

end LedgerNet.Chain.Network
