import LedgerNet.Proofs.Memory.Frames

/-!
# Who shares memory

Two handles share a cell exactly if a chain of constructions and decodings without a copy and
without a length leads from one to the other, and none of the two has moved away since by a pop of
its own. A handle stays in the chain for others also after it has moved away itself: what was made
from it keeps sharing with what it was made from.

## Main statements

- `Sharing.cellOf_eq`, `sharing_of_cellOf_eq`: sharing is having the same cell.
- `operations_never_write`: what any action leaves as it is, and who shares a cell with whom.
-/

namespace LedgerNet.Memory

/-! ## Histories -/

/-- The memory after some actions, of which the latest comes first. -/
def history (room : Nat) : List Action → Memory
  | [] => { room }
  | a :: past => (history room past).after a

/-- A register holds the handle, or has held it at some time. -/
def Known (room : Nat) : List Action → Handle → Prop
  | [], _ => False
  | a :: past, g => Known room past g ∨ ∃ name, (history room (a :: past)).handle name = .ok g

/-- Two handles share a cell by construction or decoding without a copy and without a length. -/
inductive Sharing (room : Nat) : List Action → Handle → Handle → Prop where
  | same {past g} : Known room past g → Sharing room past g g
  | symm {past g x} : Sharing room past g x → Sharing room past x g
  | trans {past g x y} : Sharing room past g x → Sharing room past x y → Sharing room past g y
  | made {past a source target g x} : Shares a source target → (history room past).Succeeds a →
      (history room past).handle source = .ok x → (history room (a :: past)).handle target = .ok g →
      Sharing room (a :: past) g x
  | kept {past a g x} : Sharing room past g x → ¬Pops (history room past) a g →
      ¬Pops (history room past) a x → Sharing room (a :: past) g x

variable {room : Nat} {past : List Action} {a : Action} {g x : Handle} {name source target : String}

theorem wellFormed_history (room : Nat) (past : List Action) :
    (history room past).WellFormed := by
  induction past with
  | nil => exact ⟨by simp [history], nofun⟩
  | cons a past ih => exact ih.after a

theorem known_of_handle (h : (history room past).handle name = .ok g) : Known room past g := by
  cases past with
  | nil => cases h
  | cons a past => exact .inr ⟨name, h⟩

/-- What was known is still there. -/
theorem Known.has (h : Known room past g) : (history room past).Has g := by
  induction past with
  | nil => cases h
  | cons a past ih =>
    rcases h with hold | ⟨name, hheld⟩
    · exact has_after (wellFormed_history room past) (ih hold) a
    · exact (wellFormed_history room (a :: past)).registers name g hheld

/-- All objects are known. -/
theorem known_object {o : Nat} (h : (history room past).Has (.object o)) :
    Known room past (.object o) := by
  induction past with
  | nil => cases h
  | cons a past ih =>
    by_cases hsucceeds : (history room past).Succeeds a
    · exact (has_or_held_of_perform (wellFormed_history room past) hsucceeds.perform h).imp_left ih
    · rw [history, after_of_not_succeeds hsucceeds] at h
      exact .inl (ih h)

/-! ## Sharing is having the same cell -/

theorem Shares.not_pops (h : Shares a source target) (m : Memory) (g : Handle) : ¬Pops m a g := by
  rintro ⟨register, count, into, rfl, -⟩
  cases h

theorem Sharing.known (h : Sharing room past g x) : Known room past g ∧ Known room past x := by
  induction h with
  | same hknown => exact ⟨hknown, hknown⟩
  | symm _ ih => exact ih.symm
  | trans _ _ ih ih' => exact ⟨ih.1, ih'.2⟩
  | made _ _ hsource htarget => exact ⟨known_of_handle htarget, .inl (known_of_handle hsource)⟩
  | kept _ _ _ ih => exact ⟨.inl ih.1, .inl ih.2⟩

theorem Sharing.cellOf_eq (h : Sharing room past g x) :
    (history room past).cellOf g = (history room past).cellOf x := by
  induction h with
  | same => rfl
  | symm _ ih => exact ih.symm
  | trans _ _ ih ih' => exact ih.trans ih'
  | @made past a source target g x hshares hsucceeds hsource htarget =>
    have hm := wellFormed_history room past
    have hx : (history room past).Has x := hm.registers source x hsource
    -- Being shared is no pop, so the operand still has the cell that the result was given.
    rw [history, cellOf_after hm hx (hshares.not_pops _ x)]
    exact cellOf_of_shares hm hsucceeds.perform hshares hsource htarget
  | @kept past a g x hsharing hg hx ih =>
    have hm := wellFormed_history room past
    obtain ⟨hknown, hknown'⟩ := hsharing.known
    rw [history, cellOf_after hm hknown.has hg, cellOf_after hm hknown'.has hx, ih]

/-- Where a handle is from that is known after one more action. -/
inductive Origin (room : Nat) (past : List Action) (a : Action) (g : Handle) : Prop where
  /-- It shares with something that was known before, and that has not moved away. -/
  | old {x : Handle} : Known room past x → ¬Pops (history room past) a x →
      Sharing room (a :: past) g x → Origin room past a g
  /-- It was known before and has moved away. -/
  | moved : Known room past g → Pops (history room past) a g → Origin room past a g
  /-- It is the result of the action. -/
  | result {target : String} : Makes (history room past) a target →
      (history room (a :: past)).handle target = .ok g →
      (history room past).Apart (history room (a :: past)) g → Origin room past a g

theorem origin (h : Known room (a :: past) g) : Origin room past a g := by
  have hm := wellFormed_history room past
  have hknown (hold : Known room past g) : Origin room past a g := by
    by_cases hpops : Pops (history room past) a g
    · exact .moved hold hpops
    · exact .old hold hpops (.kept (.same hold) hpops hpops)
  rcases h with hold | ⟨name, hheld⟩
  · exact hknown hold
  by_cases hsucceeds : (history room past).Succeeds a
  case neg =>
    -- The registers still hold what they held.
    rw [history, after_of_not_succeeds hsucceeds] at hheld
    exact hknown (known_of_handle hheld)
  obtain ⟨n, hn⟩ | ⟨hmakes, hapart⟩ | ⟨source, x, hshares, hsource, -⟩ :=
    held_of_perform hm hsucceeds.perform hheld
  · exact hknown (known_of_handle hn)
  · exact .result hmakes hheld hapart
  · exact .old (known_of_handle hsource) (hshares.not_pops _ x)
      (.made hshares hsucceeds hsource hheld)

/-- Handles that are known and have the same cell share it. -/
theorem sharing_of_cellOf_eq (hg : Known room past g) (hx : Known room past x)
    (heq : (history room past).cellOf g = (history room past).cellOf x) :
    Sharing room past g x := by
  induction past generalizing g x with
  | nil => cases hg
  | cons a past ih =>
    have hm := wellFormed_history room past
    have hkeeps {z : Handle} (hz : Known room past z) (hstays : ¬Pops (history room past) a z) :
        (history room (a :: past)).cellOf z = (history room past).cellOf z :=
      cellOf_after hm hz.has hstays
    have hmoves {z w : Handle} (hz : Known room past z) (hstays : ¬Pops (history room past) a z)
        (hpops : Pops (history room past) a w) :
        (history room (a :: past)).cellOf z ≠ (history room (a :: past)).cellOf w := by
      refine cellOf_ne_of_pops hm hpops hz.has ?_
      rintro rfl
      exact hstays hpops
    -- What has moved away, and what is new, has a cell that only itself has.
    cases origin hg with
    | @old z hz hstays hshares =>
      cases origin hx with
      | @old w hw hstays' hshares' =>
        have hcells : (history room past).cellOf z = (history room past).cellOf w := by
          rw [← hkeeps hz hstays, ← hkeeps hw hstays', ← hshares.cellOf_eq, heq,
            hshares'.cellOf_eq]
        exact hshares.trans ((Sharing.kept (ih hz hw hcells) hstays hstays').trans hshares'.symm)
      | moved _ hpops => exact absurd (hshares.cellOf_eq.symm.trans heq) (hmoves hz hstays hpops)
      | result _ _ hapart => exact absurd (heq.symm.trans hshares.cellOf_eq) (hapart z hz.has)
    | moved hold hpops =>
      cases origin hx with
      | old hw hstays hshares =>
        exact absurd (hshares.cellOf_eq.symm.trans heq.symm) (hmoves hw hstays hpops)
      | moved _ hpops' =>
        obtain rfl := hpops.unique hpops'
        exact .same (.inl hold)
      | result _ _ hapart => exact absurd heq.symm (hapart g hold.has)
    | result hmakes hheld hapart =>
      cases origin hx with
      | old hw _ hshares => exact absurd (heq.trans hshares.cellOf_eq) (hapart _ hw.has)
      | moved hold => exact absurd heq (hapart x hold.has)
      | result hmakes' hheld' =>
        obtain rfl := hmakes.unique hmakes'
        obtain rfl := Except.ok.inj (hheld.symm.trans hheld')
        exact .same (.inr ⟨_, hheld⟩)

/-- **No operation on an object writes to memory that is there.** After any actions, whatever comes
next changes only a cell that it writes or extends in place as a buffer, changes the bytes of an
object only by a pop of its own or through a buffer that has its cell, leaves the old object of a
sum as it was, lets an object that is popped share with nothing any more while all others keep their
cell and bytes, and has a result that shares with nothing that was there. Two handles that a program
has held, and these include all objects, have the same cell exactly if they share it by a chain of
constructions and decodings without a copy and without a length. -/
theorem operations_never_write (room : Nat) (past : List Action) :
    (∀ a, (history room past).Frame a) ∧
    (∀ o, (history room past).Has (.object o) → Known room past (.object o)) ∧
    ∀ g x, Known room past g → Known room past x →
      ((history room past).cellOf g = (history room past).cellOf x ↔ Sharing room past g x) :=
  ⟨frame (wellFormed_history room past), fun _ => known_object,
    fun _ _ hg hx => ⟨sharing_of_cellOf_eq hg hx, Sharing.cellOf_eq⟩⟩

/-- What was made without a copy from an object still shares with its source after the object was
popped, and the object itself does not. -/
theorem operations_never_write_popped :
    let room := 1024
    let past : List Action :=
      [.step (.pop "a" 1 "front"), .step (.construct "b" (.register "a") false none),
        .step (.construct "a" (.register "source") false none), .step (.buffer "source" [1, 2])]
    Sharing room past (.object 1) (.buffer 0) ∧ ¬Sharing room past (.object 0) (.buffer 0) := by
  intro room past
  obtain ⟨-, hobjects, hsharing⟩ := operations_never_write room past
  have ha : Known room past (.object 0) := hobjects 0 (show 0 < 3 by decide)
  have hb : Known room past (.object 1) := hobjects 1 (show 1 < 3 by decide)
  have hsource : (history room past).handle "source" = .ok (.buffer 0) := rfl
  have hcells :
      (history room past).cellOf (.object 1) = (history room past).cellOf (.buffer 0) := rfl
  refine ⟨(hsharing _ _ hb (known_of_handle hsource)).mp hcells, fun h => ?_⟩
  have hmoved := (hsharing _ _ ha (known_of_handle hsource)).mpr h
  cases hmoved

/-- A length of zero counts as none: the object shares the cell that it is made from. -/
theorem zero_length_shares :
    let m := history 1024 [.step (.buffer "source" [1, 2])]
    let a := Action.step (.construct "a" (.register "source") false (some 0))
    m.Succeeds a ∧ m.Has (.buffer 0) ∧ (m.after a).handle "a" = .ok (.object 0) ∧
      (m.after a).cellOf (.object 0) = (m.after a).cellOf (.buffer 0) :=
  ⟨⟨_, rfl⟩, Nat.one_pos, rfl, rfl⟩

end LedgerNet.Memory
