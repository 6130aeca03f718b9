import LedgerNet.Ledger.Block

/-!
# Failures of reading

A reading error has a text of its own, unless it would show a number of too many digits. Whoever
reads a block never asks for so many bytes: a count that was read is compared with a limit first. So
every failure to read a block can be told.

## Main statements

- `Tells.bind`: a reader made of two tells its errors if both do.
- `exists_message_of_ofOctets`: bytes that hold no block fail with a text.
-/

namespace LedgerNet

/-! ## Numbers in texts -/

namespace Text

theorem numeral?_of_isWritable {n : Int} (h : isWritable n) : numeral? n = some (toString n) := by
  rw [numeral?, if_pos h]

/-- A number up to one that can be written can be written. -/
theorem isWritable_of_le {n : Nat} {limit : Int} (hlimit : isWritable limit) (h : n ≤ limit) :
    isWritable n := by
  unfold isWritable at hlimit ⊢
  rw [decide_eq_true_iff] at hlimit ⊢
  omega

end Text

namespace Ledger

/-! ## Readers that tell -/

namespace Reader

variable {α β : Type} {r : Reader α}

/-- Every error of the reader has a text. -/
def Tells (r : Reader α) : Prop :=
  ∀ b e rest, r b = .error e rest → ∃ m, e.message? = some m

theorem tells_pure (x : α) : Tells (pure x : Reader α) := by
  intro b e rest h
  cases h

theorem Tells.bind (hr : Tells r) {f : α → Reader β} (hf : ∀ x, Tells (f x)) :
    Tells (r >>= f) := by
  intro b e rest h
  -- Either the first reader failed, or the second did on what was left.
  simp only [Bind.bind, EStateM.bind] at h
  cases hread : r b with
  | ok x mid =>
    rw [hread] at h
    exact hf x mid e rest h
  | error e' mid =>
    rw [hread] at h
    injection h with he
    subst he
    exact hr b e' mid hread

theorem Tells.map (hr : Tells r) (f : α → β) : Tells (f <$> r) := by
  intro b e rest h
  simp only [Functor.map, EStateM.map] at h
  cases hread : r b with
  | ok x mid =>
    rw [hread] at h
    cases h
  | error e' mid =>
    rw [hread] at h
    injection h with he
    subst he
    exact hr b e' mid hread

/-- A reader that may be refused tells its errors if the refusal has a text. -/
theorem tells_refuse {p : Prop} [Decidable p] {e : ReadError} (he : ∃ m, e.message? = some m)
    {k : β → Reader α} (hr : ¬p → Tells r) : Tells (if p then throw e >>= k else r) := by
  intro b e' rest h
  split at h
  · cases h
    exact he
  · rename_i hp
    exact hr hp b e' rest h

theorem tells_take {n : Nat} (h : Text.isWritable n) : Tells (take n) := by
  intro b e rest hread
  unfold take at hread
  split at hread
  · cases hread
  · cases hread
    rw [ReadError.message?, Text.numeral?_of_isWritable h]
    exact ⟨_, rfl⟩

theorem tells_number {w : Nat} (h : Text.isWritable w) : Tells (number w) :=
  (tells_take h).map _

theorem Tells.times (hr : Tells r) (count : Nat) : Tells (times r count) := by
  induction count with
  | zero => exact tells_pure []
  | succ count ih => exact hr.bind fun x => ih.bind fun xs => tells_pure (x :: xs)

end Reader

/-! ## Blocks -/

open Reader

theorem tells_readWide {mark width least : Nat} (h : Text.isWritable width) :
    Tells (readWide mark width least) :=
  (tells_number h).bind fun n => tells_refuse ⟨_, rfl⟩ fun _ => tells_pure n

theorem tells_varInt : Tells VarInt.read := by
  refine (tells_number (by decide +kernel)).bind fun mark => ?_
  split
  · exact tells_readWide (by decide +kernel)
  split
  · exact tells_readWide (by decide +kernel)
  split
  · exact tells_readWide (by decide +kernel)
  · exact tells_pure mark

theorem tells_varBytes {limit : Int} (hlimit : Text.isWritable limit) (field : String) :
    Tells (VarBytes.read limit field) := by
  refine tells_varInt.bind fun count => ?_
  have hoversized : ∃ m, (ReadError.oversized field count limit).message? = some m := by
    rw [ReadError.message?, Text.numeral?_of_isWritable hlimit]
    exact ⟨_, rfl⟩
  -- The bytes are asked for only when there are not too many of them.
  refine tells_refuse hoversized fun hle => ?_
  exact tells_take (Text.isWritable_of_le hlimit (Int.not_lt.mp hle))

theorem tells_input : Tells Input.decode :=
  (tells_take (by decide +kernel)).bind fun _ =>
    (tells_number (by decide +kernel)).bind fun _ =>
      (tells_varBytes (by decide +kernel) _).bind fun _ =>
        (tells_number (by decide +kernel)).bind fun _ => tells_pure _

theorem tells_output : Tells Output.decode :=
  (tells_number (by decide +kernel)).bind fun _ =>
    (tells_varBytes (by decide +kernel) _).bind fun _ => tells_pure _

theorem tells_tx : Tells Tx.decode :=
  (tells_number (by decide +kernel)).bind fun _ =>
    (tells_number (by decide +kernel)).bind fun _ =>
      tells_varInt.bind fun inputCount => tells_refuse ⟨_, rfl⟩ fun _ =>
        (tells_input.times inputCount).bind fun _ =>
          tells_varInt.bind fun outputCount => tells_refuse ⟨_, rfl⟩ fun _ =>
            (tells_output.times outputCount).bind fun _ =>
              (tells_number (by decide +kernel)).bind fun _ => tells_pure _

theorem tells_available : Tells Header.available := by
  intro b e rest h
  unfold Header.available at h
  split at h
  · cases h
    exact ⟨_, rfl⟩
  · cases h

theorem tells_header : Tells Header.decode :=
  tells_available.bind fun _ =>
    (tells_number (by decide +kernel)).bind fun _ =>
      (tells_take (by decide +kernel)).bind fun _ =>
        (tells_take (by decide +kernel)).bind fun _ =>
          (tells_number (by decide +kernel)).bind fun _ =>
            (tells_number (by decide +kernel)).bind fun _ =>
              (tells_number (by decide +kernel)).bind fun _ => tells_pure _

theorem tells_block : Tells Block.decode :=
  tells_header.bind fun _ =>
    tells_varInt.bind fun count =>
      (tells_tx.times count).bind fun _ =>
        (tells_varBytes (by decide +kernel) _).bind fun _ => tells_pure _

/-- Bytes that hold no block fail with a text. -/
theorem exists_message_of_ofOctets {b : Octets} {e : ReadError} (h : Block.ofOctets b = .error e) :
    ∃ m, e.message? = some m := by
  unfold Block.ofOctets at h
  split at h
  · rename_i e' rest hread
    cases h
    exact tells_block b e rest hread
  · cases h
  · cases h
    exact ⟨_, rfl⟩

end Ledger

end LedgerNet
