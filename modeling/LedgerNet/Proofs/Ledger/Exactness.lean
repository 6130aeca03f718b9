import LedgerNet.Ledger.VarInt
import LedgerNet.Proofs.Octets.Fields

/-!
# Exact readers

A reader is *exact* for a writer when it returns a value precisely where that value's written form
stands in front of the buffer, and leaves precisely what stands behind it. Exactness holds the two
directions of a round trip together: what was written is read back, and nothing else is accepted.

## Main statements

- `Exact.unique`: exactly read values are determined by their written forms, whatever follows.
- `Exact.times`: a counted sequence is read exactly if its elements are.
- `SelfDelimiting`, `selfDelimiting_encodeAll`: the same for written forms alone, without a reader
  and therefore without a reader's limits.
-/

namespace LedgerNet.Ledger

open Octets (FieldError Fits fieldLE pad)
open Outcome

/-! ## Steps of a reader -/

namespace Reader

variable {α β : Type} {b rest : Octets}

theorem bind_eq_ok_iff {r : Reader α} {f : α → Reader β} {y : β} :
    (r >>= f) b = .ok y rest ↔ ∃ x mid, r b = .ok x mid ∧ f x mid = .ok y rest :=
  Outcome.bind_state_eq_ok_iff

theorem map_eq_ok_iff {r : Reader α} {f : α → β} {y : β} :
    (f <$> r) b = .ok y rest ↔ ∃ x, r b = .ok x rest ∧ f x = y := by
  cases h : r b <;> simp [Functor.map, EStateM.map, h, and_comm]

theorem pure_eq_ok_iff {x y : α} :
    (pure x : Reader α) b = .ok y rest ↔ x = y ∧ b = rest :=
  Outcome.pure_state_eq_ok_iff

theorem refuse_eq_ok_iff {p : Prop} [Decidable p] {e : ReadError} {k : α → Reader β}
    {r : Reader β} {y : β} :
    (if p then throw e >>= k else r) b = .ok y rest ↔ ¬p ∧ r b = .ok y rest :=
  Outcome.refuse_state_eq_ok_iff

/-- The next `n` bytes are whatever `n` bytes stand in front. -/
theorem take_eq_ok_iff {n : Nat} {x : Octets} :
    take n b = .ok x rest ↔ x.length = n ∧ b = x ++ rest := by
  unfold take
  constructor
  · intro h
    split at h
    · rename_i hle
      injection h with hx hrest
      subst hx hrest
      exact ⟨List.length_take_of_le hle, (List.take_append_drop n b).symm⟩
    · cases h
  · rintro ⟨rfl, rfl⟩
    simp

/-- The next number of `w` bytes is the one whose field stands in front. -/
theorem number_eq_ok_iff {w n : Nat} :
    number w b = .ok n rest ↔ ∃ c, fieldLE w n = .ok c ∧ b = c ++ rest := by
  simp only [number, map_eq_ok_iff, take_eq_ok_iff]
  constructor
  · rintro ⟨c, ⟨rfl, rfl⟩, rfl⟩
    refine ⟨c, ?_, rfl⟩
    exact Octets.fieldLE_eq_ok_iff.mpr
      ⟨Octets.fits_natLE c, (Octets.littleEndian_natLE c).symm⟩
  · rintro ⟨c, hc, rfl⟩
    obtain ⟨hfit, rfl⟩ := Octets.fieldLE_eq_ok_iff.mp hc
    refine ⟨_, ⟨Octets.length_littleEndian w _, rfl⟩, ?_⟩
    rw [Octets.natLE_littleEndian]
    exact Nat.mod_eq_of_lt (Octets.fits_natCast_iff.mp hfit)

/-- The field of an integer is read back as that integer. -/
theorem exists_number_of_fieldLE {w : Nat} {i : Int} {c : Octets} (h : fieldLE w i = .ok c) :
    ∃ n : Nat, i = n ∧ ∀ rest, number w (c ++ rest) = .ok n rest := by
  have hnonneg : 0 ≤ i := (Octets.fieldLE_eq_ok_iff.mp h).1.1
  obtain ⟨n, rfl⟩ := Int.eq_ofNat_of_zero_le hnonneg
  exact ⟨n, rfl, fun rest => number_eq_ok_iff.mpr ⟨c, h, rfl⟩⟩

end Reader

/-! ## Sequences -/

/-- The bytes of a sequence are those of its elements, in order. -/
theorem encodeAll_eq_ok_iff {α : Type} {write : α → Except FieldError Octets} {xs : List α}
    {c : Octets} :
    encodeAll write xs = .ok c ↔ ∃ cs, xs.mapM write = .ok cs ∧ cs.flatten = c := by
  induction xs generalizing c with
  | nil => simp [encodeAll, Outcome.pure_eq_ok_iff]
  | cons x xs ih =>
    simp only [encodeAll, List.mapM_cons, Outcome.bind_eq_ok_iff, Outcome.pure_eq_ok_iff, ih]
    constructor
    · rintro ⟨a, ha, -, ⟨as, has, rfl⟩, rfl⟩
      exact ⟨a :: as, ⟨a, ha, as, has, rfl⟩, List.flatten_cons⟩
    · rintro ⟨-, ⟨a, ha, as, has, rfl⟩, rfl⟩
      exact ⟨a, ha, as.flatten, ⟨as, has, rfl⟩, List.flatten_cons.symm⟩

/-- A sequence has bytes if each of its elements has. -/
theorem exists_encodeAll {α : Type} {write : α → Except FieldError Octets} {xs : List α}
    (h : ∀ x ∈ xs, ∃ c, write x = .ok c) : ∃ c, encodeAll write xs = .ok c := by
  induction xs with
  | nil => exact ⟨[], rfl⟩
  | cons x xs ih =>
    obtain ⟨hx, hxs⟩ := List.forall_mem_cons.mp h
    obtain ⟨a, ha⟩ := hx
    obtain ⟨c, hc⟩ := ih hxs
    refine ⟨a ++ c, ?_⟩
    simp only [encodeAll, ha, hc]
    rfl

/-! ## Exactness -/

section Exact

variable {α : Type}

/-- The reader returns a value exactly where the value lies in a range and its written form stands
in front, and leaves what stands behind. -/
def Exact (read : Reader α) (range : α → Prop) (write : α → Except FieldError Octets) : Prop :=
  ∀ b x rest, read b = .ok x rest ↔ range x ∧ ∃ c, write x = .ok c ∧ b = c ++ rest

variable {read : Reader α} {range : α → Prop} {write : α → Except FieldError Octets}

/-- What was written is read back, and what follows is left. -/
theorem Exact.read_write (h : Exact read range write) {x : α} {c : Octets} (hx : range x)
    (hc : write x = .ok c) (rest : Octets) : read (c ++ rest) = .ok x rest :=
  (h _ _ _).mpr ⟨hx, c, hc, rfl⟩

/-- A value in range is determined by its written form and anything behind it. -/
theorem Exact.unique (h : Exact read range write) {x y : α} {c e r s : Octets} (hx : range x)
    (hy : range y) (hc : write x = .ok c) (he : write y = .ok e) (heq : c ++ r = e ++ s) :
    x = y ∧ r = s := by
  have hread : read (e ++ s) = .ok x r := heq ▸ h.read_write hx hc r
  rw [h.read_write hy he s] at hread
  injection hread with hxy hrs
  exact ⟨hxy.symm, hrs.symm⟩

/-- A sequence of a known number of elements is read exactly if its elements are. -/
theorem Exact.times (h : Exact read range write) (n : Nat) :
    Exact (read.times n) (fun xs => xs.length = n ∧ ∀ x ∈ xs, range x) (encodeAll write) := by
  induction n with
  | zero =>
    intro b xs rest
    simp only [Reader.times, Reader.pure_eq_ok_iff, List.length_eq_zero_iff]
    constructor
    · rintro ⟨rfl, rfl⟩
      exact ⟨⟨rfl, by simp⟩, [], rfl, rfl⟩
    · rintro ⟨⟨rfl, -⟩, c, hc, rfl⟩
      cases hc
      exact ⟨rfl, rfl⟩
  | succ n ih =>
    intro b xs rest
    simp only [Reader.times, Reader.bind_eq_ok_iff, Reader.pure_eq_ok_iff]
    constructor
    · rintro ⟨x, mid, hx, ys, mid', hys, rfl, rfl⟩
      obtain ⟨hrange, c, hc, rfl⟩ := (h _ _ _).mp hx
      obtain ⟨⟨hlen, hall⟩, e, he, rfl⟩ := (ih _ _ _).mp hys
      refine ⟨⟨by simp [hlen], List.forall_mem_cons.mpr ⟨hrange, hall⟩⟩, c ++ e, ?_, ?_⟩
      · simp only [encodeAll, hc, he]
        rfl
      · rw [List.append_assoc]
    · rintro ⟨⟨hlen, hall⟩, c, hc, rfl⟩
      obtain ⟨x, ys, rfl⟩ := List.exists_cons_of_length_eq_add_one hlen
      -- The bytes split into those of the first element and those of the others.
      simp only [encodeAll, Outcome.bind_eq_ok_iff, Outcome.pure_eq_ok_iff] at hc
      obtain ⟨a, ha, e, he, rfl⟩ := hc
      obtain ⟨hrange, hall⟩ := List.forall_mem_cons.mp hall
      have hlen' : ys.length = n := by simpa using hlen
      refine ⟨x, e ++ rest, ?_, ys, rest, ih.read_write ⟨hlen', hall⟩ he rest, rfl, rfl⟩
      rw [List.append_assoc]
      exact h.read_write hrange ha _

end Exact

/-- Bytes of a known number are read exactly, and only a byte string of that size is returned. -/
theorem exact_take (n : Nat) : Exact (Reader.take n) (fun x => x.length = n) (pad n) := by
  intro b x rest
  rw [Reader.take_eq_ok_iff]
  constructor
  · rintro ⟨hlen, rfl⟩
    exact ⟨hlen, x, Octets.pad_of_length_eq hlen, rfl⟩
  · rintro ⟨hlen, c, hc, rfl⟩
    rw [Octets.pad_of_length_eq hlen] at hc
    injection hc with hc
    exact ⟨hlen, by rw [hc]⟩

/-! ## Self-delimiting forms -/

section SelfDelimiting

variable {α : Type}

/-- Two written forms that begin one buffer are the same form: none continues another. -/
def SelfDelimiting (write : α → Except FieldError Octets) : Prop :=
  ∀ ⦃x y : α⦄ ⦃c e r s : Octets⦄, write x = .ok c → write y = .ok e → c ++ r = e ++ s →
    c = e ∧ r = s

/-- Forms of one length delimit themselves. -/
theorem selfDelimiting_of_length {write : α → Except FieldError Octets} {n : Nat}
    (h : ∀ x c, write x = .ok c → c.length = n) : SelfDelimiting write := by
  intro x y c e r s hc he heq
  have hlen : c.length = e.length := (h x c hc).trans (h y e he).symm
  exact List.append_inj heq hlen

theorem selfDelimiting_fieldLE (w : Nat) : SelfDelimiting (fieldLE w) :=
  selfDelimiting_of_length fun _ _ h => Octets.length_of_fieldLE h

theorem selfDelimiting_pad (w : Nat) : SelfDelimiting (pad w) :=
  selfDelimiting_of_length fun _ _ h => Octets.length_of_pad h

/-- Sequences of one number of elements delimit themselves if the elements do. The number has to
be known, because a sequence does not say where it ends. -/
theorem selfDelimiting_encodeAll {write : α → Except FieldError Octets}
    (h : SelfDelimiting write) {xs ys : List α} (hlen : xs.length = ys.length) {c e r s : Octets}
    (hc : encodeAll write xs = .ok c) (he : encodeAll write ys = .ok e)
    (heq : c ++ r = e ++ s) : c = e ∧ r = s := by
  induction xs generalizing ys c e r s with
  | nil =>
    obtain rfl : ys = [] := List.length_eq_zero_iff.mp hlen.symm
    cases hc
    cases he
    exact ⟨rfl, heq⟩
  | cons x xs ih =>
    obtain ⟨y, ys, rfl⟩ := List.exists_cons_of_length_eq_add_one hlen.symm
    simp only [encodeAll, Outcome.bind_eq_ok_iff, Outcome.pure_eq_ok_iff] at hc he
    obtain ⟨a, ha, as, has, rfl⟩ := hc
    obtain ⟨b, hb, bs, hbs, rfl⟩ := he
    -- The first elements take the same bytes off both buffers, which leaves the shorter sequences.
    rw [List.append_assoc, List.append_assoc] at heq
    obtain ⟨rfl, htail⟩ := h ha hb heq
    obtain ⟨rfl, hrs⟩ := ih (by simpa using hlen) has hbs htail
    exact ⟨rfl, hrs⟩

end SelfDelimiting

end LedgerNet.Ledger
