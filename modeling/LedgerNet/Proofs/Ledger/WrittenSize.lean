import LedgerNet.Proofs.Ledger.TransactionFormat

/-!
# Sizes of what is written

Whatever is written takes at least the bytes of its fixed fields and of its shortest length, and no
part is longer than the whole. So the limits of the reader, which are set by these least sizes,
cannot turn away a transaction that fits in a message.

## Main statements

- `Input.size_le`, `Output.size_le`, `Tx.size_le`: the least sizes.
- `Tx.inWireRange_of_fits`: a transaction that fits in a message is in wire range.
- `fitting_tx_read_back`: it is read back whole.
-/

namespace LedgerNet.Ledger

open Octets (FieldError)
open Outcome (bind_eq_ok_iff pure_eq_ok_iff)

/-! ## Numbers and byte strings -/

theorem VarInt.Form.length_pos {n : Nat} {c : Octets} (h : Form n c) : 0 < c.length := by
  cases h with
  | alone hn hc => simp [Octets.length_of_fieldLE hc]
  | two hn hc => simp
  | four hn hc => simp
  | eight hn hc => simp

theorem length_pos_of_varInt {n : Nat} {c : Octets} (h : VarInt.write n = .ok c) : 0 < c.length :=
  (VarInt.write_eq_ok_iff.mp h).length_pos

/-- A byte string is written longer than it is. -/
theorem length_lt_of_varBytes {d c : Octets} (h : VarBytes.write d = .ok c) :
    d.length < c.length := by
  obtain ⟨e, he, rfl⟩ := varBytes_write_eq_ok_iff.mp h
  have hpos := length_pos_of_varInt he
  rw [List.length_append]
  omega

/-! ## Sequences -/

section Sequences

variable {α : Type} {write : α → Except FieldError Octets} {xs : List α} {x : α} {c : Octets}

/-- A sequence takes at least as many bytes as its elements, each of at least `n` bytes. -/
theorem size_le_of_encodeAll {n : Nat} (hsize : ∀ x c, write x = .ok c → n ≤ c.length)
    (h : encodeAll write xs = .ok c) : n * xs.length ≤ c.length := by
  induction xs generalizing c with
  | nil => exact Nat.zero_le _
  | cons x xs ih =>
    simp only [encodeAll, bind_eq_ok_iff, pure_eq_ok_iff] at h
    obtain ⟨a, ha, as, has, rfl⟩ := h
    have hfirst := hsize x a ha
    have hothers := ih has
    rw [List.length_cons, List.length_append, Nat.mul_succ]
    omega

/-- No element of a sequence is longer than the sequence. -/
theorem exists_of_mem_encodeAll (hx : x ∈ xs) (h : encodeAll write xs = .ok c) :
    ∃ a, write x = .ok a ∧ a.length ≤ c.length := by
  induction xs generalizing c with
  | nil => cases hx
  | cons y xs ih =>
    simp only [encodeAll, bind_eq_ok_iff, pure_eq_ok_iff] at h
    obtain ⟨b, hb, as, has, rfl⟩ := h
    rw [List.length_append]
    rcases List.mem_cons.mp hx with rfl | hx
    · exact ⟨b, hb, Nat.le_add_right _ _⟩
    · obtain ⟨a, ha, hle⟩ := ih hx has
      exact ⟨a, ha, Nat.le_add_left_of_le hle⟩

end Sequences

/-! ## Transactions -/

theorem Input.size_le {i : Input} {c : Octets} (h : i.encode = .ok c) :
    minInputSize + i.script.length ≤ c.length := by
  obtain ⟨c₁, hc₁, c₂, hc₂, c₃, hc₃, c₄, hc₄, rfl⟩ := Input.encode_eq_ok_iff.mp h
  have hscript := length_lt_of_varBytes hc₃
  simp only [List.length_append, Octets.length_of_pad hc₁, Octets.length_of_fieldLE hc₂,
    Octets.length_of_fieldLE hc₄, minInputSize, hashSize]
  omega

theorem Output.size_le {o : Output} {c : Octets} (h : o.encode = .ok c) :
    minOutputSize + o.script.length ≤ c.length := by
  obtain ⟨c₁, hc₁, c₂, hc₂, rfl⟩ := Output.encode_eq_ok_iff.mp h
  have hscript := length_lt_of_varBytes hc₂
  simp only [List.length_append, Octets.length_of_fieldLE hc₁, minOutputSize]
  omega

/-- The fewest bytes of a transaction: version, time, two numbers and lock time. -/
def minTxSize : Nat := 14

/-- A transaction takes its own least size and that of each of its inputs and outputs. -/
theorem Tx.size_le {t : Tx} {c : Octets} (h : t.encode = .ok c) :
    minTxSize + minInputSize * t.inputs.length + minOutputSize * t.outputs.length ≤ c.length := by
  obtain ⟨c₁, hc₁, c₂, hc₂, c₃, hc₃, c₄, hc₄, c₅, hc₅, c₆, hc₆, c₇, hc₇, rfl⟩ :=
    Tx.encode_eq_ok_iff.mp h
  have hinputs := size_le_of_encodeAll (n := minInputSize)
    (fun i e he => Nat.le_of_add_right_le (Input.size_le he)) hc₄
  have houtputs := size_le_of_encodeAll (n := minOutputSize)
    (fun o e he => Nat.le_of_add_right_le (Output.size_le he)) hc₆
  have hinputCount := length_pos_of_varInt hc₃
  have houtputCount := length_pos_of_varInt hc₅
  simp only [List.length_append, Octets.length_of_fieldLE hc₁, Octets.length_of_fieldLE hc₂,
    Octets.length_of_fieldLE hc₇, minTxSize]
  omega

/-- A script is no longer than the transaction that it is in. -/
theorem Tx.script_le {t : Tx} {c : Octets} (h : t.encode = .ok c) :
    (∀ i ∈ t.inputs, i.script.length ≤ c.length) ∧
      ∀ o ∈ t.outputs, o.script.length ≤ c.length := by
  obtain ⟨c₁, -, c₂, -, c₃, -, c₄, hc₄, c₅, -, c₆, hc₆, c₇, -, rfl⟩ :=
    Tx.encode_eq_ok_iff.mp h
  simp only [List.length_append]
  constructor
  · intro i hi
    obtain ⟨e, he, hle⟩ := exists_of_mem_encodeAll hi hc₄
    have hscript := Input.size_le he
    omega
  · intro o ho
    obtain ⟨e, he, hle⟩ := exists_of_mem_encodeAll ho hc₆
    have hscript := Output.size_le he
    omega

/-! ## Transactions that fit in a message -/

/-- As many parts of at least `n` bytes as fit in a message are no more than its reader admits. -/
theorem count_le_of_fits {n count : Nat} (hn : 0 < n) (h : n * count ≤ maxPayload) :
    count ≤ maxPayload / n + 1 := by
  have hcount : count ≤ maxPayload / n := by
    rw [Nat.le_div_iff_mul_le hn, Nat.mul_comm]
    exact h
  omega

/-- A transaction that can be written, with hashes of the right size, is in wire range if it fits
in a message. -/
theorem Tx.inWireRange_of_fits {t : Tx} {c : Octets}
    (hhash : ∀ i ∈ t.inputs, i.previous.hash.length = hashSize) (h : t.encode = .ok c)
    (hfits : c.length ≤ maxPayload) : t.InWireRange := by
  -- Counts and scripts are bounded by the size, all else is a field that could be written.
  have hsize := Tx.size_le h
  obtain ⟨hinputScript, houtputScript⟩ := Tx.script_le h
  obtain ⟨c₁, hc₁, c₂, hc₂, c₃, -, c₄, hc₄, c₅, -, c₆, hc₆, c₇, hc₇, -⟩ :=
    Tx.encode_eq_ok_iff.mp h
  refine {
    version := Octets.fits_of_fieldLE hc₁
    time := Octets.fits_of_fieldLE hc₂
    inputCount := count_le_of_fits (n := minInputSize) (by decide) (by omega)
    inputs := ?inputs
    outputCount := count_le_of_fits (n := minOutputSize) (by decide) (by omega)
    outputs := ?outputs
    lockTime := Octets.fits_of_fieldLE hc₇ }
  case inputs =>
    intro i hi
    obtain ⟨e, he, -⟩ := exists_of_mem_encodeAll hi hc₄
    obtain ⟨-, -, e₂, he₂, -, -, e₄, he₄, -⟩ := Input.encode_eq_ok_iff.mp he
    exact {
      hash := hhash i hi
      index := Octets.fits_of_fieldLE he₂
      script := Nat.le_trans (hinputScript i hi) hfits
      sequence := Octets.fits_of_fieldLE he₄ }
  case outputs =>
    intro o ho
    obtain ⟨e, he, -⟩ := exists_of_mem_encodeAll ho hc₆
    obtain ⟨e₁, he₁, -⟩ := Output.encode_eq_ok_iff.mp he
    exact {
      value := Octets.fits_of_fieldLE he₁
      script := Nat.le_trans (houtputScript o ho) hfits }

/-- **The limits of the reader never turn away a transaction that fits in a message.** A transaction
with hashes of the right size that can be written, and takes no more than a message holds, is read
back whole from what was written, and nothing is left, however many inputs and outputs it has and
however long their scripts are. -/
theorem fitting_tx_read_back {t : Tx} {c : Octets}
    (hhash : ∀ i ∈ t.inputs, i.previous.hash.length = hashSize) (h : t.encode = .ok c)
    (hfits : c.length ≤ maxPayload) : Tx.decode c = .ok t [] := by
  have hrange := Tx.inWireRange_of_fits hhash h hfits
  have hread := exact_tx.read_write hrange h []
  rwa [List.append_nil] at hread

/-- A transaction with so many inputs that their number needs a mark is read back. -/
theorem fitting_tx_read_back_many :
    let input : Input := { previous := ⟨List.replicate 32 7, 5⟩, script := [0x51, 0x52] }
    let t : Tx := { inputs := List.replicate 300 input, outputs := [{ value := 9 }] }
    (∀ i ∈ t.inputs, i.previous.hash.length = hashSize) ∧
      ∃ c, t.encode = .ok c ∧ c.length ≤ maxPayload ∧ Tx.decode c = .ok t [] := by
  intro input t
  have hhash : ∀ i ∈ t.inputs, i.previous.hash.length = hashSize := by
    intro i hi
    rw [List.eq_of_mem_replicate hi]
    rfl
  have hsize : t.encode.map List.length = .ok 12925 := by decide +kernel
  cases h : t.encode with
  | error e =>
    rw [h] at hsize
    cases hsize
  | ok c =>
    rw [h] at hsize
    have hlength : c.length = 12925 := Except.ok.inj hsize
    have hfits : c.length ≤ maxPayload := by
      rw [hlength]
      decide
    exact ⟨hhash, c, rfl, hfits, fitting_tx_read_back hhash h hfits⟩

end LedgerNet.Ledger
