import LedgerNet.Ledger.Transaction
import LedgerNet.Proofs.Ledger.VarIntFormat

/-!
# The transaction format

Which transactions the wire can carry, and that reading and writing them undo each other inside a
stream: a transaction is read exactly where its bytes stand in front of a buffer, and whatever
follows is left.

## Main statements

- `exact_tx`: reading a transaction is exact for writing it.
- `selfDelimiting_tx`: no serialized transaction continues another, in wire range or not.
- `txFormat_exact`: both directions together, with what they say about two transactions.
-/

namespace LedgerNet.Ledger

open Octets (Fits fieldLE pad)
open Outcome (bind_eq_ok_iff pure_eq_ok_iff)

/-! ## Wire range -/

/-- An input that can be read from the wire. -/
structure Input.InWireRange (i : Input) : Prop where
  hash : i.previous.hash.length = hashSize
  index : Fits 4 i.previous.index
  script : i.script.length ≤ maxPayload
  sequence : Fits 4 i.sequence

/-- An output that can be read from the wire. -/
structure Output.InWireRange (o : Output) : Prop where
  value : Fits 8 o.value
  script : o.script.length ≤ maxPayload

/-- A transaction that can be read from the wire. -/
structure Tx.InWireRange (t : Tx) : Prop where
  version : Fits 4 t.version
  time : Fits 4 t.time
  inputCount : t.inputs.length ≤ maxInputs
  inputs : ∀ i ∈ t.inputs, i.InWireRange
  outputCount : t.outputs.length ≤ maxOutputs
  outputs : ∀ o ∈ t.outputs, o.InWireRange
  lockTime : Fits 4 t.lockTime

instance (i : Input) : Decidable i.InWireRange :=
  decidable_of_iff (i.previous.hash.length = hashSize ∧ Fits 4 i.previous.index ∧
      i.script.length ≤ maxPayload ∧ Fits 4 i.sequence)
    ⟨fun ⟨hash, index, script, sequence⟩ => ⟨hash, index, script, sequence⟩,
      fun h => ⟨h.hash, h.index, h.script, h.sequence⟩⟩

instance (o : Output) : Decidable o.InWireRange :=
  decidable_of_iff (Fits 8 o.value ∧ o.script.length ≤ maxPayload)
    ⟨fun ⟨value, script⟩ => ⟨value, script⟩, fun h => ⟨h.value, h.script⟩⟩

instance (t : Tx) : Decidable t.InWireRange :=
  decidable_of_iff (Fits 4 t.version ∧ Fits 4 t.time ∧
      t.inputs.length ≤ maxInputs ∧ (∀ i ∈ t.inputs, i.InWireRange) ∧
      t.outputs.length ≤ maxOutputs ∧ (∀ o ∈ t.outputs, o.InWireRange) ∧ Fits 4 t.lockTime)
    ⟨fun ⟨version, time, inputCount, inputs, outputCount, outputs, lockTime⟩ =>
        ⟨version, time, inputCount, inputs, outputCount, outputs, lockTime⟩,
      fun h => ⟨h.version, h.time, h.inputCount, h.inputs, h.outputCount, h.outputs, h.lockTime⟩⟩

/-! ## Inputs and outputs -/

/-- The bytes of an input are those of its fields, in order. -/
theorem Input.encode_eq_ok_iff {i : Input} {c : Octets} :
    i.encode = .ok c ↔
      ∃ hash, pad hashSize i.previous.hash = .ok hash ∧
      ∃ index, fieldLE 4 i.previous.index = .ok index ∧
      ∃ script, VarBytes.write i.script = .ok script ∧
      ∃ sequence, fieldLE 4 i.sequence = .ok sequence ∧
        hash ++ (index ++ (script ++ sequence)) = c := by
  simp only [Input.encode, bind_eq_ok_iff, pure_eq_ok_iff, List.append_assoc]

/-- The bytes of an output are those of its fields, in order. -/
theorem Output.encode_eq_ok_iff {o : Output} {c : Octets} :
    o.encode = .ok c ↔
      ∃ value, fieldLE 8 o.value = .ok value ∧
      ∃ script, VarBytes.write o.script = .ok script ∧ value ++ script = c := by
  simp only [Output.encode, bind_eq_ok_iff, pure_eq_ok_iff]

/-- Inputs are read exactly. -/
theorem exact_input : Exact Input.decode Input.InWireRange Input.encode := by
  intro b i rest
  simp only [Input.decode, Reader.bind_eq_ok_iff, Reader.pure_eq_ok_iff]
  constructor
  · rintro ⟨hash, b₁, hhash, index, b₂, hindex, script, b₃, hscript, sequence, b₄, hsequence,
      rfl, rfl⟩
    obtain ⟨hlen, c₁, hc₁, rfl⟩ := (exact_take _ _ _ _).mp hhash
    obtain ⟨c₂, hc₂, rfl⟩ := Reader.number_eq_ok_iff.mp hindex
    obtain ⟨hle, c₃, hc₃, rfl⟩ := (exact_varBytes _ _ _ _ _).mp hscript
    obtain ⟨c₄, hc₄, rfl⟩ := Reader.number_eq_ok_iff.mp hsequence
    refine ⟨⟨hlen, Octets.fits_of_fieldLE hc₂, Int.ofNat_le.mp hle, Octets.fits_of_fieldLE hc₄⟩,
      c₁ ++ (c₂ ++ (c₃ ++ c₄)), ?_, by simp only [List.append_assoc]⟩
    exact Input.encode_eq_ok_iff.mpr ⟨c₁, hc₁, c₂, hc₂, c₃, hc₃, c₄, hc₄, rfl⟩
  · rintro ⟨hrange, c, hc, rfl⟩
    obtain ⟨c₁, hc₁, c₂, hc₂, c₃, hc₃, c₄, hc₄, rfl⟩ := Input.encode_eq_ok_iff.mp hc
    obtain ⟨⟨hash, index⟩, script, sequence⟩ := i
    obtain ⟨index, rfl, hindex⟩ := Reader.exists_number_of_fieldLE hc₂
    obtain ⟨sequence, rfl, hsequence⟩ := Reader.exists_number_of_fieldLE hc₄
    simp only [List.append_assoc]
    exact ⟨hash, _, (exact_take _).read_write hrange.hash hc₁ _, index, _, hindex _, script, _,
      (exact_varBytes _ _).read_write (Int.ofNat_le.mpr hrange.script) hc₃ _, sequence, _,
      hsequence _, rfl, rfl⟩

/-- Outputs are read exactly. -/
theorem exact_output : Exact Output.decode Output.InWireRange Output.encode := by
  intro b o rest
  simp only [Output.decode, Reader.bind_eq_ok_iff, Reader.pure_eq_ok_iff]
  constructor
  · rintro ⟨value, b₁, hvalue, script, b₂, hscript, rfl, rfl⟩
    obtain ⟨c₁, hc₁, rfl⟩ := Reader.number_eq_ok_iff.mp hvalue
    obtain ⟨hle, c₂, hc₂, rfl⟩ := (exact_varBytes _ _ _ _ _).mp hscript
    refine ⟨⟨Octets.fits_of_fieldLE hc₁, Int.ofNat_le.mp hle⟩, c₁ ++ c₂, ?_,
      by simp only [List.append_assoc]⟩
    exact Output.encode_eq_ok_iff.mpr ⟨c₁, hc₁, c₂, hc₂, rfl⟩
  · rintro ⟨hrange, c, hc, rfl⟩
    obtain ⟨c₁, hc₁, c₂, hc₂, rfl⟩ := Output.encode_eq_ok_iff.mp hc
    obtain ⟨value, script⟩ := o
    obtain ⟨value, rfl, hvalue⟩ := Reader.exists_number_of_fieldLE hc₁
    simp only [List.append_assoc]
    exact ⟨value, _, hvalue _, script, _,
      (exact_varBytes _ _).read_write (Int.ofNat_le.mpr hrange.script) hc₂ _, rfl, rfl⟩

/-- Inputs in wire range can be written. -/
theorem Input.InWireRange.exists_encode {i : Input} (h : i.InWireRange) :
    ∃ c, i.encode = .ok c := by
  obtain ⟨c₂, hc₂⟩ := Octets.exists_fieldLE h.index
  obtain ⟨c₃, hc₃⟩ := exists_varBytes_write (Nat.lt_of_le_of_lt h.script (by decide))
  obtain ⟨c₄, hc₄⟩ := Octets.exists_fieldLE h.sequence
  exact ⟨_, Input.encode_eq_ok_iff.mpr
    ⟨_, Octets.pad_of_length_eq h.hash, c₂, hc₂, c₃, hc₃, c₄, hc₄, rfl⟩⟩

/-- Outputs in wire range can be written. -/
theorem Output.InWireRange.exists_encode {o : Output} (h : o.InWireRange) :
    ∃ c, o.encode = .ok c := by
  obtain ⟨c₁, hc₁⟩ := Octets.exists_fieldLE h.value
  obtain ⟨c₂, hc₂⟩ := exists_varBytes_write (Nat.lt_of_le_of_lt h.script (by decide))
  exact ⟨_, Output.encode_eq_ok_iff.mpr ⟨c₁, hc₁, c₂, hc₂, rfl⟩⟩

theorem selfDelimiting_input : SelfDelimiting Input.encode := by
  intro x y c e r s hc he heq
  obtain ⟨c₁, hc₁, c₂, hc₂, c₃, hc₃, c₄, hc₄, rfl⟩ := Input.encode_eq_ok_iff.mp hc
  obtain ⟨e₁, he₁, e₂, he₂, e₃, he₃, e₄, he₄, rfl⟩ := Input.encode_eq_ok_iff.mp he
  simp only [List.append_assoc] at heq
  obtain ⟨rfl, h₂⟩ := selfDelimiting_pad _ hc₁ he₁ heq
  obtain ⟨rfl, h₃⟩ := selfDelimiting_fieldLE _ hc₂ he₂ h₂
  obtain ⟨rfl, h₄⟩ := selfDelimiting_varBytes hc₃ he₃ h₃
  obtain ⟨rfl, hrs⟩ := selfDelimiting_fieldLE _ hc₄ he₄ h₄
  exact ⟨rfl, hrs⟩

theorem selfDelimiting_output : SelfDelimiting Output.encode := by
  intro x y c e r s hc he heq
  obtain ⟨c₁, hc₁, c₂, hc₂, rfl⟩ := Output.encode_eq_ok_iff.mp hc
  obtain ⟨e₁, he₁, e₂, he₂, rfl⟩ := Output.encode_eq_ok_iff.mp he
  simp only [List.append_assoc] at heq
  obtain ⟨rfl, h₂⟩ := selfDelimiting_fieldLE _ hc₁ he₁ heq
  obtain ⟨rfl, hrs⟩ := selfDelimiting_varBytes hc₂ he₂ h₂
  exact ⟨rfl, hrs⟩

/-! ## Transactions -/

/-- The bytes of a transaction are those of its fields, in order, with each sequence behind its
number of elements. -/
theorem Tx.encode_eq_ok_iff {t : Tx} {c : Octets} :
    t.encode = .ok c ↔
      ∃ version, fieldLE 4 t.version = .ok version ∧
      ∃ time, fieldLE 4 t.time = .ok time ∧
      ∃ inputCount, VarInt.write t.inputs.length = .ok inputCount ∧
      ∃ inputs, encodeAll Input.encode t.inputs = .ok inputs ∧
      ∃ outputCount, VarInt.write t.outputs.length = .ok outputCount ∧
      ∃ outputs, encodeAll Output.encode t.outputs = .ok outputs ∧
      ∃ lockTime, fieldLE 4 t.lockTime = .ok lockTime ∧
        version ++ (time ++ (inputCount ++ (inputs ++ (outputCount ++ (outputs ++ lockTime)))))
          = c := by
  simp only [Tx.encode, bind_eq_ok_iff, pure_eq_ok_iff, List.append_assoc]

/-- Transactions are read exactly. -/
theorem exact_tx : Exact Tx.decode Tx.InWireRange Tx.encode := by
  intro b t rest
  simp only [Tx.decode, Reader.bind_eq_ok_iff, Reader.refuse_eq_ok_iff, Reader.pure_eq_ok_iff]
  constructor
  · rintro ⟨version, b₁, hversion, time, b₂, htime, m, b₃, hm, hmle, inputs, b₄, hinputs,
      n, b₅, hn, hnle, outputs, b₆, houtputs, lockTime, b₇, hlockTime, rfl, rfl⟩
    obtain ⟨c₁, hc₁, rfl⟩ := Reader.number_eq_ok_iff.mp hversion
    obtain ⟨c₂, hc₂, rfl⟩ := Reader.number_eq_ok_iff.mp htime
    obtain ⟨-, c₃, hc₃, rfl⟩ := (exact_varInt _ _ _).mp hm
    obtain ⟨⟨rfl, hin⟩, c₄, hc₄, rfl⟩ := (exact_input.times _ _ _ _).mp hinputs
    obtain ⟨-, c₅, hc₅, rfl⟩ := (exact_varInt _ _ _).mp hn
    obtain ⟨⟨rfl, hout⟩, c₆, hc₆, rfl⟩ := (exact_output.times _ _ _ _).mp houtputs
    obtain ⟨c₇, hc₇, rfl⟩ := Reader.number_eq_ok_iff.mp hlockTime
    refine ⟨⟨Octets.fits_of_fieldLE hc₁, Octets.fits_of_fieldLE hc₂, Nat.not_lt.mp hmle, hin,
      Nat.not_lt.mp hnle, hout, Octets.fits_of_fieldLE hc₇⟩,
      c₁ ++ (c₂ ++ (c₃ ++ (c₄ ++ (c₅ ++ (c₆ ++ c₇))))), ?_, by simp only [List.append_assoc]⟩
    exact Tx.encode_eq_ok_iff.mpr
      ⟨c₁, hc₁, c₂, hc₂, c₃, hc₃, c₄, hc₄, c₅, hc₅, c₆, hc₆, c₇, hc₇, rfl⟩
  · rintro ⟨hrange, c, hc, rfl⟩
    obtain ⟨c₁, hc₁, c₂, hc₂, c₃, hc₃, c₄, hc₄, c₅, hc₅, c₆, hc₆, c₇, hc₇, rfl⟩ :=
      Tx.encode_eq_ok_iff.mp hc
    -- A reader returns natural numbers, so the fields of `t` have to be seen as such first.
    obtain ⟨version, time, inputs, outputs, lockTime⟩ := t
    obtain ⟨version, rfl, hversion⟩ := Reader.exists_number_of_fieldLE hc₁
    obtain ⟨time, rfl, htime⟩ := Reader.exists_number_of_fieldLE hc₂
    obtain ⟨lockTime, rfl, hlockTime⟩ := Reader.exists_number_of_fieldLE hc₇
    simp only [List.append_assoc]
    exact ⟨version, _, hversion _, time, _, htime _,
      inputs.length, _, exact_varInt.read_write trivial hc₃ _, Nat.not_lt.mpr hrange.inputCount,
      inputs, _, (exact_input.times _).read_write ⟨rfl, hrange.inputs⟩ hc₄ _,
      outputs.length, _, exact_varInt.read_write trivial hc₅ _, Nat.not_lt.mpr hrange.outputCount,
      outputs, _, (exact_output.times _).read_write ⟨rfl, hrange.outputs⟩ hc₆ _,
      lockTime, _, hlockTime _, rfl, rfl⟩

/-- Transactions in wire range can be written. -/
theorem Tx.InWireRange.exists_encode {t : Tx} (h : t.InWireRange) : ∃ c, t.encode = .ok c := by
  obtain ⟨c₁, hc₁⟩ := Octets.exists_fieldLE h.version
  obtain ⟨c₂, hc₂⟩ := Octets.exists_fieldLE h.time
  obtain ⟨c₃, hc₃⟩ := exists_varInt_write (Nat.lt_of_le_of_lt h.inputCount (by decide))
  obtain ⟨c₄, hc₄⟩ := exists_encodeAll fun i hi => (h.inputs i hi).exists_encode
  obtain ⟨c₅, hc₅⟩ := exists_varInt_write (Nat.lt_of_le_of_lt h.outputCount (by decide))
  obtain ⟨c₆, hc₆⟩ := exists_encodeAll fun o ho => (h.outputs o ho).exists_encode
  obtain ⟨c₇, hc₇⟩ := Octets.exists_fieldLE h.lockTime
  exact ⟨_, Tx.encode_eq_ok_iff.mpr
    ⟨c₁, hc₁, c₂, hc₂, c₃, hc₃, c₄, hc₄, c₅, hc₅, c₆, hc₆, c₇, hc₇, rfl⟩⟩

/-- Serialized transactions delimit themselves, whether or not they are in wire range. -/
theorem selfDelimiting_tx : SelfDelimiting Tx.encode := by
  intro x y c e r s hc he heq
  obtain ⟨c₁, hc₁, c₂, hc₂, c₃, hc₃, c₄, hc₄, c₅, hc₅, c₆, hc₆, c₇, hc₇, rfl⟩ :=
    Tx.encode_eq_ok_iff.mp hc
  obtain ⟨e₁, he₁, e₂, he₂, e₃, he₃, e₄, he₄, e₅, he₅, e₆, he₆, e₇, he₇, rfl⟩ :=
    Tx.encode_eq_ok_iff.mp he
  simp only [List.append_assoc] at heq
  obtain ⟨rfl, h₂⟩ := selfDelimiting_fieldLE _ hc₁ he₁ heq
  obtain ⟨rfl, h₃⟩ := selfDelimiting_fieldLE _ hc₂ he₂ h₂
  -- Equal counts are what lets two sequences be compared element by element.
  obtain ⟨hin, rfl, h₄⟩ := varInt_unique hc₃ he₃ h₃
  obtain ⟨rfl, h₅⟩ := selfDelimiting_encodeAll selfDelimiting_input hin hc₄ he₄ h₄
  obtain ⟨hout, rfl, h₆⟩ := varInt_unique hc₅ he₅ h₅
  obtain ⟨rfl, h₇⟩ := selfDelimiting_encodeAll selfDelimiting_output hout hc₆ he₆ h₆
  obtain ⟨rfl, hrs⟩ := selfDelimiting_fieldLE _ hc₇ he₇ h₇
  exact ⟨rfl, hrs⟩

/-! ## Both directions -/

/-- **The transaction format is exact and delimits itself inside a stream.** A transaction is read
exactly where it is in wire range and its bytes stand in front, and precisely what follows is left;
every transaction in wire range has such bytes; and the bytes of one neither equal nor begin those
of another. -/
theorem txFormat_exact (t : Tx) :
    (∀ b rest, Tx.decode b = .ok t rest ↔
      t.InWireRange ∧ ∃ c, t.encode = .ok c ∧ b = c ++ rest) ∧
    (t.InWireRange → ∃ c, t.encode = .ok c) ∧
    (∀ u c e, t.InWireRange → u.InWireRange → t.encode = .ok c → u.encode = .ok e →
      c <+: e → t = u ∧ c = e) := by
  refine ⟨fun b rest => exact_tx b t rest, fun ht => ht.exists_encode, ?_⟩
  intro u c e ht hu hc he hpre
  obtain ⟨s, rfl⟩ := hpre
  obtain ⟨htu, rfl⟩ := exact_tx.unique ht hu hc he (List.append_nil (c ++ s)).symm
  exact ⟨htu, (List.append_nil c).symm⟩

/-- A transaction whose script needs a marked length is read back from the front of a longer
buffer. -/
theorem txFormat_exact_marked_length :
    let t : Tx := {
      time := 1465189200
      inputs := [{ previous := ⟨zeroHash, maxIndex⟩, script := List.replicate 300 7 }]
      outputs := [{ value := 5000, script := [0x51] }, {}] }
    t.InWireRange ∧ ∃ c, t.encode = .ok c ∧ Tx.decode (c ++ [1, 2]) = .ok t [1, 2] := by
  intro t
  have hrange : t.InWireRange := by decide +kernel
  obtain ⟨hexact, hwritten, -⟩ := txFormat_exact t
  obtain ⟨c, hc⟩ := hwritten hrange
  exact ⟨hrange, c, hc, (hexact _ _).mpr ⟨hrange, c, hc, rfl⟩⟩

end LedgerNet.Ledger
