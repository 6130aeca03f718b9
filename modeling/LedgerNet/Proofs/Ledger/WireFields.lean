import LedgerNet.Ledger.Draft
import LedgerNet.Proofs.Ledger.BlockFormat
import LedgerNet.Proofs.Ledger.VarIntSize

/-!
# Fields on the wire

Whatever is serialized is a sequence of fields: integers of a fixed width, hashes, numbers of
variable length that count what follows, and plain bytes. Serializing writes them one by one, so it
succeeds exactly if all of them fit, and otherwise fails for the first that does not.

## Main statements

- `encodeAll_eq_error_iff`: the first part that cannot be written decides how writing fails.
- `Header.encode_eq_fields`, `Tx.encode_eq_fields`, `Block.encode_eq_fields`: serializing writes the
  fields in order.
- `Draft.encode_of_block?`: a draft with all of its parts is serialized as the block that it is.
- `encoding_fails_at_first_misfit`: when serializing fails, how, and what it writes otherwise.
-/

namespace LedgerNet.Ledger

open Octets (FieldError fieldLE littleEndian pad zeros)
open Outcome

/-! ## Sequences -/

section Sequences

variable {α β : Type} {write : α → Except FieldError Octets} {xs ys : List α}

theorem encodeAll_append :
    encodeAll write (xs ++ ys) =
      encodeAll write xs >>= fun b => encodeAll write ys >>= fun c => pure (b ++ c) := by
  induction xs with
  | nil => simp only [List.nil_append, encodeAll, ok_bind, bind_pure]
  | cons x xs ih =>
    simp only [List.cons_append, encodeAll, ih, bind_assoc, pure_bind, List.append_assoc]

theorem encodeAll_flatMap {parts : β → List α} {zs : List β} :
    encodeAll write (zs.flatMap parts) = encodeAll (fun z => encodeAll write (parts z)) zs := by
  induction zs with
  | nil => rfl
  | cons z zs ih => rw [List.flatMap_cons, encodeAll_append, ih, encodeAll]

/-- **The first part that cannot be written decides how writing fails.** -/
theorem encodeAll_eq_error_iff {e : FieldError} :
    encodeAll write xs = .error e ↔
      ∃ before x after, xs = before ++ x :: after ∧ (∀ y ∈ before, ∃ c, write y = .ok c) ∧
        write x = .error e := by
  -- The induction is on the parts: what comes before the one that fails grows with each part.
  induction xs with
  | nil => simp [encodeAll]
  | cons x xs ih =>
    simp only [encodeAll, bind_eq_error_iff, pure_ne_error, and_false, exists_false, or_false, ih]
    constructor
    · rintro (hx | ⟨c, hc, before, y, after, rfl, hbefore, hy⟩)
      · exact ⟨[], x, xs, rfl, by simp, hx⟩
      · exact ⟨x :: before, y, after, rfl, List.forall_mem_cons.mpr ⟨⟨c, hc⟩, hbefore⟩, hy⟩
    · rintro ⟨before, y, after, heq, hbefore, hy⟩
      -- Either the first part is the one that fails, or it is among those before it.
      cases before with
      | nil =>
        obtain ⟨rfl, rfl⟩ := List.cons.inj heq
        exact .inl hy
      | cons z before =>
        obtain ⟨rfl, rfl⟩ := List.cons.inj heq
        obtain ⟨⟨c, hc⟩, hbefore⟩ := List.forall_mem_cons.mp hbefore
        exact .inr ⟨c, hc, before, y, after, rfl, hbefore, hy⟩

end Sequences

/-! ## Fields -/

/-- A field of a serialized form. -/
inductive WireField where
  /-- An integer in four bytes, least significant first. -/
  | word (n : Int)
  /-- An integer in eight bytes, least significant first. -/
  | long (n : Int)
  /-- A hash, in as many bytes as a hash has. -/
  | hash (h : Octets)
  /-- How many elements or bytes follow. -/
  | count (n : Nat)
  /-- Bytes as they are. -/
  | bytes (b : Octets)

namespace WireField

/-- The bytes of a field. -/
def encode : WireField → Except FieldError Octets
  | word n => fieldLE 4 n
  | long n => fieldLE 8 n
  | hash h => pad hashSize h
  | count n => VarInt.write n
  | bytes b => .ok b

/-- An integer lies in the unsigned range of its width, and a hash is not too long. A count fits
unless there are `2 ^ 64` elements or more. -/
def Fits : WireField → Prop
  | word n => Octets.Fits 4 n
  | long n => Octets.Fits 8 n
  | hash h => h.length ≤ hashSize
  | count n => Octets.Fits 8 n
  | bytes _ => True

instance : (f : WireField) → Decidable f.Fits
  | word n => inferInstanceAs (Decidable (Octets.Fits 4 n))
  | long n => inferInstanceAs (Decidable (Octets.Fits 8 n))
  | hash h => inferInstanceAs (Decidable (h.length ≤ hashSize))
  | count n => inferInstanceAs (Decidable (Octets.Fits 8 n))
  | bytes _ => inferInstanceAs (Decidable True)

/-- Why a field does not fit: an integer is negative or too large, or a hash is too long. -/
def Misfit : WireField → FieldError → Prop
  | word n, e => Octets.Misfit 4 n e
  | long n, e => Octets.Misfit 8 n e
  | hash h, e => hashSize < h.length ∧ e = .overflows h.length hashSize
  | count n, e => Octets.Misfit 8 n e
  | bytes _, _ => False

/-- The bytes of a field that fits: a short hash has zeros in front. -/
def form : WireField → Octets
  | word n => littleEndian 4 n.toNat
  | long n => littleEndian 8 n.toNat
  | hash h => zeros (hashSize - h.length) ++ h
  | count n => VarInt.form n
  | bytes b => b

/-- The size of a field that fits. -/
def size : WireField → Nat
  | word _ => 4
  | long _ => 8
  | hash _ => hashSize
  | count n => VarInt.size n
  | bytes b => b.length

variable {f : WireField} {e : FieldError}

theorem encode_eq_ok_iff {c : Octets} : f.encode = .ok c ↔ f.Fits ∧ c = f.form := by
  cases f with
  | word n => exact Octets.fieldLE_eq_ok_iff
  | long n => exact Octets.fieldLE_eq_ok_iff
  | hash h => exact Octets.pad_eq_ok_iff
  | count n => exact VarInt.write_eq_ok_iff_form
  | bytes b => simp [encode, Fits, form, eq_comm]

theorem encode_eq_error_iff : f.encode = .error e ↔ f.Misfit e := by
  cases f with
  | word n => exact Octets.fieldLE_eq_error_iff
  | long n => exact Octets.fieldLE_eq_error_iff
  | hash h => exact Octets.pad_eq_error_iff
  | count n => exact VarInt.write_eq_error_iff
  | bytes b => simp [encode, Misfit]

theorem exists_encode_iff : (∃ c, f.encode = .ok c) ↔ f.Fits := by
  simp only [encode_eq_ok_iff, exists_and_left, exists_eq, and_true]

theorem length_form (h : f.Fits) : f.form.length = f.size := by
  cases f with
  | word n => exact Octets.length_littleEndian 4 n.toNat
  | long n => exact Octets.length_littleEndian 8 n.toNat
  | hash b =>
    have hle : b.length ≤ hashSize := h
    simp only [form, size, zeros, List.length_append, List.length_replicate]
    omega
  | count n => exact VarInt.length_form n
  | bytes b => rfl

/-- A misfit other than a negative integer has a text. -/
theorem Misfit.told (h : f.Misfit e) : e = .negative ∨ ∃ m, e.message? = some m := by
  -- The widths of all fields can be written.
  have hinteger : ∀ {w : Nat} {n : Int}, Text.isWritable w → Octets.Misfit w n e →
      e = .negative ∨ ∃ m, e.message? = some m := by
    rintro w n hw (- | -)
    · exact .inl rfl
    · exact .inr (exists_message_overflows hw _)
  cases f with
  | word n => exact hinteger (by decide +kernel) h
  | long n => exact hinteger (by decide +kernel) h
  | hash b =>
    obtain ⟨-, rfl⟩ := h
    exact .inr (exists_message_overflows (by decide +kernel) _)
  | count n => exact hinteger (by decide +kernel) h
  | bytes b => cases h

end WireField

/-! ## Serializing in fields -/

/-- Serializing is writing these fields in order. It succeeds exactly if all of them fit, with the
bytes of each and the sum of their sizes; it fails exactly for the first that does not fit, and with
a text unless that is a negative integer. -/
structure WritesFields (r : Except FieldError Octets) (fields : List WireField) : Prop where
  succeeds : (∃ c, r = .ok c) ↔ ∀ f ∈ fields, f.Fits
  bytes : ∀ c, r = .ok c → c = fields.flatMap WireField.form
  size : ∀ c, r = .ok c → c.length = (fields.map WireField.size).sum
  fails : ∀ e, r = .error e ↔ ∃ before f after, fields = before ++ f :: after ∧
    (∀ g ∈ before, g.Fits) ∧ f.Misfit e
  told : ∀ e, r = .error e → e = .negative ∨ ∃ m, e.message? = some m

theorem encodeAll_fields_eq_ok_iff {fields : List WireField} {c : Octets} :
    encodeAll WireField.encode fields = .ok c ↔
      (∀ f ∈ fields, f.Fits) ∧ c = fields.flatMap WireField.form := by
  induction fields generalizing c with
  | nil => simp [encodeAll, eq_comm]
  | cons f fields ih =>
    simp only [encodeAll, bind_eq_ok_iff, pure_eq_ok_iff, WireField.encode_eq_ok_iff, ih,
      List.forall_mem_cons, List.flatMap_cons]
    constructor
    · rintro ⟨-, ⟨hf, rfl⟩, -, ⟨hfields, rfl⟩, rfl⟩
      exact ⟨⟨hf, hfields⟩, rfl⟩
    · rintro ⟨⟨hf, hfields⟩, rfl⟩
      exact ⟨_, ⟨hf, rfl⟩, _, ⟨hfields, rfl⟩, rfl⟩

theorem writesFields_encodeAll (fields : List WireField) :
    WritesFields (encodeAll WireField.encode fields) fields where
  succeeds := by simp only [encodeAll_fields_eq_ok_iff, exists_and_left, exists_eq, and_true]
  bytes c h := (encodeAll_fields_eq_ok_iff.mp h).2
  size c h := by
    obtain ⟨hfits, rfl⟩ := encodeAll_fields_eq_ok_iff.mp h
    rw [List.length_flatMap]
    exact congrArg List.sum (List.map_congr_left fun f hf => WireField.length_form (hfits f hf))
  fails e := by
    simp only [encodeAll_eq_error_iff, WireField.exists_encode_iff, WireField.encode_eq_error_iff]
  told e h := by
    obtain ⟨-, f, -, -, -, hf⟩ := encodeAll_eq_error_iff.mp h
    exact (WireField.encode_eq_error_iff.mp hf).told

/-! ## Transactions and blocks -/

/-- The fields of an input. -/
def Input.fields (i : Input) : List WireField :=
  [.hash i.previous.hash, .word i.previous.index, .count i.script.length, .bytes i.script,
    .word i.sequence]

/-- The fields of an output. -/
def Output.fields (o : Output) : List WireField :=
  [.long o.value, .count o.script.length, .bytes o.script]

/-- The fields of a transaction, in wire order. -/
def Tx.fields (t : Tx) : List WireField :=
  [.word t.version, .word t.time, .count t.inputs.length] ++ t.inputs.flatMap Input.fields ++
    [.count t.outputs.length] ++ t.outputs.flatMap Output.fields ++ [.word t.lockTime]

/-- The fields of a header, in wire order. -/
def Header.fields (h : Header) : List WireField :=
  [.word h.version, .hash h.prevBlock, .hash h.merkleRoot, .word h.timestamp, .word h.bits,
    .word h.nonce]

/-- The fields of a block, in wire order. -/
def Block.fields (b : Block) : List WireField :=
  b.header.fields ++ [.count b.transactions.length] ++ b.transactions.flatMap Tx.fields ++
    [.count b.signature.length, .bytes b.signature]

theorem Input.encode_eq_fields (i : Input) :
    i.encode = encodeAll WireField.encode i.fields := by
  simp only [Input.encode, Input.fields, VarBytes.write, encodeAll, WireField.encode,
    map_eq_pure_bind, ok_bind, bind_assoc, pure_bind, List.append_assoc, List.append_nil]

theorem Output.encode_eq_fields (o : Output) :
    o.encode = encodeAll WireField.encode o.fields := by
  simp only [Output.encode, Output.fields, VarBytes.write, encodeAll, WireField.encode,
    map_eq_pure_bind, ok_bind, bind_assoc, pure_bind, List.append_nil]

/-- The parts of a sequence are written as the fields of all of them. -/
theorem encodeAll_eq_fields {α : Type} {write : α → Except FieldError Octets}
    {fields : α → List WireField} (h : ∀ x, write x = encodeAll WireField.encode (fields x))
    (xs : List α) :
    encodeAll write xs = encodeAll WireField.encode (xs.flatMap fields) := by
  rw [encodeAll_flatMap, funext h]

theorem Tx.encode_eq_fields (t : Tx) : t.encode = encodeAll WireField.encode t.fields := by
  simp only [Tx.encode, Tx.fields, encodeAll_append, encodeAll_eq_fields Input.encode_eq_fields,
    encodeAll_eq_fields Output.encode_eq_fields, encodeAll, WireField.encode, ok_bind, bind_assoc,
    pure_bind, List.append_assoc, List.append_nil]

theorem Header.encode_eq_fields (h : Header) :
    h.encode = encodeAll WireField.encode h.fields := by
  simp only [Header.encode, Header.fields, encodeAll, WireField.encode, ok_bind, bind_assoc,
    pure_bind, List.append_assoc, List.append_nil]

theorem Block.encode_eq_fields (b : Block) : b.encode = encodeAll WireField.encode b.fields := by
  simp only [Block.encode, Block.fields, encodeAll_append, Header.encode_eq_fields,
    encodeAll_eq_fields Tx.encode_eq_fields, VarBytes.write, encodeAll, WireField.encode,
    map_eq_pure_bind, ok_bind, bind_assoc, pure_bind, List.append_assoc, List.append_nil]

/-! ## Drafts -/

namespace Draft

theorem header?_eq_some_iff {d : Draft} {header : Header} :
    d.header? = some header ↔
      ∃ prevBlock, d.prevBlock = some prevBlock ∧ ∃ merkleRoot, d.merkleRoot = some merkleRoot ∧
        (⟨d.version, prevBlock, merkleRoot, d.timestamp, d.bits, d.nonce⟩ : Header) = header := by
  simp only [header?, Option.bind_eq_bind, Option.bind_eq_some_iff, Option.pure_def,
    Option.some.injEq]

theorem encodeHeader_of_header? {d : Draft} {header : Header} (h : d.header? = some header) :
    d.encodeHeader = header.encode.mapError .field := by
  obtain ⟨prevBlock, hprev, merkleRoot, hroot, rfl⟩ := header?_eq_some_iff.mp h
  simp only [encodeHeader, hprev, h, require, ok_bind]
  -- The version and the hash of the block before are written twice, and fail in the same way.
  cases hversion : fieldLE 4 d.version with
  | error e =>
    simp only [Header.encode, hversion, error_bind, Except.mapError]
  | ok version =>
    cases hpad : pad hashSize prevBlock with
    | error e =>
      simp only [Header.encode, hversion, hpad, ok_bind, error_bind, Except.mapError]
    | ok prev => simp only [Except.mapError, ok_bind]

/-- A draft with all of its parts is serialized as the block that it is. -/
theorem encode_of_block? {d : Draft} {b : Block} (h : d.block? = some b) :
    d.encode = b.encode.mapError .field := by
  simp only [block?, Option.bind_eq_bind, Option.bind_eq_some_iff, Option.pure_def,
    Option.some.injEq] at h
  obtain ⟨header, hheader, signature, hsignature, rfl⟩ := h
  simp only [encode, encodeHeader_of_header? hheader, hsignature, require, ok_bind, Block.encode,
    mapError_bind]
  rfl

end Draft

/-! ## When serializing fails -/

/-- **Serializing fails exactly on values that do not fit, and the first one decides how.** For
headers, transactions, blocks and drafts with all of their parts, whatever their integers, hashes,
scripts and signature are: the fields are written in wire order, and a header that is written takes
the bytes of a header. -/
theorem encoding_fails_at_first_misfit (h : Header) (t : Tx) (b : Block) :
    WritesFields h.encode h.fields ∧
    WritesFields t.encode t.fields ∧
    WritesFields b.encode b.fields ∧
    (∀ d : Draft, d.block? = some b → d.encode = b.encode.mapError .field) ∧
    ∀ c, h.encode = .ok c → c.length = headerSize := by
  refine ⟨?header, ?transaction, ?block, fun d => Draft.encode_of_block?,
    fun c => Header.length_of_encode⟩
  case header =>
    rw [Header.encode_eq_fields]
    exact writesFields_encodeAll h.fields
  case transaction =>
    rw [Tx.encode_eq_fields]
    exact writesFields_encodeAll t.fields
  case block =>
    rw [Block.encode_eq_fields]
    exact writesFields_encodeAll b.fields

/-- A short hash is padded; of two integers that do not fit, or of a hash and an integer, the first
in wire order decides. -/
theorem encoding_fails_at_first_misfit_two :
    let b : Block := {
      header := { prevBlock := [1, 2, 3] }, transactions := [{}], signature := [9] }
    let h : Header := { bits := 2 ^ 32, nonce := -1 }
    let t : Tx := { inputs := [{ previous := ⟨Octets.zeros 33, -1⟩, sequence := -1 }] }
    (∃ c, b.encode = .ok c ∧ c.length = 97 ∧ c = b.fields.flatMap WireField.form) ∧
    (Draft.ofBlock b).encode = b.encode.mapError .field ∧
    (∃ c, b.header.encode = .ok c ∧ c.length = headerSize) ∧
    h.encode = .error (.overflows 5 4) ∧
    t.encode = .error (.overflows 33 32) := by
  intro b h t
  obtain ⟨hheader, -, hblock, hdraft, hsize⟩ := encoding_fails_at_first_misfit b.header t b
  obtain ⟨hbad, htx, -, -, -⟩ := encoding_fails_at_first_misfit h t b
  obtain ⟨c, hc⟩ := hblock.succeeds.mpr (by decide +kernel)
  obtain ⟨e, he⟩ := hheader.succeeds.mpr (by decide +kernel)
  refine ⟨⟨c, hc, ?size, hblock.bytes c hc⟩, hdraft _ rfl, ⟨e, he, hsize e he⟩,
    (hbad.fails _).mpr ?bits, (htx.fails _).mpr ?hash⟩
  case size =>
    rw [hblock.size c hc]
    decide +kernel
  case bits =>
    refine ⟨h.fields.take 4, .word (2 ^ 32), [.word (-1)], rfl, by decide +kernel, ?_⟩
    exact .tooLarge (by decide)
  case hash =>
    refine ⟨t.fields.take 3, .hash (Octets.zeros 33), t.fields.drop 4, rfl, by decide +kernel, ?_⟩
    exact ⟨by decide, rfl⟩

end LedgerNet.Ledger
