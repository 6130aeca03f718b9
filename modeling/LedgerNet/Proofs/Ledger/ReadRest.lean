import LedgerNet.Proofs.Ledger.BlockFormat
import LedgerNet.Proofs.Ledger.ReadFailure

/-!
# What reading leaves

Whether a reader succeeds or fails, the bytes that it leaves are the end of the bytes that it was
given: it takes from the front, and puts nothing back. A block header is read whole or not at all.

## Main statements

- `Leaves.bind`: a reader made of two leaves the end of the bytes if both do.
- `header_consumes`: how many bytes the reader of a header takes.
- `tells_varBytes_iff`: which limits on a byte string can be told.
- `readers_fail_cleanly`: how each reader of a block fails.
-/

namespace LedgerNet.Ledger

namespace Reader

variable {α β : Type} {r : Reader α} {f : α → Reader β}

/-! ## The end of the bytes -/

/-- The bytes that are left, after success or failure, are the end of those that were given. -/
def Leaves (r : Reader α) : Prop := ∀ b, (r.outcome b).2 <:+ b

theorem leaves_pure (x : α) : Leaves (pure x : Reader α) := by
  intro b
  exact List.suffix_rfl

theorem Leaves.bind (hr : Leaves r) (hf : ∀ x, Leaves (f x)) : Leaves (r >>= f) := by
  intro b
  have hfirst := hr b
  simp only [outcome, Bind.bind, EStateM.bind] at hfirst ⊢
  cases hread : r b with
  | ok x mid =>
    -- The second reader is given what the first one left.
    rw [hread] at hfirst
    have hsecond : ((f x).outcome mid).2 <:+ mid := hf x mid
    exact hsecond.trans hfirst
  | error e mid =>
    rw [hread] at hfirst
    exact hfirst

theorem Leaves.map (hr : Leaves r) (g : α → β) : Leaves (g <$> r) := by
  intro b
  have hread := hr b
  simp only [outcome, Functor.map, EStateM.map] at hread ⊢
  cases h : r b <;> simpa [h] using hread

/-- A refusal takes nothing. -/
theorem leaves_refuse {p : Prop} [Decidable p] {e : ReadError} {k : β → Reader α}
    (hr : Leaves r) : Leaves (if p then throw e >>= k else r) := by
  intro b
  split
  · exact List.suffix_rfl
  · exact hr b

theorem leaves_take (n : Nat) : Leaves (take n) := by
  intro b
  unfold outcome take
  split_ifs
  · exact List.drop_suffix n b
  · exact List.suffix_rfl

theorem leaves_number (w : Nat) : Leaves (number w) := (leaves_take w).map _

theorem Leaves.times (hr : Leaves r) (count : Nat) : Leaves (times r count) := by
  induction count with
  | zero => exact leaves_pure []
  | succ count ih => exact hr.bind fun x => ih.bind fun xs => leaves_pure (x :: xs)

/-! ## A known number of bytes -/

/-- The reader takes `n` bytes from any buffer that has so many. -/
def Consumes (n : Nat) (r : Reader α) : Prop := ∀ b, n ≤ b.length → ∃ x, r b = .ok x (b.drop n)

theorem consumes_pure (x : α) : Consumes 0 (pure x : Reader α) := by
  intro b _
  exact ⟨x, rfl⟩

theorem consumes_take (n : Nat) : Consumes n (take n) := by
  intro b h
  exact ⟨b.take n, if_pos h⟩

theorem consumes_number (w : Nat) : Consumes w (number w) := by
  intro b h
  obtain ⟨c, hc⟩ := consumes_take w b h
  exact ⟨Octets.natLE c, map_eq_ok_iff.mpr ⟨c, hc, rfl⟩⟩

theorem Consumes.bind {m n : Nat} (hr : Consumes m r) (hf : ∀ x, Consumes n (f x)) :
    Consumes (m + n) (r >>= f) := by
  intro b h
  obtain ⟨x, hx⟩ := hr b (by omega)
  have hrest : n ≤ (b.drop m).length := by
    rw [List.length_drop]
    omega
  obtain ⟨y, hy⟩ := hf x (b.drop m) hrest
  rw [List.drop_drop] at hy
  exact ⟨y, bind_eq_ok_iff.mpr ⟨x, b.drop m, hx, hy⟩⟩

end Reader

open Reader

/-! ## Numbers and byte strings -/

theorem leaves_readWide (mark width least : Nat) : Leaves (readWide mark width least) :=
  (leaves_number width).bind fun n => leaves_refuse (leaves_pure n)

theorem leaves_varInt : Leaves VarInt.read := by
  apply (leaves_number 1).bind
  intro mark
  split_ifs
  · exact leaves_readWide mark 8 0x100000000
  · exact leaves_readWide mark 4 0x10000
  · exact leaves_readWide mark 2 0xfd
  · exact leaves_pure mark

theorem leaves_varBytes (limit : Int) (field : String) : Leaves (VarBytes.read limit field) :=
  leaves_varInt.bind fun count => leaves_refuse (leaves_take count)

/-- A number that was read is one of 64 bits. -/
theorem lt_of_varInt_read {b rest : Octets} {n : Nat} (h : VarInt.read b = .ok n rest) :
    n < 2 ^ 64 := by
  obtain ⟨c, hform, -⟩ := VarInt.read_eq_ok_iff.mp h
  have hfield : ∀ {w : Nat} {d : Octets}, Octets.fieldLE w n = .ok d → n < 256 ^ w := fun hd =>
    Octets.fits_natCast_iff.mp (Octets.fits_of_fieldLE hd)
  cases hform with
  | alone hn hc => omega
  | two hn hc =>
    have hlt := hfield hc
    omega
  | four hn hc =>
    have hlt := hfield hc
    omega
  | eight hn hc =>
    have hlt := hfield hc
    omega

/-- A limit that no count exceeds is never shown. -/
theorem tells_varBytes_of_large {limit : Int} (hlimit : 2 ^ 64 ≤ limit) (field : String) :
    Tells (VarBytes.read limit field) := by
  intro b e rest h
  simp only [VarBytes.read, Bind.bind, EStateM.bind] at h
  cases hcount : VarInt.read b with
  | ok count mid =>
    have hlt := lt_of_varInt_read hcount
    have hfits : ¬limit < count := by omega
    rw [hcount] at h
    simp only [if_neg hfits] at h
    -- The count is small enough to be shown by whoever asks for so many bytes.
    have hshown : Text.isWritable count := by
      have hsmall : Text.isWritable ((2 ^ 64 : Nat) : Int) := by decide +kernel
      exact Text.isWritable_of_le hsmall (by omega)
    exact tells_take hshown mid e rest h
  | error e' mid =>
    rw [hcount] at h
    injection h with he
    subst he
    exact tells_varInt b e' mid hcount

/-- A limit below every number that can be shown is exceeded by every count. -/
theorem varBytes_read_zero {limit : Int} (hlimit : limit < 0) (field : String) (rest : Octets) :
    VarBytes.read limit field (0 :: rest) = .error (.oversized field 0 limit) rest := by
  have hcount : VarInt.read (0 :: rest) = .ok 0 rest := rfl
  have hneg : limit < ((0 : Nat) : Int) := hlimit
  simp only [VarBytes.read, Bind.bind, EStateM.bind, hcount, if_pos hneg]
  rfl

/-- **Every limit can be told but those of too many digits below zero.** A count is compared with
the limit before anything else, and a limit of too many digits above zero is never exceeded. -/
theorem tells_varBytes_iff {limit : Int} {field : String} :
    Tells (VarBytes.read limit field) ↔ -(Nat.pow 10 Text.digitLimit : Nat) < limit := by
  have hbound : Text.isWritable limit = true ↔ limit.natAbs < Nat.pow 10 Text.digitLimit := by
    rw [Text.isWritable, decide_eq_true_iff]
  have hsmall : 2 ^ 64 ≤ Nat.pow 10 Text.digitLimit := by decide +kernel
  constructor
  · intro htells
    by_contra hlow
    -- A count of zero is refused, and the refusal would show the limit.
    have hread := @varBytes_read_zero limit (by omega) field []
    obtain ⟨m, hm⟩ := htells _ _ _ hread
    have hunshown : ¬Text.isWritable limit = true := by
      rw [hbound]
      omega
    rw [ReadError.message?, Text.numeral?, if_neg hunshown] at hm
    cases hm
  · intro hlow
    by_cases hshown : Text.isWritable limit = true
    · exact tells_varBytes hshown field
    · rw [hbound] at hshown
      exact tells_varBytes_of_large (by omega) field

/-! ## Blocks -/

theorem leaves_input : Leaves Input.decode :=
  (leaves_take _).bind fun _ =>
    (leaves_number 4).bind fun _ =>
      (leaves_varBytes _ _).bind fun _ =>
        (leaves_number 4).bind fun _ => leaves_pure _

theorem leaves_output : Leaves Output.decode :=
  (leaves_number 8).bind fun _ =>
    (leaves_varBytes _ _).bind fun _ => leaves_pure _

theorem leaves_tx : Leaves Tx.decode :=
  (leaves_number 4).bind fun _ =>
    (leaves_number 4).bind fun _ =>
      leaves_varInt.bind fun inputCount => leaves_refuse <|
        (leaves_input.times inputCount).bind fun _ =>
          leaves_varInt.bind fun outputCount => leaves_refuse <|
            (leaves_output.times outputCount).bind fun _ =>
              (leaves_number 4).bind fun _ => leaves_pure _

/-- The fields of a header take as many bytes as a header has. -/
theorem header_consumes {b : Octets} :
    if headerSize ≤ b.length then ∃ h, Header.decode b = .ok h (b.drop headerSize)
    else Header.decode b = .error (.shortHeader headerSize b.length) b := by
  split_ifs with hsize
  · have hfields := (consumes_number 4).bind fun version =>
      (consumes_take hashSize).bind fun prevBlock =>
        (consumes_take hashSize).bind fun merkleRoot =>
          (consumes_number 4).bind fun timestamp =>
            (consumes_number 4).bind fun bits =>
              (consumes_number 4).bind fun nonce =>
                consumes_pure ({ version, prevBlock, merkleRoot, timestamp, bits, nonce } : Header)
    obtain ⟨h, hh⟩ := hfields b hsize
    have havailable : Header.available b = .ok () b := if_neg (Nat.not_lt.mpr hsize)
    exact ⟨h, bind_eq_ok_iff.mpr ⟨(), b, havailable, hh⟩⟩
  · have hshort : Header.available b = .error (.shortHeader headerSize b.length) b :=
      if_pos (Nat.not_le.mp hsize)
    simp only [Header.decode, Bind.bind, EStateM.bind, hshort]

theorem leaves_header : Leaves Header.decode := by
  intro b
  have hread := header_consumes (b := b)
  split_ifs at hread
  · obtain ⟨h, hh⟩ := hread
    simp only [outcome, hh]
    exact List.drop_suffix _ b
  · simp only [outcome, hread]
    exact List.suffix_rfl

theorem leaves_block : Leaves Block.decode :=
  leaves_header.bind fun _ =>
    leaves_varInt.bind fun count =>
      (leaves_tx.times count).bind fun _ =>
        (leaves_varBytes _ _).bind fun _ => leaves_pure _

/-! ## All readers -/

/-- The reader fails with a text, and leaves the end of its bytes in any case. -/
structure Reader.FailsCleanly {α : Type} (r : Reader α) : Prop where
  tells : Tells r
  leaves : Leaves r

/-- **Every reader of a block fails cleanly on arbitrary bytes.** It returns or fails with a text,
and what it leaves is the end of what it was given. A byte string can be read up to any limit; its
reader fails with a text exactly for limits that are not below all numbers that can be shown. The
reader of a header takes the bytes of a header from any buffer that has so many, and nothing from
any other. -/
theorem readers_fail_cleanly (limit : Int) (field : String) :
    FailsCleanly VarInt.read ∧
    (Leaves (VarBytes.read limit field) ∧
      (Tells (VarBytes.read limit field) ↔ -(Nat.pow 10 Text.digitLimit : Nat) < limit)) ∧
    FailsCleanly Input.decode ∧
    FailsCleanly Output.decode ∧
    FailsCleanly Tx.decode ∧
    FailsCleanly Header.decode ∧
    FailsCleanly Block.decode ∧
    (∀ b e, Block.ofOctets b = .error e → ∃ m, e.message? = some m) ∧
    ∀ b : Octets,
      if headerSize ≤ b.length then ∃ h, Header.decode b = .ok h (b.drop headerSize)
      else ∃ e, Header.decode b = .error e b := by
  refine ⟨⟨tells_varInt, leaves_varInt⟩, ⟨leaves_varBytes limit field, tells_varBytes_iff⟩,
    ⟨tells_input, leaves_input⟩, ⟨tells_output, leaves_output⟩, ⟨tells_tx, leaves_tx⟩,
    ⟨tells_header, leaves_header⟩, ⟨tells_block, leaves_block⟩,
    fun b e h => exists_message_of_ofOctets h, fun b => ?header⟩
  case header =>
    have hread := header_consumes (b := b)
    split_ifs at hread ⊢
    · exact hread
    · exact ⟨_, hread⟩

/-- A header and a count of `2 ^ 64 - 1` transactions, none of which is there. -/
theorem readers_fail_cleanly_announced :
    let b := Octets.zeros headerSize ++ List.replicate 9 0xff
    Block.ofOctets b = .error (.short 4 0) ∧
      ∃ m, (ReadError.short 4 0).message? = some m := by
  intro b
  have hread : Block.ofOctets b = .error (.short 4 0) := rfl
  obtain ⟨-, -, -, -, -, -, -, hblock, -⟩ := readers_fail_cleanly 0 "script"
  exact ⟨hread, hblock b _ hread⟩

/-- A limit of too many digits below zero: the reader fails, and not with a text. -/
theorem varBytes_untold_limit :
    let limit : Int := -(Nat.pow 10 Text.digitLimit : Nat)
    VarBytes.read limit "script" [0] = .error (.oversized "script" 0 limit) [] ∧
      (ReadError.oversized "script" 0 limit).message? = none := by
  intro limit
  have hneg : limit < 0 := by decide +kernel
  have hunshown : ¬Text.isWritable limit = true := by decide +kernel
  refine ⟨varBytes_read_zero hneg "script" [], ?_⟩
  rw [ReadError.message?, Text.numeral?, if_neg hunshown]
  rfl

end LedgerNet.Ledger
