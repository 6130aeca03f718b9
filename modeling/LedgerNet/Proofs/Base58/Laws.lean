import LedgerNet.Proofs.Base58.Unique

/-!
# Laws of a scheme

What is read from any text depends on the scheme, of which only laws are used. A network reads what
it writes if reading inverts writing. Which other text is read follows from what checked base-58
text is: its characters are digits, the digits stand for a byte string with its checksum, and blanks
at the end do not count.

## Main statements

- `Scheme.split_encode`: what is written is taken apart.
- `Scheme.IsChecked.decode_eq_ok_iff`: which text stands for a byte string.
- `isChecked_standard`: the scheme of the networks has the laws.
-/

namespace LedgerNet.Base58

open Outcome

variable {s : Scheme} {sum : Octets → Octets} {b : Octets} {text : String}

/-! ## Text without blanks -/

/-- Text without the blanks at its end. -/
def trimmed (s : String) : String := String.ofList (Text.trimRight s.toList)

theorem trimmed_append_blanks {s t : String} (ht : ∀ c ∈ t.toList, Text.isBlank c = true) :
    trimmed (s ++ t) = trimmed s := by
  have hreverse : ∀ c ∈ t.toList.reverse, Text.isBlank c = true :=
    fun c hc => ht c (List.mem_reverse.mp hc)
  rw [trimmed, trimmed, Text.trimRight, Text.trimRight, String.toList_append, List.reverse_append,
    List.dropWhile_append_of_pos hreverse]

/-- Digits are no blanks. -/
theorem trimmed_of_digits (h : ∀ c ∈ text.toList, c ∈ alphabet) : trimmed text = text := by
  rw [trimmed, trimRight_eq_self fun c hc => (plain_of_mem_alphabet (h c hc)).1,
    String.ofList_toList]

namespace Scheme

/-! ## Reading what is written -/

/-- Reading inverts writing. -/
def Inverts (s : Scheme) : Prop := ∀ b, s.decode (s.encode b) = .ok b

theorem Inverts.encode_injective (h : s.Inverts) {a : Octets} (heq : s.encode a = s.encode b) :
    a = b := by
  have hread := h a
  rw [heq, h b, Except.ok.injEq] at hread
  exact hread.symm

/-- What is written is taken apart where something is left behind the version. -/
theorem split_encode (h : s.Inverts) (b : Octets) (size : Nat) :
    s.split (s.encode b) size =
      if b.length ≤ size then .error .noPayload else .ok (b.drop size, b.take size) := by
  have hnonneg : (0 : Int) ≤ size := Int.natCast_nonneg size
  rw [split, h b]
  simp only [Except.mapError, ok_bind, Nat.cast_le, if_pos hnonneg, Int.toNat_natCast]
  split_ifs <;> rfl

/-! ## Reading any text -/

/-- The laws of checked base-58 text, in which `sum` is the checksum. -/
structure IsChecked (s : Scheme) (sum : Octets → Octets) : Prop where
  inverts : s.Inverts
  /-- Blanks at the end of text do not count. -/
  strips : ∀ text, s.decode (trimmed text) = s.decode text
  /-- Text is written in digits. -/
  writes_digits : ∀ b, ∀ c ∈ (s.encode b).toList, c ∈ alphabet
  /-- Text with another character is refused. -/
  reads_digits : ∀ {text b}, s.decode text = .ok b → ∀ c ∈ (trimmed text).toList, c ∈ alphabet
  /-- The checksum has four bytes. -/
  length_sum : ∀ b, (sum b).length = 4
  /-- Text without the checksum of what is in front of it is refused. -/
  verifies : ∀ {text b}, s.decode text = .ok b → bytesOf (trimmed text).toList = b ++ sum b
  /-- Every refusal has a reason that can be told. -/
  gives_reason : ∀ {text e}, s.decode text = .error e → ∃ reason, e = .invalid reason

namespace IsChecked

/-- Text that is read is written for the bytes and their checksum. -/
theorem trimmed_eq (h : s.IsChecked sum) (hread : s.decode text = .ok b) :
    (trimmed text).toList = encodeChars (b ++ sum b) := by
  rw [← h.verifies hread, encodeChars_bytesOf (h.reads_digits hread)]

/-- Text stands for the byte string for which it is written, up to blanks at its end. -/
theorem decode_eq_ok_iff (h : s.IsChecked sum) :
    s.decode text = .ok b ↔ trimmed text = s.encode b := by
  constructor
  · intro hread
    -- Both are the digits of the same bytes.
    have hwritten := h.trimmed_eq (h.inverts b)
    rw [trimmed_of_digits (h.writes_digits b), ← h.trimmed_eq hread] at hwritten
    exact (String.toList_inj.mp hwritten).symm
  · intro htext
    rw [← h.strips, htext, h.inverts b]

theorem trimmed_encode (h : s.IsChecked sum) (b : Octets) : trimmed (s.encode b) = s.encode b :=
  trimmed_of_digits (h.writes_digits b)

theorem decode_ne_broken (h : s.IsChecked sum) (text : String) :
    s.decode text ≠ .error .broken := by
  intro hbroken
  obtain ⟨reason, hreason⟩ := h.gives_reason hbroken
  cases hreason

end IsChecked

end Scheme

/-! ## The scheme of the networks -/

/-- Text is read in the standard scheme if it is written for bytes with their checksum. -/
theorem decode_standard_eq_ok_iff :
    standard.decode text = .ok b ↔ Text.trimRight text.toList = encodeChars (b ++ checksum b) := by
  constructor
  · intro h
    obtain ⟨c, hc, hchecked⟩ := bind_eq_ok_iff.mp (mapError_eq_ok_iff.mp h)
    rw [decodeChars_eq_ok_iff] at hc
    rw [checked] at hchecked
    split_ifs at hchecked with hsum
    -- What was read is the body in front and its checksum behind.
    have hbody := Except.ok.inj hchecked
    have hwhole := List.take_append_drop (c.length - checksumSize) c
    rw [hsum, hbody] at hwhole
    rw [hc, hwhole]
  · intro h
    refine mapError_eq_ok_iff.mpr (bind_eq_ok_iff.mpr ⟨_, decodeChars_eq_ok_iff.mpr h, ?_⟩)
    exact checked_append_checksum b

/-- **The scheme of the networks has the laws of checked base-58 text.** -/
theorem isChecked_standard : standard.IsChecked checksum where
  inverts := decode_encode_standard
  strips text := by
    simp only [standard, trimmed, String.toList_ofList, decodeChars_trimRight]
  writes_digits b c hc := by
    rw [standard, String.toList_ofList] at hc
    exact mem_alphabet_of_mem_encodeChars hc
  reads_digits h c hc := by
    rw [trimmed, String.toList_ofList, decode_standard_eq_ok_iff.mp h] at hc
    exact mem_alphabet_of_mem_encodeChars hc
  length_sum := length_checksum
  verifies {text b} h := by
    rw [trimmed, String.toList_ofList, decode_standard_eq_ok_iff.mp h]
    exact bytesOf_encodeChars _
  gives_reason {text e} h := by
    obtain ⟨flaw, -, he⟩ := mapError_eq_error_iff.mp h
    exact ⟨_, he.symm⟩

end LedgerNet.Base58
