import LedgerNet.Proofs.Compact.Canonical

/-!
# The order of compact forms

The exponent of a form stands above its mantissa, and a larger number has an exponent that is not
smaller. So of two numbers that are not negative the larger has the larger form, and forms can be
compared in place of what they stand for.

## Main statements

- `encode_le_encode`: a larger number has no smaller form.
- `canonical_encode`: every form that is written is canonical.
- `Written.lt_iff`: forms that are written are ordered as what they stand for.
- `compact_order_is_target_order`: comparing forms is comparing what they stand for.
-/

namespace LedgerNet.Compact

/-! ## Larger numbers -/

/-- A larger number has no smaller exponent, since what leaves its sign bit free leaves that of the
smaller one free. -/
theorem IsExponent.mono {n m e f : Nat} (hn : IsExponent n e) (hm : IsExponent m f)
    (hle : n ≤ m) : e ≤ f :=
  hn.le_of_free (Nat.lt_of_le_of_lt (Nat.mul_le_mul_right _ hle) hm.free)

/-- At one exponent a larger number has no smaller digits. -/
theorem digits_mono (e : Nat) {n m : Nat} (hle : n ≤ m) : digits e n ≤ digits e m :=
  Nat.div_le_div_right (Nat.mul_le_mul_right _ hle)

theorem encodeMagnitude_mono {n m : Nat} (hn : 0 < n) (hle : n ≤ m) :
    encodeMagnitude n ≤ encodeMagnitude m := by
  obtain ⟨e, he, hform⟩ := encodeMagnitude_eq hn
  obtain ⟨f, hf, hform'⟩ := encodeMagnitude_eq (Nat.lt_of_lt_of_le hn hle)
  rw [hform, hform']
  rcases Nat.lt_or_eq_of_le (he.mono hf hle) with hlt | rfl
  · -- The mantissa of the smaller form does not reach up to its exponent.
    have hdigits := he.digits_lt
    unfold signBit exponentUnit at *
    omega
  · exact Nat.add_le_add_left (digits_mono e hle) _

theorem encode_of_pos {n : Int} (hpos : 0 < n) : encode n = encodeMagnitude n.natAbs := by
  rw [encode, if_neg (Int.ne_of_gt hpos), if_neg (Int.not_lt.mpr (Int.le_of_lt hpos)), Nat.add_zero]

/-- **A larger number has no smaller form**, if neither is negative. -/
theorem encode_le_encode {n m : Int} (hn : 0 ≤ n) (hle : n ≤ m) : encode n ≤ encode m := by
  rcases Int.lt_or_eq_of_le hn with hpos | rfl
  · rw [encode_of_pos hpos, encode_of_pos (Int.lt_of_lt_of_le hpos hle)]
    exact encodeMagnitude_mono (by omega) (by omega)
  · exact Nat.zero_le _

/-! ## Forms that are written -/

/-- What is kept of a number has the exponent and the digits of the number. -/
theorem IsExponent.of_kept {n e : Nat} (h : IsExponent n e) :
    IsExponent (kept e n) e ∧ digits e (kept e n) = digits e n := by
  have hpow : 0 < 256 ^ e := Nat.pow_pos (by decide)
  refine ⟨⟨?_, ?_⟩, ?_⟩
  · rw [kept_mul]
    exact Nat.mul_le_mul_right _ h.le_digits
  · rw [kept_mul]
    exact Nat.mul_lt_mul_of_pos_right h.digits_lt hpow
  · rw [digits, kept_mul, Nat.mul_div_cancel _ hpow]

/-- Every form that is written is canonical. -/
theorem canonical_encode (n : Int) : Canonical (encode n) := by
  obtain rfl | ⟨e, he⟩ := eq_zero_or_exponent n
  · exact .inl rfl
  · obtain ⟨hexponent, hmantissa, -⟩ := parts_of_encode he
    refine .inr (normal_iff.mpr ?_)
    rw [natAbs_decode_encode he, hexponent, hmantissa]
    exact he.of_kept

/-- The form is written for some number that is not negative. -/
def Written (c : Nat) : Prop := ∃ n : Int, 0 ≤ n ∧ encode n = c

theorem decode_encode_nonneg {n : Int} (hn : 0 ≤ n) : 0 ≤ decode (encode n) := by
  rw [← Int.sign_nonneg_iff, sign_decode_encode, Int.sign_nonneg_iff]
  exact hn

/-- **Forms that are written are ordered as what they stand for**, since each is written again for
what it stands for. -/
theorem Written.lt_iff {c d : Nat} (hc : Written c) (hd : Written d) :
    c < d ↔ decode c < decode d := by
  have hagain : ∀ k, encode (decode (encode k)) = encode k := fun k =>
    (encode_decode_eq_iff _).mpr (canonical_encode k)
  obtain ⟨n, hn, rfl⟩ := hc
  obtain ⟨m, hm, rfl⟩ := hd
  constructor
  · intro hlt
    apply Int.not_le.mp
    intro hle
    have hback := encode_le_encode (decode_encode_nonneg hm) hle
    rw [hagain, hagain] at hback
    exact Nat.not_lt.mpr hback hlt
  · intro hlt
    have hle := encode_le_encode (decode_encode_nonneg hn) (Int.le_of_lt hlt)
    rw [hagain, hagain] at hle
    refine Nat.lt_of_le_of_ne hle fun heq => ?_
    rw [heq] at hlt
    exact Int.lt_irrefl _ hlt

/-! ## What is kept -/

/-- A number of larger magnitude keeps no smaller one. -/
theorem natAbs_decode_encode_mono {n m : Int} (hle : n.natAbs ≤ m.natAbs) :
    (decode (encode n)).natAbs ≤ (decode (encode m)).natAbs :=
  natAbs_decode_le (Nat.le_trans (natAbs_decode_encode_le n) hle)

/-- Dropping digits keeps the order of numbers, whatever their signs. -/
theorem decode_encode_mono {n m : Int} (hle : n ≤ m) : decode (encode n) ≤ decode (encode m) := by
  have hsign : ∀ k, decode (encode k) < 0 ↔ k < 0 := fun k => by
    rw [← Int.sign_neg_iff, sign_decode_encode, Int.sign_neg_iff]
  have hn := hsign n
  have hm := hsign m
  rcases Int.lt_or_le m 0 with hneg | hnonneg
  · -- Of two negative numbers the larger has the smaller magnitude.
    have habs := natAbs_decode_encode_mono (n := m) (m := n) (by omega)
    omega
  · rcases Int.lt_or_le n 0 with hneg | hboth
    · omega
    · have habs := natAbs_decode_encode_mono (n := n) (m := m) (by omega)
      omega

/-! ## Comparing forms -/

/-- **Comparing compact forms is comparing what they stand for.** Of two numbers that are not
negative the larger has no smaller form, and two forms that are written for such numbers are ordered
as what they stand for. Of two numbers of any sign the larger keeps no less. The form of a number
that can be held stands for one that can be held. -/
theorem compact_order_is_target_order :
    (∀ n m : Int, 0 ≤ n → n ≤ m → encode n ≤ encode m) ∧
    (∀ c d : Nat, Written c → Written d → (c < d ↔ decode c < decode d)) ∧
    (∀ n m : Int, n ≤ m → decode (encode n) ≤ decode (encode m)) ∧
    (∀ (n : Int) (room : Nat), Octets.bitLength n.natAbs ≤ 8 * room →
      Octets.bitLength n.natAbs ≤ bitLimit → decode? room (encode n) = .ok (decode (encode n))) :=
  ⟨fun _ _ => encode_le_encode, fun _ _ => Written.lt_iff, fun _ _ => decode_encode_mono,
    fun _ _ => decode?_encode⟩

/-- The greatest number of 23 bits and the next one, whose form has the next exponent; and two
negative numbers that differ in a digit that is dropped. -/
theorem compact_order_is_target_order_next_exponent :
    encode 0x7fffff ≤ encode 0x800000 ∧
    (0x037fffff < 0x04008000 ↔ decode 0x037fffff < decode 0x04008000) ∧
    decode (encode (-0x80000001)) ≤ decode (encode (-0x80000000)) ∧
    decode? 3 (encode 0x800000) = .ok (decode (encode 0x800000)) := by
  obtain ⟨hform, hwritten, hkept, hheld⟩ := compact_order_is_target_order
  exact ⟨hform _ _ (by decide) (by decide),
    hwritten _ _ ⟨0x7fffff, by decide, by decide +kernel⟩ ⟨0x800000, by decide, by decide +kernel⟩,
    hkept _ _ (by decide), hheld _ 3 (by decide +kernel) (by decide +kernel)⟩

end LedgerNet.Compact
