import LedgerNet.Proofs.Compact.Rounding

/-!
# The best approximation from below

A number is written in compact form as its sign, its exponent and its leading digits, and what the
form stands for has the sign of the number and the digits that were kept.

## Main statements

- `parts_of_encode`, `decode_encode`: the compact form of a number, and what it stands for.
- `decode_encode_of_natAbs_eq`: a number that some form stands for keeps all its digits.
- `fits_encode_iff`: which numbers have a form of 32 bits.
- `decode?_eq_ok_iff`: which forms stand for a number that can be held.
- `compactForm_best_below`: the number that is kept, how much is lost, and the size of the form.
-/

namespace LedgerNet.Compact

/-! ## Parts of a form -/

theorem natAbs_decode (c : Nat) :
    (decode c).natAbs = magnitude (c / exponentUnit) (c % signBit) := by
  simp only [decode, Int.toNat_natCast]
  split_ifs <;> omega

theorem decode_of_mantissa_zero {c : Nat} (h : c % signBit = 0) : decode c = 0 := by
  rw [← Int.natAbs_eq_zero, natAbs_decode, h, magnitude_eq, Nat.zero_mul, Nat.zero_div]

/-- The exponent of a form leaves the sign bit free for what it stands for. -/
theorem natAbs_decode_lt (c : Nat) :
    (decode c).natAbs * 256 ^ 3 < signBit * 256 ^ (c / exponentUnit) := by
  rw [natAbs_decode]
  calc magnitude (c / exponentUnit) (c % signBit) * 256 ^ 3
      ≤ c % signBit * 256 ^ (c / exponentUnit) := magnitude_mul_le _ _
    _ < signBit * 256 ^ (c / exponentUnit) :=
      Nat.mul_lt_mul_of_pos_right (Nat.mod_lt _ (by decide)) (Nat.pow_pos (by decide))

/-- The parts of the form of a number are its exponent, its digits and its sign. -/
theorem parts_of_encode {n : Int} {e : Nat} (h : IsExponent n.natAbs e) :
    encode n / exponentUnit = e ∧ encode n % signBit = digits e n.natAbs ∧
      (encode n / signBit % 2 = 1 ↔ n < 0) := by
  obtain ⟨f, hf, hform⟩ := encodeMagnitude_eq h.pos
  obtain rfl := h.unique hf
  have hdigits := h.digits_lt
  rw [encode, if_neg (Int.natAbs_pos.mp h.pos), hform]
  unfold signBit exponentUnit at *
  split_ifs <;> omega

theorem eq_zero_or_exponent (n : Int) : n = 0 ∨ ∃ e, IsExponent n.natAbs e := by
  rcases eq_or_ne n 0 with hzero | hne
  · exact .inl hzero
  · obtain ⟨e, he, -⟩ := encodeMagnitude_eq (Int.natAbs_pos.mpr hne)
    exact .inr ⟨e, he⟩

/-- The form of a number stands for its sign and the digits that are kept. -/
theorem decode_encode {n : Int} {e : Nat} (h : IsExponent n.natAbs e) :
    decode (encode n) = n.sign * kept e n.natAbs := by
  obtain ⟨hexponent, hmantissa, hsign⟩ := parts_of_encode h
  have hpos := h.pos
  simp only [decode, Int.toNat_natCast, hexponent, hmantissa, hsign]
  split_ifs with hneg
  · rw [Int.sign_eq_neg_one_of_neg hneg, Int.neg_one_mul, kept]
  · rw [Int.sign_eq_one_of_pos (by omega), Int.one_mul, kept]

theorem natAbs_decode_encode {n : Int} {e : Nat} (h : IsExponent n.natAbs e) :
    (decode (encode n)).natAbs = kept e n.natAbs := by
  rw [natAbs_decode, (parts_of_encode h).1, (parts_of_encode h).2.1, kept]

/-! ## What is kept -/

theorem sign_decode_encode (n : Int) : (decode (encode n)).sign = n.sign := by
  obtain rfl | ⟨e, he⟩ := eq_zero_or_exponent n
  · rfl
  have hkept : 0 < kept e n.natAbs := he.kept_pos
  rw [decode_encode he, Int.sign_mul, Int.sign_sign, Int.sign_natCast_of_ne_zero (by omega),
    Int.mul_one]

theorem natAbs_decode_encode_le (n : Int) : (decode (encode n)).natAbs ≤ n.natAbs := by
  obtain rfl | ⟨e, he⟩ := eq_zero_or_exponent n
  · exact Nat.le_refl 0
  rw [natAbs_decode_encode he]
  exact kept_le e n.natAbs

/-- Nothing that a form stands for lies between what is kept and the number. -/
theorem natAbs_decode_le {n : Int} {c : Nat} (h : (decode c).natAbs ≤ n.natAbs) :
    (decode c).natAbs ≤ (decode (encode n)).natAbs := by
  obtain rfl | ⟨e, he⟩ := eq_zero_or_exponent n
  · exact h
  rw [natAbs_decode_encode he]
  rw [natAbs_decode] at h ⊢
  exact magnitude_le_kept he (Nat.mod_lt _ (by decide)) h

/-- A number that some form stands for, up to its sign, keeps all its digits. -/
theorem decode_encode_of_natAbs_eq {n : Int} {c : Nat} (h : (decode c).natAbs = n.natAbs) :
    decode (encode n) = n := by
  have hle := natAbs_decode_le (Nat.le_of_eq h)
  have habs : (decode (encode n)).natAbs = n.natAbs :=
    Nat.le_antisymm (natAbs_decode_encode_le n) (h ▸ hle)
  rw [← Int.sign_mul_natAbs (decode (encode n)), sign_decode_encode, habs, Int.sign_mul_natAbs]

/-- A number of no more digits than a mantissa has keeps all of them. -/
theorem decode_encode_of_lt {n : Int} (h : n.natAbs < signBit) : decode (encode n) = n := by
  -- At exponent 3 the mantissa is the number itself.
  apply decode_encode_of_natAbs_eq (c := 3 * exponentUnit + n.natAbs)
  have hexponent : (3 * exponentUnit + n.natAbs) / exponentUnit = 3 := by
    unfold signBit exponentUnit at *
    omega
  have hmantissa : (3 * exponentUnit + n.natAbs) % signBit = n.natAbs := by
    unfold signBit exponentUnit at *
    omega
  rw [natAbs_decode, hexponent, hmantissa, magnitude_eq]
  exact Nat.mul_div_cancel _ (by decide)

/-- What is lost is less than the number by 15 bits. -/
theorem loss_decode_encode_lt {n : Int} (hn : n ≠ 0) :
    2 ^ 15 * (n.natAbs - (decode (encode n)).natAbs) < n.natAbs := by
  obtain ⟨e, he⟩ := (eq_zero_or_exponent n).resolve_left hn
  rw [natAbs_decode_encode he]
  exact loss_lt he

/-! ## Sizes -/

/-- The exponent of a number has one byte exactly if the number has at most 2039 bits. -/
theorem exponent_lt_iff {n e : Nat} (h : IsExponent n e) : e < 256 ↔ n < 2 ^ 2039 := by
  have hbound : signBit * 256 ^ 255 = 2 ^ 2039 * 256 ^ 3 := by decide +kernel
  rw [← Nat.mul_lt_mul_right (a := 256 ^ 3) (b := n) (by decide), ← hbound]
  constructor
  · intro hlt
    refine Nat.lt_of_lt_of_le h.free (Nat.mul_le_mul_left _ ?_)
    exact Nat.pow_le_pow_right (by decide) (Nat.le_of_lt_succ hlt)
  · intro hlt
    exact Nat.lt_succ_of_le (h.le_of_free hlt)

/-- A form has 32 bits exactly if the number has at most 2039. -/
theorem fits_encode_iff (n : Int) : Octets.Fits 4 (encode n) ↔ n.natAbs < 2 ^ 2039 := by
  rw [Octets.fits_natCast_iff]
  obtain rfl | ⟨e, he⟩ := eq_zero_or_exponent n
  · -- The bound is general in the bits, since `2 ^ 2039` is too large to be unfolded.
    have hzero : ∀ bits : Nat, (0 : Int).natAbs < 2 ^ bits := Nat.two_pow_pos
    exact iff_of_true (by decide) (hzero 2039)
  rw [← exponent_lt_iff he, ← (parts_of_encode he).1, Nat.div_lt_iff_lt_mul (by decide)]
  rfl

/-! ## Numbers that can be held -/

/-- A form stands for a number that can be held if its mantissa is zero, or the bits below its
mantissa can be counted and leave room. -/
theorem decode?_eq_ok_iff {c room : Nat} {n : Int} :
    decode? room c = .ok n ↔
      (c % signBit = 0 ∨ tailBits c ≤ bitLimit ∧ tailBits c < 8 * room) ∧ n = decode c := by
  by_cases hzero : c % signBit = 0
  · rw [decode?, Int.toNat_natCast, if_pos hzero, decode_of_mantissa_zero hzero]
    simp [hzero, eq_comm]
  simp only [decode?, Int.toNat_natCast, if_neg hzero]
  split_ifs with hcount hroom
  · simp [hzero, Nat.not_le.mpr hcount]
  · simp [hzero, Nat.not_lt.mpr hroom]
  · simp [Nat.not_lt.mp hcount, Nat.not_le.mp hroom, eq_comm]

/-- The form of a number has no more bits below its mantissa than that of any form with an exponent
that leaves the sign bit free. -/
theorem tailBits_encode_le {n : Int} {e f : Nat} (h : IsExponent n.natAbs e)
    (hf : n.natAbs * 256 ^ 3 < signBit * 256 ^ f) : tailBits (encode n) ≤ 8 * (f - 3) := by
  have hle := h.le_of_free hf
  rw [tailBits, Int.toNat_natCast, (parts_of_encode h).1]
  omega

/-- A number that can be held is read back from its form. -/
theorem decode?_encode {n : Int} {room : Nat} (hroom : Octets.bitLength n.natAbs ≤ 8 * room)
    (hcount : Octets.bitLength n.natAbs ≤ bitLimit) :
    decode? room (encode n) = .ok (decode (encode n)) := by
  refine decode?_eq_ok_iff.mpr ⟨?_, rfl⟩
  obtain rfl | ⟨e, he⟩ := eq_zero_or_exponent n
  · exact .inl rfl
  -- One byte more than the number has leaves the sign bit free, and its bits below the mantissa
  -- are fewer than those of the number.
  generalize hbits : Octets.bitLength n.natAbs = b at hroom hcount
  have hlt : n.natAbs < 2 ^ b := hbits ▸ Octets.lt_two_pow_bitLength n.natAbs
  have hfree : n.natAbs * 256 ^ 3 < signBit * 256 ^ (b / 8 + 1) := by
    have hsign : ∀ k, signBit * 256 ^ k = 2 ^ (23 + 8 * k) := fun k => by
      rw [Nat.pow_add, Nat.pow_mul]
      rfl
    rw [hsign]
    calc n.natAbs * 256 ^ 3
        < 2 ^ b * 256 ^ 3 := Nat.mul_lt_mul_of_pos_right hlt (by decide)
      _ = 2 ^ (b + 24) := by
        rw [Nat.pow_add]
        rfl
      _ ≤ 2 ^ (23 + 8 * (b / 8 + 1)) := Nat.pow_le_pow_right (by decide) (by omega)
  have htail := tailBits_encode_le he hfree
  have hpos : 0 < b := Nat.pos_of_ne_zero (by
    rintro rfl
    exact absurd he.pos (by omega))
  exact .inr ⟨by omega, by omega⟩

/-! ## The best approximation -/

/-- **The compact form of a number is its best approximation from below.** What it stands for has
the sign of the number and the greatest magnitude, of all that forms stand for, that is not above
the number's; it is the number itself below 23 bits, and loses less than the number by 15 bits
otherwise. The form is not negative and has 32 bits exactly for numbers of at most 2039 bits, so for
every target of 256; and if the number can be held, so can what its form stands for. -/
theorem compactForm_best_below (n : Int) :
    let value := decode (encode n)
    (value.sign = n.sign ∧ value.natAbs ≤ n.natAbs ∧
      ∀ c : Nat, (decode c).natAbs ≤ n.natAbs → (decode c).natAbs ≤ value.natAbs) ∧
    (n.natAbs < 2 ^ 23 → value = n) ∧
    (n ≠ 0 → 2 ^ 15 * (n.natAbs - value.natAbs) < n.natAbs) ∧
    (0 ≤ (encode n : Int) ∧ (Octets.Fits 4 (encode n) ↔ n.natAbs < 2 ^ 2039) ∧
      (n.natAbs < 2 ^ 256 → Octets.Fits 4 (encode n))) ∧
    ∀ room, Octets.bitLength n.natAbs ≤ 8 * room → Octets.bitLength n.natAbs ≤ bitLimit →
      decode? room (encode n) = .ok value := by
  refine ⟨⟨sign_decode_encode n, natAbs_decode_encode_le n, fun c => natAbs_decode_le⟩,
    decode_encode_of_lt, loss_decode_encode_lt,
    ⟨Int.natCast_nonneg _, fits_encode_iff n, ?target⟩, fun _ => decode?_encode⟩
  case target =>
    intro h
    have hbits : ∀ bits : Nat, 256 ≤ bits → n.natAbs < 2 ^ bits := fun bits hle =>
      Nat.lt_of_lt_of_le h (Nat.pow_le_pow_right (by decide) hle)
    exact (fits_encode_iff n).mpr (hbits 2039 (by decide))

/-- A negative number of five bytes, the first with its highest bit set, keeps two of them, and a
number of 23 bits keeps all. -/
theorem compactForm_best_below_sign_bit :
    let n : Int := -0x8012345678
    (decode (encode n)).sign = -1 ∧
    (decode 0x0600800f).natAbs ≤ (decode (encode n)).natAbs ∧
    2 ^ 15 * (n.natAbs - (decode (encode n)).natAbs) < n.natAbs ∧
    Octets.Fits 4 (encode n) ∧
    decode? 5 (encode n) = .ok (decode (encode n)) ∧
    decode (encode (-0x7fffff)) = -0x7fffff := by
  intro n
  obtain ⟨⟨hsign, -, hbest⟩, -, hloss, ⟨-, -, htarget⟩, hheld⟩ := compactForm_best_below n
  obtain ⟨-, hexact, -, -, -⟩ := compactForm_best_below (-0x7fffff)
  exact ⟨hsign, hbest 0x0600800f (by decide +kernel), hloss (by decide),
    htarget (by decide +kernel), hheld 5 (by decide +kernel) (by decide +kernel),
    hexact (by decide)⟩

end LedgerNet.Compact
