import LedgerNet.Proofs.Compact.Approximation

/-!
# Canonical forms

Many forms stand for one number: a mantissa may be short, and at the exponents 1 and 2 its lowest
digits count for nothing. Exactly one of them is written for the number, the canonical one.

## Main statements

- `normal_iff`: a form is normal if its exponent and its mantissa are those of what it stands for.
- `encode_decode_eq_iff`: the canonical forms are those that are written again as they are.
- `reencoding_fixes_canonical`: writing what a form stands for loses nothing.
-/

namespace LedgerNet.Compact

/-- The mantissa of the form has at least 16 bits, and the exponent drops none that is set. -/
structure Normal (c : Nat) : Prop where
  exponent : 1 ≤ c / exponentUnit
  mantissa : 0x8000 ≤ c % signBit
  one : c / exponentUnit = 1 → c % signBit % 2 ^ 16 = 0
  two : c / exponentUnit = 2 → c % signBit % 2 ^ 8 = 0

/-- The form is zero or normal; its sign bit may be set or not. -/
def Canonical (c : Nat) : Prop := c = 0 ∨ Normal c

instance (c : Nat) : Decidable (Canonical c) :=
  decidable_of_iff (c = 0 ∨ 1 ≤ c / exponentUnit ∧ 0x8000 ≤ c % signBit ∧
      (c / exponentUnit = 1 → c % signBit % 2 ^ 16 = 0) ∧
      (c / exponentUnit = 2 → c % signBit % 2 ^ 8 = 0))
    (or_congr_right ⟨fun ⟨exponent, mantissa, one, two⟩ => ⟨exponent, mantissa, one, two⟩,
      fun h => ⟨h.exponent, h.mantissa, h.one, h.two⟩⟩)

/-! ## Normal forms -/

theorem Normal.dvd {c : Nat} (h : Normal c) :
    256 ^ 3 ∣ c % signBit * 256 ^ (c / exponentUnit) := by
  have hexponent := h.exponent
  rcases Nat.lt_or_ge (c / exponentUnit) 3 with hsmall | hlarge
  · obtain hone | htwo : c / exponentUnit = 1 ∨ c / exponentUnit = 2 := by omega
    · rw [hone]
      exact Nat.mul_dvd_mul_right (Nat.dvd_of_mod_eq_zero (h.one hone)) (256 ^ 1)
    · rw [htwo]
      exact Nat.mul_dvd_mul_right (Nat.dvd_of_mod_eq_zero (h.two htwo)) (256 ^ 2)
  · exact dvd_shift _ hlarge

/-- A form is normal exactly if its exponent and its mantissa are those of what it stands for. -/
theorem normal_iff {c : Nat} :
    Normal c ↔ IsExponent (decode c).natAbs (c / exponentUnit) ∧
      digits (c / exponentUnit) (decode c).natAbs = c % signBit := by
  constructor
  · intro h
    have hexact :
        (decode c).natAbs * 256 ^ 3 = c % signBit * 256 ^ (c / exponentUnit) := by
      rw [natAbs_decode, magnitude_eq, Nat.div_mul_cancel h.dvd]
    refine ⟨⟨?_, natAbs_decode_lt c⟩, ?_⟩
    · rw [hexact]
      exact Nat.mul_le_mul_right _ h.mantissa
    · rw [digits, hexact, Nat.mul_div_cancel _ (Nat.pow_pos (by decide))]
  · rintro ⟨hexponent, hdigits⟩
    refine {
      exponent := hexponent.one_le
      mantissa := hdigits ▸ hexponent.le_digits
      one := fun hone => ?_
      two := fun htwo => ?_ }
    -- At a small exponent the digits are a multiple of what is shifted out.
    · rw [← hdigits, hone, digits]
      omega
    · rw [← hdigits, htwo, digits]
      omega

/-! ## Writing what a form stands for -/

/-- A form is known from its exponent, its mantissa and its sign. -/
theorem form_ext {c d : Nat} (hexponent : c / exponentUnit = d / exponentUnit)
    (hmantissa : c % signBit = d % signBit)
    (hsign : c / signBit % 2 = 1 ↔ d / signBit % 2 = 1) : c = d := by
  unfold exponentUnit signBit at *
  omega

/-- The sign bit of a form that does not stand for zero is that of what it stands for. -/
theorem decode_neg_iff {c : Nat} (h : decode c ≠ 0) : decode c < 0 ↔ c / signBit % 2 = 1 := by
  simp only [decode, Int.toNat_natCast] at h ⊢
  split_ifs at h ⊢ with hsign
  · simp only [hsign, iff_true]
    omega
  · simp only [hsign, iff_false]
    omega

/-- **The canonical forms are those that are written again as they are.** -/
theorem encode_decode_eq_iff (c : Nat) : encode (decode c) = c ↔ Canonical c := by
  by_cases hzero : decode c = 0
  · -- What stands for zero has no exponent, so of the forms that do only zero is canonical.
    have hnotNormal : ¬Normal c := by
      intro h
      have hpos := (normal_iff.mp h).1.pos
      rw [hzero] at hpos
      exact Nat.lt_irrefl 0 hpos
    rw [hzero, Canonical, or_iff_left hnotNormal]
    exact eq_comm
  · obtain ⟨e, he⟩ := (eq_zero_or_exponent _).resolve_left hzero
    obtain ⟨hexponent, hmantissa, hsign⟩ := parts_of_encode he
    constructor
    · intro hfixed
      rw [hfixed] at hexponent hmantissa
      subst hexponent
      exact .inr (normal_iff.mpr ⟨he, hmantissa.symm⟩)
    · rintro (rfl | hnormal)
      · exact absurd rfl hzero
      · obtain ⟨hown, hdigits⟩ := normal_iff.mp hnormal
        obtain rfl := he.unique hown
        exact form_ext hexponent (hmantissa.trans hdigits)
          (hsign.trans (decode_neg_iff hzero))

/-- A form that can be held is written again as one that can be held. -/
theorem decode?_encode_decode {c room : Nat} {n : Int} (h : decode? room c = .ok n) :
    decode? room (encode n) = .ok n := by
  obtain ⟨hheld, rfl⟩ := decode?_eq_ok_iff.mp h
  refine decode?_eq_ok_iff.mpr ⟨?_, (decode_encode_of_natAbs_eq rfl).symm⟩
  obtain hzero | ⟨e, he⟩ := eq_zero_or_exponent (decode c)
  · rw [hzero]
    exact .inl rfl
  have hmantissa : c % signBit ≠ 0 := by
    intro hzero
    have hpos := he.pos
    rw [decode_of_mantissa_zero hzero] at hpos
    exact Nat.lt_irrefl 0 hpos
  -- The exponent of `c` leaves the sign bit free, so the one that is written is not larger.
  have hle := tailBits_encode_le he (natAbs_decode_lt c)
  exact .inr ((hheld.resolve_left hmantissa).imp hle.trans hle.trans_lt)

/-- Every form of 32 bits stands for a number that can be held in 256 bytes. -/
theorem decode?_of_lt {c room : Nat} (h : c < 2 ^ 32) (hroom : 2 ^ 8 ≤ room) :
    decode? room c = .ok (decode c) := by
  have htail : tailBits c < 2 ^ 11 := by
    rw [tailBits, Int.toNat_natCast, exponentUnit]
    omega
  have hcount : 2 ^ 11 ≤ bitLimit := by decide
  exact decode?_eq_ok_iff.mpr ⟨.inr ⟨by omega, by omega⟩, rfl⟩

/-- **Writing again what a form stands for loses nothing, and leaves exactly the canonical forms as
they are.** The same holds of the numbers that can be held, whatever room there is, and the forms of
32 bits stand for such numbers where there is room for 256 bytes. -/
theorem reencoding_fixes_canonical (c : Nat) :
    decode (encode (decode c)) = decode c ∧
    (encode (decode c) = c ↔ Canonical c) ∧
    (∀ room n, decode? room c = .ok n → n = decode c ∧ decode? room (encode n) = .ok n) ∧
    (c < 2 ^ 32 → ∀ room, 2 ^ 8 ≤ room → decode? room c = .ok (decode c)) :=
  ⟨decode_encode_of_natAbs_eq rfl, encode_decode_eq_iff c,
    fun _ _ h => ⟨(decode?_eq_ok_iff.mp h).2, decode?_encode_decode h⟩,
    fun h _ => decode?_of_lt h⟩

/-- A form with the sign bit set is written again as it is, and one with a short mantissa as that of
a smaller exponent. -/
theorem reencoding_fixes_canonical_signed :
    decode? 256 0x04923456 = .ok (decode 0x04923456) ∧
    decode? 256 (encode (decode 0x04923456)) = .ok (decode 0x04923456) ∧
    encode (decode 0x04923456) = 0x04923456 ∧
    encode (decode 0x05007fff) ≠ 0x05007fff ∧
    decode (encode (decode 0x05007fff)) = decode 0x05007fff := by
  obtain ⟨-, hfixed, hheld, hbits⟩ := reencoding_fixes_canonical 0x04923456
  obtain ⟨hlossless, hshort, -, -⟩ := reencoding_fixes_canonical 0x05007fff
  have hdecode : decode? 256 0x04923456 = .ok (decode 0x04923456) :=
    hbits (by decide) 256 (by decide)
  have hnot : ¬Canonical 0x05007fff := by decide
  exact ⟨hdecode, (hheld _ _ hdecode).2, hfixed.mpr (by decide), mt hshort.mp hnot, hlossless⟩

end LedgerNet.Compact
