import LedgerNet.Compact
import LedgerNet.Proofs.Octets.Shortest
import Mathlib.Algebra.Order.Ring.Nat

/-!
# Rounding to a compact form

A compact form keeps the leading digits of a number in its mantissa and drops the others. The
exponent is the one at which the digits fill the mantissa and leave its sign bit free, so the number
that is kept is the greatest that any form stands for and that is not above the one given.

Exponents below 3 shift the mantissa down and others shift it up. Both are one rule here: a mantissa
`m` with exponent `e` stands for `m * 256 ^ e / 256 ^ 3`, and a number `n` has the digits
`n * 256 ^ 3 / 256 ^ e` at that exponent.

## Main statements

- `encodeMagnitude_eq`: the compact form of a magnitude, by its exponent and digits.
- `magnitude_le_kept`: no form stands for a number between the one given and the one kept.
- `loss_lt`: how much is lost.
-/

namespace LedgerNet.Compact

/-! ## Shifts by bytes -/

section Shifts

variable {a b : Nat} (n : Nat)

theorem dvd_shift (h : a ≤ b) : 256 ^ a ∣ n * 256 ^ b :=
  Nat.dvd_mul_left_of_dvd (Nat.pow_dvd_pow 256 h) n

theorem shift_down (h : a ≤ b) : n * 256 ^ a / 256 ^ b = n / Nat.pow 256 (b - a) := by
  rw [← Nat.pow_sub_mul_pow 256 h, Nat.mul_div_mul_right _ _ (Nat.pow_pos (by decide))]
  rfl

theorem shift_up (h : a ≤ b) : n * 256 ^ b / 256 ^ a = n * Nat.pow 256 (b - a) := by
  rw [← Nat.pow_sub_mul_pow 256 h, ← Nat.mul_assoc,
    Nat.mul_div_cancel _ (Nat.pow_pos (by decide))]
  rfl

end Shifts

/-! ## Digits at an exponent -/

/-- A mantissa is shifted by its exponent less 3, down or up. -/
theorem magnitude_eq (e m : Nat) : magnitude e m = m * 256 ^ e / 256 ^ 3 := by
  unfold magnitude
  split_ifs with hzero hsmall
  · rw [hzero, Nat.zero_mul, Nat.zero_div]
  · exact (shift_down m hsmall).symm
  · exact (shift_up m (by omega)).symm

/-- The leading digits of a number that are not dropped at an exponent. -/
def digits (e n : Nat) : Nat := n * 256 ^ 3 / 256 ^ e

/-- What remains of a number when the other digits are dropped. -/
def kept (e n : Nat) : Nat := magnitude e (digits e n)

/-- The digits at an exponent are those of what is kept: nothing is dropped twice. -/
theorem kept_mul (e n : Nat) : kept e n * 256 ^ 3 = digits e n * 256 ^ e := by
  rw [kept, magnitude_eq]
  apply Nat.div_mul_cancel
  rcases Nat.le_total 3 e with h | h
  · exact dvd_shift _ h
  · -- Below exponent 3 there are no digits to drop.
    have hall : digits e n * 256 ^ e = n * 256 ^ 3 := Nat.div_mul_cancel (dvd_shift n h)
    rw [hall]
    exact Nat.dvd_mul_left _ _

theorem kept_le (e n : Nat) : kept e n ≤ n := by
  have hle : kept e n * 256 ^ 3 ≤ n * 256 ^ 3 := by
    rw [kept_mul]
    exact Nat.div_mul_le_self _ _
  exact Nat.le_of_mul_le_mul_right hle (by decide)

/-! ## The exponent of a number -/

/-- The exponent of the compact form of a number: at it the digits have at least 16 bits and leave
the sign bit of the mantissa free. -/
structure IsExponent (n e : Nat) : Prop where
  fills : 2 ^ 15 * 256 ^ e ≤ n * 256 ^ 3
  free : n * 256 ^ 3 < signBit * 256 ^ e

namespace IsExponent

variable {n e : Nat}

theorem pos (h : IsExponent n e) : 0 < n := by
  have hfills := h.fills
  have hpow : 0 < 256 ^ e := Nat.pow_pos (by decide)
  omega

theorem digits_lt (h : IsExponent n e) : digits e n < signBit :=
  (Nat.div_lt_iff_lt_mul (Nat.pow_pos (by decide))).mpr h.free

theorem le_digits (h : IsExponent n e) : 2 ^ 15 ≤ digits e n :=
  (Nat.le_div_iff_mul_le (Nat.pow_pos (by decide))).mpr h.fills

theorem kept_pos (h : IsExponent n e) : 0 < kept e n := by
  have hdigits : 0 < digits e n * 256 ^ e :=
    Nat.mul_pos (Nat.lt_of_lt_of_le (by decide) h.le_digits) (Nat.pow_pos (by decide))
  rw [← kept_mul] at hdigits
  exact Nat.pos_of_mul_pos_right hdigits

/-- The exponent is the least that leaves the sign bit free. -/
theorem le_of_free {f : Nat} (h : IsExponent n e) (hf : n * 256 ^ 3 < signBit * 256 ^ f) :
    e ≤ f := by
  have hlt : 2 ^ 15 * 256 ^ e < 2 ^ 15 * 256 ^ (f + 1) := by
    have hnext : signBit * 256 ^ f = 2 ^ 15 * 256 ^ (f + 1) := by
      rw [Nat.pow_succ, signBit]
      omega
    rw [← hnext]
    exact Nat.lt_of_le_of_lt h.fills hf
  have hpow : 256 ^ e < 256 ^ (f + 1) := Nat.lt_of_mul_lt_mul_left hlt
  exact Nat.lt_succ_iff.mp ((Nat.pow_lt_pow_iff_right (by decide)).mp hpow)

theorem unique {f : Nat} (h : IsExponent n e) (hf : IsExponent n f) : e = f :=
  Nat.le_antisymm (h.le_of_free hf.free) (hf.le_of_free h.free)

theorem one_le (h : IsExponent n e) : 1 ≤ e := by
  apply Nat.pos_of_ne_zero
  rintro rfl
  have hfills := h.fills
  have hfree := h.free
  rw [signBit] at hfree
  omega

end IsExponent

/-! ## The form of a magnitude -/

/-- The digits are what a shift by the exponent less 3 leaves, down or up. -/
theorem digits_eq_shift (e n : Nat) :
    digits e n = if e ≤ 3 then n * Nat.pow 256 (3 - e) else n / Nat.pow 256 (e - 3) := by
  unfold digits
  split_ifs with hsmall
  · exact shift_up n hsmall
  · exact shift_down n (by omega)

theorem digits_succ (e n : Nat) : digits (e + 1) n = digits e n / 256 := by
  rw [digits, digits, Nat.pow_succ 256 e, Nat.div_div_eq_div_mul]

/-- The compact form of a magnitude is its exponent above its digits. -/
theorem encodeMagnitude_eq {n : Nat} (hn : 0 < n) :
    ∃ e, IsExponent n e ∧ encodeMagnitude n = e * exponentUnit + digits e n := by
  obtain ⟨k, hsize, hlow, hhigh⟩ := Octets.exists_byteLength hn
  have hform : encodeMagnitude n =
      if digits (k + 1) n < signBit then (k + 1) * exponentUnit + digits (k + 1) n
      else (k + 2) * exponentUnit + digits (k + 2) n := by
    rw [digits_succ (k + 1), digits_eq_shift]
    simp only [encodeMagnitude, hsize]
  rw [hform]
  split_ifs with hsign
  · refine ⟨k + 1, ⟨?_, ?_⟩, rfl⟩
    · rw [Nat.pow_succ]
      omega
    · exact (Nat.div_lt_iff_lt_mul (Nat.pow_pos (by decide))).mp hsign
  · -- The leading digit has the sign bit set, so it moves down and the exponent is one more.
    have hnext : (256 : Nat) ^ (k + 2) = 256 ^ (k + 1) * 256 := Nat.pow_succ 256 (k + 1)
    have hfull : signBit * 256 ^ (k + 1) ≤ n * 256 ^ 3 :=
      (Nat.le_div_iff_mul_le (Nat.pow_pos (by decide))).mp (Nat.not_lt.mp hsign)
    rw [signBit] at hfull
    refine ⟨k + 2, ⟨?_, ?_⟩, rfl⟩
    · rw [hnext]
      omega
    · rw [hnext, signBit]
      omega

/-! ## The best approximation from below -/

/-- What a form stands for, in units of the least exponent, is at most its mantissa there. -/
theorem magnitude_mul_le (f m : Nat) : magnitude f m * 256 ^ 3 ≤ m * 256 ^ f := by
  rw [magnitude_eq]
  exact Nat.div_mul_le_self _ _

/-- What a form of a large enough exponent stands for has no digits that are dropped. -/
theorem dvd_magnitude_mul {e f : Nat} (m : Nat) (h : e ≤ f) :
    256 ^ e ∣ magnitude f m * 256 ^ 3 := by
  rcases Nat.le_total f 3 with hf | hf
  · exact dvd_shift _ (Nat.le_trans h hf)
  · -- From exponent 3 on nothing is shifted out of the mantissa.
    have hexact : magnitude f m * 256 ^ 3 = m * 256 ^ f := by
      rw [magnitude_eq]
      exact Nat.div_mul_cancel (dvd_shift m hf)
    rw [hexact]
    exact dvd_shift m h

/-- **No form stands for a number between the one that is kept and the one given.** -/
theorem magnitude_le_kept {n e f m : Nat} (h : IsExponent n e) (hm : m < signBit)
    (hle : magnitude f m ≤ n) : magnitude f m ≤ kept e n := by
  have hscaled : magnitude f m * 256 ^ 3 ≤ digits e n * 256 ^ e := by
    rcases Nat.lt_or_ge f e with hf | hf
    · -- A smaller exponent stands for less than the digits of `n` do.
      have hstep : signBit * 256 ^ f ≤ 2 ^ 15 * 256 ^ e := by
        have hpow : 256 ^ (f + 1) ≤ 256 ^ e := Nat.pow_le_pow_right (by decide) hf
        rw [Nat.pow_succ] at hpow
        rw [signBit]
        omega
      calc magnitude f m * 256 ^ 3
          ≤ m * 256 ^ f := magnitude_mul_le f m
        _ ≤ signBit * 256 ^ f := Nat.mul_le_mul_right _ (Nat.le_of_lt hm)
        _ ≤ 2 ^ 15 * 256 ^ e := hstep
        _ ≤ digits e n * 256 ^ e := Nat.mul_le_mul_right _ h.le_digits
    · -- Any other is one of the multiples among which the kept one is the greatest.
      obtain ⟨q, hq⟩ := dvd_magnitude_mul m hf
      have hbelow : q * 256 ^ e ≤ n * 256 ^ 3 := by
        rw [Nat.mul_comm q, ← hq]
        exact Nat.mul_le_mul_right _ hle
      rw [hq, Nat.mul_comm]
      exact Nat.mul_le_mul_right _
        ((Nat.le_div_iff_mul_le (Nat.pow_pos (by decide))).mpr hbelow)
  rw [← kept_mul] at hscaled
  exact Nat.le_of_mul_le_mul_right hscaled (by decide)

/-- What is lost is less than the number by 15 bits. -/
theorem loss_lt {n e : Nat} (h : IsExponent n e) : 2 ^ 15 * (n - kept e n) < n := by
  have hrest : (n - kept e n) * 256 ^ 3 < 256 ^ e := by
    have hsplit := Nat.div_add_mod' (n * 256 ^ 3) (256 ^ e)
    have hmod : n * 256 ^ 3 % 256 ^ e < 256 ^ e := Nat.mod_lt _ (Nat.pow_pos (by decide))
    rw [Nat.sub_mul, kept_mul, digits]
    omega
  have hfills := h.fills
  omega

end LedgerNet.Compact
