import LedgerNet.Proofs.Octets.Fields

/-!
# Values that do not fit

A field refuses a negative integer, an integer above its range and a byte string that is too long,
and nothing else.

- `fieldLE_eq_error_iff`: which integers have no field of `w` bytes, and why.
- `pad_eq_error_iff`: which byte strings cannot be widened to `w` bytes, and why.
-/

namespace LedgerNet.Octets

/-! ## Integers -/

/-- Why an integer has no field of `w` bytes. -/
inductive Misfit (w : Nat) (n : Int) : FieldError → Prop where
  | negative (h : n < 0) : Misfit w n .negative
  | tooLarge (h : 2 ^ (8 * w) ≤ n) : Misfit w n (.overflows (byteLength n.toNat) w)

theorem nonneg_of_range_le {w : Nat} {n : Int} (h : 2 ^ (8 * w) ≤ n) : 0 ≤ n :=
  Int.le_trans (Int.pow_nonneg (by decide)) h

theorem not_misfit_of_fits {w : Nat} {n : Int} {e : FieldError} (h : Fits w n) :
    ¬Misfit w n e := by
  rintro (hneg | hlarge)
  · exact Int.not_lt.mpr h.1 hneg
  · exact Int.not_lt.mpr hlarge h.2

theorem field_eq_error_iff {w : Nat} {n : Int} {e : FieldError} :
    field w n = .error e ↔ Misfit w n e := by
  have hpow : ((Nat.pow 256 w : Nat) : Int) = 2 ^ (8 * w) := by
    rw [Int.pow_mul]
    exact Int.natCast_pow 256 w
  unfold field
  rw [hpow]
  -- The reasons exclude each other, so in each branch only one of them can be the given one.
  split_ifs with hneg hsmall
  · constructor
    · intro h
      cases h
      exact .negative hneg
    · rintro (- | hlarge)
      · rfl
      · exact absurd (nonneg_of_range_le hlarge) (Int.not_le.mpr hneg)
  · have hfits : Fits w n := ⟨Int.not_lt.mp hneg, hsmall⟩
    constructor
    · intro h
      cases h
    · intro h
      exact absurd h (not_misfit_of_fits hfits)
  · constructor
    · intro h
      cases h
      exact .tooLarge (Int.not_lt.mp hsmall)
    · rintro (h | -)
      · exact absurd h hneg
      · rfl

/-- An integer has no little-endian field for the same reasons as it has no big-endian one. -/
theorem fieldLE_eq_error_iff {w : Nat} {n : Int} {e : FieldError} :
    fieldLE w n = .error e ↔ Misfit w n e := by
  rw [← field_eq_error_iff]
  exact Outcome.map_eq_error_iff

/-! ## Byte strings -/

theorem pad_eq_error_iff {w : Nat} {b : Octets} {e : FieldError} :
    pad w b = .error e ↔ w < b.length ∧ e = .overflows b.length w := by
  unfold pad
  split_ifs with h
  · simp [Nat.not_lt.mpr h]
  · simp [Nat.not_le.mp h, eq_comm]

end LedgerNet.Octets
