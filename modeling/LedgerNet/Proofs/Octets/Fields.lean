import LedgerNet.Octets
import LedgerNet.Proofs.Outcome
import Mathlib.Algebra.Ring.Int.Defs
import Mathlib.Algebra.Ring.Nat

/-!
# Fields of a fixed width

Bytes and the numbers they stand for determine each other at a fixed width, and a field is written
exactly for the integers of its unsigned range.

- `natLE_littleEndian`, `littleEndian_natLE`: reading and writing undo each other.
- `fieldLE_eq_ok_iff`: which integers have a field of `w` bytes, and which bytes it has.
- `pad_eq_ok_iff`: which byte strings can be widened to `w` bytes, and to which bytes.
-/

namespace LedgerNet.Octets

open Outcome

/-! ## Numbers -/

@[simp] theorem length_littleEndian (w n : Nat) : (littleEndian w n).length = w := by
  induction w generalizing n with
  | zero => rfl
  | succ w ih => simp [littleEndian, ih]

@[simp] theorem length_bigEndian (w n : Nat) : (bigEndian w n).length = w := by
  rw [bigEndian, List.length_reverse, length_littleEndian]

@[simp] theorem natLE_nil : natLE [] = 0 := rfl

@[simp] theorem natLE_cons (x : UInt8) (b : Octets) :
    natLE (x :: b) = x.toNat + 256 * natLE b := rfl

/-- The bytes written for a number stand for what the number is at their width. -/
theorem natLE_littleEndian (w n : Nat) : natLE (littleEndian w n) = n % 256 ^ w := by
  induction w generalizing n with
  | zero => simp [littleEndian, Nat.mod_one]
  | succ w ih =>
    simp only [littleEndian, natLE_cons, ih, UInt8.toNat_ofNat']
    exact (by rw [Nat.pow_succ', Nat.mod_mul] :
      n % 256 ^ (w + 1) = n % 256 + 256 * (n / 256 % 256 ^ w)).symm

/-- The bytes of a string are those written for its number. -/
theorem littleEndian_natLE (b : Octets) : littleEndian b.length (natLE b) = b := by
  induction b with
  | nil => rfl
  | cons x b ih =>
    have hx : x.toNat < 256 := x.toNat_lt
    have hlow : (x.toNat + 256 * natLE b) % 256 = x.toNat := by omega
    have hhigh : (x.toNat + 256 * natLE b) / 256 = natLE b := by omega
    have hbyte : UInt8.ofNat (x.toNat + 256 * natLE b) = x := by
      apply UInt8.toNat_inj.mp
      rw [UInt8.toNat_ofNat']
      exact hlow
    simp only [List.length_cons, natLE_cons, littleEndian, hhigh, hbyte, ih]

/-- A string of `w` bytes stands for a number below `256 ^ w`. -/
theorem natLE_lt (b : Octets) : natLE b < 256 ^ b.length := by
  have hmod : natLE b = natLE b % 256 ^ b.length := by
    rw [← natLE_littleEndian, littleEndian_natLE]
  rw [hmod]
  exact Nat.mod_lt _ (Nat.pow_pos (by decide))

/-! ## Ranges -/

/-- The integer lies in the unsigned range of a field of `w` bytes. -/
def Fits (w : Nat) (n : Int) : Prop := 0 ≤ n ∧ n < 2 ^ (8 * w)

instance (w : Nat) (n : Int) : Decidable (Fits w n) := inferInstanceAs (Decidable (_ ∧ _))

/-- The range of a field, counted in bytes. -/
theorem fits_natCast_iff {w n : Nat} : Fits w n ↔ n < 256 ^ w := by
  have hpow : (256 : Nat) ^ w = 2 ^ (8 * w) := by rw [Nat.pow_mul]
  rw [Fits, hpow]
  constructor
  · rintro ⟨-, h⟩
    exact_mod_cast h
  · intro h
    exact ⟨Int.natCast_nonneg n, by exact_mod_cast h⟩

/-- The number of a string of `w` bytes fits a field of `w` bytes. -/
theorem fits_natLE (b : Octets) : Fits b.length (natLE b) :=
  fits_natCast_iff.mpr (natLE_lt b)

/-! ## Fields -/

/-- An integer has a field exactly if it lies in the field's range. -/
theorem field_eq_ok_iff {w : Nat} {n : Int} {c : Octets} :
    field w n = .ok c ↔ Fits w n ∧ c = bigEndian w n.toNat := by
  by_cases hneg : n < 0
  · rw [field, if_pos hneg]
    constructor
    · intro h
      cases h
    · rintro ⟨⟨hnonneg, -⟩, -⟩
      exact absurd hnonneg (Int.not_le.mpr hneg)
  · -- Past the first guard the integer is a natural number, and the second guard is its range.
    obtain ⟨m, rfl⟩ := Int.eq_ofNat_of_zero_le (Int.not_lt.mp hneg)
    have hpow : ((m : Int) < (Nat.pow 256 w : Nat)) ↔ Fits w m := by
      rw [fits_natCast_iff]
      exact Int.ofNat_lt
    rw [field, if_neg hneg]
    by_cases hfit : Fits w m
    · rw [if_pos (hpow.mpr hfit)]
      simp [hfit, eq_comm]
    · rw [if_neg (mt hpow.mp hfit)]
      simp [hfit]

/-- An integer has a little-endian field exactly if it lies in the field's range. -/
theorem fieldLE_eq_ok_iff {w : Nat} {n : Int} {c : Octets} :
    fieldLE w n = .ok c ↔ Fits w n ∧ c = littleEndian w n.toNat := by
  constructor
  · intro h
    obtain ⟨b, hb, rfl⟩ := map_eq_ok_iff.mp h
    obtain ⟨hfit, rfl⟩ := field_eq_ok_iff.mp hb
    exact ⟨hfit, by rw [bigEndian, List.reverse_reverse]⟩
  · rintro ⟨hfit, rfl⟩
    refine map_eq_ok_iff.mpr ⟨bigEndian w n.toNat, field_eq_ok_iff.mpr ⟨hfit, rfl⟩, ?_⟩
    rw [bigEndian, List.reverse_reverse]

/-- Every integer of the range has a field. -/
theorem exists_fieldLE {w : Nat} {n : Int} (h : Fits w n) : ∃ c, fieldLE w n = .ok c :=
  ⟨_, fieldLE_eq_ok_iff.mpr ⟨h, rfl⟩⟩

/-- An integer that has a field lies in the field's range. -/
theorem fits_of_fieldLE {w : Nat} {n : Int} {c : Octets} (h : fieldLE w n = .ok c) : Fits w n :=
  (fieldLE_eq_ok_iff.mp h).1

theorem length_of_fieldLE {w : Nat} {n : Int} {c : Octets} (h : fieldLE w n = .ok c) :
    c.length = w := by
  rw [(fieldLE_eq_ok_iff.mp h).2, length_littleEndian]

/-- A field of one byte has no order of bytes. -/
theorem field_one (n : Int) : field 1 n = fieldLE 1 n := by
  cases h : field 1 n with
  | error e => simp [fieldLE, h, Except.map]
  | ok c =>
    obtain ⟨-, rfl⟩ := field_eq_ok_iff.mp h
    simp [fieldLE, h, Except.map, bigEndian, littleEndian]

/-! ## Widening -/

/-- A byte string is widened exactly if it is not too long. -/
theorem pad_eq_ok_iff {w : Nat} {b c : Octets} :
    pad w b = .ok c ↔ b.length ≤ w ∧ c = zeros (w - b.length) ++ b := by
  unfold pad
  split <;> rename_i h <;> simp [h, zeros, eq_comm]

theorem length_of_pad {w : Nat} {b c : Octets} (h : pad w b = .ok c) : c.length = w := by
  obtain ⟨hle, rfl⟩ := pad_eq_ok_iff.mp h
  simp [zeros]
  omega

/-- A byte string that has its width already stays as it is. -/
theorem pad_of_length_eq {w : Nat} {b : Octets} (h : b.length = w) : pad w b = .ok b := by
  rw [pad_eq_ok_iff]
  simp [zeros, h]

end LedgerNet.Octets
