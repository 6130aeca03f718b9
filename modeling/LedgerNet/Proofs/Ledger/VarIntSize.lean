import LedgerNet.Proofs.Ledger.ReadFailure
import LedgerNet.Proofs.Ledger.VarIntFormat
import LedgerNet.Proofs.Octets.Misfits

/-!
# Sizes of numbers of variable length

The form of a number is known from the number alone, and so is its size: 1, 3, 5 or 9 bytes, more
for larger numbers and never fewer. Integers outside the 64-bit range have no form.

## Main statements

- `VarInt.write_of_lt`, `VarInt.length_form`: the form of a number and its size.
- `VarInt.write_eq_error_iff`: which integers have no form, and why.
- `varFormats_canonical`: reading and writing numbers and byte strings, in both directions.
-/

namespace LedgerNet.Ledger

open Octets (FieldError Fits Misfit byteLength fieldLE littleEndian)
open Outcome (map_eq_error_iff)

/-! ## Texts -/

/-- An overflow has a text if the width of the field can be written. -/
theorem exists_message_overflows {limit : Int} (h : Text.isWritable limit) (size : Nat) :
    ∃ m, (FieldError.overflows size limit).message? = some m := by
  rw [FieldError.message?, Text.numeral?_of_isWritable h]
  exact ⟨_, rfl⟩

namespace VarInt

/-! ## Forms -/

/-- The form of a number of the 64-bit range. -/
def form (n : Nat) : Octets :=
  if n < 0xfd then littleEndian 1 n
  else if n ≤ 0xffff then 0xfd :: littleEndian 2 n
  else if n ≤ 0xffffffff then 0xfe :: littleEndian 4 n
  else 0xff :: littleEndian 8 n

/-- The size of the form of a number. -/
def size (n : Nat) : Nat :=
  if n < 0xfd then 1 else if n ≤ 0xffff then 3 else if n ≤ 0xffffffff then 5 else 9

theorem length_form (n : Nat) : (form n).length = size n := by
  unfold form size
  split_ifs <;> simp

theorem size_mono {m n : Nat} (h : m ≤ n) : size m ≤ size n := by
  unfold size
  split_ifs <;> omega

/-! ## Writing -/

/-- A number of the 64-bit range is written as its form. -/
theorem write_of_lt {n : Nat} (h : n < 2 ^ 64) : VarInt.write n = .ok (form n) := by
  have hfield : ∀ {w : Nat}, n < 256 ^ w → fieldLE w n = .ok (littleEndian w n) := fun hw =>
    Octets.fieldLE_eq_ok_iff.mpr ⟨Octets.fits_natCast_iff.mpr hw, rfl⟩
  unfold VarInt.write form
  by_cases h₁ : n < 0xfd
  · rw [if_pos (by omega), if_pos h₁, Octets.field_one, hfield (by omega)]
  rw [if_neg (by omega), if_neg h₁]
  by_cases h₂ : n ≤ 0xffff
  · rw [if_pos (by omega), if_pos h₂, hfield (by omega)]
    rfl
  rw [if_neg (by omega), if_neg h₂]
  by_cases h₄ : n ≤ 0xffffffff
  · rw [if_pos (by omega), if_pos h₄, hfield (by omega)]
    rfl
  · rw [if_neg (by omega), if_neg h₄, hfield (by omega)]
    rfl

theorem write_of_neg {n : Int} (h : n < 0) : VarInt.write n = .error .negative := by
  rw [VarInt.write, if_pos (by omega)]
  exact Octets.field_eq_error_iff.mpr (.negative h)

theorem write_of_large {n : Int} (h : 2 ^ 64 ≤ n) :
    VarInt.write n = .error (.overflows (byteLength n.toNat) 8) := by
  rw [VarInt.write, if_neg (by omega), if_neg (by omega), if_neg (by omega)]
  exact map_eq_error_iff.mpr (Octets.fieldLE_eq_error_iff.mpr (.tooLarge h))

/-- An integer is written exactly if it is of the 64-bit range. -/
theorem write_eq_ok_iff_form {n : Int} {c : Octets} :
    VarInt.write n = .ok c ↔ Fits 8 n ∧ c = form n.toNat := by
  by_cases hfits : Fits 8 n
  · obtain ⟨m, rfl⟩ := Int.eq_ofNat_of_zero_le hfits.1
    rw [write_of_lt (Octets.fits_natCast_iff.mp hfits), Int.toNat_natCast]
    simp [hfits, eq_comm]
  · simp only [hfits, false_and, iff_false]
    intro h
    rcases Int.lt_or_le n 0 with hneg | hnonneg
    · rw [write_of_neg hneg] at h
      cases h
    · have hlarge : 2 ^ 64 ≤ n := Int.not_lt.mp fun hlt => hfits ⟨hnonneg, hlt⟩
      rw [write_of_large hlarge] at h
      cases h

/-- An integer is refused for being outside the 64-bit range, below or above. -/
theorem write_eq_error_iff {n : Int} {e : FieldError} :
    VarInt.write n = .error e ↔ Misfit 8 n e := by
  constructor
  · intro h
    -- An integer is below the range, above it or in it, and only in it there is a form.
    by_cases hneg : n < 0
    · rw [write_of_neg hneg] at h
      cases h
      exact .negative hneg
    by_cases hlarge : 2 ^ 64 ≤ n
    · rw [write_of_large hlarge] at h
      cases h
      exact .tooLarge hlarge
    · have hfits : Fits 8 n := ⟨Int.not_lt.mp hneg, Int.not_le.mp hlarge⟩
      rw [write_eq_ok_iff_form.mpr ⟨hfits, rfl⟩] at h
      cases h
  · rintro (hneg | hlarge)
    · exact write_of_neg hneg
    · exact write_of_large hlarge

theorem length_le_of_write {m n : Int} {c e : Octets} (h : m ≤ n) (hc : VarInt.write m = .ok c)
    (he : VarInt.write n = .ok e) : c.length ≤ e.length := by
  obtain ⟨-, rfl⟩ := write_eq_ok_iff_form.mp hc
  obtain ⟨-, rfl⟩ := write_eq_ok_iff_form.mp he
  rw [length_form, length_form]
  exact size_mono (Int.toNat_le_toNat h)

/-! ## Reading -/

/-- An integer is read exactly where its form stands in front. -/
theorem read_int_eq_ok_iff {n : Int} {b rest : Octets} :
    ((fun m : Nat => (m : Int)) <$> VarInt.read) b = .ok n rest ↔
      Fits 8 n ∧ ∃ c, VarInt.write n = .ok c ∧ b = c ++ rest := by
  rw [Reader.map_eq_ok_iff]
  constructor
  · rintro ⟨m, hread, rfl⟩
    obtain ⟨-, c, hc, rfl⟩ := (exact_varInt _ _ _).mp hread
    exact ⟨(write_eq_ok_iff_form.mp hc).1, c, hc, rfl⟩
  · rintro ⟨hfits, c, hc, rfl⟩
    obtain ⟨m, rfl⟩ := Int.eq_ofNat_of_zero_le hfits.1
    exact ⟨m, exact_varInt.read_write trivial hc rest, rfl⟩

end VarInt

/-! ## Both formats -/

/-- **Numbers and byte strings of variable length are canonical.** A number is read exactly where
it is of the 64-bit range and its form stands in front, and a byte string exactly where it is not
longer than the limit and its form stands in front; precisely what follows is left. Every integer of
the range has a form, one below it is refused as negative and one above it as too long, with a text;
and a larger one never has a shorter form. -/
theorem varFormats_canonical (b rest : Octets) (v : Int) :
    (((fun n : Nat => (n : Int)) <$> VarInt.read) b = .ok v rest ↔
      Fits 8 v ∧ ∃ c, VarInt.write v = .ok c ∧ b = c ++ rest) ∧
    (∀ limit field d, VarBytes.read limit field b = .ok d rest ↔
      (d.length : Int) ≤ limit ∧ ∃ c, VarBytes.write d = .ok c ∧ b = c ++ rest) ∧
    (Fits 8 v → ∃ c, VarInt.write v = .ok c) ∧
    (v < 0 → VarInt.write v = .error .negative) ∧
    (2 ^ 64 ≤ v → ∃ size m, VarInt.write v = .error (.overflows size 8) ∧
      (FieldError.overflows size 8).message? = some m) ∧
    ∀ w c e, v ≤ w → VarInt.write v = .ok c → VarInt.write w = .ok e → c.length ≤ e.length := by
  refine ⟨VarInt.read_int_eq_ok_iff, fun limit field d => exact_varBytes limit field b d rest,
    fun h => ⟨_, VarInt.write_eq_ok_iff_form.mpr ⟨h, rfl⟩⟩, VarInt.write_of_neg, ?large,
    fun w c e => VarInt.length_le_of_write⟩
  case large =>
    intro h
    have hwidth : Text.isWritable (8 : Int) := by decide +kernel
    obtain ⟨m, hm⟩ := exists_message_overflows hwidth (byteLength v.toNat)
    exact ⟨byteLength v.toNat, m, VarInt.write_of_large h, hm⟩

/-- The least number with a mark is read behind it and no smaller one is; the integers next to the
64-bit range are refused, and the greatest in it is written longest. -/
theorem varFormats_canonical_marked :
    ((fun n : Nat => (n : Int)) <$> VarInt.read) [0xfd, 0xfd, 0, 9] = .ok 0xfd [9] ∧
    ((fun n : Nat => (n : Int)) <$> VarInt.read) [0xfd, 0xfc, 0, 9] ≠ .ok 0xfc [9] ∧
    VarBytes.read 2 "script" [2, 7, 7, 9] = .ok [7, 7] [9] ∧
    VarInt.write (-1) = .error .negative ∧
    (∃ size m, VarInt.write (2 ^ 64) = .error (.overflows size 8) ∧
      (FieldError.overflows size 8).message? = some m) ∧
    ∃ c e, VarInt.write 0xfd = .ok c ∧ VarInt.write (2 ^ 64 - 1) = .ok e ∧
      c.length ≤ e.length := by
  obtain ⟨hread, -, hwritten, -, -, hlength⟩ := varFormats_canonical [0xfd, 0xfd, 0, 9] [9] 0xfd
  obtain ⟨c, hc⟩ := hwritten (by decide)
  obtain ⟨-, -, hlast, -, -, -⟩ := varFormats_canonical [] [] (2 ^ 64 - 1)
  obtain ⟨e, he⟩ := hlast (by decide)
  refine ⟨hread.mpr ⟨by decide, [0xfd, 0xfd, 0], rfl, rfl⟩, ?_,
    ((varFormats_canonical [2, 7, 7, 9] [9] 0).2.1 2 "script" [7, 7]).mpr
      ⟨by decide, [2, 7, 7], rfl, rfl⟩,
    (varFormats_canonical [] [] (-1)).2.2.2.1 (by decide),
    (varFormats_canonical [] [] (2 ^ 64)).2.2.2.2.1 (by decide),
    c, e, hc, he, hlength _ c e (by decide) hc he⟩
  -- The form of `0xfc` is that number alone, and no mark.
  intro hshort
  obtain ⟨-, c', hc', heq⟩ := (varFormats_canonical [0xfd, 0xfc, 0, 9] [9] 0xfc).1.mp hshort
  cases hc'
  exact absurd heq (by decide)

end LedgerNet.Ledger
