import LedgerNet.Proofs.Octets.Shortest

/-!
# The last byte

The last byte of a little-endian form has the greatest weight, and its top bit can be taken for a
sign. A fact about one byte is checked for all 256 of them.

- `littleEndian_concat`: the last byte of a little-endian form.
- `toNat_and_low`, `and_top_ne_zero_iff`: a byte without its top bit, and the top bit alone.
-/

namespace LedgerNet.Octets

/-! ## One byte -/

/-- What holds of the 256 bytes holds of every byte. -/
theorem forall_byte {p : UInt8 → Prop} (h : ∀ k < 256, p (UInt8.ofNat k)) (x : UInt8) : p x := by
  have hx := h x.toNat x.toNat_lt
  rwa [UInt8.ofNat_toNat] at hx

theorem toNat_and_low (x : UInt8) : (x &&& 0x7f).toNat = x.toNat % 128 := by
  rw [UInt8.toNat_and]
  exact Nat.and_two_pow_sub_one_eq_mod _ 7

theorem and_top_ne_zero_iff (x : UInt8) : x &&& 0x80 ≠ 0 ↔ 128 ≤ x.toNat := by
  revert x
  exact forall_byte (by decide +kernel)

/-- Setting a top bit that is not set adds its weight. -/
theorem toNat_or_top {x : UInt8} (h : x.toNat < 128) : (x ||| 0x80).toNat = x.toNat + 128 := by
  revert h
  exact forall_byte (p := fun x => x.toNat < 128 → (x ||| 0x80).toNat = x.toNat + 128)
    (by decide +kernel) x

/-- The bytes without a bit below the top one. -/
theorem mod_low_eq_zero_iff (x : UInt8) : x.toNat % 128 = 0 ↔ x = 0x00 ∨ x = 0x80 := by
  revert x
  exact forall_byte (by decide +kernel)

/-! ## Little-endian forms -/

theorem littleEndian_concat (w n : Nat) :
    littleEndian (w + 1) n = littleEndian w n ++ [UInt8.ofNat (n / 256 ^ w)] := by
  induction w generalizing n with
  | zero => simp [littleEndian]
  | succ w ih =>
    rw [littleEndian, ih, littleEndian, Nat.div_div_eq_div_mul, ← Nat.pow_succ']
    rfl

/-- Byte strings of one length are known from their numbers. -/
theorem natLE_inj {b c : Octets} (hlength : b.length = c.length) (h : natLE b = natLE c) :
    b = c := by
  rw [← littleEndian_natLE b, ← littleEndian_natLE c, hlength, h]

end LedgerNet.Octets
