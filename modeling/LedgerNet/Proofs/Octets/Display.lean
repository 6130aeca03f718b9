import LedgerNet.Octets.Hex

/-!
# Displayed byte strings

A byte string is read back from its hexadecimal text, and a displayed hash determines the hash.

- `ofHex?_toHex`: what is written in hexadecimal digits is read back.
- `toDisplay_injective`: different byte strings are displayed differently.
-/

namespace LedgerNet.Octets

/-! ## Digits -/

theorem hexValue?_hexDigit {n : Nat} (h : n < 16) : hexValue? (hexDigit n) = some n := by
  revert n
  decide

theorem isHexGap_hexDigit {n : Nat} (h : n < 16) : isHexGap (hexDigit n) = false := by
  revert n
  decide

/-! ## Bytes -/

theorem toHexChars_cons (x : UInt8) (b : Octets) :
    toHexChars (x :: b) = hexDigit (x.toNat / 16) :: hexDigit (x.toNat % 16) :: toHexChars b := rfl

theorem ofHexChars?_toHexChars (b : Octets) : ofHexChars? (toHexChars b) = some b := by
  induction b with
  | nil => rfl
  | cons x b ih =>
    have hx : x.toNat < 256 := x.toNat_lt
    have hhigh : x.toNat / 16 < 16 := by omega
    have hlow : x.toNat % 16 < 16 := Nat.mod_lt _ (by decide)
    have hbyte : UInt8.ofNat (16 * (x.toNat / 16) + x.toNat % 16) = x := by
      rw [Nat.div_add_mod, UInt8.ofNat_toNat]
    -- The first digit is no gap, so it is read together with the second.
    rw [toHexChars_cons, ofHexChars?, if_neg (by simp [isHexGap_hexDigit hhigh])]
    simp only [hexValue?_hexDigit hhigh, hexValue?_hexDigit hlow, ih, hbyte, Option.bind_eq_bind,
      Option.bind_some, Option.pure_def]

/-- Bytes are read back from their hexadecimal text. -/
theorem ofHex?_toHex (b : Octets) : ofHex? (toHex b) = some b := by
  rw [ofHex?, toHex, String.toList_ofList, ofHexChars?_toHexChars]

/-- The bytes of a displayed hash are read back in reverse order. -/
theorem ofHex?_toDisplay (b : Octets) : ofHex? (toDisplay b) = some b.reverse :=
  ofHex?_toHex b.reverse

/-- Different byte strings are displayed differently. -/
theorem toDisplay_injective {b c : Octets} (h : toDisplay b = toDisplay c) : b = c := by
  have hread : some b.reverse = some c.reverse := by
    rw [← ofHex?_toDisplay, h, ofHex?_toDisplay]
  injection hread with hreverse
  exact List.reverse_inj.mp hreverse

end LedgerNet.Octets
