import LedgerNet.Proofs.Octets.LastByte

/-!
# Integers and their byte strings

A byte string of a given size stands for the integers of a range, which is the plain one or, in
two's complement, the one with as many integers below zero as not. An integer is written at the
least size whose range has it, so that it is read back and no shorter byte string stands for it.

- `inRange_toInt`: the range that a byte string's integer lies in.
- `toInt_bigEndian`: an integer is read back from its bytes at every size whose range has it.
- `intLength_le_iff`: the size at which an integer is written is the least of these.
- `exists_ofInt`, `ofInt_toInt`: writing and reading undo each other.
-/

namespace LedgerNet.Octets

variable {signed : Bool} {i : Int} {w : Nat} {b : Octets}

/-! ## Numbers of a size -/

/-- Byte strings of one length are known from their numbers, in this order as in the other. -/
theorem natBE_inj {b c : Octets} (hlength : b.length = c.length) (h : natBE b = natBE c) :
    b = c := by
  rw [natBE_eq_natLE_reverse, natBE_eq_natLE_reverse] at h
  exact List.reverse_injective (natLE_inj (by simpa using hlength) h)

/-- Zeros in front of a number's bytes are its bytes at a greater size. -/
theorem zeros_append_bigEndian {k w n : Nat} (hk : k ≤ w) (hn : n < 256 ^ k) :
    zeros (w - k) ++ bigEndian k n = bigEndian w n := by
  have hwide : n < 256 ^ w := Nat.lt_of_lt_of_le hn (Nat.pow_le_pow_right (by decide) hk)
  apply natBE_inj
  · rw [List.length_append, zeros, List.length_replicate, length_bigEndian, length_bigEndian]
    omega
  · rw [natBE_zeros_append, natBE_bigEndian, natBE_bigEndian, Nat.mod_eq_of_lt hn,
      Nat.mod_eq_of_lt hwide]

/-! ## Ranges -/

/-- The range of the integers that byte strings of `w` bytes stand for. -/
def InRange (signed : Bool) (w : Nat) (i : Int) : Prop :=
  if signed then -256 ^ w ≤ 2 * i ∧ 2 * i < 256 ^ w else 0 ≤ i ∧ i < 256 ^ w

theorem inRange_zero (signed : Bool) (w : Nat) : InRange signed w 0 := by
  have hpos : (0 : Int) < 256 ^ w := Int.pow_pos (by decide)
  cases signed with
  | false => exact ⟨Int.le_refl 0, hpos⟩
  | true =>
    show -256 ^ w ≤ 2 * 0 ∧ 2 * 0 < 256 ^ w
    omega

theorem toInt_plain (b : Octets) : toInt false b = natBE b := rfl

/-- The top bit is a sign. -/
theorem toInt_signed (b : Octets) :
    toInt true b =
      if 256 ^ b.length ≤ 2 * natBE b then (natBE b : Int) - 256 ^ b.length else natBE b := by
  cases b with
  | nil => rfl
  | cons x b => simp [toInt]

/-- The integer of a byte string lies in the range of its size. -/
theorem inRange_toInt (signed : Bool) (b : Octets) : InRange signed b.length (toInt signed b) := by
  have hlt : (natBE b : Int) < 256 ^ b.length := by exact_mod_cast natBE_lt b
  cases signed with
  | false => exact ⟨Int.natCast_nonneg _, hlt⟩
  | true =>
    rw [toInt_signed]
    show _ ∧ _
    split_ifs with htop
    · have htop' : (256 : Int) ^ b.length ≤ 2 * natBE b := by exact_mod_cast htop
      omega
    · have htop' : 2 * (natBE b : Int) < 256 ^ b.length := by exact_mod_cast Nat.not_le.mp htop
      omega

/-- An integer is read back from its bytes at a size whose range has it. -/
theorem toInt_bigEndian (h : InRange signed w i) :
    toInt signed (bigEndian w (i % 256 ^ w).toNat) = i := by
  have hpos : (0 : Int) < 256 ^ w := Int.pow_pos (by decide)
  obtain ⟨n, hn⟩ : ∃ n : Nat, i % 256 ^ w = n :=
    Int.eq_ofNat_of_zero_le (Int.emod_nonneg i hpos.ne')
  have hlt : n < 256 ^ w := by
    have hmod := Int.emod_lt_of_pos i hpos
    rw [hn] at hmod
    exact_mod_cast hmod
  have hvalue : natBE (bigEndian w n) = n := by
    rw [natBE_bigEndian, Nat.mod_eq_of_lt hlt]
  rw [hn, Int.toNat_natCast]
  cases signed with
  | false =>
    obtain ⟨hnonneg, hhigh⟩ : 0 ≤ i ∧ i < 256 ^ w := h
    rw [toInt_plain, hvalue, ← hn, Int.emod_eq_of_lt hnonneg hhigh]
  | true =>
    obtain ⟨hlow, hhigh⟩ : -256 ^ w ≤ 2 * i ∧ 2 * i < 256 ^ w := h
    have htop : 256 ^ w ≤ 2 * n ↔ (256 : Int) ^ w ≤ 2 * n := by
      norm_cast
    rw [toInt_signed, hvalue, length_bigEndian]
    simp only [htop, ← hn]
    -- The residue of a negative integer lies in the upper half, where the top bit is set.
    by_cases hneg : i < 0
    · have hmod : i % 256 ^ w = i + 256 ^ w := by
        rw [← Int.add_emod_right, Int.emod_eq_of_lt (by omega) (by omega)]
      rw [hmod, if_pos (by omega)]
      omega
    · rw [Int.emod_eq_of_lt (by omega) (by omega), if_neg (by omega)]

theorem toInt_bigEndian_toNat (hnonneg : 0 ≤ i) (hlt : i < 256 ^ w) :
    toInt false (bigEndian w i.toNat) = i := by
  have hrange : InRange false w i := ⟨hnonneg, hlt⟩
  have hread := toInt_bigEndian hrange
  rwa [Int.emod_eq_of_lt hnonneg hlt] at hread

/-! ## The least size -/

/-- The size at which an integer is written. -/
def intLength (signed : Bool) (i : Int) : Nat :=
  if signed then signedLength i else byteLength i.toNat

/-- The magnitude of an integer leaves the top bit of its form to the sign. -/
theorem signedLength_le_iff (hi : i ≠ 0) : signedLength i ≤ w ↔ InRange true w i := by
  show _ ↔ -256 ^ w ≤ 2 * i ∧ 2 * i < 256 ^ w
  cases w with
  | zero =>
    rw [signedLength]
    omega
  | succ w =>
    have hpow : (256 : Int) ^ (w + 1) = 2 * (2 ^ (8 * w + 7) : Nat) := by
      push_cast
      rw [← Int.pow_succ', show 8 * w + 7 + 1 = 8 * (w + 1) by omega, Int.pow_mul]
      rfl
    have hbits : ∀ n : Nat, (bitLength n + 8) / 8 ≤ w + 1 ↔ n < 2 ^ (8 * w + 7) := fun n => by
      rw [← bitLength_le_iff]
      omega
    rw [signedLength, hbits, hpow]
    -- The number whose digits count for a negative integer is one below its magnitude.
    split_ifs <;> omega

theorem intLength_le_iff (hi : i ≠ 0) (h : 0 ≤ i ∨ signed = true) :
    intLength signed i ≤ w ↔ InRange signed w i := by
  cases signed with
  | true => exact signedLength_le_iff hi
  | false =>
    have hnonneg : 0 ≤ i := h.resolve_right (by decide)
    obtain ⟨n, rfl⟩ := Int.eq_ofNat_of_zero_le hnonneg
    show byteLength n ≤ w ↔ 0 ≤ (n : Int) ∧ (n : Int) < 256 ^ w
    rw [byteLength_le_iff, and_iff_right hnonneg]
    norm_cast

theorem inRange_intLength (h : 0 ≤ i ∨ signed = true) : InRange signed (intLength signed i) i := by
  by_cases hi : i = 0
  · subst hi
    exact inRange_zero _ _
  · exact (intLength_le_iff hi h).mp (Nat.le_refl _)

/-! ## Writing -/

/-- An integer that is not negative, or is written with a sign, is written at its size. -/
theorem ofInt_eq (h : 0 ≤ i ∨ signed = true) :
    ofInt signed i =
      .ok (bigEndian (intLength signed i) (i % 256 ^ intLength signed i).toNat) := by
  have hpow : ∀ k : Nat, ((Nat.pow 256 k : Nat) : Int) = 256 ^ k := fun k => Int.natCast_pow 256 k
  cases signed with
  | true => simp only [ofInt, intLength, if_true, hpow]
  | false =>
    have hnonneg : 0 ≤ i := h.resolve_right (by decide)
    obtain ⟨-, hlt⟩ : InRange false (intLength false i) i := inRange_intLength h
    rw [Int.emod_eq_of_lt hnonneg hlt]
    simp [ofInt, Int.not_lt.mpr hnonneg, intLength, ofNat]

/-- **An integer is written at the least size.** It is read back, and no shorter byte string stands
for it. -/
theorem exists_ofInt (h : 0 ≤ i ∨ signed = true) :
    ∃ b, ofInt signed i = .ok b ∧ toInt signed b = i ∧
      (i ≠ 0 → ∀ c, toInt signed c = i → b.length ≤ c.length) := by
  refine ⟨_, ofInt_eq h, toInt_bigEndian (inRange_intLength h), fun hi c hc => ?_⟩
  have hrange := inRange_toInt signed c
  rw [hc] at hrange
  rw [length_bigEndian]
  exact (intLength_le_iff hi h).mpr hrange

/-- A byte string that does not start with zero is what is written for its number. -/
theorem ofInt_toInt (h : b.head? ≠ some 0) : ofInt false (toInt false b) = .ok b := by
  have hwritten : ofNat (natBE b) = b := by
    cases b with
    | nil => rfl
    | cons x b => exact ofNat_natBE (by simpa using h)
  simp [toInt_plain, ofInt, hwritten]

end LedgerNet.Octets
