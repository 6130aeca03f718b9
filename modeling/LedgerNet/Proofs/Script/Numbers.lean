import LedgerNet.Proofs.Octets.LastByte
import LedgerNet.Script

/-!
# Script numbers

A script number is the magnitude of an integer from its low end, with the sign in the top bit of the
last byte. `number` writes the shortest byte string that stands for an integer, and every shortest
byte string is written for one integer.

## Main statements

- `numberValue_number`: what is written for an integer stands for it.
- `length_number_le_iff`: the size of a script number, by the range of its integer.
- `shortest_concat_iff`: the shortest byte strings are those whose integer needs all their bytes.
- `numbers_are_shortest_forms`: script numbers are a bijection onto the shortest byte strings.
-/

namespace LedgerNet.Script

open Octets

/-! ## What a byte string stands for -/

/-- The integer that a byte string stands for as a script number. -/
def numberValue (b : Octets) : Int :=
  match b.getLast? with
  | none => 0
  | some last =>
    let magnitude := natLE (b.dropLast ++ [last &&& 0x7f])
    if last &&& 0x80 ≠ 0 then -(magnitude : Int) else magnitude

/-- The byte string stands for no integer of a shorter one: it is empty, or its last byte has a bit
below the sign, or the byte before the last has its top bit set, which the sign may not take. -/
inductive Shortest : Octets → Prop where
  | empty : Shortest []
  | last (b : Octets) (x : UInt8) (hpositive : x ≠ 0x00) (hnegative : x ≠ 0x80) :
      Shortest (b ++ [x])
  | beforeLast (b : Octets) (y x : UInt8) (htop : y &&& 0x80 ≠ 0) : Shortest (b ++ [y] ++ [x])

section Value

variable (b : Octets) (x : UInt8)

theorem numberValue_concat :
    numberValue (b ++ [x]) =
      if 128 ≤ x.toNat then -((natLE b + 256 ^ b.length * (x.toNat % 128) : Nat) : Int)
      else (natLE b + 256 ^ b.length * (x.toNat % 128) : Nat) := by
  simp only [numberValue, List.getLast?_concat, List.dropLast_concat, natLE_concat, toNat_and_low,
    and_top_ne_zero_iff]

theorem natAbs_numberValue_concat :
    (numberValue (b ++ [x])).natAbs = natLE b + 256 ^ b.length * (x.toNat % 128) := by
  rw [numberValue_concat]
  split_ifs <;> omega

/-- The sign of an integer other than zero is the top bit of the last byte. -/
theorem numberValue_concat_neg_iff (h : numberValue (b ++ [x]) ≠ 0) :
    numberValue (b ++ [x]) < 0 ↔ 128 ≤ x.toNat := by
  rw [numberValue_concat] at h ⊢
  split_ifs at h ⊢ with hsign <;> omega

end Value

/-- Byte strings of one length are known from their integer, unless it is zero. -/
theorem eq_of_numberValue_eq {b c : Octets} {x y : UInt8} (hlength : b.length = c.length)
    (h : numberValue (b ++ [x]) = numberValue (c ++ [y])) (hne : numberValue (c ++ [y]) ≠ 0) :
    b ++ [x] = c ++ [y] := by
  have hlow : b ++ [x &&& 0x7f] = c ++ [y &&& 0x7f] := by
    apply natLE_inj
    · simp [hlength]
    · rw [natLE_concat, natLE_concat, toNat_and_low, toNat_and_low, ← natAbs_numberValue_concat,
        ← natAbs_numberValue_concat, h]
  obtain ⟨rfl, hbits⟩ := List.append_inj' hlow rfl
  have hbyte : x.toNat % 128 = y.toNat % 128 := by
    rw [← toNat_and_low, ← toNat_and_low, List.singleton_inj.mp hbits]
  have htop : 128 ≤ x.toNat ↔ 128 ≤ y.toNat := by
    rw [← numberValue_concat_neg_iff b x (h ▸ hne), ← numberValue_concat_neg_iff b y hne, h]
  have hx := x.toNat_lt
  have hy := y.toNat_lt
  have hsame : x = y := UInt8.toNat_inj.mp (by omega)
  rw [hsame]

/-- The sign takes one of the bits of a byte string. -/
theorem natAbs_numberValue_lt (s : Octets) : 2 * (numberValue s).natAbs < 256 ^ s.length := by
  obtain rfl | ⟨b, x, rfl⟩ := List.eq_nil_or_concat' s
  · decide
  · have hlow : natLE b < 256 ^ b.length := natLE_lt b
    have hhigh : 256 ^ b.length * (x.toNat % 128) ≤ 256 ^ b.length * 127 :=
      Nat.mul_le_mul_left _ (by omega)
    rw [natAbs_numberValue_concat, List.length_append, List.length_singleton, Nat.pow_succ]
    omega

/-! ## What is written -/

/-- The top bit for a negative integer. -/
def signByte (n : Int) : UInt8 := if n < 0 then 0x80 else 0

/-- The sign of an integer in a byte whose top bit is free. -/
theorem or_signByte {x : UInt8} (n : Int) (h : x.toNat < 128) :
    (x ||| signByte n).toNat % 128 = x.toNat ∧ (128 ≤ (x ||| signByte n).toNat ↔ n < 0) := by
  unfold signByte
  split_ifs with hneg
  · rw [toNat_or_top h]
    omega
  · rw [UInt8.or_zero]
    omega

/-- The bytes that are written for an integer other than zero: their magnitude and sign are those of
the integer, and they are not more than it needs. -/
theorem number_eq {n : Int} (hn : n ≠ 0) :
    ∃ b x, number n = b ++ [x] ∧ natLE b + 256 ^ b.length * (x.toNat % 128) = n.natAbs ∧
      (128 ≤ x.toNat ↔ n < 0) ∧ 256 ^ b.length ≤ 2 * n.natAbs := by
  obtain ⟨k, hsize, hlow, hhigh⟩ := exists_byteLength (Int.natAbs_pos.mpr hn)
  have hquotient : n.natAbs / 256 ^ k < 256 := by
    rw [Nat.div_lt_iff_lt_mul (Nat.pow_pos (by decide)), Nat.mul_comm, ← Nat.pow_succ]
    exact hhigh
  have hvalue : (UInt8.ofNat (n.natAbs / 256 ^ k)).toNat = n.natAbs / 256 ^ k :=
    UInt8.toNat_ofNat_of_lt hquotient
  have hsplit := Nat.mod_add_div n.natAbs (256 ^ k)
  generalize hlast : UInt8.ofNat (n.natAbs / 256 ^ k) = last at hvalue
  rw [← hvalue] at hsplit
  have hform : number n =
      if 128 ≤ last.toNat then (littleEndian k n.natAbs ++ [last]) ++ [0 ||| signByte n]
      else littleEndian k n.natAbs ++ [last ||| signByte n] := by
    simp only [number, if_neg hn, hsize, littleEndian_concat, hlast, List.getLast?_concat,
      List.dropLast_concat, Option.getD_some, and_top_ne_zero_iff, UInt8.zero_or, signByte]
  rw [hform]
  split_ifs with htop
  · -- The top bit is taken, so the sign has a byte of its own.
    obtain ⟨hmagnitude, hsign⟩ := or_signByte (x := 0) n (by decide)
    refine ⟨_, _, rfl, ?_, hsign, ?_⟩
    · rw [hmagnitude, natLE_concat, length_littleEndian, natLE_littleEndian]
      exact hsplit
    · have htwice : 256 ^ k * 128 ≤ 256 ^ k * last.toNat := Nat.mul_le_mul_left _ htop
      rw [List.length_append, List.length_singleton, length_littleEndian, Nat.pow_succ]
      omega
  · obtain ⟨hmagnitude, hsign⟩ := or_signByte n (Nat.not_le.mp htop)
    refine ⟨_, _, rfl, ?_, hsign, ?_⟩
    · rw [hmagnitude, length_littleEndian, natLE_littleEndian]
      exact hsplit
    · rw [length_littleEndian]
      omega

/-- What is written for an integer stands for it. -/
theorem numberValue_number (n : Int) : numberValue (number n) = n := by
  by_cases hn : n = 0
  · subst hn
    rfl
  · obtain ⟨b, x, hform, hmagnitude, hsign, -⟩ := number_eq hn
    rw [hform, numberValue_concat, hmagnitude]
    split_ifs with htop
    · have hneg := hsign.mp htop
      omega
    · have hnonneg := mt hsign.mpr htop
      omega

/-- The size of a script number, by the range of its integer. -/
theorem length_number_le_iff (n : Int) (k : Nat) :
    (number n).length ≤ k ↔ 2 * n.natAbs < 256 ^ k := by
  constructor
  · intro hle
    have hlt := natAbs_numberValue_lt (number n)
    rw [numberValue_number] at hlt
    exact Nat.lt_of_lt_of_le hlt (Nat.pow_le_pow_right (by decide) hle)
  · intro hlt
    by_cases hn : n = 0
    · subst hn
      exact Nat.zero_le k
    · obtain ⟨b, x, hform, -, -, hneeded⟩ := number_eq hn
      have hpow : 256 ^ b.length < 256 ^ k := Nat.lt_of_le_of_lt hneeded hlt
      rw [hform, List.length_append, List.length_singleton]
      exact (Nat.pow_lt_pow_iff_right (by decide)).mp hpow

/-- No shorter byte string stands for an integer than the one that is written. -/
theorem length_number_le {s : Octets} {n : Int} (h : numberValue s = n) :
    (number n).length ≤ s.length := by
  rw [length_number_le_iff, ← h]
  exact natAbs_numberValue_lt s

/-! ## Shortest byte strings -/

/-- The integer of a shortest byte string needs the last byte. -/
theorem Shortest.pow_le {b : Octets} {x : UInt8} (h : Shortest (b ++ [x])) :
    256 ^ b.length ≤ 2 * (numberValue (b ++ [x])).natAbs := by
  rw [natAbs_numberValue_concat]
  generalize hs : b ++ [x] = s at h
  cases h with
  | empty => simp at hs
  | last c z hpositive hnegative =>
    obtain ⟨rfl, hz⟩ := List.append_inj' hs rfl
    obtain rfl : x = z := List.singleton_inj.mp hz
    have hbits : 0 < x.toNat % 128 := by
      apply Nat.pos_of_ne_zero
      rw [ne_eq, mod_low_eq_zero_iff]
      exact not_or.mpr ⟨hpositive, hnegative⟩
    have hlast := Nat.le_mul_of_pos_right (256 ^ b.length) hbits
    omega
  | beforeLast c y z htop =>
    obtain ⟨rfl, -⟩ := List.append_inj' hs rfl
    have htwice : 256 ^ c.length * 128 ≤ 256 ^ c.length * y.toNat :=
      Nat.mul_le_mul_left _ ((and_top_ne_zero_iff y).mp htop)
    rw [natLE_concat, List.length_append, List.length_singleton, Nat.pow_succ]
    omega

theorem shortest_of_pow_le {b : Octets} {x : UInt8}
    (h : 256 ^ b.length ≤ 2 * (numberValue (b ++ [x])).natAbs) : Shortest (b ++ [x]) := by
  rw [natAbs_numberValue_concat] at h
  by_cases hbits : x.toNat % 128 = 0
  · -- The last byte holds the sign alone, so the others need all their bits.
    rw [hbits, Nat.mul_zero, Nat.add_zero] at h
    obtain rfl | ⟨c, y, rfl⟩ := List.eq_nil_or_concat' b
    · simp at h
    · refine .beforeLast c y x ((and_top_ne_zero_iff y).mpr ?_)
      rw [natLE_concat, List.length_append, List.length_singleton, Nat.pow_succ] at h
      have hlow : natLE c < 256 ^ c.length := natLE_lt c
      by_contra hsmall
      have hhigh : 256 ^ c.length * y.toNat ≤ 256 ^ c.length * 127 :=
        Nat.mul_le_mul_left _ (by omega)
      omega
  · rw [mod_low_eq_zero_iff, not_or] at hbits
    exact .last b x hbits.1 hbits.2

/-- A byte string with a last byte is shortest exactly if its integer needs that byte. -/
theorem shortest_concat_iff (b : Octets) (x : UInt8) :
    Shortest (b ++ [x]) ↔ 256 ^ b.length ≤ 2 * (numberValue (b ++ [x])).natAbs :=
  ⟨Shortest.pow_le, shortest_of_pow_le⟩

/-- A shortest byte string is what is written for the integer that it stands for. -/
theorem Shortest.number_numberValue {s : Octets} (h : Shortest s) :
    number (numberValue s) = s := by
  obtain rfl | ⟨b, x, rfl⟩ := List.eq_nil_or_concat' s
  · rfl
  have hneeded := h.pow_le
  have hne : numberValue (b ++ [x]) ≠ 0 := by
    intro hzero
    rw [hzero] at hneeded
    exact Nat.not_le.mpr (Nat.pow_pos (by decide)) hneeded
  have hmost : (number (numberValue (b ++ [x]))).length ≤ (b ++ [x]).length := length_number_le rfl
  have hleast : ¬(number (numberValue (b ++ [x]))).length ≤ b.length := by
    rw [length_number_le_iff]
    exact Nat.not_lt.mpr hneeded
  have hvalue := numberValue_number (numberValue (b ++ [x]))
  obtain ⟨c, y, hform, -⟩ := number_eq hne
  rw [hform] at hmost hleast hvalue ⊢
  simp only [List.length_append, List.length_singleton] at hmost hleast
  exact eq_of_numberValue_eq (by omega) hvalue hne

/-- The byte strings that are written are the shortest ones. -/
theorem shortest_number (n : Int) : Shortest (number n) := by
  by_cases hn : n = 0
  · subst hn
    exact .empty
  · obtain ⟨b, x, hform, -, -, hneeded⟩ := number_eq hn
    have hvalue := numberValue_number n
    rw [hform] at hvalue ⊢
    rw [shortest_concat_iff, hvalue]
    exact hneeded

/-! ## Script numbers -/

/-- **Script numbers are a bijection onto the shortest byte strings.** What is written for an
integer stands for it, and no shorter byte string does; and a byte string is written for some
integer exactly if it is shortest. -/
theorem numbers_are_shortest_forms :
    (∀ n, numberValue (number n) = n ∧
      ∀ s, numberValue s = n → (number n).length ≤ s.length) ∧
    (∀ s, (∃ n, number n = s) ↔ Shortest s) := by
  refine ⟨fun n => ⟨numberValue_number n, fun s => length_number_le⟩, fun s => ⟨?_, ?_⟩⟩
  · rintro ⟨n, rfl⟩
    exact shortest_number n
  · intro h
    exact ⟨numberValue s, h.number_numberValue⟩

/-- At -128 the magnitude takes the top bit, so the sign has a byte of its own; a longer byte string
stands for the same integer. -/
theorem numbers_are_shortest_forms_sign_byte :
    numberValue [0x80, 0x00, 0x80] = -128 ∧ (number (-128)).length ≤ [0x80, 0x00, 0x80].length ∧
    (∃ n, number n = [0x80, 0x80]) ∧ ¬∃ n, number n = [0x80, 0x00, 0x80] := by
  obtain ⟨hvalue, hforms⟩ := numbers_are_shortest_forms
  have hlong : numberValue [0x80, 0x00, 0x80] = -128 := by decide
  refine ⟨hlong, (hvalue (-128)).2 _ hlong, (hforms _).mpr (.beforeLast [] 0x80 0x80 (by decide)),
    ?_⟩
  rw [hforms]
  intro h
  have hneeded := (shortest_concat_iff [0x80, 0x00] 0x80).mp h
  exact absurd hneeded (by decide)

end LedgerNet.Script
