import LedgerNet.Proofs.Octets.Fields
import Mathlib.Tactic.Ring

/-!
# The shortest form of a number

A number in its shortest big-endian form starts with a byte other than zero, and every byte string
that does is the shortest form of its number. So a byte string is known from its number and the
number of zero bytes in front.

- `byteLength_le_iff`, `exists_byteLength`: the size of a number and the powers that it lies
  between.
- `zeros_append_ofNat_natBE`: a byte string from its zeros and its number.
- `natBE_ofNat`, `takeWhile_zeros_append_ofNat`: its number and its zeros from the byte string.
-/

namespace LedgerNet.Octets

/-! ## Bytes in either order -/

theorem natBE_eq_natLE_reverse (b : Octets) : natBE b = natLE b.reverse := by
  rw [natBE, natLE, List.foldr_reverse]
  simp only [Nat.add_comm]

theorem natLE_concat (b : Octets) (x : UInt8) :
    natLE (b ++ [x]) = natLE b + 256 ^ b.length * x.toNat := by
  induction b with
  | nil => simp
  | cons y b ih =>
    rw [List.cons_append, natLE_cons, natLE_cons, ih, List.length_cons, Nat.pow_succ]
    ring

theorem natBE_zero_cons (b : Octets) : natBE (0 :: b) = natBE b := rfl

theorem natBE_lt (b : Octets) : natBE b < 256 ^ b.length := by
  rw [natBE_eq_natLE_reverse, ← List.length_reverse]
  exact natLE_lt b.reverse

theorem natBE_bigEndian (w n : Nat) : natBE (bigEndian w n) = n % 256 ^ w := by
  rw [natBE_eq_natLE_reverse, bigEndian, List.reverse_reverse, natLE_littleEndian]

/-! ## Sizes -/

theorem bitLength_le_iff (n k : Nat) : bitLength n ≤ k ↔ n < 2 ^ k := by
  unfold bitLength
  split_ifs with hzero
  · simp [hzero]
  · rw [Nat.succ_le_iff, Nat.log2_lt hzero]

theorem lt_two_pow_bitLength (n : Nat) : n < 2 ^ bitLength n :=
  (bitLength_le_iff n _).mp (Nat.le_refl _)

/-- A number has at most `k` bytes if it is below that power. -/
theorem byteLength_le_iff (n k : Nat) : byteLength n ≤ k ↔ n < 256 ^ k := by
  have hpow : (256 : Nat) ^ k = 2 ^ (8 * k) := by rw [Nat.pow_mul]
  -- A byte has eight binary digits.
  rw [hpow, ← bitLength_le_iff, byteLength]
  omega

theorem lt_pow_byteLength (n : Nat) : n < 256 ^ byteLength n :=
  (byteLength_le_iff n _).mp (Nat.le_refl _)

/-- The size of a number is told by the powers that it lies between. -/
theorem byteLength_eq {n k : Nat} (hlow : 256 ^ k ≤ n) (hhigh : n < 256 ^ (k + 1)) :
    byteLength n = k + 1 := by
  have hmost := (byteLength_le_iff n (k + 1)).mpr hhigh
  have hleast : ¬byteLength n ≤ k := mt (byteLength_le_iff n k).mp (Nat.not_lt.mpr hlow)
  omega

/-- A number other than zero lies between two powers that tell its size. -/
theorem exists_byteLength {n : Nat} (hn : 0 < n) :
    ∃ k, byteLength n = k + 1 ∧ 256 ^ k ≤ n ∧ n < 256 ^ (k + 1) := by
  have hpos : byteLength n ≠ 0 := by
    intro hzero
    have hlt := lt_pow_byteLength n
    rw [hzero] at hlt
    omega
  obtain ⟨k, hk⟩ := Nat.exists_eq_succ_of_ne_zero hpos
  have hlow : ¬n < 256 ^ k := by
    rw [← byteLength_le_iff]
    omega
  exact ⟨k, hk, Nat.not_lt.mp hlow, (byteLength_le_iff n (k + 1)).mp (Nat.le_of_eq hk)⟩

/-! ## The shortest form -/

/-- A byte string that starts with another byte than zero is the shortest form of its number. -/
theorem ofNat_natBE {x : UInt8} {b : Octets} (hx : x ≠ 0) :
    ofNat (natBE (x :: b)) = x :: b := by
  have hvalue : natBE (x :: b) = natLE b.reverse + 256 ^ b.length * x.toNat := by
    rw [natBE_eq_natLE_reverse, List.reverse_cons, natLE_concat, List.length_reverse]
  have hfirst : 0 < x.toNat := by
    apply Nat.pos_of_ne_zero
    intro hzero
    exact hx (UInt8.toNat_inj.mp hzero)
  have hlow : 256 ^ b.length ≤ natBE (x :: b) := by
    rw [hvalue]
    exact Nat.le_trans (Nat.le_mul_of_pos_right _ hfirst) (Nat.le_add_left _ _)
  have hhigh : natBE (x :: b) < 256 ^ (b.length + 1) := natBE_lt (x :: b)
  have hbytes := littleEndian_natLE (x :: b).reverse
  rw [← natBE_eq_natLE_reverse, List.length_reverse, List.length_cons] at hbytes
  rw [ofNat, byteLength_eq hlow hhigh, bigEndian, hbytes, List.reverse_reverse]

/-- A byte string is the zeros in front and the shortest form of its number. -/
theorem zeros_append_ofNat_natBE (b : Octets) :
    zeros (b.takeWhile (· == 0)).length ++ ofNat (natBE b) = b := by
  induction b with
  | nil => rfl
  | cons x b ih =>
    by_cases hx : x = 0
    · subst hx
      rw [natBE_zero_cons, List.takeWhile_cons_of_pos (by rfl), List.length_cons]
      show 0 :: (zeros (b.takeWhile (· == 0)).length ++ ofNat (natBE b)) = 0 :: b
      rw [ih]
    · rw [List.takeWhile_cons_of_neg (by simpa using hx), ofNat_natBE hx]
      rfl

/-! ## The number of a shortest form -/

/-- A number is that of its shortest form. -/
theorem natBE_ofNat (n : Nat) : natBE (ofNat n) = n := by
  rw [ofNat, natBE_bigEndian]
  exact Nat.mod_eq_of_lt (lt_pow_byteLength n)

/-- Zeros in front do not change a number. -/
theorem natBE_zeros_append (k : Nat) (b : Octets) : natBE (zeros k ++ b) = natBE b := by
  induction k with
  | zero => rfl
  | succ k ih => exact ih

/-- The zeros in front of a shortest form are all that are in front. -/
theorem takeWhile_zeros_append_ofNat (k n : Nat) :
    (zeros k ++ ofNat n).takeWhile (· == 0) = zeros k := by
  have hshortest := zeros_append_ofNat_natBE (ofNat n)
  rw [natBE_ofNat] at hshortest
  have hnone : ((ofNat n).takeWhile (· == 0)).length = 0 := by
    have hlength := congrArg List.length hshortest
    rw [List.length_append, zeros, List.length_replicate] at hlength
    omega
  rw [List.takeWhile_append_of_pos, List.length_eq_zero_iff.mp hnone, List.append_nil]
  intro x hx
  exact beq_iff_eq.mpr (List.eq_of_mem_replicate hx)

end LedgerNet.Octets
