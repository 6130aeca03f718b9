import LedgerNet.Base58.Standard
import LedgerNet.Proofs.Digest.Suite
import LedgerNet.Proofs.Octets.Shortest
import LedgerNet.Proofs.Outcome
import Mathlib.Data.List.TakeWhile
import Mathlib.Data.Nat.Digits.Lemmas

/-!
# Text in base 58 is read back

A byte string is written as a digit for each zero byte in front and the digits of its number, which
start with another digit than zero. So the number of zero bytes and the number can be read off the
text again, and with them the byte string. No digit is a blank, so nothing at the end is lost.

## Main statements

- `digitsIn_eq`: the digits of a number are those that the library has for it.
- `decodeChars_encodeChars`: text in base 58 stands for the bytes that were written.
- `decode_encode_standard`: the same for the checked form.
-/

namespace LedgerNet.Base58

open Outcome

/-! ## Single digits -/

theorem digit_mem_alphabet (v : Nat) : digit v ∈ alphabet := by
  unfold digit
  rw [List.getD_eq_getElem?_getD]
  cases h : alphabet[v]? with
  | none => decide
  | some c => exact List.mem_of_getElem? h

theorem value?_digit {v : Nat} (hv : v < 58) : value? (digit v) = some v := by
  have hall : ∀ w : Fin 58, value? (digit w) = some w.val := by decide +kernel
  exact hall ⟨v, hv⟩

theorem digit_eq_digit_zero_iff {v : Nat} (hv : v < 58) : digit v = digit 0 ↔ v = 0 := by
  constructor
  · intro h
    have hvalue := value?_digit hv
    have hzero : value? (digit 0) = some 0 := value?_digit (by decide)
    rw [h, hzero] at hvalue
    exact (Option.some.inj hvalue).symm
  · intro h
    rw [h]

theorem plain_of_mem_alphabet {c : Char} (h : c ∈ alphabet) :
    Text.isBlank c = false ∧ c.toNat < 128 := by
  have hall : alphabet.all (fun c => !Text.isBlank c && decide (c.toNat < 128)) = true := by
    decide +kernel
  simpa using List.all_eq_true.mp hall c h

/-! ## Numbers -/

/-- The digits of a number, last one first, are those that the library has. -/
theorem digitsIn_eq {base fuel n : Nat} (hbase : 1 < base) (hfuel : n < base ^ fuel) :
    digitsIn base fuel n = (Nat.digits base n).reverse := by
  induction fuel generalizing n with
  | zero =>
    have hzero : n = 0 := by simpa using hfuel
    subst hzero
    simp [digitsIn]
  | succ fuel ih =>
    by_cases hzero : n = 0
    · subst hzero
      simp [digitsIn]
    · have hless : n / base < base ^ fuel := by
        apply Nat.div_lt_of_lt_mul
        rwa [← Nat.pow_succ']
      rw [digitsIn, if_neg hzero, ih hless, Nat.digits_def' hbase (Nat.pos_of_ne_zero hzero),
        List.reverse_cons]

theorem digitsIn_bitLength (n : Nat) :
    digitsIn 58 (Octets.bitLength n) n = (Nat.digits 58 n).reverse := by
  apply digitsIn_eq (by decide)
  have hpow : 2 ^ Octets.bitLength n ≤ 58 ^ Octets.bitLength n :=
    Nat.pow_le_pow_left (by decide) _
  exact Nat.lt_of_lt_of_le (Octets.lt_two_pow_bitLength n) hpow

theorem readNumber_map_digit {vs : List Nat} (hvs : ∀ v ∈ vs, v < 58) (n : Nat) :
    readNumber n (vs.map digit) = .ok (vs.foldl (fun n v => 58 * n + v) n) := by
  induction vs generalizing n with
  | nil => rfl
  | cons v vs ih =>
    have hv : v < 58 := hvs v List.mem_cons_self
    rw [List.map_cons, readNumber, value?_digit hv]
    exact ih (fun w hw => hvs w (List.mem_cons_of_mem v hw)) (58 * n + v)

/-- The digits of a number are read back as that number. -/
theorem readNumber_digitsIn (n : Nat) :
    readNumber 0 ((digitsIn 58 (Octets.bitLength n) n).map digit) = .ok n := by
  have hless : ∀ v ∈ (Nat.digits 58 n).reverse, v < 58 := by
    intro v hv
    exact Nat.digits_lt_base (by decide) (List.mem_reverse.mp hv)
  have hvalue : (Nat.digits 58 n).foldr (fun v n => 58 * n + v) 0 = n := by
    have hdigits := Nat.ofDigits_digits 58 n
    rw [Nat.ofDigits_eq_foldr] at hdigits
    simpa [Nat.add_comm] using hdigits
  rw [digitsIn_bitLength, readNumber_map_digit hless, List.foldl_reverse, hvalue]

/-- The digits of a number start with another digit than zero. -/
theorem takeWhile_digitsIn (n : Nat) :
    ((digitsIn 58 (Octets.bitLength n) n).map digit).takeWhile (· == digit 0) = [] := by
  rw [digitsIn_bitLength]
  by_cases hzero : n = 0
  · subst hzero
    simp
  · -- The first digit is the last one of the list that the library has.
    have hne : Nat.digits 58 n ≠ [] := Nat.digits_ne_nil_iff_ne_zero.mpr hzero
    have hlast := Nat.getLast_digit_ne_zero 58 hzero
    have hless : (Nat.digits 58 n).getLast hne < 58 :=
      Nat.digits_lt_base (by decide) (List.getLast_mem hne)
    rw [← List.dropLast_append_getLast hne, List.reverse_append, List.reverse_singleton,
      List.singleton_append, List.map_cons]
    apply List.takeWhile_cons_of_neg
    rw [beq_iff_eq, digit_eq_digit_zero_iff hless]
    exact hlast

/-! ## Byte strings -/

/-- The zeros in front of a byte string, as digits. -/
theorem encodeChars_eq (b : Octets) :
    encodeChars b = List.replicate (b.takeWhile (· == 0)).length (digit 0) ++
      (digitsIn 58 (Octets.bitLength (Octets.natBE b)) (Octets.natBE b)).map digit := by
  rw [encodeChars, List.map_const']

theorem mem_alphabet_of_mem_encodeChars {b : Octets} {c : Char} (h : c ∈ encodeChars b) :
    c ∈ alphabet := by
  rw [encodeChars, List.mem_append, List.mem_map, List.mem_map] at h
  rcases h with ⟨x, -, rfl⟩ | ⟨v, -, rfl⟩
  · exact digit_mem_alphabet 0
  · exact digit_mem_alphabet v

theorem trimRight_eq_self {cs : List Char} (h : ∀ c ∈ cs, Text.isBlank c = false) :
    Text.trimRight cs = cs := by
  have hkept : cs.reverse.dropWhile Text.isBlank = cs.reverse := by
    cases hcs : cs.reverse with
    | nil => rfl
    | cons c rest =>
      have hc : c ∈ cs := List.mem_reverse.mp (hcs ▸ List.mem_cons_self)
      exact List.dropWhile_cons_of_neg (by simp [h c hc])
  rw [Text.trimRight, hkept, List.reverse_reverse]

theorem checkAscii_eq_ok {cs : List Char} (h : ∀ c ∈ cs, c.toNat < 128) :
    checkAscii cs = .ok () := by
  have hall : cs.dropWhile (fun c => decide (c.toNat < 128)) = [] := by
    rw [List.dropWhile_eq_nil_iff]
    intro c hc
    exact decide_eq_true (h c hc)
  simp only [checkAscii, hall]

/-- Text in base 58 stands for the bytes that were written. -/
theorem decodeChars_encodeChars (b : Octets) : decodeChars (encodeChars b) = .ok b := by
  have hplain : ∀ c ∈ encodeChars b, Text.isBlank c = false ∧ c.toNat < 128 :=
    fun _ hc => plain_of_mem_alphabet (mem_alphabet_of_mem_encodeChars hc)
  have hones : ((encodeChars b).takeWhile (· == digit 0)).length =
      (b.takeWhile (· == 0)).length := by
    rw [encodeChars_eq, List.takeWhile_append_of_pos, takeWhile_digitsIn, List.append_nil,
      List.length_replicate]
    intro c hc
    exact beq_iff_eq.mpr (List.eq_of_mem_replicate hc)
  have hnumeral : (encodeChars b).drop (b.takeWhile (· == 0)).length =
      (digitsIn 58 (Octets.bitLength (Octets.natBE b)) (Octets.natBE b)).map digit := by
    rw [encodeChars_eq]
    exact List.drop_left' List.length_replicate
  rw [decodeChars]
  simp only [trimRight_eq_self fun c hc => (hplain c hc).1,
    checkAscii_eq_ok fun c hc => (hplain c hc).2, hones, hnumeral, readNumber_digitsIn, ok_bind]
  rw [Octets.zeros_append_ofNat_natBE]
  rfl

/-! ## The checked form -/

theorem length_checksum (b : Octets) : (checksum b).length = checksumSize := by
  rw [checksum, List.length_take, Digest.length_doubleSha256]
  rfl

/-- Of a byte string and its checksum the byte string is left. -/
theorem checked_append_checksum (b : Octets) : checked (b ++ checksum b) = .ok b := by
  have hcut : (b ++ checksum b).length - checksumSize = b.length := by
    rw [List.length_append, length_checksum, Nat.add_sub_cancel]
  simp only [checked, hcut, List.take_left, List.drop_left, if_true]

/-- The checked form stands for the bytes that were written. -/
theorem decode_encode_standard (b : Octets) : standard.decode (standard.encode b) = .ok b := by
  simp only [standard, String.toList_ofList, decodeChars_encodeChars, ok_bind,
    checked_append_checksum]
  rfl

end LedgerNet.Base58
