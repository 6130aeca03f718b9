import LedgerNet.Proofs.Base58
import Mathlib.Data.List.DropRight

/-!
# Text in base 58 is written in one way

Text that stands for a byte string is, up to blanks at its end, the text that is written for it: the
digits for the zero bytes are all that stand in front, and a number has one row of digits that does
not start with a zero.

## Main statements

- `digitsIn_foldl`: the digits of a number that was read are those that were read.
- `decodeChars_eq_ok_iff`: which text stands for a byte string.
- `encodeChars_bytesOf`, `bytesOf_encodeChars`: digits and what they stand for.
-/

namespace LedgerNet.Base58

open Outcome

variable {cs : List Char} {b : Octets} {vs : List Nat} {m n : Nat}

/-! ## Digits that are read -/

theorem value?_eq_some {c : Char} {v : Nat} (h : value? c = some v) : v < 58 ∧ digit v = c := by
  rw [value?, List.idxOf?_eq_some_iff] at h
  obtain ⟨hv, hc, -⟩ := h
  refine ⟨hv, ?_⟩
  rw [digit, List.getD_eq_getElem?_getD, List.getElem?_eq_getElem hv, Option.getD_some, hc]

/-- Text that is read as a number consists of digits. -/
theorem exists_digits_of_readNumber (h : readNumber n cs = .ok m) :
    ∃ vs : List Nat, (∀ v ∈ vs, v < 58) ∧ cs = vs.map digit ∧
      vs.foldl (fun n v => 58 * n + v) n = m := by
  induction cs generalizing n with
  | nil => exact ⟨[], by simp, rfl, Except.ok.inj h⟩
  | cons c cs ih =>
    rw [readNumber] at h
    cases hvalue : value? c with
    | none =>
      rw [hvalue] at h
      cases h
    | some v =>
      rw [hvalue] at h
      obtain ⟨hv, rfl⟩ := value?_eq_some hvalue
      obtain ⟨vs, hvs, rfl, hm⟩ := ih h
      exact ⟨v :: vs, List.forall_mem_cons.mpr ⟨hv, hvs⟩, rfl, hm⟩

/-- The digits of a number that was read are those that were read, if the first was no zero. -/
theorem digitsIn_foldl (hvs : ∀ v ∈ vs, v < 58) (hfirst : vs.head? ≠ some 0)
    (hn : vs.foldl (fun n v => 58 * n + v) 0 = n) :
    digitsIn 58 (Octets.bitLength n) n = vs := by
  -- The library has the last digit first, so its last digit is the first one here.
  have hvalue : Nat.ofDigits 58 vs.reverse = n := by
    rw [← hn, Nat.ofDigits_eq_foldr, List.foldr_reverse]
    simp only [Nat.cast_id, Nat.add_comm]
  have hlast : ∀ h : vs.reverse ≠ [], vs.reverse.getLast h ≠ 0 := by
    intro h hzero
    rw [List.getLast_reverse] at hzero
    exact hfirst (hzero ▸ List.head?_eq_some_head _)
  rw [digitsIn_bitLength, ← hvalue, Nat.digits_ofDigits 58 (by decide) _ (by simpa using hvs) hlast,
    List.reverse_reverse]

/-! ## Byte strings -/

/-- Text is its leading digits for zero and a rest that starts with another character. -/
theorem leading_zeros (text : List Char) :
    text.takeWhile (· == digit 0) =
        List.replicate (text.takeWhile (· == digit 0)).length (digit 0) ∧
      text.drop (text.takeWhile (· == digit 0)).length = text.dropWhile (· == digit 0) ∧
      (text.dropWhile (· == digit 0)).head? ≠ some (digit 0) := by
  refine ⟨?_, ?_, ?_⟩
  · apply List.eq_replicate_length.mpr
    intro c hc
    exact beq_iff_eq.mp (List.mem_takeWhile_imp (p := (· == digit 0)) hc)
  · have hwhole : text.takeWhile (· == digit 0) ++ text.dropWhile (· == digit 0) = text :=
      List.takeWhile_append_dropWhile
    calc text.drop (text.takeWhile (· == digit 0)).length
        = (text.takeWhile (· == digit 0) ++ text.dropWhile (· == digit 0)).drop
            (text.takeWhile (· == digit 0)).length := by rw [hwhole]
      _ = text.dropWhile (· == digit 0) := List.drop_left
  · intro hhead
    have hnot := List.head?_dropWhile_not (· == digit 0) text
    rw [hhead] at hnot
    simp at hnot

/-- Text that stands for a byte string is the text that is written for it, up to blanks at its
end. -/
theorem trimRight_of_decodeChars (h : decodeChars cs = .ok b) :
    Text.trimRight cs = encodeChars b := by
  simp only [decodeChars, bind_eq_ok_iff, pure_eq_ok_iff] at h
  obtain ⟨-, -, n, hnumber, rfl⟩ := h
  generalize Text.trimRight cs = text at hnumber ⊢
  obtain ⟨hones, hrest, hhead⟩ := leading_zeros text
  rw [hrest] at hnumber
  obtain ⟨vs, hvs, hdigits, hn⟩ := exists_digits_of_readNumber hnumber
  -- The digits for zero have been dropped, so the number does not start with one.
  have hfirst : vs.head? ≠ some 0 := by
    intro hzero
    apply hhead
    rw [hdigits, List.head?_map, hzero]
    rfl
  rw [encodeChars_eq, Octets.natBE_zeros_append, Octets.natBE_ofNat,
    Octets.takeWhile_zeros_append_ofNat, digitsIn_foldl hvs hfirst hn, ← hdigits, Octets.zeros,
    List.length_replicate, ← hones, List.takeWhile_append_dropWhile]

/-- Blanks at the end do not count. -/
theorem decodeChars_trimRight (cs : List Char) :
    decodeChars (Text.trimRight cs) = decodeChars cs := by
  rw [decodeChars, decodeChars, Text.trimRight, Text.trimRight, List.reverse_reverse,
    List.dropWhile_idempotent]

/-- Text stands for the byte string for which it is written, up to blanks at its end. -/
theorem decodeChars_eq_ok_iff : decodeChars cs = .ok b ↔ Text.trimRight cs = encodeChars b := by
  constructor
  · exact trimRight_of_decodeChars
  · intro h
    rw [← decodeChars_trimRight, h, decodeChars_encodeChars]

/-! ## What digits stand for -/

/-- The byte string that digits stand for: a zero byte for each digit zero in front, and the number
of the others. -/
def bytesOf (cs : List Char) : Octets :=
  let ones := (cs.takeWhile (· == digit 0)).length
  Octets.zeros ones ++
    Octets.ofNat ((cs.drop ones).foldl (fun n c => 58 * n + alphabet.idxOf c) 0)

theorem value?_of_mem_alphabet {c : Char} (h : c ∈ alphabet) :
    value? c = some (alphabet.idxOf c) :=
  List.findIdx?_eq_some_iff_findIdx_eq.mpr ⟨List.idxOf_lt_length_of_mem h, rfl⟩

theorem readNumber_of_digits (h : ∀ c ∈ cs, c ∈ alphabet) (n : Nat) :
    readNumber n cs = .ok (cs.foldl (fun n c => 58 * n + alphabet.idxOf c) n) := by
  induction cs generalizing n with
  | nil => rfl
  | cons c cs ih =>
    obtain ⟨hc, hcs⟩ := List.forall_mem_cons.mp h
    rw [readNumber, value?_of_mem_alphabet hc]
    exact ih hcs _

/-- Digits are read as the byte string that they stand for. -/
theorem decodeChars_of_digits (h : ∀ c ∈ cs, c ∈ alphabet) : decodeChars cs = .ok (bytesOf cs) := by
  have hplain : ∀ c ∈ cs, Text.isBlank c = false ∧ c.toNat < 128 :=
    fun c hc => plain_of_mem_alphabet (h c hc)
  simp only [decodeChars, trimRight_eq_self fun c hc => (hplain c hc).1,
    checkAscii_eq_ok fun c hc => (hplain c hc).2, ok_bind,
    readNumber_of_digits fun c hc => h c (List.mem_of_mem_drop hc)]
  rfl

/-- Digits are written for the byte string that they stand for. -/
theorem encodeChars_bytesOf (h : ∀ c ∈ cs, c ∈ alphabet) : encodeChars (bytesOf cs) = cs := by
  rw [← trimRight_of_decodeChars (decodeChars_of_digits h)]
  exact trimRight_eq_self fun c hc => (plain_of_mem_alphabet (h c hc)).1

/-- The digits of a byte string stand for it. -/
theorem bytesOf_encodeChars (b : Octets) : bytesOf (encodeChars b) = b := by
  have hread := decodeChars_of_digits fun _ => mem_alphabet_of_mem_encodeChars (b := b)
  rw [decodeChars_encodeChars, Except.ok.injEq] at hread
  exact hread.symm

end LedgerNet.Base58
