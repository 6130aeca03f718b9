import LedgerNet.Peer.IpText
import LedgerNet.Proofs.Octets.LastByte
import LedgerNet.Proofs.Text.Pieces

/-!
# Pieces of address text

The text of an address consists of numerals with separators between them. A numeral has no
separator in it, so the text is cut where it was joined, and each numeral is read as its number.

- `pieces_joined`: joined pieces are cut apart again.
- `decimalByte?_numeral`, `group?_numeral`: a byte and a group are read back from their numerals.
- `splitAtGap_joined_append`: pieces that are not empty make no gap.
-/

namespace LedgerNet.Peer

open Octets

/-! ## Cutting -/

/-- Pieces without the separator are cut apart where they were joined. -/
theorem pieces_joined {sep : Char} {ps : List (List Char)} (hne : ps ≠ [])
    (h : ∀ p ∈ ps, sep ∉ p) : Text.pieces sep (joined sep ps) = ps := by
  rw [Text.pieces_eq_splitOn]
  exact List.splitOn_intercalate sep h hne

theorem joined_cons_cons (sep : Char) (p q : List Char) (ps : List (List Char)) :
    joined sep (p :: q :: ps) = p ++ sep :: joined sep (q :: ps) := by
  simp [joined]

theorem mem_joined {sep c : Char} {ps : List (List Char)} (h : c ∈ joined sep ps) :
    c = sep ∨ ∃ p ∈ ps, c ∈ p := by
  induction ps with
  | nil => cases h
  | cons p ps ih =>
    cases ps with
    | nil => exact .inr ⟨p, List.mem_singleton_self p, by simpa [joined] using h⟩
    | cons q qs =>
      rw [joined_cons_cons, List.mem_append, List.mem_cons] at h
      rcases h with hp | hsep | hrest
      · exact .inr ⟨p, List.mem_cons_self, hp⟩
      · exact .inl hsep
      · exact (ih hrest).imp_right fun ⟨r, hr, hc⟩ => ⟨r, List.mem_cons_of_mem p hr, hc⟩

/-! ## Numerals -/

/-- The characters of a numeral are digits of its base. -/
theorem exists_digitChar_of_mem_numeral {base n : Nat} {c : Char} (hbase : 1 < base)
    (h : c ∈ numeral base n) : ∃ d < base, c = d.digitChar := by
  induction n using Nat.strongRecOn with
  | ind n ih =>
    rw [numeral, Nat.toDigits_eq_if hbase] at h
    split_ifs at h with hlt
    · exact ⟨n, hlt, List.mem_singleton.mp h⟩
    · rcases List.mem_append.mp h with hhigh | hlast
      · exact ih (n / base) (Nat.div_lt_self (by omega) hbase) hhigh
      · exact ⟨n % base, Nat.mod_lt _ (by omega), List.mem_singleton.mp hlast⟩

/-- A character that is no digit stands in no numeral. -/
theorem notMem_numeral {base : Nat} {c : Char} (hbase : 1 < base) (hle : base ≤ 16)
    (hc : ∀ d < 16, d.digitChar ≠ c) (n : Nat) : c ∉ numeral base n := by
  intro hmem
  obtain ⟨d, hd, rfl⟩ := exists_digitChar_of_mem_numeral hbase hmem
  exact hc d (Nat.lt_of_lt_of_le hd hle) rfl

theorem decimalByte?_numeral (x : UInt8) : decimalByte? (numeral 10 x.toNat) = some x := by
  revert x
  exact forall_byte (by decide +kernel)

theorem hexValue?_digitChar {d : Nat} (h : d < 16) : hexValue? d.digitChar = some d := by
  revert d
  decide

/-- The digits of a hexadecimal numeral are read, and make its number. -/
theorem exists_mapM_hexValue? (n : Nat) : ∃ ds, (numeral 16 n).mapM hexValue? = some ds ∧
    ds.foldl (fun n d => 16 * n + d) 0 = n := by
  induction n using Nat.strongRecOn with
  | ind n ih =>
    rw [numeral, Nat.toDigits_eq_if (by decide)]
    split_ifs with hlt
    · exact ⟨[n], by simp [hexValue?_digitChar hlt], by simp⟩
    · obtain ⟨ds, hread, hvalue⟩ := ih (n / 16) (Nat.div_lt_self (by omega) (by decide))
      rw [numeral] at hread
      refine ⟨ds ++ [n % 16], ?_, ?_⟩
      · simp [List.mapM_append, hread, hexValue?_digitChar (Nat.mod_lt n (by decide : 0 < 16))]
      · rw [List.foldl_append, hvalue]
        exact Nat.div_add_mod n 16

theorem group?_numeral {n : Nat} (h : n < 65536) :
    group? (numeral 16 n) = some (bigEndian 2 n) := by
  obtain ⟨ds, hread, hvalue⟩ := exists_mapM_hexValue? n
  have hshort : (numeral 16 n).length ≤ 4 :=
    (Nat.length_toDigits_le_iff (by decide) (by decide)).mpr h
  have hne : (numeral 16 n).isEmpty = false := List.isEmpty_eq_false_iff.mpr Nat.toDigits_ne_nil
  rw [group?, if_neg (by simp [hne, hshort]), hread]
  simp only [Option.bind_eq_bind, Option.bind_some, hvalue, Option.pure_def]

/-! ## Gaps -/

/-- Text without a colon stands before the gap. -/
theorem splitAtGap_append {p : List Char} (h : ':' ∉ p) (cs : List Char) :
    splitAtGap (p ++ cs) =
      (splitAtGap cs).map fun (before, after) => (p ++ before, after) := by
  induction p with
  | nil => simp
  | cons c p ih =>
    have hc : c ≠ ':' := fun hc => h (hc ▸ List.mem_cons_self)
    have hp : ':' ∉ p := fun hp => h (List.mem_cons_of_mem c hp)
    rw [List.cons_append, splitAtGap, ih hp, Option.map_map]
    · rfl
    · rintro rest rfl
      exact absurd rfl hc

/-- A colon before another character is no gap. -/
theorem splitAtGap_colon {c : Char} (h : c ≠ ':') (cs : List Char) :
    splitAtGap (':' :: c :: cs) =
      (splitAtGap (c :: cs)).map fun (before, after) => (':' :: before, after) := by
  rw [splitAtGap]
  intro rest _ hrest
  exact h (List.cons.inj hrest).1

/-- Pieces that are not empty make no gap, so the gap is the one of what follows them. -/
theorem splitAtGap_joined_append {ps : List (List Char)} (h : ∀ p ∈ ps, p ≠ [] ∧ ':' ∉ p)
    (cs : List Char) : splitAtGap (joined ':' ps ++ cs) =
      (splitAtGap cs).map fun (before, after) => (joined ':' ps ++ before, after) := by
  induction ps with
  | nil => simp [joined]
  | cons p ps ih =>
    obtain ⟨-, hp⟩ := h p List.mem_cons_self
    cases ps with
    | nil => simpa [joined] using splitAtGap_append hp cs
    | cons q qs =>
      have hrest := ih fun r hr => h r (List.mem_cons_of_mem p hr)
      -- The colon after the first piece has no other behind it, since the next is not empty.
      obtain ⟨hq, hcolon⟩ := h q (List.mem_cons_of_mem p List.mem_cons_self)
      obtain ⟨c, q, rfl⟩ := List.exists_cons_of_ne_nil hq
      have hc : c ≠ ':' := fun hc => hcolon (hc ▸ List.mem_cons_self)
      obtain ⟨tail, htail⟩ : ∃ tail, joined ':' ((c :: q) :: qs) ++ cs = c :: tail := by
        cases qs <;> simp [joined]
      rw [joined_cons_cons, List.append_assoc, splitAtGap_append hp, List.cons_append, htail,
        splitAtGap_colon hc, ← htail, hrest, Option.map_map, Option.map_map]
      simp only [Function.comp_def, List.append_assoc, List.cons_append]

end LedgerNet.Peer
