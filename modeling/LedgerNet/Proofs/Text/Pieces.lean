import LedgerNet.Text.Pieces

/-!
# Cutting text at a separator

The pieces of a text hold no separator, and put together with separators they are the text again. So
a text is cut in two exactly if there is one separator in it.

- `pieces_eq_splitOn`: the pieces are those of the library's function.
- `pieces_eq_pair_iff`: the texts that are cut in two.
-/

namespace LedgerNet.Text

variable {sep : Char} {cs : List Char}

theorem pieces_eq_splitOn (sep : Char) (cs : List Char) : pieces sep cs = cs.splitOn sep := by
  induction cs with
  | nil => rfl
  | cons c cs ih =>
    have hcons : (c :: cs).splitOn sep =
        if c == sep then [] :: cs.splitOn sep else (cs.splitOn sep).modifyHead (c :: ·) :=
      List.splitOnP_cons_eq_if_modifyHead c cs
    rw [pieces, ih, hcons]
    cases hrest : cs.splitOn sep with
    | nil => exact absurd hrest (List.splitOnP_ne_nil _ cs)
    | cons p ps => simp

/-- Text without the separator is one piece. -/
theorem pieces_of_notMem (h : sep ∉ cs) : pieces sep cs = [cs] := by
  rw [pieces_eq_splitOn, List.splitOn_eq_singleton h]

theorem notMem_of_mem_pieces {p : List Char} (h : p ∈ pieces sep cs) : sep ∉ p := by
  induction cs generalizing p with
  | nil =>
    rw [List.mem_singleton.mp h]
    exact List.not_mem_nil
  | cons c cs ih =>
    rw [pieces] at h
    cases hrest : pieces sep cs with
    | nil =>
      rw [pieces_eq_splitOn] at hrest
      exact absurd hrest (List.splitOnP_ne_nil _ cs)
    | cons q qs =>
      rw [hrest] at ih h
      have hq := ih List.mem_cons_self
      have hqs (hp : p ∈ qs) := ih (List.mem_cons_of_mem q hp)
      by_cases hc : c = sep <;> simp only [hc, if_true, if_false] at h
      · -- A piece ends at the separator, and it is empty so far.
        rcases List.mem_cons.mp h with rfl | hp
        · exact List.not_mem_nil
        · exact ih hp
      · rcases List.mem_cons.mp h with rfl | hp
        · simp [hq, Ne.symm hc]
        · exact hqs hp

/-- A text is cut in two exactly at its only separator. -/
theorem pieces_eq_pair_iff {p q : List Char} :
    pieces sep cs = [p, q] ↔ cs = p ++ sep :: q ∧ sep ∉ p ∧ sep ∉ q := by
  constructor
  · intro h
    have hmem : ∀ r ∈ [p, q], sep ∉ r := fun r hr => notMem_of_mem_pieces (h ▸ hr)
    have hjoin : [sep].intercalate (cs.splitOn sep) = cs := List.intercalate_splitOn sep
    rw [← pieces_eq_splitOn, h] at hjoin
    exact ⟨by simpa using hjoin.symm, hmem p (by simp), hmem q (by simp)⟩
  · rintro ⟨rfl, hp, hq⟩
    have hjoin : [sep].intercalate [p, q] = p ++ sep :: q := by simp
    rw [pieces_eq_splitOn, ← hjoin]
    refine List.splitOn_intercalate sep ?_ (List.cons_ne_nil p [q])
    simp [hp, hq]

end LedgerNet.Text
