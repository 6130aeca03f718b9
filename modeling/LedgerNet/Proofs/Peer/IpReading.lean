import LedgerNet.Proofs.Peer.PieceText

/-!
# Address text is read back

What is written for four or sixteen bytes is read as these bytes: dotted text is cut at its points,
and text with colons at its gap and then at its colons. The gap stands for a run of zero groups, so
it is filled with zeros again.

- `readIp_writeDotted`: four bytes are read back from their dotted text.
- `readIp_writeColons`: sixteen bytes are read back from their text with colons.
-/

namespace LedgerNet.Peer

open Octets

/-! ## Dotted text -/

/-- A list of readings of what was written gives back what was written. -/
theorem mapM_map_eq_some {α β : Type} {write : α → β} {read : β → Option α} {xs : List α}
    (h : ∀ x ∈ xs, read (write x) = some x) : (xs.map write).mapM read = some xs := by
  induction xs with
  | nil => rfl
  | cons x xs ih =>
    rw [List.map_cons, List.mapM_cons, h x List.mem_cons_self,
      ih fun y hy => h y (List.mem_cons_of_mem x hy)]
    rfl

theorem dotted?_writeDotted {b : Octets} (h : b.length = 4) : dotted? (writeDotted b) = some b := by
  have hpieces : Text.pieces '.' (writeDotted b) = b.map fun x => numeral 10 x.toNat := by
    apply pieces_joined
    · intro hnil
      rw [List.map_eq_nil_iff.mp hnil] at h
      cases h
    · intro p hp
      obtain ⟨x, -, rfl⟩ := List.mem_map.mp hp
      exact notMem_numeral (by decide) (by decide) (by decide) x.toNat
  simp only [dotted?, hpieces, List.length_map, h]
  exact mapM_map_eq_some fun x _ => decimalByte?_numeral x

/-! ## Groups -/

/-- Groups with colons between them. -/
def groupText (ns : List Nat) : List Char := joined ':' (ns.map (numeral 16))

theorem groups?_numerals (dottedEnd : Bool) {ns : List Nat} (h : ∀ n ∈ ns, n < 65536) :
    groups? dottedEnd (ns.map (numeral 16)) = some (ns.flatMap (bigEndian 2)) := by
  induction ns with
  | nil => rfl
  | cons n ns ih =>
    have hgroup := group?_numeral (h n List.mem_cons_self)
    have hrest := ih fun m hm => h m (List.mem_cons_of_mem n hm)
    cases ns with
    | nil =>
      have hpoint : '.' ∉ numeral 16 n := notMem_numeral (by decide) (by decide) (by decide) n
      simp [groups?, hpoint, hgroup]
    | cons m ms =>
      rw [List.map_cons, List.map_cons, groups?, hgroup, ← List.map_cons, hrest]
      · rfl
      · simp

/-- The numerals of groups are pieces that are not empty. -/
theorem numerals_pieces (ns : List Nat) : ∀ p ∈ ns.map (numeral 16), p ≠ [] ∧ ':' ∉ p := by
  intro p hp
  obtain ⟨n, -, rfl⟩ := List.mem_map.mp hp
  exact ⟨Nat.toDigits_ne_nil, notMem_numeral (by decide) (by decide) (by decide) n⟩

theorem groupText?_groupText (dottedEnd : Bool) {ns : List Nat} (h : ∀ n ∈ ns, n < 65536) :
    groupText? dottedEnd (groupText ns) = some (ns.flatMap (bigEndian 2)) := by
  by_cases hne : ns = []
  · subst hne
    rfl
  have hpieces : Text.pieces ':' (groupText ns) = ns.map (numeral 16) :=
    pieces_joined (by simpa using hne) fun p hp => (numerals_pieces ns p hp).2
  have htext : groupText ns ≠ [] := by
    intro hnil
    rw [hnil] at hpieces
    obtain ⟨n, hn⟩ : ∃ n, n ∈ ns := List.exists_mem_of_ne_nil ns hne
    have hmem := List.mem_map_of_mem (f := numeral 16) hn
    rw [← hpieces] at hmem
    exact (numerals_pieces ns _ (hpieces ▸ hmem)).1 (List.mem_singleton.mp hmem)
  rw [groupText?, if_neg (by simpa using htext), hpieces, groups?_numerals dottedEnd h]

/-- The groups of an even number of bytes have the bytes in order. -/
theorem flatMap_groupNumbers {b : Octets} (h : 2 ∣ b.length) :
    (groupNumbers b).flatMap (bigEndian 2) = b := by
  fun_induction groupNumbers b with
  | case1 hi lo rest ih =>
    have hhi := hi.toNat_lt
    have hlo := lo.toNat_lt
    have hbytes : littleEndian 2 (256 * hi.toNat + lo.toNat) = [lo, hi] := by
      refine natLE_inj (length_littleEndian 2 _) ?_
      rw [natLE_littleEndian]
      simp only [natLE, List.foldr]
      omega
    have hgroup : bigEndian 2 (256 * hi.toNat + lo.toNat) = [hi, lo] := by
      rw [bigEndian, hbytes]
      rfl
    rw [List.flatMap_cons, hgroup, ih (by simpa using h)]
    rfl
  | case2 b hshort =>
    rcases b with _ | ⟨hi, _ | ⟨lo, rest⟩⟩
    · rfl
    · simp at h
    · exact absurd rfl (hshort hi lo rest)

theorem lt_of_mem_groupNumbers {b : Octets} {n : Nat} (h : n ∈ groupNumbers b) : n < 65536 := by
  fun_induction groupNumbers b with
  | case1 hi lo rest ih =>
    rcases List.mem_cons.mp h with rfl | hrest
    · have hhi := hi.toNat_lt
      have hlo := lo.toNat_lt
      omega
    · exact ih hrest
  | case2 => cases h

theorem length_flatMap_bigEndian (w : Nat) (ns : List Nat) :
    (ns.flatMap (bigEndian w)).length = w * ns.length := by
  simp [List.length_flatMap, Nat.mul_comm]

/-! ## Runs of zeros -/

theorem replicate_zeroRun_append (ns : List Nat) :
    List.replicate (zeroRun ns) 0 ++ ns.drop (zeroRun ns) = ns := by
  induction ns with
  | nil => rfl
  | cons n ns ih =>
    by_cases hn : n = 0
    · subst hn
      have hrun : zeroRun (0 :: ns) = zeroRun ns + 1 := rfl
      rw [hrun, List.replicate_succ, List.drop_succ_cons, List.cons_append, ih]
    · have hrun : zeroRun (n :: ns) = 0 := by simp [zeroRun, hn]
      rw [hrun]
      rfl

/-- What is found as a run is a run of zeros. -/
theorem take_append_longestZeroRun (ns : List Nat) :
    ns.take (longestZeroRun ns).1 ++ List.replicate (longestZeroRun ns).2 0 ++
      ns.drop ((longestZeroRun ns).1 + (longestZeroRun ns).2) = ns := by
  induction ns with
  | nil => rfl
  | cons n ns ih =>
    simp only [longestZeroRun]
    split_ifs with hlonger
    · rw [Nat.zero_add]
      exact replicate_zeroRun_append (n :: ns)
    · rw [List.take_succ_cons, Nat.add_right_comm, List.drop_succ_cons, List.cons_append,
        List.cons_append, ih]

/-- Groups of zero are zero bytes. -/
theorem flatMap_replicate_zero (k : Nat) :
    (List.replicate k 0).flatMap (bigEndian 2) = zeros (2 * k) := by
  have hzero : bigEndian 2 0 = List.replicate 2 0 := rfl
  rw [List.flatMap_replicate, hzero, List.flatten_replicate_replicate, Nat.mul_comm, zeros]

/-! ## Text with colons -/

theorem splitAtGap_groupText (ns : List Nat) : splitAtGap (groupText ns) = none := by
  have hsplit := splitAtGap_joined_append (numerals_pieces ns) []
  rw [List.append_nil] at hsplit
  exact hsplit

theorem splitAtGap_groupText_append (ns : List Nat) (cs : List Char) :
    splitAtGap (groupText ns ++ ([':', ':'] ++ cs)) = some (groupText ns, cs) := by
  rw [groupText, splitAtGap_joined_append (numerals_pieces ns)]
  simp [splitAtGap]

/-- The text of sixteen bytes is that of their groups, or that of the groups around a run of
zeros. -/
theorem writeColons_cases (b : Octets) :
    writeColons b = groupText (groupNumbers b) ∨
      ∃ front back run, 2 ≤ run ∧ groupNumbers b = front ++ List.replicate run 0 ++ back ∧
        writeColons b = groupText front ++ ([':', ':'] ++ groupText back) := by
  rw [writeColons]
  dsimp only
  split_ifs with hrun
  · exact .inl rfl
  · refine .inr ⟨_, _, _, Nat.le_of_not_lt hrun,
      (take_append_longestZeroRun (groupNumbers b)).symm, ?_⟩
    rw [List.append_assoc]
    rfl

theorem colons?_writeColons {b : Octets} (h : b.length = 16) :
    colons? (writeColons b) = some b := by
  have hbytes : (groupNumbers b).flatMap (bigEndian 2) = b :=
    flatMap_groupNumbers (h ▸ by decide)
  have hlt : ∀ n ∈ groupNumbers b, n < 65536 := fun n => lt_of_mem_groupNumbers
  rcases writeColons_cases b with htext | ⟨front, back, run, hrun, hnumbers, htext⟩
  · rw [colons?, htext, splitAtGap_groupText, groupText?_groupText true hlt, hbytes]
    simp [h]
  · rw [hnumbers] at hbytes hlt
    have hfront := groupText?_groupText false fun n hn =>
      hlt n (List.mem_append_left back (List.mem_append_left _ hn))
    have hback := groupText?_groupText true fun n hn => hlt n (List.mem_append_right _ hn)
    have hcount : 2 * front.length + 2 * run + 2 * back.length = 16 := by
      rw [← h, ← hbytes, length_flatMap_bigEndian]
      simp
      omega
    rw [colons?, htext, splitAtGap_groupText_append]
    simp only [hfront, hback, Option.bind_eq_bind, Option.bind_some, length_flatMap_bigEndian]
    rw [if_pos (by omega), show 16 - 2 * front.length - 2 * back.length = 2 * run by omega,
      ← flatMap_replicate_zero, ← List.flatMap_append, ← List.flatMap_append, hbytes]

/-! ## Whole texts -/

theorem notMem_joined {sep c : Char} {ps : List (List Char)} (hsep : c ≠ sep)
    (h : ∀ p ∈ ps, c ∉ p) : c ∉ joined sep ps := by
  intro hmem
  rcases mem_joined hmem with rfl | ⟨p, hp, hc⟩
  · exact hsep rfl
  · exact h p hp hc

theorem notMem_writeDotted {c : Char} (hpoint : c ≠ '.') (hdigit : ∀ d < 16, d.digitChar ≠ c)
    (b : Octets) : c ∉ writeDotted b := by
  refine notMem_joined hpoint fun p hp => ?_
  obtain ⟨x, -, rfl⟩ := List.mem_map.mp hp
  exact notMem_numeral (by decide) (by decide) hdigit x.toNat

theorem notMem_writeColons {c : Char} (hcolon : c ≠ ':') (hdigit : ∀ d < 16, d.digitChar ≠ c)
    (b : Octets) : c ∉ writeColons b := by
  have hgroups : ∀ ns, c ∉ groupText ns := by
    intro ns
    refine notMem_joined hcolon fun p hp => ?_
    obtain ⟨n, -, rfl⟩ := List.mem_map.mp hp
    exact notMem_numeral (by decide) (by decide) hdigit n
  rcases writeColons_cases b with htext | ⟨front, back, -, -, -, htext⟩
  · rw [htext]
    exact hgroups _
  · rw [htext]
    simp [hcolon, hgroups]

theorem readIp_writeDotted {b : Octets} (h : b.length = 4) :
    readIp (String.ofList (writeDotted b)) = .ok b := by
  have hzero : Char.ofNat 0 ∉ writeDotted b := notMem_writeDotted (by decide) (by decide) b
  simp [readIp, hzero, dotted?_writeDotted h]

theorem readIp_writeColons {b : Octets} (h : b.length = 16) :
    readIp (String.ofList (writeColons b)) = .ok b := by
  have hzero : Char.ofNat 0 ∉ writeColons b := notMem_writeColons (by decide) (by decide) b
  -- Without a point the text is one piece, and so not the dotted text of four bytes.
  have hpoint : '.' ∉ writeColons b := notMem_writeColons (by decide) (by decide) b
  have hundotted : dotted? (writeColons b) = none := by
    simp [dotted?, Text.pieces_of_notMem hpoint]
  simp [readIp, hzero, hundotted, colons?_writeColons h]

end LedgerNet.Peer
