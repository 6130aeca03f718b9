import LedgerNet.Proofs.Outcome
import LedgerNet.Proofs.Peer.AddressText
import Mathlib.Data.List.Induction
import Mathlib.Data.Nat.Digits.Lemmas

/-!
# The grammar of address text

Dotted text has one form for each four bytes. Text with colons consists of groups, of which the last
may be dotted, and two colons may stand once for the groups that are left out. `IsDotted` and
`IsColons` are these two grammars, without the order in which a reader goes through the text.
Reading accepts exactly the texts of the one and then of the other, and refuses all others.

## Main statements

- `decimalByte?_eq_some_iff`: a byte has one decimal numeral.
- `dotted?_eq_some_iff`: the dotted texts.
- `groups?_pieces_eq_some_iff`, `colons?_eq_some_iff`: the texts with colons.
- `address_text_read_or_refused`: what is read and what is refused.
-/

namespace LedgerNet.Peer

open Octets
open Outcome (mapM_eq_some_iff)

/-! ## Two grammars -/

/-- Four numbers below 256 in decimal, without leading zeros, with points between them. -/
def IsDotted (text : List Char) (b : Octets) : Prop :=
  b.length = 4 ∧ text = joined '.' (b.map fun x => Nat.toDigits 10 x.toNat)

/-- One to four hexadecimal digits, for the two bytes of their number. -/
def IsGroup (text : List Char) (b : Octets) : Prop :=
  ∃ ds, List.Forall₂ (fun c d => hexValue? c = some d) text ds ∧
    0 < text.length ∧ text.length ≤ 4 ∧ b = bigEndian 2 (Nat.ofDigits 16 ds.reverse)

/-- Groups with colons between them; dotted text may stand at the end if `dottedEnd`. -/
inductive IsGroups (dottedEnd : Bool) : List Char → Octets → Prop where
  | group {text b} : IsGroup text b → IsGroups dottedEnd text b
  | dotted {text b} : dottedEnd = true → IsDotted text b → IsGroups dottedEnd text b
  | cons {text b more c} : IsGroup text b → IsGroups dottedEnd more c →
      IsGroups dottedEnd (text ++ ':' :: more) (b ++ c)

/-- One side of the gap: nothing, or groups. -/
inductive IsSide (dottedEnd : Bool) : List Char → Octets → Prop where
  | empty : IsSide dottedEnd [] []
  | groups {text b} : IsGroups dottedEnd text b → IsSide dottedEnd text b

/-- Groups for sixteen bytes, or a gap with groups around it, which stands for at least one group of
zeros. -/
inductive IsColons : List Char → Octets → Prop where
  | whole {text b} : IsGroups true text b → b.length = 16 → IsColons text b
  | gap {before front after back} :
      IsSide false before front → IsSide true after back → front.length + back.length ≤ 14 →
      IsColons (before ++ ':' :: ':' :: after)
        (front ++ zeros (16 - front.length - back.length) ++ back)

variable {text more p : List Char} {ps : List (List Char)} {b : Octets} {dottedEnd : Bool}
  {x : UInt8}

/-! ## Dotted text -/

/-- The number that decimal digits make. -/
def decimalValue (cs : List Char) : Nat := cs.foldl (fun n c => 10 * n + (c.toNat - 48)) 0

theorem decimalValue_concat (cs : List Char) (c : Char) :
    decimalValue (cs ++ [c]) = 10 * decimalValue cs + (c.toNat - 48) := by
  rw [decimalValue, List.foldl_append]
  rfl

/-- A decimal digit is the digit of a number below ten. -/
theorem exists_digitChar {d : Char} (h : '0' ≤ d ∧ d ≤ '9') :
    d.toNat - 48 < 10 ∧ (d.toNat - 48).digitChar = d := by
  have hlow : 48 ≤ d.toNat := h.1
  have hhigh : d.toNat ≤ 57 := h.2
  have hall : ∀ k < 10, k.digitChar = Char.ofNat (48 + k) := by decide
  refine ⟨by omega, ?_⟩
  rw [hall _ (by omega), Nat.add_sub_cancel' hlow, Char.ofNat_toNat]

/-- Digits without a leading zero are the numeral of the number that they make. -/
theorem toDigits_decimalValue {cs : List Char} (hne : cs ≠ [])
    (hdigits : ∀ d ∈ cs, '0' ≤ d ∧ d ≤ '9') (hhead : cs.head? ≠ some '0') :
    0 < decimalValue cs ∧ Nat.toDigits 10 (decimalValue cs) = cs := by
  induction cs using List.reverseRecOn with
  | nil => exact absurd rfl hne
  | append_singleton cs d ih =>
    obtain ⟨hlt, hchar⟩ := exists_digitChar (hdigits d (by simp))
    rw [decimalValue_concat, Nat.toDigits_eq_if (by decide)]
    -- One digit is its own numeral; behind others it is the remainder by ten.
    by_cases hcs : cs = []
    · subst hcs
      have hpos : d.toNat - 48 ≠ 0 := by
        intro hzero
        rw [hzero] at hchar
        exact hhead (by simp [← hchar])
      have hone : 10 * decimalValue [] + (d.toNat - 48) = d.toNat - 48 := by simp [decimalValue]
      rw [hone, if_pos hlt, hchar]
      exact ⟨Nat.pos_of_ne_zero hpos, rfl⟩
    · have hhead' : cs.head? ≠ some '0' := by
        rwa [List.head?_append_of_ne_nil _ hcs] at hhead
      obtain ⟨hpos, hnumeral⟩ := ih hcs (fun e he => hdigits e (by simp [he])) hhead'
      have hdiv : (10 * decimalValue cs + (d.toNat - 48)) / 10 = decimalValue cs := by omega
      have hmod : (10 * decimalValue cs + (d.toNat - 48)) % 10 = d.toNat - 48 := by omega
      rw [if_neg (by omega), hdiv, hmod, hnumeral, hchar]
      exact ⟨by omega, rfl⟩

/-- **A byte has one decimal numeral.** -/
theorem decimalByte?_eq_some_iff : decimalByte? p = some x ↔ p = Nat.toDigits 10 x.toNat := by
  constructor
  · intro h
    have hdef : decimalByte? p =
        if p.isEmpty || !p.all (fun c => '0' ≤ c && c ≤ '9') || 3 < p.length then none
        else if (p.length ≠ 1 && p.head? == some '0') || 255 < decimalValue p then none
        else some (UInt8.ofNat (decimalValue p)) := rfl
    rw [hdef] at h
    split_ifs at h with hform hvalue
    cases h
    simp only [Bool.or_eq_true, not_or, Bool.not_eq_true, Bool.not_eq_false',
      List.isEmpty_eq_false_iff, List.all_eq_true, Bool.and_eq_true, decide_eq_true_eq] at hform
    obtain ⟨⟨hne, hdigits⟩, -⟩ := hform
    obtain ⟨hzero, hsmall⟩ : (p.head? = some '0' → p.length = 1) ∧ decimalValue p < 256 := by
      simp only [Bool.or_eq_true, not_or, Bool.and_eq_true, decide_eq_true_eq, beq_iff_eq] at hvalue
      exact ⟨fun hhead => Decidable.of_not_not fun hlong => hvalue.1 ⟨hlong, hhead⟩, by omega⟩
    rw [UInt8.toNat_ofNat_of_lt' hsmall]
    by_cases hhead : p.head? = some '0'
    · -- A zero in front is the whole numeral.
      obtain ⟨c, rfl⟩ := List.length_eq_one_iff.mp (hzero hhead)
      cases hhead
      rfl
    · exact (toDigits_decimalValue hne hdigits hhead).2.symm
  · rintro rfl
    exact decimalByte?_numeral x

theorem joined_pieces (sep : Char) (cs : List Char) : joined sep (Text.pieces sep cs) = cs := by
  rw [Text.pieces_eq_splitOn]
  exact List.intercalate_splitOn sep

/-- **The dotted texts are those of four bytes.** -/
theorem dotted?_eq_some_iff : dotted? text = some b ↔ IsDotted text b := by
  constructor
  · intro h
    rw [dotted?] at h
    split_ifs at h with hlength
    rw [mapM_eq_some_iff] at h
    have hpieces : Text.pieces '.' text = b.map fun x => Nat.toDigits 10 x.toNat := by
      rw [← List.forall₂_eq_eq_eq, List.forall₂_map_right_iff]
      exact h.imp fun p x => decimalByte?_eq_some_iff.mp
    refine ⟨?_, ?_⟩
    · rw [← h.length_eq]
      simpa using hlength
    · rw [← hpieces, joined_pieces]
  · rintro ⟨hlength, rfl⟩
    exact dotted?_writeDotted hlength

/-! ## Groups -/

theorem group?_eq_some_iff : group? p = some b ↔ IsGroup p b := by
  have hvalue (ds : List Nat) :
      ds.foldl (fun n d => 16 * n + d) 0 = Nat.ofDigits 16 ds.reverse := by
    rw [Nat.ofDigits_eq_foldr, List.foldr_reverse]
    simp only [Nat.cast_id, Nat.add_comm]
  have hform : (p.isEmpty || 4 < p.length) = true ↔ ¬(0 < p.length ∧ p.length ≤ 4) := by
    rw [Bool.or_eq_true, List.isEmpty_iff_length_eq_zero, decide_eq_true_iff]
    omega
  rw [group?, IsGroup]
  split_ifs with hlength
  · rw [hform] at hlength
    simp only [false_iff]
    rintro ⟨ds, -, hpos, hshort, -⟩
    exact hlength ⟨hpos, hshort⟩
  · rw [hform, not_not] at hlength
    simp only [Option.bind_eq_bind, Option.bind_eq_some_iff, Option.pure_def, Option.some.injEq,
      mapM_eq_some_iff, hvalue, hlength, true_and, @eq_comm _ b]

/-- A character that is no digit stands in no group. -/
theorem IsGroup.notMem (h : IsGroup p b) {c : Char} (hc : hexValue? c = none) : c ∉ p := by
  obtain ⟨ds, hds, -⟩ := h
  have hvalues : List.Forall₂ (fun d n => d ≠ c ∧ hexValue? d = some n) p ds := by
    refine hds.imp fun d n hd => ⟨?_, hd⟩
    rintro rfl
    rw [hc] at hd
    cases hd
  exact fun hmem => ((List.forall₂_and_left p ds).mp hvalues).1 c hmem rfl

theorem IsGroup.ne_nil (h : IsGroup p b) : p ≠ [] := by
  obtain ⟨-, -, hpos, -⟩ := h
  exact List.ne_nil_of_length_pos hpos

theorem IsDotted.notMem (h : IsDotted p b) {c : Char} (hpoint : c ≠ '.')
    (hdigit : ∀ d < 16, d.digitChar ≠ c) : c ∉ p := by
  obtain ⟨-, rfl⟩ := h
  exact notMem_writeDotted hpoint hdigit b

theorem IsDotted.point_mem (h : IsDotted p b) : '.' ∈ p := by
  obtain ⟨hlength, rfl⟩ := h
  obtain ⟨w, x, y, z, rfl⟩ : ∃ w x y z, b = [w, x, y, z] := List.length_eq_four.mp hlength
  simp [joined]

/-- Text is cut at its first separator. -/
theorem pieces_append_cons {sep : Char} (h : sep ∉ p) (more : List Char) :
    Text.pieces sep (p ++ sep :: more) = p :: Text.pieces sep more := by
  rw [Text.pieces_eq_splitOn, Text.pieces_eq_splitOn]
  refine List.splitOnP_append_cons_of_forall_mem (fun c hc => ?_) sep (by simp) more
  simpa using fun heq : c = sep => h (heq ▸ hc)

theorem pieces_ne_nil (sep : Char) (cs : List Char) : Text.pieces sep cs ≠ [] := by
  rw [Text.pieces_eq_splitOn]
  exact List.splitOnP_ne_nil _ cs

/-- What stands alone is read as a group, or as dotted text where it may stand. -/
theorem groups?_singleton_eq_some_iff :
    groups? dottedEnd [p] = some b ↔ IsGroup p b ∨ dottedEnd = true ∧ IsDotted p b := by
  rw [groups?, ← group?_eq_some_iff, ← dotted?_eq_some_iff]
  -- A group has no point, and dotted text has some.
  have hgroup : '.' ∈ p → group? p ≠ some b := fun hmem h =>
    (group?_eq_some_iff.mp h).notMem (by decide) hmem
  have hdotted : '.' ∉ p → dotted? p ≠ some b := fun hnot h =>
    hnot (dotted?_eq_some_iff.mp h).point_mem
  by_cases hmem : '.' ∈ p
  · cases dottedEnd <;> simp [hmem, hgroup hmem]
  · simp [hmem, hdotted hmem]

theorem groups?_cons_eq_some_iff (hne : ps ≠ []) :
    groups? dottedEnd (p :: ps) = some b ↔
      ∃ g rest, IsGroup p g ∧ groups? dottedEnd ps = some rest ∧ g ++ rest = b := by
  obtain ⟨q, qs, rfl⟩ := List.exists_cons_of_ne_nil hne
  simp only [groups?, Option.bind_eq_bind, Option.bind_eq_some_iff, Option.pure_def,
    Option.some.injEq, group?_eq_some_iff]
  constructor
  · rintro ⟨g, hgroup, rest, hrest, rfl⟩
    exact ⟨g, rest, hgroup, hrest, rfl⟩
  · rintro ⟨g, rest, hgroup, hrest, rfl⟩
    exact ⟨g, hgroup, rest, hrest, rfl⟩

theorem isGroups_of_groups? (hne : ps ≠ []) (h : groups? dottedEnd ps = some b) :
    IsGroups dottedEnd (joined ':' ps) b := by
  induction ps generalizing b with
  | nil => exact absurd rfl hne
  | cons p ps ih =>
    cases ps with
    | nil =>
      have hone : joined ':' [p] = p := by simp [joined]
      rw [hone]
      rcases groups?_singleton_eq_some_iff.mp h with hgroup | ⟨hend, hdotted⟩
      · exact .group hgroup
      · exact .dotted hend hdotted
    | cons q qs =>
      have hrest := List.cons_ne_nil q qs
      obtain ⟨g, rest, hgroup, hmore, rfl⟩ := (groups?_cons_eq_some_iff hrest).mp h
      rw [joined_cons_cons]
      exact .cons hgroup (ih hrest hmore)

theorem IsGroups.groups?_pieces (h : IsGroups dottedEnd text b) :
    groups? dottedEnd (Text.pieces ':' text) = some b := by
  induction h with
  | group hgroup =>
    rw [Text.pieces_of_notMem (hgroup.notMem (by decide))]
    exact groups?_singleton_eq_some_iff.mpr (.inl hgroup)
  | dotted hend hdotted =>
    rw [Text.pieces_of_notMem (hdotted.notMem (by decide) (by decide))]
    exact groups?_singleton_eq_some_iff.mpr (.inr ⟨hend, hdotted⟩)
  | cons hgroup _ ih =>
    rw [pieces_append_cons (hgroup.notMem (by decide))]
    exact (groups?_cons_eq_some_iff (pieces_ne_nil ':' _)).mpr ⟨_, _, hgroup, ih, rfl⟩

/-- **Groups are read exactly as such.** -/
theorem groups?_pieces_eq_some_iff :
    groups? dottedEnd (Text.pieces ':' text) = some b ↔ IsGroups dottedEnd text b := by
  refine ⟨fun h => ?_, IsGroups.groups?_pieces⟩
  have hgroups := isGroups_of_groups? (pieces_ne_nil ':' text) h
  rwa [joined_pieces] at hgroups

theorem IsGroups.ne_nil (h : IsGroups dottedEnd text b) : text ≠ [] := by
  cases h with
  | group hgroup => exact hgroup.ne_nil
  | dotted _ hdotted => exact List.ne_nil_of_mem hdotted.point_mem
  | cons => simp

theorem groupText?_eq_some_iff : groupText? dottedEnd text = some b ↔ IsSide dottedEnd text b := by
  rw [groupText?]
  constructor
  · intro h
    split_ifs at h with hempty
    · cases h
      rw [List.isEmpty_iff.mp hempty]
      exact .empty
    · exact .groups (groups?_pieces_eq_some_iff.mp h)
  · intro h
    cases h with
    | empty => rfl
    | groups hgroups =>
      rw [if_neg (by simpa using hgroups.ne_nil)]
      exact groups?_pieces_eq_some_iff.mpr hgroups

/-! ## The gap -/

theorem eq_append_of_splitAtGap {before after : List Char}
    (h : splitAtGap text = some (before, after)) : text = before ++ ':' :: ':' :: after := by
  fun_induction splitAtGap text generalizing before with
  | case1 rest =>
    cases h
    rfl
  | case2 => cases h
  | case3 c rest _ ih =>
    obtain ⟨⟨front, back⟩, hrest, hpair⟩ := Option.map_eq_some_iff.mp h
    cases hpair
    rw [ih hrest, List.cons_append]

/-- Groups are pieces that are not empty, with colons between them. -/
theorem IsGroups.exists_pieces (h : IsGroups dottedEnd text b) :
    ∃ ps, ps ≠ [] ∧ text = joined ':' ps ∧ ∀ p ∈ ps, p ≠ [] ∧ ':' ∉ p := by
  induction h with
  | @group text b hgroup =>
    refine ⟨[text], List.cons_ne_nil text [], by simp [joined], ?_⟩
    rw [List.forall_mem_singleton]
    exact ⟨hgroup.ne_nil, hgroup.notMem (by decide)⟩
  | @dotted text b _ hdotted =>
    refine ⟨[text], List.cons_ne_nil text [], by simp [joined], ?_⟩
    rw [List.forall_mem_singleton]
    exact ⟨List.ne_nil_of_mem hdotted.point_mem, hdotted.notMem (by decide) (by decide)⟩
  | @cons text b more c hgroup _ ih =>
    obtain ⟨ps, hne, rfl, hps⟩ := ih
    obtain ⟨q, qs, rfl⟩ := List.exists_cons_of_ne_nil hne
    refine ⟨text :: q :: qs, List.cons_ne_nil _ _, (joined_cons_cons ':' text q qs).symm, ?_⟩
    exact List.forall_mem_cons.mpr ⟨⟨hgroup.ne_nil, hgroup.notMem (by decide)⟩, hps⟩

/-- There is no gap in groups. -/
theorem IsGroups.splitAtGap_eq_none (h : IsGroups dottedEnd text b) : splitAtGap text = none := by
  obtain ⟨ps, -, rfl, hps⟩ := h.exists_pieces
  have hsplit := splitAtGap_joined_append hps []
  rwa [List.append_nil] at hsplit

/-- A gap behind groups is the first one. -/
theorem IsSide.splitAtGap_append (h : IsSide dottedEnd text b) (after : List Char) :
    splitAtGap (text ++ ':' :: ':' :: after) = some (text, after) := by
  cases h with
  | empty => rfl
  | groups hgroups =>
    obtain ⟨ps, -, rfl, hps⟩ := hgroups.exists_pieces
    rw [splitAtGap_joined_append hps]
    simp [splitAtGap]

/-- **The texts with colons are those of the grammar.** -/
theorem colons?_eq_some_iff : colons? text = some b ↔ IsColons text b := by
  constructor
  · intro h
    rw [colons?] at h
    cases hgap : splitAtGap text with
    | none =>
      simp only [hgap, Option.bind_eq_bind, Option.bind_eq_some_iff, groupText?_eq_some_iff] at h
      obtain ⟨c, hside, h⟩ := h
      split_ifs at h with hlength
      cases h
      -- Without two colons all eight groups are there, so the text is not empty.
      cases hside with
      | empty => cases hlength
      | groups hgroups => exact .whole hgroups hlength
    | some sides =>
      obtain ⟨before, after⟩ := sides
      simp only [hgap, Option.bind_eq_bind, Option.bind_eq_some_iff, groupText?_eq_some_iff] at h
      obtain ⟨front, hfront, back, hback, h⟩ := h
      split_ifs at h with hroom
      cases h
      rw [eq_append_of_splitAtGap hgap]
      exact .gap hfront hback hroom
  · intro h
    cases h with
    | whole hgroups hlength =>
      simp only [colons?, hgroups.splitAtGap_eq_none, groupText?_eq_some_iff.mpr (.groups hgroups)]
      simp [hlength]
    | gap hfront hback hroom =>
      simp only [colons?, hfront.splitAtGap_append, groupText?_eq_some_iff.mpr hfront,
        groupText?_eq_some_iff.mpr hback]
      simp [hroom]

/-! ## Whole texts -/

/-- The zero character. -/
def nul : Char := Char.ofNat 0

theorem IsDotted.nul_notMem (h : IsDotted text b) : nul ∉ text :=
  h.notMem (by decide) (by decide)

theorem IsGroups.nul_notMem (h : IsGroups dottedEnd text b) : nul ∉ text := by
  induction h with
  | group hgroup => exact hgroup.notMem (by decide)
  | dotted _ hdotted => exact hdotted.nul_notMem
  | cons hgroup _ ih =>
    rw [List.mem_append, List.mem_cons, not_or, not_or]
    exact ⟨hgroup.notMem (by decide), by decide, ih⟩

theorem IsSide.nul_notMem (h : IsSide dottedEnd text b) : nul ∉ text := by
  cases h with
  | empty => exact List.not_mem_nil
  | groups hgroups => exact hgroups.nul_notMem

theorem IsColons.nul_notMem (h : IsColons text b) : nul ∉ text := by
  cases h with
  | whole hgroups => exact hgroups.nul_notMem
  | gap hfront hback =>
    have hcolon : nul ≠ ':' := by decide
    simp [hfront.nul_notMem, hback.nul_notMem, hcolon]

theorem IsColons.length_eq (h : IsColons text b) : b.length = 16 := by
  cases h with
  | whole _ hlength => exact hlength
  | gap _ _ hroom =>
    simp only [List.length_append, zeros, List.length_replicate]
    omega

section Reading

variable {s : String}

theorem readIp_of_isDotted (h : IsDotted s.toList b) : readIp s = .ok b := by
  have hnul : Char.ofNat 0 ∉ s.toList := h.nul_notMem
  simp [readIp, hnul, dotted?_eq_some_iff.mpr h]

theorem dotted?_eq_none (h : ¬∃ d, IsDotted text d) : dotted? text = none :=
  Option.eq_none_iff_forall_ne_some.mpr fun d hd => h ⟨d, dotted?_eq_some_iff.mp hd⟩

/-- Text with colons is read where it is not dotted. -/
theorem readIp_of_isColons (hnot : ¬∃ d, IsDotted s.toList d) (h : IsColons s.toList b) :
    readIp s = .ok b := by
  have hnul : Char.ofNat 0 ∉ s.toList := h.nul_notMem
  simp [readIp, hnul, dotted?_eq_none hnot, colons?_eq_some_iff.mpr h]

theorem readIp_of_neither (h : ¬∃ b, IsDotted s.toList b ∨ IsColons s.toList b) :
    readIp s = .error (if nul ∈ s.toList then .zeroCharacter else .malformed s) := by
  have hdotted : dotted? s.toList = none := dotted?_eq_none fun ⟨d, hd⟩ => h ⟨d, .inl hd⟩
  have hcolons : colons? s.toList = none :=
    Option.eq_none_iff_forall_ne_some.mpr fun b hb => h ⟨b, .inr (colons?_eq_some_iff.mp hb)⟩
  by_cases hnul : Char.ofNat 0 ∈ s.toList <;> simp [readIp, nul, hnul, hdotted, hcolons]

/-- A text is dotted, or else has colons, or else is neither. -/
theorem readIp_cases (s : String) :
    (∃ b, IsDotted s.toList b ∧ readIp s = .ok b) ∨
    (∃ b, (¬∃ d, IsDotted s.toList d) ∧ IsColons s.toList b ∧ readIp s = .ok b) ∨
    (¬∃ b, IsDotted s.toList b ∨ IsColons s.toList b) ∧
      readIp s = .error (if nul ∈ s.toList then .zeroCharacter else .malformed s) := by
  by_cases hdotted : ∃ b, IsDotted s.toList b
  · obtain ⟨b, hb⟩ := hdotted
    exact .inl ⟨b, hb, readIp_of_isDotted hb⟩
  · by_cases hcolons : ∃ b, IsColons s.toList b
    · obtain ⟨b, hb⟩ := hcolons
      exact .inr (.inl ⟨b, hdotted, hb, readIp_of_isColons hdotted hb⟩)
    · have hneither : ¬∃ b, IsDotted s.toList b ∨ IsColons s.toList b := by
        rintro ⟨b, hb | hb⟩
        · exact hdotted ⟨b, hb⟩
        · exact hcolons ⟨b, hb⟩
      exact .inr (.inr ⟨hneither, readIp_of_neither hneither⟩)

theorem readIp_eq_ok_iff :
    readIp s = .ok b ↔
      IsDotted s.toList b ∨ (¬∃ d, IsDotted s.toList d) ∧ IsColons s.toList b := by
  constructor
  · intro h
    rcases readIp_cases s with ⟨c, hc, hread⟩ | ⟨c, hnot, hc, hread⟩ | ⟨-, hread⟩
    · rw [Except.ok.inj (h.symm.trans hread)]
      exact .inl hc
    · rw [Except.ok.inj (h.symm.trans hread)]
      exact .inr ⟨hnot, hc⟩
    · cases h.symm.trans hread
  · rintro (hdotted | ⟨hnot, hcolons⟩)
    · exact readIp_of_isDotted hdotted
    · exact readIp_of_isColons hnot hcolons

theorem readIp_eq_error_iff {e : IpTextError} :
    readIp s = .error e ↔
      (¬∃ b, IsDotted s.toList b ∨ IsColons s.toList b) ∧
        e = if nul ∈ s.toList then .zeroCharacter else .malformed s := by
  constructor
  · intro h
    rcases readIp_cases s with ⟨c, -, hread⟩ | ⟨c, -, -, hread⟩ | ⟨hneither, hread⟩
    · cases h.symm.trans hread
    · cases h.symm.trans hread
    · exact ⟨hneither, Except.error.inj (h.symm.trans hread)⟩
  · rintro ⟨hneither, rfl⟩
    exact readIp_of_neither hneither

/-- The length of what is read tells the form of the text. -/
theorem readIp_eq_ok_of_length_iff :
    (readIp s = .ok b ∧ b.length = 4 ↔ IsDotted s.toList b) ∧
      (readIp s = .ok b ∧ b.length = 16 ↔
        (¬∃ d, IsDotted s.toList d) ∧ IsColons s.toList b) := by
  rw [readIp_eq_ok_iff]
  constructor
  · constructor
    · rintro ⟨hdotted | ⟨-, hcolons⟩, hlength⟩
      · exact hdotted
      · rw [hcolons.length_eq] at hlength
        cases hlength
    · exact fun h => ⟨.inl h, h.1⟩
  · constructor
    · rintro ⟨hdotted | hcolons, hlength⟩
      · rw [hdotted.1] at hlength
        cases hlength
      · exact hcolons
    · exact fun h => ⟨.inr h, h.2.length_eq⟩

theorem exists_widen?_of_readIp (h : readIp s = .ok b) : ∃ ip, Address.widen? b = some ip := by
  rcases readIp_eq_ok_iff.mp h with hdotted | ⟨-, hcolons⟩
  · exact ⟨_, widen?_of_length_four hdotted.1⟩
  · exact ⟨_, widen?_of_length_sixteen hcolons.length_eq⟩

end Reading

/-- **Address text is read or refused.** Dotted text is read as its four bytes, other text with
colons as its sixteen, and all else is refused: with a message that shows it, unless it holds the
zero character. The address of a peer has sixteen bytes, or is refused for its text. -/
theorem address_text_read_or_refused (s : String) :
    (∀ b, readIp s = .ok b ∧ b.length = 4 ↔ IsDotted s.toList b) ∧
    (∀ b, readIp s = .ok b ∧ b.length = 16 ↔
      (¬∃ d, IsDotted s.toList d) ∧ IsColons s.toList b) ∧
    (∀ e, readIp s = .error e ↔
      (¬∃ b, IsDotted s.toList b ∨ IsColons s.toList b) ∧
        e = if nul ∈ s.toList then .zeroCharacter else .malformed s) ∧
    (AddressError.text (.malformed s)).message? = some ("failed to decode IP " ++ s) ∧
    ∀ port services timestamp,
      (∃ a, Address.resolve (.text s) port services timestamp = .ok a ∧ a.ip.length = 16) ∨
      ∃ e, readIp s = .error e ∧
        Address.resolve (.text s) port services timestamp = .error (.text e) := by
  refine ⟨fun _ => readIp_eq_ok_of_length_iff.1, fun _ => readIp_eq_ok_of_length_iff.2,
    fun _ => readIp_eq_error_iff, rfl, fun port services timestamp => ?_⟩
  cases hread : readIp s with
  | ok b =>
    obtain ⟨ip, hwide⟩ := exists_widen?_of_readIp hread
    have hhost : hostBytes (.text s) = .ok b := by
      rw [hostBytes, hread]
      rfl
    exact .inl ⟨_, resolve_eq_ok_iff.mpr ⟨b, ip, hhost, hwide, rfl⟩, length_of_widen? hwide⟩
  | error e =>
    refine .inr ⟨e, rfl, ?_⟩
    rw [Address.resolve, hostBytes, hread]
    rfl

/-- Groups of either case before the gap, and one with a dotted end behind it. -/
theorem address_text_read_or_refused_gap :
    readIp "Db8:0::c:1.2.3.4" = .ok [0x0d, 0xb8, 0, 0, 0, 0, 0, 0, 0, 0, 0, 0x0c, 1, 2, 3, 4] := by
  have group {p : List Char} {b : Octets} (h : group? p = some b) : IsGroup p b :=
    group?_eq_some_iff.mp h
  have hfront : IsGroups false ("Db8".toList ++ ':' :: ['0']) ([0x0d, 0xb8] ++ [0, 0]) :=
    .cons (group (by decide +kernel)) (.group (group (by decide +kernel)))
  have hback : IsGroups true (['c'] ++ ':' :: "1.2.3.4".toList) ([0, 0x0c] ++ [1, 2, 3, 4]) :=
    .cons (group (by decide +kernel)) (.dotted rfl ⟨rfl, by decide +kernel⟩)
  have hundotted : ¬∃ d, IsDotted "Db8:0::c:1.2.3.4".toList d := by
    have hnone : dotted? "Db8:0::c:1.2.3.4".toList = none := by decide +kernel
    rintro ⟨d, hd⟩
    rw [← dotted?_eq_some_iff, hnone] at hd
    cases hd
  obtain ⟨-, hcolons, -⟩ := address_text_read_or_refused "Db8:0::c:1.2.3.4"
  exact ((hcolons _).mpr
    ⟨hundotted, IsColons.gap (.groups hfront) (.groups hback) (by decide)⟩).1

/-- A text with the zero character is neither read nor refused with a message. -/
theorem address_text_untold_zero :
    ¬∀ s, (∃ b, readIp s = .ok b) ∨
      ∃ e message, readIp s = .error e ∧ (AddressError.text e).message? = some message := by
  intro h
  have hread : readIp (String.singleton nul) = .error .zeroCharacter := by decide +kernel
  rcases h (String.singleton nul) with ⟨b, hb⟩ | ⟨e, message, he, hmessage⟩
  · rw [hread] at hb
    cases hb
  · rw [hread] at he
    cases he
    cases hmessage

end LedgerNet.Peer
