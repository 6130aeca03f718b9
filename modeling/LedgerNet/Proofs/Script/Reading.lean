import LedgerNet.Proofs.Octets.LastByte
import LedgerNet.Script

/-!
# Reading pushes

A script is read from left to right. The opcode of a push says how the data is found: some opcodes
stand for one string, others announce a number of bytes, and the rest a length in front of the data.

## Main statements

- `readPush_eq_some_iff`: a push is read exactly where one of the forms of its data stands.
- `readPushes_flatten`: a sequence of pushes is read back, with nothing left.
-/

namespace LedgerNet.Script

open Octets

/-! ## The reader -/

/-- The first `n` bytes and what follows them. -/
def splitAt? (n : Nat) (b : Octets) : Option (Octets × Octets) :=
  if n ≤ b.length then some (b.take n, b.drop n) else none

/-- The number of bytes that hold the length of the data behind an opcode. -/
def lengthWidth? (op : UInt8) : Option Nat :=
  if op = opLength1 then some 1
  else if op = opLength2 then some 2
  else if op = opLength4 then some 4
  else none

/-- The data that an opcode pushes by itself: the empty string, the byte of minus one, or one of the
bytes 1 to 16. -/
def constant? (op : UInt8) : Option Octets :=
  if op = opZero then some []
  else if op = opMinusOne then some [minusOne]
  else if 0x51 ≤ op ∧ op ≤ 0x60 then some [op - opBeforeOne]
  else none

/-- The data of the push that a script starts with, and what follows the push. -/
def readPush : Octets → Option (Octets × Octets)
  | [] => none
  | op :: rest =>
    match constant? op with
    | some data => some (data, rest)
    | none =>
      match lengthWidth? op with
      | some w => do
        let (length, rest) ← splitAt? w rest
        splitAt? (natLE length) rest
      | none => if op < opLength1 then splitAt? op.toNat rest else none

/-! ## Forms -/

/-- The forms of a push of some data. -/
inductive IsPush : Octets → Octets → Prop where
  /-- One opcode stands for the data. -/
  | constant {op : UInt8} {data : Octets} (h : constant? op = some data) : IsPush data [op]
  /-- The opcode is the number of bytes, from 1 to 75. -/
  | direct {data : Octets} (hpos : 0 < data.length) (hlt : data.length < opLength1.toNat) :
      IsPush data (UInt8.ofNat data.length :: data)
  /-- The opcode announces a length in front of the data. -/
  | counted {op : UInt8} {w : Nat} {data : Octets} (hop : lengthWidth? op = some w)
      (hlt : data.length < 256 ^ w) : IsPush data (op :: littleEndian w data.length ++ data)

/-! ## One push -/

theorem splitAt?_eq_some_iff {n : Nat} {b data rest : Octets} :
    splitAt? n b = some (data, rest) ↔ b = data ++ rest ∧ data.length = n := by
  unfold splitAt?
  split_ifs with h
  · constructor
    · intro hsome
      cases hsome
      exact ⟨(List.take_append_drop n b).symm, List.length_take_of_le h⟩
    · rintro ⟨rfl, rfl⟩
      rw [List.take_left, List.drop_left]
  · constructor
    · intro hsome
      cases hsome
    · rintro ⟨rfl, rfl⟩
      exact absurd (by simp) h

theorem splitAt?_append (data rest : Octets) :
    splitAt? data.length (data ++ rest) = some (data, rest) :=
  splitAt?_eq_some_iff.mpr ⟨rfl, rfl⟩

theorem lengthWidth?_eq_some_iff {op : UInt8} {w : Nat} :
    lengthWidth? op = some w ↔
      op = opLength1 ∧ w = 1 ∨ op = opLength2 ∧ w = 2 ∨ op = opLength4 ∧ w = 4 := by
  unfold lengthWidth?
  split_ifs <;> grind [opLength1, opLength2, opLength4]

/-- An opcode that announces a length pushes nothing by itself. -/
theorem constant?_of_lengthWidth? {op : UInt8} {w : Nat} (h : lengthWidth? op = some w) :
    constant? op = none := by
  rcases lengthWidth?_eq_some_iff.mp h with ⟨rfl, -⟩ | ⟨rfl, -⟩ | ⟨rfl, -⟩ <;> rfl

/-- An opcode that is a number of bytes neither pushes anything by itself nor announces a length. -/
theorem constant?_lengthWidth?_of_direct {op : UInt8} (hpos : 0 < op.toNat) (hlt : op < opLength1) :
    constant? op = none ∧ lengthWidth? op = none := by
  revert hpos hlt
  exact forall_byte (p := fun op => 0 < op.toNat → op < opLength1 →
    constant? op = none ∧ lengthWidth? op = none) (by decide +kernel) op

/-- A form of a push is read as its data, whatever follows it. -/
theorem IsPush.readPush_append {data p : Octets} (h : IsPush data p) (rest : Octets) :
    readPush (p ++ rest) = some (data, rest) := by
  cases h with
  | constant h =>
    simp only [List.cons_append, List.nil_append, readPush, h]
  | direct hpos hlt =>
    have hsize : (UInt8.ofNat data.length).toNat = data.length :=
      UInt8.toNat_ofNat_of_lt (Nat.lt_trans hlt (by decide))
    have hop : UInt8.ofNat data.length < opLength1 := by
      rw [UInt8.lt_iff_toNat_lt, hsize]
      exact hlt
    obtain ⟨hconstant, hwidth⟩ := constant?_lengthWidth?_of_direct (hsize.symm ▸ hpos) hop
    simp only [List.cons_append, readPush, hconstant, hwidth, if_pos hop, hsize, splitAt?_append]
  | @counted op w _ hop hlt =>
    have hlength : natLE (littleEndian w data.length) = data.length := by
      rw [natLE_littleEndian, Nat.mod_eq_of_lt hlt]
    have hwidth := splitAt?_append (littleEndian w data.length) (data ++ rest)
    rw [length_littleEndian] at hwidth
    simp only [List.cons_append, List.append_assoc, readPush, constant?_of_lengthWidth? hop, hop,
      hwidth, Option.bind_eq_bind, Option.bind_some, hlength, splitAt?_append]

/-- What is read behind a length has the form with that length. -/
theorem exists_isPush_of_counted {op : UInt8} {w : Nat} {tail data rest : Octets}
    (hop : lengthWidth? op = some w)
    (h : (do
      let (length, behind) ← splitAt? w tail
      splitAt? (natLE length) behind) = some (data, rest)) :
    ∃ p, IsPush data p ∧ op :: tail = p ++ rest := by
  obtain ⟨⟨length, behind⟩, hlength, hdata⟩ := Option.bind_eq_some_iff.mp h
  obtain ⟨rfl, rfl⟩ := splitAt?_eq_some_iff.mp hlength
  obtain ⟨rfl, hsize⟩ := splitAt?_eq_some_iff.mp hdata
  have hbytes := littleEndian_natLE length
  rw [← hsize] at hbytes
  refine ⟨op :: littleEndian length.length data.length ++ data,
    .counted hop (hsize ▸ natLE_lt length), ?_⟩
  rw [hbytes, List.cons_append, List.cons_append, List.append_assoc]

/-- What is read by its number of bytes alone has the direct form. -/
theorem exists_isPush_of_direct {op : UInt8} {tail data rest : Octets}
    (hconstant : constant? op = none) (hlt : op < opLength1)
    (h : splitAt? op.toNat tail = some (data, rest)) :
    ∃ p, IsPush data p ∧ op :: tail = p ++ rest := by
  obtain ⟨rfl, hsize⟩ := splitAt?_eq_some_iff.mp h
  have hop : UInt8.ofNat data.length = op := by rw [hsize, UInt8.ofNat_toNat]
  refine ⟨op :: data, hop ▸ .direct ?_ ?_, rfl⟩
  · -- The opcode zero would have pushed the empty string.
    rw [hsize]
    apply Nat.pos_of_ne_zero
    intro hzero
    obtain rfl : op = 0 := UInt8.toNat_inj.mp hzero
    exact absurd hconstant (by decide)
  · rw [hsize]
    exact UInt8.lt_iff_toNat_lt.mp hlt

/-- **A push is read exactly where one of the forms of its data stands.** -/
theorem readPush_eq_some_iff {s data rest : Octets} :
    readPush s = some (data, rest) ↔ ∃ p, IsPush data p ∧ s = p ++ rest := by
  constructor
  · intro h
    cases s with
    | nil => cases h
    | cons op tail =>
      rw [readPush] at h
      split at h
      case h_1 hconstant =>
        cases h
        exact ⟨[op], .constant hconstant, rfl⟩
      case h_2 hconstant =>
        split at h
        case h_1 w hop => exact exists_isPush_of_counted hop h
        case h_2 =>
          split at h
          case isTrue hlt => exact exists_isPush_of_direct hconstant hlt h
          case isFalse => cases h
  · rintro ⟨p, hpush, rfl⟩
    exact hpush.readPush_append rest

/-! ## Many pushes -/

theorem length_lt_of_readPush {s data rest : Octets} (h : readPush s = some (data, rest)) :
    rest.length < s.length := by
  obtain ⟨p, hpush, rfl⟩ := readPush_eq_some_iff.mp h
  have hpos : 0 < p.length := by
    cases hpush <;> simp
  rw [List.length_append]
  omega

/-- The data of all pushes of a script that has nothing else, from left to right. -/
def readPushes : Octets → Option (List Octets)
  | [] => some []
  | op :: tail =>
    match h : readPush (op :: tail) with
    | some (data, rest) =>
      have : rest.length < (op :: tail).length := length_lt_of_readPush h
      (readPushes rest).map (data :: ·)
    | none => none
termination_by s => s.length
decreasing_by assumption

theorem readPushes_append {data p : Octets} (h : IsPush data p) (rest : Octets) :
    readPushes (p ++ rest) = (readPushes rest).map (data :: ·) := by
  have hread := h.readPush_append rest
  cases hs : p ++ rest with
  | nil =>
    rw [hs] at hread
    cases hread
  | cons op tail =>
    rw [hs] at hread
    rw [readPushes]
    split
    case h_1 hsome =>
      rw [hread] at hsome
      cases hsome
      rfl
    case h_2 hnone =>
      rw [hread] at hnone
      cases hnone

/-- **A sequence of pushes is read back, with nothing left.** -/
theorem readPushes_flatten {data pushes : List Octets} (h : List.Forall₂ IsPush data pushes) :
    readPushes pushes.flatten = some data := by
  induction h with
  | nil => rw [List.flatten_nil, readPushes]
  | cons hpush _ ih => rw [List.flatten_cons, readPushes_append hpush, ih, Option.map_some]

end LedgerNet.Script
