import LedgerNet.Proofs.Memory.Frames
import LedgerNet.Proofs.Octets.Integers

/-!
# Integers in memory

An object that is made from an integer with a length has the field of that length for its bytes.
There is such an object exactly if the integer lies in the field's range and there is room for the
zeros that go in front of its shortest form. Two reversals give its bytes again.

## Main statements

- `Value.sized_int_eq_ok_iff`: which integers are widened to a length, and to which bytes.
- `succeeds_construct_iff`, `Holds.reversed`: which objects are made, and what a reversal holds.
- `integers_convert_without_loss`: integers and bytes, at the least size and at a fixed one.
-/

namespace LedgerNet

open Outcome

namespace Value

open Octets (bigEndian byteLength zeros)

variable {n : Int} {room w : Nat} {b : Octets}

/-! ## Numbers as values -/

/-- How many bytes a number takes as a value; zero takes one. -/
def numberSize (n : Int) : Nat := max 1 (byteLength n.toNat)

theorem numberSize_le_iff (hw : 1 ≤ w) : numberSize n ≤ w ↔ n.toNat < 256 ^ w := by
  rw [numberSize, Nat.max_le, Octets.byteLength_le_iff, and_iff_right hw]

theorem numberSize_of_pos (hn : 0 < n) : numberSize n = byteLength n.toNat := by
  have hpos : ¬byteLength n.toNat ≤ 0 := by
    rw [Octets.byteLength_le_iff]
    omega
  rw [numberSize]
  omega

/-- A number that is not negative is read as its shortest form, in which zero takes one byte. -/
theorem ofNumber_eq_ok_iff :
    ofNumber n = .ok b ↔ 0 ≤ n ∧ b = bigEndian (numberSize n) n.toNat := by
  rcases Int.lt_trichotomy n 0 with hneg | rfl | hpos
  · have hne : n ≠ 0 := Int.ne_of_lt hneg
    rw [ofNumber, if_neg hne, mapError_eq_ok_iff, Octets.ofInt]
    simp [hneg, Int.not_le.mpr hneg]
  · have hform : bigEndian (numberSize 0) (0 : Int).toNat = [0] := by decide
    rw [ofNumber, if_pos rfl, hform]
    simp [eq_comm]
  · have hne : n ≠ 0 := Int.ne_of_gt hpos
    have hnonneg : 0 ≤ n := Int.le_of_lt hpos
    rw [ofNumber, if_neg hne, mapError_eq_ok_iff, Octets.ofInt, numberSize_of_pos hpos]
    simp [hnonneg, Int.not_lt.mpr hnonneg, Octets.ofNat, eq_comm]

/-! ## A fixed length -/

/-- So many zeros can be addressed, and there is room for them. -/
def HasRoom (room : Nat) (n : Int) : Prop := n < addressLimit ∧ n ≤ room

instance (room : Nat) (n : Int) : Decidable (HasRoom room n) :=
  inferInstanceAs (Decidable (_ ∧ _))

/-- A value is widened to a length exactly if it is not longer and there is room for the zeros. -/
theorem sized_eq_ok_iff {v : Value} (hw : 1 ≤ w) :
    v.sized room (some w) = .ok b ↔
      ∃ c, v.toOctets = .ok c ∧ c.length ≤ w ∧ HasRoom room (w - c.length) ∧
        b = zeros (w - c.length) ++ c := by
  rw [sized, bind_eq_ok_iff]
  refine exists_congr fun c => and_congr_right fun _ => ?_
  -- A length of at least one is none of the lengths that count as none.
  split
  case h_1 h => cases h
  case h_2 h =>
    have hzero : (w : Int) = 0 := Option.some.inj h
    omega
  case h_3 n _ h =>
    obtain rfl : (w : Int) = n := Option.some.inj h
    rw [Int.toNat_natCast]
    split_ifs with hlong haddress hroom
    · have hnot : ¬c.length ≤ w := by omega
      simp [hnot]
    · have hnot : ¬HasRoom room (w - c.length) := fun h => absurd h.1 (by omega)
      simp [hnot]
    · have hnot : ¬HasRoom room (w - c.length) := fun h => absurd h.2 (by omega)
      simp [hnot]
    · have hfits : c.length ≤ w := by omega
      have hheld : HasRoom room (w - c.length) := ⟨by omega, by omega⟩
      simp [hfits, hheld, pure, Except.pure, eq_comm]

/-- **A number with a length is the field of that length**, if there is room. -/
theorem sized_int_eq_ok_iff (hw : 1 ≤ w) :
    (int n).sized room (some w) = .ok b ↔
      (0 ≤ n ∧ n < 256 ^ w) ∧ HasRoom room (w - numberSize n) ∧ b = bigEndian w n.toNat := by
  have hrange (hn : 0 ≤ n) : numberSize n ≤ w ↔ n < 256 ^ w := by
    obtain ⟨k, rfl⟩ := Int.eq_ofNat_of_zero_le hn
    rw [numberSize_le_iff hw, Int.toNat_natCast]
    norm_cast
  have hsize : n.toNat < 256 ^ numberSize n :=
    (numberSize_le_iff (Nat.le_max_left 1 _)).mp (Nat.le_refl _)
  rw [sized_eq_ok_iff hw]
  constructor
  · rintro ⟨c, hc, hlength, hroom, rfl⟩
    obtain ⟨hn, rfl⟩ := ofNumber_eq_ok_iff.mp hc
    rw [Octets.length_bigEndian] at hlength hroom
    exact ⟨⟨hn, (hrange hn).mp hlength⟩, hroom, by
      rw [Octets.length_bigEndian, Octets.zeros_append_bigEndian hlength hsize]⟩
  · rintro ⟨⟨hn, hlt⟩, hroom, rfl⟩
    have hlength := (hrange hn).mpr hlt
    refine ⟨bigEndian (numberSize n) n.toNat, ofNumber_eq_ok_iff.mpr ⟨hn, rfl⟩, ?_, ?_, ?_⟩
    · rwa [Octets.length_bigEndian]
    · rwa [Octets.length_bigEndian]
    · rw [Octets.length_bigEndian, Octets.zeros_append_bigEndian hlength hsize]

end Value

namespace Memory

open Octets (bigEndian ofInt toInt)

variable {m m' : Memory} {register : String} {copy : Bool} {b : Octets} {i : Int} {w : Nat}

/-! ## Objects by their bytes -/

/-- A register holds an object with the given bytes. -/
def Holds (m : Memory) (register : String) (b : Octets) : Prop :=
  ∃ o, m.handle register = .ok (.object o) ∧ m.contents (.object o) = b

/-- A register that is set to a new object holds its bytes. -/
theorem holds_wrapNew (m : Memory) (register : String) (b : Octets) :
    ((m.wrapNew b).1.bind register (m.wrapNew b).2).Holds register b :=
  ⟨m.objects.length, handle_bind_self _ _ _, contents_wrapNew m register b⟩

theorem after_of_perform {a : Action} (h : m.perform a = .ok m') : m.after a = m' := by
  rw [after, h]

/-- A reversal is a new object with the bytes in reverse order. -/
theorem Holds.reversed (h : m.Holds register b) (target : String) :
    (m.after (.step (.reversed register target))).Holds target b.reverse := by
  obtain ⟨o, hregister, rfl⟩ := h
  have hrun : m.perform (.step (.reversed register target)) =
      .ok ((m.wrapNew (m.contents (.object o)).reverse).1.bind target
        (m.wrapNew (m.contents (.object o)).reverse).2) := by
    refine perform_step_eq_ok.mpr ⟨none, ?_⟩
    rw [run, hregister]
    rfl
  rw [after_of_perform hrun]
  exact holds_wrapNew m target _

/-! ## Objects of a fixed length -/

/-- With a length, a new object is made of the operand's bytes. -/
theorem run_construct_sized (hw : 1 ≤ w) (v : Value) :
    m.run (.construct register (.value v) copy (some w)) =
      ((v.sized m.room (some w)).mapError Fault.value >>= fun b =>
        pure ((m.wrapNew b).1.bind register (m.wrapNew b).2, none)) := by
  simp only [run.eq_def]
  split
  case h_1 h => cases h
  case h_2 h =>
    have hzero : (w : Int) = 0 := Option.some.inj h
    omega
  case h_3 n _ h =>
    obtain rfl : (w : Int) = n := Option.some.inj h
    rfl

/-- Something is made with a length exactly if the operand can be widened to it. -/
theorem perform_construct_eq_ok_iff (hw : 1 ≤ w) {v : Value} :
    m.perform (.step (.construct register (.value v) copy (some w))) = .ok m' ↔
      ∃ b, v.sized m.room (some w) = .ok b ∧
        (m.wrapNew b).1.bind register (m.wrapNew b).2 = m' := by
  simp only [perform_step_eq_ok, run_construct_sized hw, bind_eq_ok_iff, mapError_eq_ok_iff,
    pure_eq_ok_iff, Prod.mk.injEq]
  constructor
  · rintro ⟨answer, b, hb, hm, -⟩
    exact ⟨b, hb, hm⟩
  · rintro ⟨b, hb, hm⟩
    exact ⟨none, b, hb, hm, rfl⟩

/-- An object is made from an integer exactly if the integer lies in the range of the length and
there is room. -/
theorem succeeds_construct_iff (hw : 1 ≤ w) :
    m.Succeeds (.step (.construct register (.value (.int i)) copy (some w))) ↔
      (0 ≤ i ∧ i < 256 ^ w) ∧ Value.HasRoom m.room (w - Value.numberSize i) := by
  simp only [Succeeds, perform_construct_eq_ok_iff hw, Value.sized_int_eq_ok_iff hw]
  constructor
  · rintro ⟨_, b, ⟨hrange, hroom, -⟩, -⟩
    exact ⟨hrange, hroom⟩
  · rintro ⟨hrange, hroom⟩
    exact ⟨_, _, ⟨hrange, hroom, rfl⟩, rfl⟩

/-- The object that is made from an integer has its field. -/
theorem holds_construct (hw : 1 ≤ w)
    (h : m.Succeeds (.step (.construct register (.value (.int i)) copy (some w)))) :
    (m.after (.step (.construct register (.value (.int i)) copy (some w)))).Holds register
      (bigEndian w i.toNat) := by
  obtain ⟨b, hb, hm⟩ := (perform_construct_eq_ok_iff hw).mp h.perform
  obtain ⟨-, -, rfl⟩ := (Value.sized_int_eq_ok_iff hw).mp hb
  rw [← hm]
  exact holds_wrapNew m register _

/-! ## Integers and bytes -/

/-- **Integers and bytes convert without loss, at the least size or at a fixed one.** An integer
that is not negative, or is written with a sign, is read back from what is written, and no shorter
byte string stands for it unless it is zero; a byte string that does not start with zero is what is
written for its number. An object of a fixed length is made from an integer exactly if the integer
lies in the range of the length and there is room for the zeros in front; it has that many bytes and
stands for the integer, and so does what two reversals make of it. -/
theorem integers_convert_without_loss :
    (∀ (signed : Bool) (i : Int), 0 ≤ i ∨ signed = true →
      ∃ b, ofInt signed i = .ok b ∧ toInt signed b = i ∧
        (i ≠ 0 → ∀ c, toInt signed c = i → b.length ≤ c.length)) ∧
    (∀ b : Octets, b.head? ≠ some 0 → ofInt false (toInt false b) = .ok b) ∧
    ∀ (m : Memory) (register : String) (copy : Bool) (i : Int) (w : Nat), 1 ≤ w →
      let a := Action.step (.construct register (.value (.int i)) copy (some w))
      (m.Succeeds a ↔ (0 ≤ i ∧ i < 256 ^ w) ∧ Value.HasRoom m.room (w - Value.numberSize i)) ∧
      (m.Succeeds a → ∃ b, (m.after a).Holds register b ∧ b.length = w ∧ toInt false b = i ∧
        ∀ little big, ∃ c,
          (((m.after a).after (.step (.reversed register little))).after
            (.step (.reversed little big))).Holds big c ∧ toInt false c = i) := by
  refine ⟨fun _ _ => Octets.exists_ofInt, fun _ => Octets.ofInt_toInt, ?_⟩
  intro m register copy i w hw a
  refine ⟨succeeds_construct_iff hw, fun h => ?_⟩
  obtain ⟨⟨hnonneg, hlt⟩, -⟩ := (succeeds_construct_iff hw).mp h
  have hheld := holds_construct hw h
  have hvalue := Octets.toInt_bigEndian_toNat hnonneg hlt
  refine ⟨_, hheld, Octets.length_bigEndian w _, hvalue, fun little big => ?_⟩
  have hturned := (hheld.reversed little).reversed big
  rw [List.reverse_reverse] at hturned
  exact ⟨_, hturned, hvalue⟩

/-- The least integer of one byte with a sign, and one that fills a length of two bytes. -/
theorem integers_convert_without_loss_sign_bit :
    (∃ b, ofInt true (-128) = .ok b ∧ toInt true b = -128 ∧
      b.length ≤ ([0xff, 0x80] : Octets).length) ∧
    ofInt false (toInt false [0x01, 0x00]) = .ok [0x01, 0x00] ∧
    ∃ b, (Memory.after { room := 1 }
      (.step (.construct "a" (.value (.int 0xffff)) false (some 2)))).Holds "a" b ∧
        b.length = 2 ∧ toInt false b = 0xffff := by
  obtain ⟨hwritten, hread, hfixed⟩ := integers_convert_without_loss
  obtain ⟨b, hb, hvalue, hleast⟩ := hwritten true (-128) (.inr rfl)
  obtain ⟨hsucceeds, hheld⟩ := hfixed { room := 1 } "a" false 0xffff 2 (by decide)
  obtain ⟨c, hc, hlength, hint, -⟩ := hheld (hsucceeds.mpr (by decide +kernel))
  exact ⟨⟨b, hb, hvalue, hleast (by decide) [0xff, 0x80] (by decide)⟩,
    hread [0x01, 0x00] (by decide), c, hc, hlength, hint⟩

/-- A length of more zeros than can be addressed: the integer lies in its range, and no object is
made, though there would be room. -/
theorem no_object_of_unaddressable_length :
    ¬∀ (i : Int) (w : Nat), 1 ≤ w →
      (Memory.Succeeds { room := 2 ^ 70 }
          (.step (.construct "a" (.value (.int i)) true (some w))) ↔
        0 ≤ i ∧ i < 256 ^ w) := by
  intro h
  have hlength : (1 : Nat) ≤ 2 ^ 64 := by decide
  have hrange : ∀ w : Nat, w ≠ 0 → (1 : Int) < 256 ^ w := fun w hw => by
    exact_mod_cast Nat.one_lt_pow hw (by decide)
  have hmade := (h 1 (2 ^ 64) hlength).mpr ⟨by decide, hrange _ (by decide)⟩
  have hroom := ((succeeds_construct_iff hlength).mp hmade).2
  exact absurd hroom (by decide +kernel)

end Memory

end LedgerNet
