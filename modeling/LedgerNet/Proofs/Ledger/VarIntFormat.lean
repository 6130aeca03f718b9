import LedgerNet.Proofs.Ledger.Exactness

/-!
# Numbers and byte strings of variable length

Every number below `2 ^ 64` has one form, and a reader accepts no other: a mark is refused in
front of a number that needs fewer bytes. A byte string is its length and then its bytes, so both
formats are exact and delimit themselves.
-/

namespace LedgerNet.Ledger

open Octets (FieldError Fits fieldLE)
open Outcome

/-! ## Numbers -/

/-- The forms of a number: alone in one byte, or behind the mark of the fewest bytes it needs. -/
inductive VarInt.Form (n : Nat) : Octets → Prop where
  | alone {c : Octets} (hn : n < 0xfd) (hc : fieldLE 1 n = .ok c) : Form n c
  | two {c : Octets} (hn : 0xfd ≤ n) (hc : fieldLE 2 n = .ok c) : Form n ([0xfd] ++ c)
  | four {c : Octets} (hn : 0x10000 ≤ n) (hc : fieldLE 4 n = .ok c) : Form n ([0xfe] ++ c)
  | eight {c : Octets} (hn : 0x100000000 ≤ n) (hc : fieldLE 8 n = .ok c) : Form n ([0xff] ++ c)

/-- Writing gives the form of a number. -/
theorem VarInt.write_eq_ok_iff {n : Nat} {c : Octets} : VarInt.write n = .ok c ↔ Form n c := by
  constructor
  · intro h
    unfold VarInt.write at h
    split at h
    · rw [Octets.field_one] at h
      exact .alone (by omega) h
    split at h
    · obtain ⟨d, hd, rfl⟩ := map_eq_ok_iff.mp h
      exact .two (by omega) hd
    split at h
    · obtain ⟨d, hd, rfl⟩ := map_eq_ok_iff.mp h
      exact .four (by omega) hd
    · obtain ⟨d, hd, rfl⟩ := map_eq_ok_iff.mp h
      exact .eight (by omega) hd
  · intro h
    unfold VarInt.write
    cases h with
    | alone hn hc => rw [if_pos (by omega), Octets.field_one, hc]
    | two hn hc =>
      -- That the field exists bounds the number from above; the form bounds it from below.
      have hlt : n < 256 ^ 2 := Octets.fits_natCast_iff.mp (Octets.fieldLE_eq_ok_iff.mp hc).1
      rw [if_neg (by omega), if_pos (by omega), hc]
      rfl
    | four hn hc =>
      have hlt : n < 256 ^ 4 := Octets.fits_natCast_iff.mp (Octets.fieldLE_eq_ok_iff.mp hc).1
      rw [if_neg (by omega), if_neg (by omega), if_pos (by omega), hc]
      rfl
    | eight hn hc =>
      rw [if_neg (by omega), if_neg (by omega), if_neg (by omega), hc]
      rfl

/-- Every number of the 64-bit range has a form. -/
theorem exists_varInt_write {n : Nat} (h : n < 2 ^ 64) : ∃ c, VarInt.write n = .ok c := by
  have hform : ∀ {w : Nat}, n < 256 ^ w → ∃ c, fieldLE w n = .ok c := fun hw =>
    Octets.exists_fieldLE (Octets.fits_natCast_iff.mpr hw)
  simp only [VarInt.write_eq_ok_iff]
  by_cases h₁ : n < 0xfd
  · obtain ⟨c, hc⟩ := hform (w := 1) (by omega)
    exact ⟨c, .alone h₁ hc⟩
  by_cases h₂ : n < 0x10000
  · obtain ⟨c, hc⟩ := hform (w := 2) h₂
    exact ⟨_, .two (Nat.not_lt.mp h₁) hc⟩
  by_cases h₄ : n < 0x100000000
  · obtain ⟨c, hc⟩ := hform (w := 4) h₄
    exact ⟨_, .four (Nat.not_lt.mp h₂) hc⟩
  · obtain ⟨c, hc⟩ := hform (w := 8) h
    exact ⟨_, .eight (Nat.not_lt.mp h₄) hc⟩

/-- The number behind a mark has to need its bytes. -/
theorem readWide_eq_ok_iff {mark width least n : Nat} {b rest : Octets} :
    readWide mark width least b = .ok n rest ↔
      least ≤ n ∧ ∃ c, fieldLE width n = .ok c ∧ b = c ++ rest := by
  simp only [readWide, Reader.bind_eq_ok_iff, Reader.refuse_eq_ok_iff, Reader.pure_eq_ok_iff,
    Reader.number_eq_ok_iff]
  constructor
  · rintro ⟨m, mid, hc, hle, rfl, rfl⟩
    exact ⟨Nat.not_lt.mp hle, hc⟩
  · rintro ⟨hle, hc⟩
    exact ⟨n, rest, hc, Nat.not_lt.mpr hle, rfl, rfl⟩

/-- One byte is the field of its own number. -/
theorem fieldLE_singleton (m : UInt8) : fieldLE 1 m.toNat = .ok [m] :=
  Octets.fieldLE_eq_ok_iff.mpr ⟨Octets.fits_natLE [m], by simp [Octets.littleEndian]⟩

/-- The byte in front decides how a number is read. -/
theorem VarInt.read_cons (m : UInt8) (t : Octets) :
    VarInt.read (m :: t) =
      if m.toNat = 0xff then readWide m.toNat 8 0x100000000 t
      else if m.toNat = 0xfe then readWide m.toNat 4 0x10000 t
      else if m.toNat = 0xfd then readWide m.toNat 2 0xfd t
      else .ok m.toNat t := by
  have hmark : Reader.number 1 (m :: t) = .ok m.toNat t :=
    Reader.number_eq_ok_iff.mpr ⟨[m], fieldLE_singleton m, rfl⟩
  simp only [VarInt.read, bind, EStateM.bind, hmark]
  split_ifs <;> rfl

/-- Reading accepts the form of a number and nothing else. -/
theorem VarInt.read_eq_ok_iff {n : Nat} {b rest : Octets} :
    VarInt.read b = .ok n rest ↔ ∃ c, Form n c ∧ b = c ++ rest := by
  constructor
  · intro h
    cases b with
    | nil => cases h
    | cons m t =>
      rw [VarInt.read_cons] at h
      -- The mark in front tells which of the four forms was read.
      split_ifs at h with hff hfe hfd
      · obtain rfl : m = 0xff := UInt8.toNat_inj.mp hff
        obtain ⟨hn, c, hc, rfl⟩ := readWide_eq_ok_iff.mp h
        exact ⟨_, .eight hn hc, rfl⟩
      · obtain rfl : m = 0xfe := UInt8.toNat_inj.mp hfe
        obtain ⟨hn, c, hc, rfl⟩ := readWide_eq_ok_iff.mp h
        exact ⟨_, .four hn hc, rfl⟩
      · obtain rfl : m = 0xfd := UInt8.toNat_inj.mp hfd
        obtain ⟨hn, c, hc, rfl⟩ := readWide_eq_ok_iff.mp h
        exact ⟨_, .two hn hc, rfl⟩
      · injection h with hn hrest
        subst hn hrest
        have hlt : m.toNat < 256 := m.toNat_lt
        exact ⟨[m], .alone (by omega) (fieldLE_singleton m), rfl⟩
  · rintro ⟨c, hform, rfl⟩
    cases hform with
    | alone hn hc =>
      -- The number is its own first byte and no mark, so none of the wide readers runs.
      obtain ⟨-, rfl⟩ := Octets.fieldLE_eq_ok_iff.mp hc
      have hbyte : (UInt8.ofNat n).toNat = n := by
        rw [UInt8.toNat_ofNat']
        omega
      have hread := VarInt.read_cons (UInt8.ofNat n) rest
      rw [hbyte, if_neg (by omega), if_neg (by omega), if_neg (by omega)] at hread
      exact hread
    | @two c hn hc =>
      have hread := VarInt.read_cons 0xfd (c ++ rest)
      rw [if_neg (by decide), if_neg (by decide), if_pos (by decide)] at hread
      exact hread.trans (readWide_eq_ok_iff.mpr ⟨hn, c, hc, rfl⟩)
    | @four c hn hc =>
      have hread := VarInt.read_cons 0xfe (c ++ rest)
      rw [if_neg (by decide), if_pos (by decide)] at hread
      exact hread.trans (readWide_eq_ok_iff.mpr ⟨hn, c, hc, rfl⟩)
    | @eight c hn hc =>
      have hread := VarInt.read_cons 0xff (c ++ rest)
      rw [if_pos (by decide)] at hread
      exact hread.trans (readWide_eq_ok_iff.mpr ⟨hn, c, hc, rfl⟩)

/-- Numbers are read exactly. -/
theorem exact_varInt : Exact VarInt.read (fun _ => True) (fun n : Nat => VarInt.write n) := by
  intro b n rest
  simp only [VarInt.read_eq_ok_iff, VarInt.write_eq_ok_iff, true_and]

/-- Numbers delimit themselves, and two that begin one buffer are the same number. -/
theorem varInt_unique {m n : Nat} {c e r s : Octets} (hc : VarInt.write m = .ok c)
    (he : VarInt.write n = .ok e) (heq : c ++ r = e ++ s) : m = n ∧ c = e ∧ r = s := by
  obtain ⟨rfl, rfl⟩ := exact_varInt.unique trivial trivial hc he heq
  exact ⟨rfl, List.append_cancel_right heq, rfl⟩

/-! ## Byte strings -/

theorem varBytes_write_eq_ok_iff {d c : Octets} :
    VarBytes.write d = .ok c ↔ ∃ e, VarInt.write d.length = .ok e ∧ c = e ++ d := by
  rw [VarBytes.write, map_eq_ok_iff]
  simp only [eq_comm]

/-- Every byte string whose length has a form has one itself. -/
theorem exists_varBytes_write {d : Octets} (h : d.length < 2 ^ 64) :
    ∃ c, VarBytes.write d = .ok c := by
  obtain ⟨e, he⟩ := exists_varInt_write h
  exact ⟨e ++ d, varBytes_write_eq_ok_iff.mpr ⟨e, he, rfl⟩⟩

/-- Byte strings up to a limit are read exactly. -/
theorem exact_varBytes (limit : Int) (field : String) :
    Exact (VarBytes.read limit field) (fun d => (d.length : Int) ≤ limit) VarBytes.write := by
  intro b d rest
  simp only [VarBytes.read, Reader.bind_eq_ok_iff, Reader.refuse_eq_ok_iff,
    varBytes_write_eq_ok_iff, Reader.take_eq_ok_iff]
  constructor
  · rintro ⟨count, mid, hcount, hle, rfl, rfl⟩
    obtain ⟨-, e, he, rfl⟩ := (exact_varInt _ _ _).mp hcount
    exact ⟨Int.not_lt.mp hle, e ++ d, ⟨e, he, rfl⟩, (List.append_assoc _ _ _).symm⟩
  · rintro ⟨hle, c, ⟨e, he, rfl⟩, rfl⟩
    refine ⟨d.length, d ++ rest, ?_, Int.not_lt.mpr hle, rfl, rfl⟩
    rw [List.append_assoc]
    exact exact_varInt.read_write trivial he _

/-- Byte strings delimit themselves, however long they are: a reader whose limit admits both
forms tells them apart. -/
theorem selfDelimiting_varBytes : SelfDelimiting VarBytes.write := by
  intro x y c e r s hc he heq
  let limit : Int := max x.length y.length
  obtain ⟨rfl, hrs⟩ := (exact_varBytes limit "").unique
    (by simp only [limit]; omega) (by simp only [limit]; omega) hc he heq
  rw [hc] at he
  injection he with hce
  exact ⟨hce, hrs⟩

end LedgerNet.Ledger
