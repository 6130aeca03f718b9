import LedgerNet.Proofs.Script.Numbers
import LedgerNet.Proofs.Script.Reading

/-!
# Pushes are read back

Each push that is written is the shortest form of its data, so a script made of pushes is read back
as the data that was pushed. One string is not pushed as itself: the byte zero, which as a script
number is the empty string.

## Main statements

- `isPush_pushData`: what is written for some data is one of its forms.
- `exists_pushData_iff`: which data is pushed.
- `shortest_pushData`: no other form of the data is as short.
- `pushInt_eq`: an integer is pushed as its script number.
- `pushes_read_back`: a script made of pushes is read back.
-/

namespace LedgerNet.Script

open Octets
open Outcome

/-! ## What is written -/

/-- What is read of some data that was pushed: the byte zero is pushed as the empty string. -/
def pushed (data : Octets) : Octets := if data = [0] then [] else data

theorem pushed_of_ne {data : Octets} (h : data ≠ [0]) : pushed data = data := if_neg h

/-- Opcodes that stand for some data by themselves, and what they push. -/
theorem opcode?_eq_some_iff {op : UInt8} {data : Octets} (hne : data ≠ [0]) :
    opcode? data = some op ↔ constant? op = some data := by
  -- All opcodes, and all strings of one byte.
  have hpushes : ∀ x, x = 0 ∨ (opcode? [x]).all fun op => constant? op == some [x] :=
    forall_byte (by decide +kernel)
  have hstands : ∀ op, (constant? op).all fun data => opcode? data == some op :=
    forall_byte (by decide +kernel)
  constructor
  · intro h
    match data, h with
    | [], h =>
      obtain rfl : opZero = op := Option.some.inj h
      rfl
    | [x], h =>
      have hx := (hpushes x).resolve_left (by simpa using hne)
      rw [h] at hx
      exact beq_iff_eq.mp hx
  · intro h
    have hop := hstands op
    rw [h] at hop
    exact beq_iff_eq.mp hop

/-- A number of bytes is announced by itself, or by an opcode and a length that holds it; and the
announcement with any other length is longer. -/
theorem lengthPrefix_eq_ok {n : Nat} {p : Octets} (h : lengthPrefix n = .ok p) :
    (n < opLength1.toNat ∧ p = [UInt8.ofNat n] ∨
      ∃ op w, lengthWidth? op = some w ∧ n < 256 ^ w ∧ p = op :: littleEndian w n) ∧
    ∀ op w, lengthWidth? op = some w → n < 256 ^ w →
      op :: littleEndian w n = p ∨ p.length < 1 + w := by
  have hcounted {op : UInt8} {w : Nat} (hp : (op :: ·) <$> fieldLE w n = Except.ok p) :
      n < 256 ^ w ∧ p = op :: littleEndian w n := by
    obtain ⟨c, hc, rfl⟩ := map_eq_ok_iff.mp hp
    obtain ⟨hfits, rfl⟩ := fieldLE_eq_ok_iff.mp hc
    exact ⟨fits_natCast_iff.mp hfits, by rw [Int.toNat_natCast]⟩
  -- The widths are tried in order, so the first that is wide enough is the one that is written.
  rw [lengthPrefix] at h
  split_ifs at h with hdirect hone htwo
  · obtain rfl := Except.ok.inj h
    refine ⟨.inl ⟨hdirect, rfl⟩, fun op w hop hlt => .inr ?_⟩
    rcases lengthWidth?_eq_some_iff.mp hop with ⟨-, rfl⟩ | ⟨-, rfl⟩ | ⟨-, rfl⟩ <;> simp
  · obtain ⟨hlt, rfl⟩ := hcounted h
    refine ⟨.inr ⟨_, 1, rfl, hlt, rfl⟩, fun op w hop hlt => ?_⟩
    rcases lengthWidth?_eq_some_iff.mp hop with ⟨rfl, rfl⟩ | ⟨rfl, rfl⟩ | ⟨rfl, rfl⟩
    · exact .inl rfl
    · exact .inr (by simp)
    · exact .inr (by simp)
  · obtain ⟨hlt, rfl⟩ := hcounted h
    refine ⟨.inr ⟨_, 2, rfl, hlt, rfl⟩, fun op w hop hlt => ?_⟩
    rcases lengthWidth?_eq_some_iff.mp hop with ⟨rfl, rfl⟩ | ⟨rfl, rfl⟩ | ⟨rfl, rfl⟩
    · omega
    · exact .inl rfl
    · exact .inr (by simp)
  · obtain ⟨hlt, rfl⟩ := hcounted h
    refine ⟨.inr ⟨_, 4, rfl, hlt, rfl⟩, fun op w hop hlt => ?_⟩
    rcases lengthWidth?_eq_some_iff.mp hop with ⟨rfl, rfl⟩ | ⟨rfl, rfl⟩ | ⟨rfl, rfl⟩
    · omega
    · omega
    · exact .inl rfl

/-- Four bytes hold every number of bytes that can be announced. -/
theorem exists_lengthPrefix_iff {n : Nat} : (∃ p, lengthPrefix n = .ok p) ↔ n < 2 ^ 32 := by
  have hcounted {op : UInt8} {w : Nat} :
      (∃ p, (op :: ·) <$> fieldLE w n = Except.ok p) ↔ n < 256 ^ w := by
    rw [← fits_natCast_iff]
    constructor
    · rintro ⟨p, hp⟩
      obtain ⟨c, hc, -⟩ := map_eq_ok_iff.mp hp
      exact fits_of_fieldLE hc
    · intro hfits
      obtain ⟨c, hc⟩ := exists_fieldLE hfits
      exact ⟨_, map_eq_ok_iff.mpr ⟨c, hc, rfl⟩⟩
  have hdirect : opLength1.toNat = 76 := rfl
  rw [lengthPrefix]
  split_ifs
  · exact iff_of_true ⟨_, rfl⟩ (by omega)
  all_goals
    rw [hcounted]
    omega

/-- What is written for data for which no opcode stands: the data behind its length. -/
theorem pushData_of_opcode?_eq_none {data p : Octets} (hop : opcode? data = none) :
    pushData data = .ok p ↔ ∃ q, lengthPrefix data.length = .ok q ∧ q ++ data = p := by
  rw [pushData, hop]
  exact map_eq_ok_iff

theorem pushData_of_opcode? {op : UInt8} {data : Octets} (hop : opcode? data = some op) :
    pushData data = .ok [op] := by
  rw [pushData, hop]

/-- Data is pushed exactly if its length fits four bytes. -/
theorem exists_pushData_iff {data : Octets} :
    (∃ p, pushData data = .ok p) ↔ data.length < 2 ^ 32 := by
  cases hop : opcode? data with
  | some op =>
    -- An opcode stands for at most one byte.
    refine iff_of_true ⟨_, pushData_of_opcode? hop⟩ ?_
    match data, hop with
    | [], _ | [_], _ => exact by simp
  | none =>
    rw [← exists_lengthPrefix_iff]
    constructor
    · rintro ⟨p, hp⟩
      obtain ⟨q, hq, -⟩ := (pushData_of_opcode?_eq_none hop).mp hp
      exact ⟨q, hq⟩
    · rintro ⟨q, hq⟩
      exact ⟨_, (pushData_of_opcode?_eq_none hop).mpr ⟨q, hq, rfl⟩⟩

/-- What is written for some data is one of the forms of what is read of it. -/
theorem isPush_pushData {data p : Octets} (h : pushData data = .ok p) :
    IsPush (pushed data) p := by
  rcases eq_or_ne data [0] with rfl | hzero
  · obtain rfl : [opZero] = p := Except.ok.inj h
    exact .constant rfl
  rw [pushed_of_ne hzero]
  cases hop : opcode? data with
  | some op =>
    rw [pushData_of_opcode? hop] at h
    obtain rfl := Except.ok.inj h
    exact .constant ((opcode?_eq_some_iff hzero).mp hop)
  | none =>
    have hne : data ≠ [] := by
      rintro rfl
      cases hop
    obtain ⟨q, hq, rfl⟩ := (pushData_of_opcode?_eq_none hop).mp h
    rcases (lengthPrefix_eq_ok hq).1 with ⟨hlt, rfl⟩ | ⟨op, w, hwidth, hlt, rfl⟩
    · exact .direct (List.length_pos_of_ne_nil hne) hlt
    · exact .counted hwidth hlt

/-! ## No form is shorter -/

/-- **Every form of some data is what is written for it, or longer.** -/
theorem shortest_pushData {data p q : Octets} (hne : data ≠ [0]) (hp : pushData data = .ok p)
    (hq : IsPush data q) : q = p ∨ p.length < q.length := by
  cases hop : opcode? data with
  | some op =>
    rw [pushData_of_opcode? hop] at hp
    obtain rfl := Except.ok.inj hp
    -- A single byte is as short as a push can be, so the other push is the same one or longer.
    cases hq with
    | @constant op' _ h =>
      have hsame := (opcode?_eq_some_iff hne).mpr h
      rw [hop] at hsame
      rw [Option.some.inj hsame]
      exact .inl rfl
    | direct hpos =>
      rw [List.length_singleton, List.length_cons]
      exact .inr (by omega)
    | @counted _ w _ hwidth =>
      have hpos : 0 < w := by
        rcases lengthWidth?_eq_some_iff.mp hwidth with ⟨-, rfl⟩ | ⟨-, rfl⟩ | ⟨-, rfl⟩ <;> decide
      refine .inr ?_
      simp only [List.length_append, List.length_cons, length_littleEndian, List.length_nil]
      omega
  | none =>
    obtain ⟨announced, hannounced, rfl⟩ := (pushData_of_opcode?_eq_none hop).mp hp
    cases hq with
    | constant h =>
      rw [(opcode?_eq_some_iff hne).mpr h] at hop
      cases hop
    | direct _ hlt =>
      -- The data is short enough to be announced by its length alone.
      rw [lengthPrefix, if_pos hlt] at hannounced
      rw [← Except.ok.inj hannounced]
      exact .inl rfl
    | counted hwidth hlt =>
      refine ((lengthPrefix_eq_ok hannounced).2 _ _ hwidth hlt).imp (congrArg (· ++ data)) ?_
      intro hless
      simp only [List.length_append, List.length_cons, length_littleEndian]
      omega

/-! ## Integers -/

/-- **An integer is pushed as its script number.** The integers that have an opcode are those whose
script numbers have one. -/
theorem pushInt_eq (n : Int) : pushInt n = pushData (number n) := by
  have hsmall : ∀ k < 17, 0 < k →
      opcode? (number ((k : Nat) : Int)) = some (opBeforeOne + UInt8.ofNat k) := by
    decide +kernel
  rw [pushInt]
  split_ifs with hzero hminus hrange
  · rw [hzero, pushData_of_opcode? (show opcode? (number 0) = some opZero from rfl)]
  · rw [hminus, pushData_of_opcode? (show opcode? (number (-1)) = some opMinusOne from rfl)]
  · obtain ⟨k, rfl⟩ := Int.eq_ofNat_of_zero_le (Int.le_trans (by decide) hrange.1)
    rw [pushData_of_opcode? (hsmall k (by omega) (by omega)), Int.toNat_natCast]
  · rfl

/-! ## Sequences of pushes -/

theorem readPushes_mapM_pushData {data pushes : List Octets}
    (h : data.mapM pushData = .ok pushes) : readPushes pushes.flatten = some (data.map pushed) := by
  apply readPushes_flatten
  rw [List.forall₂_map_left_iff]
  exact (mapM_eq_ok_iff.mp h).imp fun _ _ => isPush_pushData

/-- Data without the byte zero is known from the script that pushes it. -/
theorem eq_of_flatten_eq {data data' pushes pushes' : List Octets} (h : ∀ d ∈ data, d ≠ [0])
    (h' : ∀ d ∈ data', d ≠ [0]) (hp : data.mapM pushData = .ok pushes)
    (hp' : data'.mapM pushData = .ok pushes') (heq : pushes.flatten = pushes'.flatten) :
    data = data' := by
  have hpushed : ∀ {data : List Octets}, (∀ d ∈ data, d ≠ [0]) → data.map pushed = data :=
    fun {data} hdata =>
      (List.map_congr_left fun d hd => pushed_of_ne (hdata d hd)).trans (List.map_id' data)
  have hboth := readPushes_mapM_pushData hp
  rw [heq, readPushes_mapM_pushData hp', hpushed h, hpushed h'] at hboth
  exact (Option.some.inj hboth).symm

/-- **A script made of pushes is read back as the data that was pushed**, with nothing left, where
the byte zero is read as the empty string; so data without the byte zero is known from the script.
Every string whose length fits four bytes is pushed, and no other is. An integer is pushed as its
script number. Each push of other data than the byte zero is read as that data, and any other form
that is read so is longer. -/
theorem pushes_read_back :
    (∀ n, pushInt n = pushData (number n)) ∧
    (∀ d, (∃ p, pushData d = .ok p) ↔ d.length < 2 ^ 32) ∧
    (∀ data : List Octets, (∀ d ∈ data, d.length < 2 ^ 32) →
      ∃ pushes, data.mapM pushData = .ok pushes ∧
        readPushes pushes.flatten = some (data.map pushed)) ∧
    (∀ data data' pushes pushes' : List Octets, (∀ d ∈ data, d ≠ [0]) → (∀ d ∈ data', d ≠ [0]) →
      data.mapM pushData = .ok pushes → data'.mapM pushData = .ok pushes' →
      pushes.flatten = pushes'.flatten → data = data') ∧
    (∀ d p : Octets, pushData d = .ok p → d ≠ [0] → readPush p = some (d, []) ∧
      ∀ q, readPush q = some (d, []) → q = p ∨ p.length < q.length) := by
  refine ⟨pushInt_eq, fun _ => exists_pushData_iff, fun data hlt => ?_,
    fun _ _ _ _ => eq_of_flatten_eq, fun d p hp hne => ⟨?_, fun q hread => ?_⟩⟩
  · obtain ⟨pushes, hpushes⟩ :=
      exists_mapM_eq_ok_iff.mpr fun d hd => exists_pushData_iff.mpr (hlt d hd)
    exact ⟨pushes, hpushes, readPushes_mapM_pushData hpushes⟩
  · have hpush := isPush_pushData hp
    rw [pushed_of_ne hne] at hpush
    simpa using hpush.readPush_append []
  · obtain ⟨form, hform, rfl⟩ := readPush_eq_some_iff.mp hread
    rw [List.append_nil]
    exact shortest_pushData hne hp hform

/-- The script of a genesis block with a message of 76 bytes, the fewest that need a length, and a
push of the byte zero behind it. -/
theorem pushes_read_back_genesis :
    let message := List.replicate 76 0x2e
    pushInt 42 = pushData (number 42) ∧
    (∃ pushes, [[], [42], message, [0]].mapM pushData = .ok pushes ∧
      readPushes pushes.flatten = some [[], [42], message, []]) ∧
    [number 0, number 42, message] = [[], [42], message] ∧
    ∃ p, pushData message = .ok p ∧ readPush p = some (message, []) ∧
      (opLength2 :: littleEndian 2 76 ++ message = p ∨
        p.length < (opLength2 :: littleEndian 2 76 ++ message).length) := by
  intro message
  obtain ⟨hint, hfits, hread, hsame, hshortest⟩ := pushes_read_back
  obtain ⟨p, hp⟩ := (hfits message).mpr (by decide)
  obtain ⟨hback, hleast⟩ := hshortest message p hp (by decide)
  obtain ⟨pushes, hpushes, -⟩ := hread [[], [42], message] (by decide)
  have hnumbers : [number 0, number 42, message] = [[], [42], message] :=
    hsame _ _ _ _ (by decide +kernel) (by decide) hpushes hpushes rfl
  exact ⟨hint 42, hread _ (by decide), hnumbers, p, hp, hback, hleast _ (by decide +kernel)⟩

end LedgerNet.Script
