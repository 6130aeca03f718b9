import LedgerNet.Ledger.Merkle
import Mathlib.Data.Nat.Factorization.Basic
import Mathlib.Data.Nat.Log
import Mathlib.Logic.Relation
import Mathlib.Tactic.Ring

/-!
# Merkle roots as roots of perfect trees

Where a level has an odd hash at its end, the root is that of the list in which the hashes below it
stand twice. How many these are depends on the power of two in the number of leaves: for an odd
multiple of `2 ^ j` they are the last `2 ^ j`. Writing such repetitions out fills a list up to the
next power of two, and the root of a list that is full is the root of a perfect tree. So a root does
not tell the number of its leaves.

## Main statements

- `Merkle.root_append`: the root over two halves of a full list.
- `Merkle.root_append_append`: the last `2 ^ j` hashes may stand twice.
- `Merkle.exists_filled`: repetition fills a list up to the next power of two.
- `merkleRoot_of_repeated_tail`: these together.
-/

namespace LedgerNet.Ledger

namespace Merkle

variable {digest : Octets → Octets} {xs ys front tail : List Octets} {j k n : Nat}

/-! ## Levels -/

/-- Pairs do not reach across the end of an even number of hashes. -/
theorem level_append (h : Even xs.length) :
    level digest (xs ++ ys) = level digest xs ++ level digest ys := by
  fun_induction level digest xs with
  | case1 => rfl
  | case2 a => exact absurd h Nat.not_even_one
  | case3 a b rest ih =>
    have heven : Even rest.length := by
      simpa [Nat.even_add_one] using h
    rw [List.cons_append, List.cons_append, level, ih heven, List.cons_append]

/-- Of two hashes or more, the root is that of the next level. -/
theorem root_level (h : 2 ≤ xs.length) : root digest (level digest xs) = root digest xs := by
  match xs, h with
  | a :: b :: rest, _ => rw [root]

/-- Behind an even number of hashes the next level can be taken of the parts. -/
theorem root_append_of_even (heven : Even xs.length) (hmany : 2 ≤ xs.length) :
    root digest (xs ++ ys) = root digest (level digest xs ++ level digest ys) := by
  have hlength : 2 ≤ (xs ++ ys).length := by
    rw [List.length_append]
    omega
  rw [← level_append heven, root_level hlength]

theorem length_level_of_double {m : Nat} (h : xs.length = 2 * m) :
    (level digest xs).length = m := by
  rw [length_level, h]
  omega

/-! ## Perfect trees -/

/-- A perfect tree of a known height over hashes. -/
inductive PerfectTree : Nat → Type where
  /-- A single hash. -/
  | leaf (hash : Octets) : PerfectTree 0
  /-- Two trees of one height side by side. -/
  | node {n : Nat} (left right : PerfectTree n) : PerfectTree (n + 1)

namespace PerfectTree

/-- The hashes at the leaves, from left to right. -/
def leaves : {n : Nat} → PerfectTree n → List Octets
  | _, leaf hash => [hash]
  | _, node left right => left.leaves ++ right.leaves

/-- The root: each inner node is the digest of the one on its left followed by that on its right. -/
def root (digest : Octets → Octets) : {n : Nat} → PerfectTree n → Octets
  | _, leaf hash => hash
  | _, node left right => digest (left.root digest ++ right.root digest)

theorem length_leaves (t : PerfectTree n) : t.leaves.length = 2 ^ n := by
  induction t with
  | leaf hash => rfl
  | node left right ihl ihr =>
    rw [leaves, List.length_append, ihl, ihr, Nat.pow_succ, Nat.mul_two]

/-- Every list of `2 ^ n` hashes stands at the leaves of a perfect tree. -/
theorem exists_leaves_eq (h : xs.length = 2 ^ n) : ∃ t : PerfectTree n, t.leaves = xs := by
  induction n generalizing xs with
  | zero =>
    obtain ⟨x, rfl⟩ := List.length_eq_one_iff.mp h
    exact ⟨leaf x, rfl⟩
  | succ n ih =>
    rw [Nat.pow_succ, Nat.mul_two] at h
    have hleft : (xs.take (2 ^ n)).length = 2 ^ n := by
      rw [List.length_take]
      omega
    have hright : (xs.drop (2 ^ n)).length = 2 ^ n := by
      rw [List.length_drop]
      omega
    obtain ⟨left, hl⟩ := ih hleft
    obtain ⟨right, hr⟩ := ih hright
    exact ⟨node left right, by rw [leaves, hl, hr, List.take_append_drop]⟩

end PerfectTree

/-- Over two lists of `2 ^ n` hashes the root is the digest of their two roots. -/
theorem root_append (hx : xs.length = 2 ^ n) (hy : ys.length = 2 ^ n) :
    root digest (xs ++ ys) = digest (root digest xs ++ root digest ys) := by
  induction n generalizing xs ys with
  | zero =>
    obtain ⟨x, rfl⟩ := List.length_eq_one_iff.mp hx
    obtain ⟨y, rfl⟩ := List.length_eq_one_iff.mp hy
    simp only [List.singleton_append, root, level]
  | succ n ih =>
    rw [Nat.pow_succ'] at hx hy
    have hpos : 0 < 2 ^ n := Nat.two_pow_pos n
    -- The next level of each list is half as long, and has the same root.
    calc root digest (xs ++ ys)
        = root digest (level digest xs ++ level digest ys) :=
          root_append_of_even ⟨2 ^ n, by omega⟩ (by omega)
      _ = digest (root digest (level digest xs) ++ root digest (level digest ys)) :=
          ih (length_level_of_double hx) (length_level_of_double hy)
      _ = digest (root digest xs ++ root digest ys) := by
          rw [root_level (by omega), root_level (by omega)]

theorem root_leaves (t : PerfectTree n) : root digest t.leaves = t.root digest := by
  induction t with
  | leaf hash => rw [PerfectTree.leaves, PerfectTree.root, root]
  | node left right ihl ihr =>
    rw [PerfectTree.leaves, PerfectTree.root,
      root_append left.length_leaves right.length_leaves, ihl, ihr]

/-! ## Repeated tails -/

/-- Behind a positive even multiple of `2 ^ j` hashes, `2 ^ j` more may as well stand twice. -/
theorem root_append_append {m : Nat} (hm : 0 < m) (hfront : front.length = 2 * (m * 2 ^ j))
    (htail : tail.length = 2 ^ j) :
    root digest (front ++ (tail ++ tail)) = root digest (front ++ tail) := by
  induction j generalizing front tail with
  | zero =>
    -- The odd hash at the end is paired with itself, as it is with its copy.
    obtain ⟨a, rfl⟩ := List.length_eq_one_iff.mp htail
    have heven : Even front.length := ⟨m, by omega⟩
    rw [root_append_of_even heven (by omega), root_append_of_even heven (by omega)]
    rfl
  | succ j ih =>
    have hpos : 0 < m * 2 ^ (j + 1) := Nat.mul_pos hm (Nat.two_pow_pos (j + 1))
    have heven : Even front.length := ⟨m * 2 ^ (j + 1), by omega⟩
    rw [Nat.pow_succ'] at htail
    have htailEven : Even tail.length := ⟨2 ^ j, by omega⟩
    have hupper : (level digest front).length = 2 * (m * 2 ^ j) := by
      rw [length_level_of_double hfront]
      ring
    -- One level up the same holds for half as many hashes.
    calc root digest (front ++ (tail ++ tail))
        = root digest (level digest front ++ (level digest tail ++ level digest tail)) := by
          rw [root_append_of_even heven (by omega), level_append htailEven]
      _ = root digest (level digest front ++ level digest tail) :=
          ih hupper (length_level_of_double htail)
      _ = root digest (front ++ tail) := by
          rw [root_append_of_even heven (by omega)]

/-- The last `2 ^ j` hashes may as well stand twice if the number of hashes is an odd multiple of
`2 ^ j`, and more than one. -/
theorem root_repeat (hodd : Odd k) (hmany : 3 ≤ k) (hlength : xs.length = k * 2 ^ j) :
    root digest (xs ++ xs.drop (xs.length - 2 ^ j)) = root digest xs := by
  obtain ⟨m, rfl⟩ := hodd
  have hsplit : xs.length = 2 * (m * 2 ^ j) + 2 ^ j := by
    rw [hlength]
    ring
  have hpos : 0 < 2 ^ j := Nat.two_pow_pos j
  have hcut : xs.length - 2 ^ j = 2 * (m * 2 ^ j) := by omega
  have hfront : (xs.take (2 * (m * 2 ^ j))).length = 2 * (m * 2 ^ j) :=
    List.length_take_of_le (by omega)
  have htail : (xs.drop (2 * (m * 2 ^ j))).length = 2 ^ j := by
    rw [List.length_drop, hsplit, Nat.add_sub_cancel_left]
  have hwhole : xs.take (2 * (m * 2 ^ j)) ++ xs.drop (2 * (m * 2 ^ j)) = xs :=
    List.take_append_drop _ xs
  have hmpos : 0 < m := by omega
  calc root digest (xs ++ xs.drop (xs.length - 2 ^ j))
      = root digest (xs.take (2 * (m * 2 ^ j)) ++
          (xs.drop (2 * (m * 2 ^ j)) ++ xs.drop (2 * (m * 2 ^ j)))) := by
        rw [← List.append_assoc, hwhole, hcut]
    _ = root digest xs := by
        rw [root_append_append hmpos hfront htail, hwhole]

/-! ## Filling up -/

/-- The second list is the first with its last `2 ^ j` hashes written once more, the length of the
first being an odd multiple of `2 ^ j`, and more than one. -/
inductive RepeatsTail (xs : List Octets) : List Octets → Prop where
  | intro {k j : Nat} (hodd : Odd k) (hmany : 3 ≤ k) (hlength : xs.length = k * 2 ^ j) :
    RepeatsTail xs (xs ++ xs.drop (xs.length - 2 ^ j))

/-- A list that is not full can be continued. -/
theorem exists_repeatsTail (hne : xs ≠ []) (hopen : ∀ n, xs.length ≠ 2 ^ n) :
    ∃ ys, RepeatsTail xs ys := by
  obtain ⟨j, k, hodd, hlength⟩ :=
    Nat.exists_eq_two_pow_mul_odd (List.length_pos_of_ne_nil hne).ne'
  have hk : k ≠ 1 := by
    rintro rfl
    exact hopen j (by rw [hlength, Nat.mul_one])
  obtain ⟨m, rfl⟩ := hodd
  exact ⟨_, .intro ⟨m, rfl⟩ (by omega) (by rw [hlength, Nat.mul_comm])⟩

/-- The power of two in a number is known from the number. -/
theorem exponent_le {j' k' : Nat} (hodd : Odd k') (h : k * 2 ^ j = k' * 2 ^ j') : j ≤ j' := by
  by_contra hlt
  -- Otherwise the odd factor has a power of two in it.
  obtain ⟨i, rfl⟩ := Nat.exists_eq_add_of_lt (Nat.not_le.mp hlt)
  have hfactor : k * 2 ^ (i + 1) = k' := by
    apply Nat.eq_of_mul_eq_mul_right (Nat.two_pow_pos j')
    rw [← h]
    ring
  have heven : Even k' := ⟨k * 2 ^ i, by rw [← hfactor]; ring⟩
  exact Nat.not_even_iff_odd.mpr hodd heven

/-- A list is continued in one way only. -/
theorem RepeatsTail.unique {zs : List Octets} (hy : RepeatsTail xs ys) (hz : RepeatsTail xs zs) :
    ys = zs := by
  obtain ⟨hodd, -, hlength⟩ := hy
  obtain ⟨hodd', -, hlength'⟩ := hz
  have h := hlength.symm.trans hlength'
  rw [Nat.le_antisymm (exponent_le hodd' h) (exponent_le hodd h.symm)]

/-- An odd multiple of `2 ^ j` and the next multiple lie below the same powers of two. -/
theorem succ_mul_le_two_pow (hodd : Odd k) (hmany : 3 ≤ k) (h : k * 2 ^ j ≤ 2 ^ n) :
    (k + 1) * 2 ^ j ≤ 2 ^ n := by
  have hpos : 0 < 2 ^ j := Nat.two_pow_pos j
  have hless : 2 ^ j < 2 ^ n := by
    have hmultiple : 3 * 2 ^ j ≤ k * 2 ^ j := Nat.mul_le_mul_right _ hmany
    omega
  obtain ⟨i, rfl⟩ := Nat.exists_eq_add_of_lt ((Nat.pow_lt_pow_iff_right (by decide)).mp hless)
  have hpow : 2 ^ (j + i + 1) = 2 * 2 ^ i * 2 ^ j := by ring
  rw [hpow] at h ⊢
  -- An odd number below an even one is so with one added.
  have hle : k ≤ 2 * 2 ^ i := Nat.le_of_mul_le_mul_right h hpos
  obtain ⟨m, rfl⟩ := hodd
  exact Nat.mul_le_mul_right _ (by omega)

/-- A step makes the list longer, but no longer than the powers of two that it fits. -/
theorem RepeatsTail.length_bounds (h : RepeatsTail xs ys) :
    xs.length < ys.length ∧ ∀ n, xs.length ≤ 2 ^ n → ys.length ≤ 2 ^ n := by
  obtain @⟨k, j, hodd, hmany, hlength⟩ := h
  have hpos : 0 < 2 ^ j := Nat.two_pow_pos j
  have hle : 2 ^ j ≤ xs.length := by
    rw [hlength]
    exact Nat.le_mul_of_pos_left _ (by omega)
  have hnext : (xs ++ xs.drop (xs.length - 2 ^ j)).length = xs.length + 2 ^ j := by
    rw [List.length_append, List.length_drop]
    omega
  rw [hnext]
  refine ⟨by omega, fun n hn => ?_⟩
  rw [hlength] at hn ⊢
  rw [← Nat.succ_mul]
  exact succ_mul_le_two_pow hodd hmany hn

theorem root_eq_of_chain (h : Relation.ReflTransGen RepeatsTail xs ys) :
    root digest ys = root digest xs := by
  induction h with
  | refl => rfl
  | tail _ hstep ih =>
    obtain ⟨hodd, hmany, hlength⟩ := hstep
    rw [root_repeat hodd hmany hlength, ih]

/-- Repetition fills a list up to the least power of two that it fits. -/
theorem exists_filled (hne : xs ≠ []) (hfits : xs.length ≤ 2 ^ n)
    (hleast : ∀ m, xs.length ≤ 2 ^ m → n ≤ m) :
    ∃ ys, Relation.ReflTransGen RepeatsTail xs ys ∧ ys.length = 2 ^ n := by
  -- Each step takes some of the space that is left below the power of two.
  induction hspace : 2 ^ n - xs.length using Nat.strong_induction_on generalizing xs with
  | _ space ih =>
    by_cases hfull : xs.length = 2 ^ n
    · exact ⟨xs, .refl, hfull⟩
    · -- The length is no other power of two either, because it would be a lesser one.
      have hopen : ∀ m, xs.length ≠ 2 ^ m := by
        intro m hm
        have hle : 2 ^ n ≤ 2 ^ m := Nat.pow_le_pow_right (by decide) (hleast m hm.le)
        omega
      obtain ⟨ys, hys⟩ := exists_repeatsTail hne hopen
      obtain ⟨hlonger, hbound⟩ := hys.length_bounds
      have hne' : ys ≠ [] := List.ne_nil_of_length_pos (Nat.zero_lt_of_lt hlonger)
      have hfits' := hbound n hfits
      have hleast' : ∀ m, ys.length ≤ 2 ^ m → n ≤ m :=
        fun m hm => hleast m (Nat.le_trans hlonger.le hm)
      obtain ⟨zs, hzs, hlength⟩ := ih _ (by omega) hne' hfits' hleast' rfl
      exact ⟨zs, .head hys hzs, hlength⟩

end Merkle

open Merkle

/-- **A merkle root is that of a perfect tree over the leaves with their tail repeated.** Where the
number of leaves is an odd multiple of `2 ^ j`, and more than one, the last `2 ^ j` leaves may as
well stand twice. A list is so continued in one way, and repetition fills it, after finitely many
steps, up to the next power of two. The lists of such a length are those at the leaves of a perfect
tree, and there the root of the list, and so that of the list begun with, is the root of the tree. A
single leaf is its own root. So a root does not tell how many leaves it has. -/
theorem merkleRoot_of_repeated_tail (d : DigestSuite) :
    (∀ xs k j, Odd k → 3 ≤ k → xs.length = k * 2 ^ j →
      Merkle.root d.content (xs ++ xs.drop (xs.length - 2 ^ j)) = Merkle.root d.content xs) ∧
    (∀ xs ys zs, RepeatsTail xs ys → RepeatsTail xs zs → ys = zs) ∧
    (∀ xs, xs ≠ [] → ∃ t : PerfectTree (Nat.clog 2 xs.length),
      Relation.ReflTransGen RepeatsTail xs t.leaves ∧
        Merkle.root d.content xs = t.root d.content) ∧
    (∀ n xs, xs.length = 2 ^ n ↔ ∃ t : PerfectTree n, t.leaves = xs) ∧
    (∀ n (t : PerfectTree n), Merkle.root d.content t.leaves = t.root d.content) ∧
    ∀ x, Merkle.root d.content [x] = x := by
  refine ⟨fun xs k j => root_repeat, fun xs ys zs => RepeatsTail.unique, ?filled,
    ?full, fun n t => root_leaves t, fun x => by rw [Merkle.root]⟩
  case filled =>
    intro xs hne
    obtain ⟨ys, hchain, hlength⟩ := exists_filled hne (Nat.le_pow_clog (by decide) _)
      fun m hm => Nat.clog_le_of_le_pow hm
    obtain ⟨t, rfl⟩ := PerfectTree.exists_leaves_eq hlength
    exact ⟨t, hchain, by rw [← root_eq_of_chain hchain, root_leaves]⟩
  case full =>
    intro n xs
    constructor
    · exact PerfectTree.exists_leaves_eq
    · rintro ⟨t, rfl⟩
      exact t.length_leaves

/-- Six leaves have the root of eight, which are the leaves of a perfect tree of height three. -/
theorem merkleRoot_of_repeated_tail_six :
    let d := DigestSuite.standard
    let leaf : UInt8 → Octets := List.replicate 32
    let six := [leaf 1, leaf 2, leaf 3, leaf 4, leaf 5, leaf 6]
    Merkle.root d.content (six ++ [leaf 5, leaf 6]) = Merkle.root d.content six ∧
    ∃ t : PerfectTree 3, Relation.ReflTransGen RepeatsTail six t.leaves ∧
      Merkle.root d.content six = t.root d.content := by
  intro d leaf six
  obtain ⟨hrepeat, -, hfilled, -⟩ := merkleRoot_of_repeated_tail d
  have hheight : Nat.clog 2 six.length = 3 := by decide
  have hsix := hfilled six (List.cons_ne_nil _ _)
  rw [hheight] at hsix
  exact ⟨hrepeat six 3 1 (by decide) (by decide) rfl, hsix⟩

end LedgerNet.Ledger
