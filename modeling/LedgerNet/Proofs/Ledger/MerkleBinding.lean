import LedgerNet.Proofs.Ledger.BlockFormat

/-!
# What a merkle root commits to

A digest can repeat, so a root cannot be said to determine its leaves. What can be said is that
two lists of one length with one root either are the same list or show, among the strings that
were digested for the two roots, two different strings with one digest.

## Main statements

- `eq_or_collides_of_root_eq`: equal roots of equally long lists.
- `merkleRoot_binds_leaves`: the same for lists of hashes and for the transactions of two blocks.
-/

namespace LedgerNet.Ledger

open Outcome

/-! ## Digested strings -/

namespace Merkle

variable {digest : Octets → Octets}

/-- The strings that are digested for the next level. -/
def pairs : List Octets → List Octets
  | [] => []
  | [a] => [a ++ a]
  | a :: b :: rest => (a ++ b) :: pairs rest

theorem level_eq_map_pairs (hashes : List Octets) :
    level digest hashes = (pairs hashes).map digest := by
  fun_induction pairs hashes with
  | case1 => rfl
  | case2 a => rfl
  | case3 a b rest ih => rw [level, List.map_cons, ih]

/-- The strings that are digested on the way to the root. -/
def messages (digest : Octets → Octets) : List Octets → List Octets
  | [] => []
  | [_] => []
  | a :: b :: rest =>
    pairs (a :: b :: rest) ++ messages digest (level digest (a :: b :: rest))
termination_by hashes => hashes.length
decreasing_by
  simp only [length_level, List.length_cons]
  omega

/-- A digested string is two hashes long. -/
theorem length_of_mem_pairs {n : Nat} {hashes : List Octets} (h : ∀ x ∈ hashes, x.length = n) :
    ∀ m ∈ pairs hashes, m.length = 2 * n := by
  fun_induction pairs hashes with
  | case1 => simp
  | case2 a =>
    have ha : a.length = n := h a (by simp)
    simp [ha]
    omega
  | case3 a b rest ih =>
    have ha : a.length = n := h a (by simp)
    have hb : b.length = n := h b (by simp)
    intro m hm
    rcases List.mem_cons.mp hm with rfl | hm
    · rw [List.length_append, ha, hb]
      omega
    · exact ih (fun x hx => h x (by simp [hx])) m hm

/-- Every string digested on the way to the root is two hashes long. -/
theorem length_of_mem_messages {n : Nat} (hdigest : ∀ b, (digest b).length = n)
    {hashes : List Octets} (h : ∀ x ∈ hashes, x.length = n) :
    ∀ m ∈ messages digest hashes, m.length = 2 * n := by
  fun_induction messages digest hashes with
  | case1 => simp
  | case2 a => simp
  | case3 a b rest ih =>
    intro m hm
    rcases List.mem_append.mp hm with hm | hm
    · exact length_of_mem_pairs h m hm
    · refine ih ?_ m hm
      rw [level_eq_map_pairs]
      exact List.forall_mem_map.mpr fun x _ => hdigest x

/-- Hashes of one size are read off the strings digested for the next level. -/
theorem eq_of_pairs_eq {n : Nat} {xs ys : List Octets} (hlen : xs.length = ys.length)
    (hx : ∀ x ∈ xs, x.length = n) (hy : ∀ y ∈ ys, y.length = n) (h : pairs xs = pairs ys) :
    xs = ys := by
  fun_induction pairs xs generalizing ys with
  | case1 => exact (List.length_eq_zero_iff.mp hlen.symm).symm
  | case2 a =>
    -- An odd hash is written twice; either half gives it back.
    obtain ⟨b, rfl⟩ := List.length_eq_one_iff.mp hlen.symm
    simp only [pairs, List.cons.injEq, and_true] at h
    have hab : a.length = b.length := by rw [hx a (by simp), hy b (by simp)]
    rw [(List.append_inj h hab).1]
  | case3 a b rest ih =>
    obtain ⟨c, ys, rfl⟩ := List.exists_cons_of_length_eq_add_one hlen.symm
    obtain ⟨d, ys, rfl⟩ :=
      List.exists_cons_of_length_eq_add_one (Nat.succ.inj hlen).symm
    simp only [pairs, List.cons.injEq] at h
    have hac : a.length = c.length := by rw [hx a (by simp), hy c (by simp)]
    obtain ⟨rfl, rfl⟩ := List.append_inj h.1 hac
    rw [ih (by simpa using hlen) (fun x hx' => hx x (by simp [hx']))
      (fun y hy' => hy y (by simp [hy'])) h.2]

end Merkle

/-! ## Collisions -/

/-- Two different strings, one of each list, have one digest. -/
def Collides (digest : Octets → Octets) (l m : List Octets) : Prop :=
  ∃ x ∈ l, ∃ y ∈ m, x ≠ y ∧ digest x = digest y

theorem Collides.mono {digest : Octets → Octets} {l l' m m' : List Octets}
    (h : Collides digest l m) (hl : l ⊆ l') (hm : m ⊆ m') : Collides digest l' m' := by
  obtain ⟨x, hx, y, hy, hne, heq⟩ := h
  exact ⟨x, hl hx, y, hm hy, hne, heq⟩

/-- Lists with the same digests are the same or collide. -/
theorem eq_or_collides_of_map_eq {digest : Octets → Octets} {l m : List Octets}
    (h : l.map digest = m.map digest) : l = m ∨ Collides digest l m := by
  induction l generalizing m with
  | nil => exact .inl (List.map_eq_nil_iff.mp h.symm).symm
  | cons x l ih =>
    obtain ⟨y, m, rfl, hxy, hlm⟩ := List.map_eq_cons_iff.mp h.symm
    by_cases hne : x = y
    · rcases ih hlm.symm with rfl | hcol
      · exact .inl (by rw [hne])
      · exact .inr (hcol.mono (List.subset_cons_self _ _) (List.subset_cons_self _ _))
    · exact .inr ⟨x, List.mem_cons_self, y, List.mem_cons_self, hne, hxy.symm⟩

/-- Equally long lists of hashes with one root are the same or collide in the strings digested for
the two roots. -/
theorem Merkle.eq_or_collides_of_root_eq {digest : Octets → Octets} {n : Nat}
    (hdigest : ∀ b, (digest b).length = n) {xs ys : List Octets} (hlen : xs.length = ys.length)
    (hx : ∀ x ∈ xs, x.length = n) (hy : ∀ y ∈ ys, y.length = n)
    (hroot : root digest xs = root digest ys) :
    xs = ys ∨ Collides digest (messages digest xs) (messages digest ys) := by
  fun_induction root digest xs generalizing ys with
  | case1 => exact .inl (List.length_eq_zero_iff.mp hlen.symm).symm
  | case2 a =>
    obtain ⟨b, rfl⟩ := List.length_eq_one_iff.mp hlen.symm
    rw [root] at hroot
    exact .inl (by rw [hroot])
  | case3 a b rest ih =>
    obtain ⟨c, ys, rfl⟩ := List.exists_cons_of_length_eq_add_one hlen.symm
    obtain ⟨d, ys, rfl⟩ :=
      List.exists_cons_of_length_eq_add_one (Nat.succ.inj hlen).symm
    rw [root] at hroot
    have hsize : ∀ hashes, ∀ x ∈ level digest hashes, x.length = n := by
      intro hashes
      rw [level_eq_map_pairs]
      exact List.forall_mem_map.mpr fun x _ => hdigest x
    rw [messages, messages]
    -- One level up the lists are the same or collide; if they are the same, so are the digests of
    -- the pairs, and the pairs are the same or collide.
    rcases ih (by simp only [length_level, hlen]) (hsize _) (hsize _) hroot with hlevel | hcol
    · rw [level_eq_map_pairs, level_eq_map_pairs] at hlevel
      rcases eq_or_collides_of_map_eq hlevel with hpairs | hcol
      · exact .inl (eq_of_pairs_eq hlen hx hy hpairs)
      · exact .inr (hcol.mono (List.subset_append_left _ _) (List.subset_append_left _ _))
    · exact .inr (hcol.mono (List.subset_append_right _ _) (List.subset_append_right _ _))

/-! ## Transactions of a block -/

/-- A block that can be written has transactions that can be written. -/
theorem Block.exists_serialized {b : Block} {c : Octets} (h : b.encode = .ok c) :
    ∃ s, b.transactions.mapM Tx.encode = .ok s := by
  obtain ⟨-, -, -, -, body, hbody, -⟩ := Block.encode_eq_ok_iff.mp h
  obtain ⟨s, hs, -⟩ := encodeAll_eq_ok_iff.mp hbody
  exact ⟨s, hs⟩

/-- The root of a block's transactions is that of the digests of their serialized forms. -/
theorem Block.transactionRoot_of_serialized (d : DigestSuite) {b : Block} {s : List Octets}
    (h : b.transactions.mapM Tx.encode = .ok s) :
    b.transactionRoot d = .ok (Merkle.root d.content (s.map d.content)) := by
  have hhash : b.transactions.mapM (Tx.hash d) = .ok (s.map d.content) := mapM_map_eq_ok h
  rw [Block.transactionRoot, hhash]
  rfl

/-! ## Binding -/

/-- **A merkle root binds the leaves of a list of known length.** Equally long lists of hashes with
one root are the same, or two different strings of 64 bytes that are digested for the two roots have
one digest. So the transactions of two blocks that can be written, with one number of transactions
and one root, have the same serialized forms in the same order, or two different serialized
transactions or two different pairs of nodes have one digest. -/
theorem merkleRoot_binds_leaves (d : DigestSuite) :
    (∀ xs ys : List Octets, xs.length = ys.length →
      (∀ x ∈ xs, x.length = hashSize) → (∀ y ∈ ys, y.length = hashSize) →
      Merkle.root d.content xs = Merkle.root d.content ys →
      xs = ys ∨ ∃ x ∈ Merkle.messages d.content xs, ∃ y ∈ Merkle.messages d.content ys,
        x.length = 64 ∧ y.length = 64 ∧ x ≠ y ∧ d.content x = d.content y) ∧
    (∀ (A B : Block) (a b : Octets), A.encode = .ok a → B.encode = .ok b →
      A.transactions.length = B.transactions.length →
      A.transactionRoot d = B.transactionRoot d →
      ∃ s t, A.transactions.mapM Tx.encode = .ok s ∧ B.transactions.mapM Tx.encode = .ok t ∧
        (s = t ∨ Collides d.content s t ∨
          Collides d.content (Merkle.messages d.content (s.map d.content))
            (Merkle.messages d.content (t.map d.content)))) := by
  constructor
  · intro xs ys hlen hx hy hroot
    rcases Merkle.eq_or_collides_of_root_eq d.content_length hlen hx hy hroot with heq | hcol
    · exact .inl heq
    · obtain ⟨x, hxm, y, hym, hne, hdigest⟩ := hcol
      have hxl : x.length = 64 := Merkle.length_of_mem_messages d.content_length hx x hxm
      have hyl : y.length = 64 := Merkle.length_of_mem_messages d.content_length hy y hym
      exact .inr ⟨x, hxm, y, hym, hxl, hyl, hne, hdigest⟩
  · intro A B a b ha hb hcount hroot
    obtain ⟨s, hs⟩ := Block.exists_serialized ha
    obtain ⟨t, ht⟩ := Block.exists_serialized hb
    refine ⟨s, t, hs, ht, ?_⟩
    rw [Block.transactionRoot_of_serialized d hs, Block.transactionRoot_of_serialized d ht] at hroot
    injection hroot with hroot
    have hlen : (s.map d.content).length = (t.map d.content).length := by
      rw [List.length_map, List.length_map, length_of_mapM hs, length_of_mapM ht, hcount]
    have hsize : ∀ l : List Octets, ∀ x ∈ l.map d.content, x.length = hashSize := fun l =>
      List.forall_mem_map.mpr fun x _ => d.content_length x
    -- Equal leaves are equal digests of transactions, which are the same or collide in their turn.
    rcases Merkle.eq_or_collides_of_root_eq d.content_length hlen (hsize s) (hsize t) hroot with
      heq | hcol
    · rcases eq_or_collides_of_map_eq heq with hst | hcol
      · exact .inl hst
      · exact .inr (.inl hcol)
    · exact .inr (.inr hcol)

/-- Under a digest that keeps the first 32 bytes, three leaves and three transactions share their
root with others, and the digest repeats on the way to it. -/
theorem merkleRoot_binds_leaves_cut :
    let d : DigestSuite := ⟨toHashSize, toHashSize, length_toHashSize, length_toHashSize⟩
    let leaf : UInt8 → Octets := List.replicate 32
    let tx : Int → Tx := fun n => { inputs := [{ previous := ⟨leaf 5, 0⟩ }], lockTime := n }
    let block : Int → Block := fun n => { transactions := [tx 1, tx n, tx 3] }
    (∃ x ∈ Merkle.messages d.content [leaf 1, leaf 2, leaf 3],
      ∃ y ∈ Merkle.messages d.content [leaf 1, leaf 9, leaf 3],
        x.length = 64 ∧ y.length = 64 ∧ x ≠ y ∧ d.content x = d.content y) ∧
    ∃ s t, (block 2).transactions.mapM Tx.encode = .ok s ∧
      (block 9).transactions.mapM Tx.encode = .ok t ∧
      (s = t ∨ Collides d.content s t ∨
        Collides d.content (Merkle.messages d.content (s.map d.content))
          (Merkle.messages d.content (t.map d.content))) := by
  intro d leaf tx block
  obtain ⟨hleaves, hblocks⟩ := merkleRoot_binds_leaves d
  constructor
  · have hlength : ∀ n, (leaf n).length = hashSize := fun n => List.length_replicate
    have hroot : Merkle.root d.content [leaf 1, leaf 2, leaf 3] =
        Merkle.root d.content [leaf 1, leaf 9, leaf 3] := by
      simp only [Merkle.root, Merkle.level]
      decide +kernel
    exact (hleaves [leaf 1, leaf 2, leaf 3] [leaf 1, leaf 9, leaf 3] rfl (by simp [hlength])
      (by simp [hlength]) hroot).resolve_left (by decide)
  · obtain ⟨a, ha⟩ := Block.InWireRange.exists_encode (b := block 2) (by decide +kernel) (by decide)
    obtain ⟨b, hb⟩ := Block.InWireRange.exists_encode (b := block 9) (by decide +kernel) (by decide)
    have hhashes : (block 2).transactions.mapM (Tx.hash d) =
        (block 9).transactions.mapM (Tx.hash d) := by decide +kernel
    have hroot : (block 2).transactionRoot d = (block 9).transactionRoot d := by
      rw [Block.transactionRoot, hhashes]
      rfl
    exact hblocks (block 2) (block 9) a b ha hb rfl hroot

end LedgerNet.Ledger
