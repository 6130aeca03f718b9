import LedgerNet.Digest.Suite

/-!
# Merkle roots

The root of a list of hashes: neighbours are digested in pairs, level by level, and an odd hash at
the end of a level is paired with itself. A single hash is its own root, and no hashes have the
zero hash. Because the odd hash is repeated, lists of different length can share a root.
-/

namespace LedgerNet.Ledger.Merkle

/-- The next level: the digests of the pairs. -/
def level (digest : Octets → Octets) : List Octets → List Octets
  | [] => []
  | [a] => [digest (a ++ a)]
  | a :: b :: rest => digest (a ++ b) :: level digest rest

/-- A level is half as long as the one below it, an odd hash counted as a pair. -/
theorem length_level (digest : Octets → Octets) (hashes : List Octets) :
    (level digest hashes).length = (hashes.length + 1) / 2 := by
  fun_induction level digest hashes with
  | case1 => rfl
  | case2 => simp
  | case3 a b rest ih => simp only [List.length_cons, ih]; omega

/-- The root of a list of hashes. -/
def root (digest : Octets → Octets) : List Octets → Octets
  | [] => zeroHash
  | [a] => a
  | a :: b :: rest => root digest (level digest (a :: b :: rest))
termination_by hashes => hashes.length
decreasing_by
  simp only [length_level, List.length_cons]
  omega

/-- The root of hashes of which some may be missing. A single hash is its own root even if it is
missing, and one that is missing among several leaves them without a root. -/
def root? (digest : Octets → Octets) : List (Option Octets) → Option (Option Octets)
  | [h] => some h
  | hashes => (hashes.mapM id).map fun present => some (root digest present)

end LedgerNet.Ledger.Merkle
