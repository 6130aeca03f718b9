import LedgerNet.Octets

/-!
# Extended slices

A slice names positions of a sequence by a start, a stop and a step, each of which may be left
out. A negative start or stop counts from the end, positions beyond an end are clipped to it, and a
negative step walks backwards.
-/

namespace LedgerNet

/-- A start, a stop and a step, each optional. -/
structure Slice where
  start : Option Int := none
  stop : Option Int := none
  step : Option Int := none
  deriving DecidableEq, Repr

namespace Slice

/-- A bound moved into the range `lo .. hi`, after a negative one was counted from the end. -/
def clip (length : Nat) (lo hi : Int) (i : Int) : Int :=
  max lo (min hi (if i < 0 then i + length else i))

/-- The positions a slice takes from a sequence of `length` elements, unless its step is zero. -/
def positions? (s : Slice) (length : Nat) : Option (List Nat) :=
  let step := s.step.getD 1
  if step = 0 then none
  else if 0 < step then
    let start := (s.start.map (clip length 0 length)).getD 0
    let stop := (s.stop.map (clip length 0 length)).getD length
    let count := ((stop - start + step - 1) / step).toNat
    some ((List.range count).map fun (k : Nat) => (start + k * step).toNat)
  else
    let start := (s.start.map (clip length (-1) (length - 1))).getD (length - 1)
    let stop := (s.stop.map (clip length (-1) (length - 1))).getD (-1)
    let count := ((start - stop - step - 1) / (-step)).toNat
    some ((List.range count).map fun (k : Nat) => (start + k * step).toNat)

/-- The elements a slice takes, unless its step is zero. -/
def pick? {α : Type} (s : Slice) (xs : List α) : Option (List α) := do
  let array := xs.toArray
  let ps ← s.positions? xs.length
  return ps.filterMap fun i => array[i]?

end Slice

/-- The element at position `i`, counted from the end if negative. -/
def elementAt? {α : Type} (xs : List α) (i : Int) : Option α :=
  if 0 ≤ i then xs[i.toNat]?
  else if 0 ≤ i + xs.length then xs[(i + xs.length).toNat]?
  else none

end LedgerNet
