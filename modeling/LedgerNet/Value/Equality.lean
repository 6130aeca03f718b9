import LedgerNet.Text.Decimal
import LedgerNet.Value

/-!
# Equality of values

Numbers are equal if they are numerically equal, whatever their form, and byte strings if they have
the same bytes. A value of the form `octets` is compared with the byte string that the other side
stands for, and equals nothing that stands for none. Peers and blocks can only be compared with
their own kind.

Keys of tables follow a narrower rule: a key has to keep its value for ever, and `octets` is the
same key only as a byte string that cannot be changed, or as the empty text if it is empty.
-/

namespace LedgerNet.Value

/-! ## Keys -/

/-- Whether two numbers are equal; `none` if one side is no number. -/
def equalNumbers? (a b : Value) : Option Bool :=
  match a, b with
  | real x, real y => some (x == y)
  | real x, v => v.int?.map (Text.equalsInt x)
  | v, real y => v.int?.map (Text.equalsInt y)
  | v, w => do
    let m ← v.int?
    let n ← w.int?
    return m == n

/-- Whether the value may be a key of a table. -/
def isKey : Value → Bool
  | nothing | flag _ | int _ | real _ | text _ | bytes _ | octets _ => true
  | buffer _ | list _ | table _ | peer _ | block _ => false

/-- Whether two keys are the same. -/
def sameKey (a b : Value) : Bool :=
  match a, b with
  | nothing, nothing => true
  | text s, text t => s == t
  | bytes x, bytes y | bytes x, octets y | octets x, bytes y | octets x, octets y => x == y
  | text s, octets x | octets x, text s => s.isEmpty && x.isEmpty
  | v, w => (equalNumbers? v w).getD false

/-- The value of a key. -/
def rowAt? (rows : List (Value × Value)) (key : Value) : Option Value :=
  (rows.find? fun row => sameKey row.1 key).map Prod.snd

/-- Rows with a key set to a value: in its old place, or at the end. -/
def setRow (key value : Value) : List (Value × Value) → List (Value × Value)
  | [] => [(key, value)]
  | row :: rows =>
    if sameKey row.1 key then (row.1, value) :: rows else row :: setRow key value rows

/-- The table that sets the keys in order. -/
def tableOf (rows : List (Value × Value)) : Except Fault Value := do
  let set (built : List (Value × Value)) (row : Value × Value) :
      Except Fault (List (Value × Value)) :=
    if row.1.isKey then .ok (setRow row.1 row.2 built) else .error .unsuitable
  return table (← rows.foldlM set [])

/-! ## Equality -/

/-- Whether the value stands for the byte string. -/
def standsFor (v : Value) (b : Octets) : Bool :=
  match v.toOctets with
  | .ok x => x == b
  | .error _ => false

mutual

/-- Whether two values are equal, unless they cannot be compared. -/
def equal : Value → Value → Except Fault Bool
  | octets x, v => .ok (v.standsFor x)
  | peer a, peer b => .ok (a == b)
  | block a, block b => .ok (a == b)
  | peer _, _ | block _, _ | _, peer _ | _, block _ => .error .noMember
  | v, octets y => .ok (v.standsFor y)
  | nothing, nothing => .ok true
  | text s, text t => .ok (s == t)
  | bytes x, bytes y | bytes x, buffer y | buffer x, bytes y | buffer x, buffer y => .ok (x == y)
  | list xs, list ys => if xs.length = ys.length then equalLists xs ys else .ok false
  | table xs, table ys => if xs.length = ys.length then equalRows xs ys else .ok false
  | v, w => .ok ((equalNumbers? v w).getD false)

/-- Whether two lists of one length are equal; the first difference decides. -/
def equalLists : List Value → List Value → Except Fault Bool
  | x :: xs, y :: ys => do
    if ← equal x y then equalLists xs ys else return false
  | _, _ => .ok true

/-- Whether every row is a row of the other table. -/
def equalRows : List (Value × Value) → List (Value × Value) → Except Fault Bool
  | (k, v) :: rows, ys => do
    match rowAt? ys k with
    | none => return false
    | some w => if ← equal v w then equalRows rows ys else return false
  | [], _ => .ok true

end

end LedgerNet.Value
