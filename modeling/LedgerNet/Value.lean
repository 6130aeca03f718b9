import LedgerNet.Octets.Hex
import LedgerNet.Octets.Slice
import LedgerNet.Peer.Address
import LedgerNet.Script
import LedgerNet.Ledger.Block

/-!
# Values

A parameter, a prefix or a piece of data may be given in more than one form: a number, text in
hexadecimal, a byte string, a list of byte values. `Value` has all the forms, and this module
says how each is read as a byte string.

- `toOctets` reads a number as its shortest big-endian form and text as hexadecimal digits.
- `toRawOctets` reads a number as that many zero bytes, and no text.
- `sized` widens the first reading to a field of a given size.

How many bytes there is room for in memory is not known here: what makes as many bytes as a number
says takes it as `room`.
-/

namespace LedgerNet

/-- A value as it may be given where bytes, a number or a name are wanted. -/
inductive Value where
  /-- No value. -/
  | nothing
  | flag (b : Bool)
  | int (n : Int)
  | real (x : Float)
  | text (s : String)
  /-- A byte string that cannot be changed. -/
  | bytes (b : Octets)
  /-- A byte string that can be changed in place. -/
  | buffer (b : Octets)
  /-- A byte string with the operations of this library. -/
  | octets (b : Octets)
  | list (xs : List Value)
  /-- Keys with their values, in order of first insertion. -/
  | table (rows : List (Value × Value))
  | peer (a : Peer.Address)
  | block (b : Ledger.Block)

namespace Value

instance : Inhabited Value := ⟨.nothing⟩

/-! ## Faults -/

/-- Why a value cannot be used. -/
inductive Fault where
  /-- The value has the wrong form. -/
  | unsuitable
  /-- The value has a right form and a wrong content. -/
  | malformed
  /-- The value lacks a member that was asked for. -/
  | noMember
  /-- A position lies outside the value. -/
  | outside
  /-- A size is beyond what can be addressed. -/
  | tooLarge
  /-- A size is beyond what there is room for. -/
  | noRoom
  /-- The value does not fit its field. -/
  | field (e : Octets.FieldError)
  deriving DecidableEq, Repr

/-- The number of bytes that can be addressed. -/
def addressLimit : Int := Nat.pow 2 63

/-- The bytes that a byte string that cannot be changed takes besides its own, and its end mark. -/
def headSize : Int := 33

/-! ## Forms -/

/-- Whether the value counts as true: not nothing, zero, or empty. -/
def isTrue : Value → Bool
  | nothing => false
  | flag b => b
  | int n => n != 0
  | real x => x != 0
  | text s => !s.isEmpty
  | bytes b | buffer b | octets b => !b.isEmpty
  | list xs => !xs.isEmpty
  | table rows => !rows.isEmpty
  | peer _ | block _ => true

/-- The whole number that the value is; flags count as zero and one. -/
def int? : Value → Option Int
  | flag b => some b.toNat
  | int n => some n
  | _ => none

/-- The number of elements of the value. -/
def size? : Value → Option Nat
  | text s => some s.length
  | bytes b | buffer b | octets b => some b.length
  | list xs => some xs.length
  | table rows => some rows.length
  | _ => none

/-- The name of the value's form in messages. -/
def formName : Value → String
  | nothing => "NoneType"
  | flag _ => "bool"
  | int _ => "int"
  | real _ => "float"
  | text _ => "str"
  | bytes _ => "bytes"
  | buffer _ => "bytearray"
  | octets _ => "ByteArray"
  | list _ => "list"
  | table _ => "dict"
  | peer _ => "NetAddress"
  | block _ => "MsgBlock"

/-! ## Byte strings -/

/-- The byte that an element of a list stands for. -/
def toByte (v : Value) : Except Fault UInt8 :=
  match v.int? with
  | none => .error .unsuitable
  | some n => if 0 ≤ n ∧ n < 256 then .ok (UInt8.ofNat n.toNat) else .error .malformed

/-- The bytes that the elements of a list stand for; the first that fails decides. -/
def toBytes : List Value → Except Fault Octets
  | [] => .ok []
  | v :: vs => do
    let x ← v.toByte
    let rest ← toBytes vs
    return x :: rest

/-- The shortest big-endian form of a number, in which zero takes one byte. -/
def ofNumber (n : Int) : Except Fault Octets :=
  if n = 0 then .ok [0]
  else (Octets.ofInt false n).mapError Fault.field

/-- The value as a byte string: a number in its shortest big-endian form, text as hexadecimal
digits, a list as its elements and a table as its keys. -/
def toOctets : Value → Except Fault Octets
  | bytes b | buffer b | octets b => .ok b
  | flag b => ofNumber b.toNat
  | int n => ofNumber n
  | text s =>
    match Octets.ofHex? s with
    | some b => .ok b
    | none => .error .malformed
  | list xs => toBytes xs
  | table rows => toBytes (rows.map Prod.fst)
  | nothing | real _ | peer _ | block _ => .error .unsuitable

/-- The elements of the value as bytes. -/
def elementBytes : Value → Except Fault Octets
  | bytes b | buffer b | octets b => .ok b
  | list xs => toBytes xs
  | table rows => toBytes (rows.map Prod.fst)
  | _ => .error .unsuitable

/-- As many zero bytes as a number says. A number outside the machine's range is too large on
either side of zero, and so is one with which the head of a byte string leaves the range. -/
def zeroBytes (room : Nat) (n : Int) : Except Fault Octets :=
  if n < -addressLimit ∨ addressLimit ≤ n + headSize then .error .tooLarge
  else if n < 0 then .error .malformed
  else if room < n then .error .noRoom
  else .ok (Octets.zeros n.toNat)

/-- The value as a byte string, where a number says how many zero bytes there are. -/
def toRawOctets (v : Value) (room : Nat) : Except Fault Octets :=
  match v.int? with
  | some n => zeroBytes room n
  | none => v.elementBytes

/-- The value as a byte string, widened by zeros on the left to a length other than zero. -/
def sized (v : Value) (room : Nat) (length : Option Int) : Except Fault Octets := do
  let b ← v.toOctets
  match length with
  | none | some 0 => return b
  | some n =>
    if n < b.length then throw (.field (.overflows b.length n))
    else if addressLimit ≤ n - b.length then throw .tooLarge
    else if room < n - b.length then throw .noRoom
    else return Octets.zeros (n.toNat - b.length) ++ b

/-- The byte at a position, which is counted from the end if it is negative. -/
def byteAt (b : Octets) (position : Value) : Except Fault UInt8 :=
  match position.int? with
  | none => .error .unsuitable
  | some i =>
    match elementAt? b i with
    | some x => .ok x
    | none => .error .outside

/-- The bytes that a slice takes. -/
def sliced (b : Octets) (s : Slice) : Except Fault Octets :=
  match s.pick? b with
  | some taken => .ok taken
  | none => .error .malformed

/-- The value behind its number of elements, for the wire. -/
def toVarBytes (v : Value) : Except Fault Octets :=
  match v.size? with
  | none => .error .unsuitable
  | some n => do
    let size ← (Ledger.VarInt.write n).mapError Fault.field
    let b ← v.toOctets
    return size ++ b

/-- The shortest push of the value onto a script's stack; a value that does not count as true is
pushed as the empty string. -/
def toPush (v : Value) : Except Fault Octets := do
  let data ← if v.isTrue then v.toOctets else .ok []
  (Script.pushData data).mapError .field

end Value

end LedgerNet
