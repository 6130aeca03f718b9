import LedgerNet.Value.Equality
import LedgerNet.Ledger.Reader

/-!
# Memory of byte strings

Byte strings live in cells, and more than one register may refer to a cell. A register holds either
a buffer, which is a cell that can be written in place, or an object, which refers to a cell and has
the operations of this library. No operation on an object writes to a cell: each builds its result
in a new one, and `pop` makes the object refer to a new cell. So an object shares a cell only with
what it was made from without copying.

A pop on a buffer is left out: it takes a number, which no register holds. Here it fails.
-/

namespace LedgerNet

/-- The number of a cell. -/
abbrev Cell := Nat

/-- What a register holds. -/
inductive Handle where
  /-- A cell that can be written in place. -/
  | buffer (cell : Cell)
  /-- An object, by its number. -/
  | object (id : Nat)
  deriving DecidableEq, Repr

/-- Cells with their bytes, objects with their cells, and registers by name. -/
structure Memory where
  /-- The number of bytes for which there is room. -/
  room : Nat
  cells : List Octets := []
  objects : List Cell := []
  registers : List (String × Handle) := []
  deriving DecidableEq, Repr

namespace Memory

/-! ## Faults -/

/-- Why a step failed. -/
inductive Fault where
  /-- No register has the name. -/
  | noRegister (name : String)
  /-- A value could not be used. -/
  | value (e : Value.Fault)
  /-- Too few bytes were left to take. -/
  | short (e : Ledger.ReadError)
  /-- A buffer cannot grow while its own bytes are being read. -/
  | inUse
  deriving DecidableEq, Repr

/-! ## Looking up -/

/-- The bytes of a cell. -/
def bytesOf (m : Memory) (c : Cell) : Octets := m.cells.getD c []

/-- The cell that a handle refers to. -/
def cellOf (m : Memory) : Handle → Cell
  | .buffer c => c
  | .object o => m.objects.getD o 0

/-- The bytes that a handle refers to. -/
def contents (m : Memory) (h : Handle) : Octets := m.bytesOf (m.cellOf h)

/-- What a register holds. -/
def handle (m : Memory) (name : String) : Except Fault Handle :=
  match m.registers.lookup name with
  | some h => .ok h
  | none => .error (.noRegister name)

/-- What a handle refers to, as a value. -/
def valueOf (m : Memory) (h : Handle) : Value :=
  match h with
  | .buffer _ => .buffer (m.contents h)
  | .object _ => .octets (m.contents h)

/-! ## Changing -/

/-- A new cell with the given bytes. -/
def allocate (m : Memory) (b : Octets) : Memory × Cell :=
  ({ m with cells := m.cells ++ [b] }, m.cells.length)

/-- A new object that refers to a cell. -/
def wrap (m : Memory) (c : Cell) : Memory × Handle :=
  ({ m with objects := m.objects ++ [c] }, .object m.objects.length)

/-- A new object that refers to a new cell. -/
def wrapNew (m : Memory) (b : Octets) : Memory × Handle :=
  let (m, c) := m.allocate b
  m.wrap c

/-- A new buffer. -/
def bufferNew (m : Memory) (b : Octets) : Memory × Handle :=
  let (m, c) := m.allocate b
  (m, .buffer c)

/-- A register set to a handle. -/
def bind (m : Memory) (name : String) (h : Handle) : Memory :=
  { m with registers := (m.registers.filter fun r => r.1 != name) ++ [(name, h)] }

/-- A cell with its bytes replaced. -/
def write (m : Memory) (c : Cell) (b : Octets) : Memory := { m with cells := m.cells.set c b }

/-- An object made to refer to another cell. -/
def redirect (m : Memory) (o : Nat) (c : Cell) : Memory := { m with objects := m.objects.set o c }

/-! ## Sources -/

/-- Where a step takes its operand from. -/
inductive Source where
  | register (name : String)
  | value (v : Value)

/-- The operand as a value. -/
def sourceValue (m : Memory) : Source → Except Fault Value
  | .register name => m.valueOf <$> m.handle name
  | .value v => .ok v

/-- Whether the operand is a register that holds the cell as a buffer. -/
def isBuffer (m : Memory) (c : Cell) : Source → Bool
  | .register name => m.registers.lookup name == some (.buffer c)
  | .value _ => false

/-- The cell of the operand as a byte string: the operand's own cell if it is a register and no copy
is wanted, else a new one. -/
def decode (m : Memory) (s : Source) (copy : Bool) : Except Fault (Memory × Cell) :=
  match s with
  | .register name => do
    let h ← m.handle name
    return if copy then m.allocate (m.contents h) else (m, m.cellOf h)
  | .value v => do
    let b ← v.toOctets.mapError .value
    return m.allocate b

/-! ## Steps -/

/-- A step on the registers. -/
inductive Step where
  /-- A register set to a new object, which may share its operand's cell or have a fixed length. -/
  | construct (register : String) (source : Source) (copy : Bool) (length : Option Int)
  /-- A register set to a new buffer. -/
  | buffer (register : String) (contents : Octets)
  /-- A register set to the operand's bytes as a buffer. -/
  | decode (register : String) (source : Source) (copy : Bool)
  /-- One byte of a buffer written in place. -/
  | poke (register : String) (position value : Int)
  /-- A register set to its bytes with the operand's behind them; a buffer is extended in place, but
  not by itself unless it is empty. -/
  | extend (register : String) (source : Source)
  /-- Bytes taken from the front of an object. -/
  | pop (register : String) (count : Int) (target : String)
  /-- The bytes that a slice takes. -/
  | slice (register target : String) (slice : Slice)
  /-- A copy. -/
  | copy (register target : String)
  /-- A copy in reverse order. -/
  | reversed (register target : String)
  /-- Whether two registers refer to one cell. -/
  | sameCell (register other : String)
  /-- Whether a register equals an operand. -/
  | equal (register : String) (source : Source)

/-- The bytes of a buffer with one byte replaced. -/
def poked (b : Octets) (position value : Int) : Except Value.Fault Octets :=
  if value < 0 ∨ 255 < value then .error .malformed
  else
    let i := if position < 0 then position + b.length else position
    if i < 0 ∨ (b.length : Int) ≤ i then .error .outside
    else .ok (b.set i.toNat (UInt8.ofNat value.toNat))

/-- The bytes that can be put behind those of a buffer. -/
def appendable : Value → Except Value.Fault Octets
  | .bytes b | .buffer b => .ok b
  | _ => .error .unsuitable

/-- A new holder of bytes of the same kind as a handle. -/
def alike (m : Memory) (h : Handle) (b : Octets) : Memory × Handle :=
  match h with
  | .buffer _ => m.bufferNew b
  | .object _ => m.wrapNew b

/-- Runs a step; the answer is that of the two questions. -/
def run (m : Memory) : Step → Except Fault (Memory × Option Bool)
  | .construct register source copy length => do
    match length with
    | none | some 0 =>
      let (m, c) ← m.decode source copy
      let (m, h) := m.wrap c
      return (m.bind register h, none)
    | some n =>
      let v ← m.sourceValue source
      let b ← (v.sized m.room (some n)).mapError .value
      let (m, h) := m.wrapNew b
      return (m.bind register h, none)
  | .buffer register contents =>
    let (m, h) := m.bufferNew contents
    return (m.bind register h, none)
  | .decode register source copy => do
    let (m, c) ← m.decode source copy
    return (m.bind register (.buffer c), none)
  | .poke register position value => do
    match ← m.handle register with
    | .object _ => throw (.value .unsuitable)
    | .buffer c =>
      let b ← (poked (m.bytesOf c) position value).mapError .value
      return (m.write c b, none)
  | .extend register source => do
    let h ← m.handle register
    let v ← m.sourceValue source
    match h with
    | .object _ =>
      let b ← v.toOctets.mapError .value
      let (m, h) := m.wrapNew (m.contents h ++ b)
      return (m.bind register h, none)
    | .buffer c =>
      let b ← (appendable v).mapError .value
      if m.isBuffer c source && !b.isEmpty then throw .inUse
      return (m.write c (m.bytesOf c ++ b), none)
  | .pop register count target => do
    match ← m.handle register with
    | .buffer _ => throw (.value .noMember)
    | .object o =>
      match Ledger.Reader.pop count (m.contents (.object o)) with
      | .error e _ => throw (.short e)
      | .ok taken rest =>
        let (m, h) := m.wrapNew taken
        let (m, c) := m.allocate rest
        return ((m.redirect o c).bind target h, none)
  | .slice register target slice => do
    let h ← m.handle register
    let b ← (Value.sliced (m.contents h) slice).mapError .value
    let (m, h) := m.alike h b
    return (m.bind target h, none)
  | .copy register target => do
    let h ← m.handle register
    let (m, h) := m.alike h (m.contents h)
    return (m.bind target h, none)
  | .reversed register target => do
    match ← m.handle register with
    | .buffer _ => throw (.value .noMember)
    | .object o =>
      let (m, h) := m.wrapNew (m.contents (.object o)).reverse
      return (m.bind target h, none)
  | .sameCell register other => do
    let g ← m.handle register
    let h ← m.handle other
    return (m, some (m.cellOf g == m.cellOf h))
  | .equal register source => do
    let h ← m.handle register
    let v ← m.sourceValue source
    let answer ← ((m.valueOf h).equal v).mapError .value
    return (m, some answer)

end Memory

end LedgerNet
