import LedgerNet.Octets

/-!
# Reading from a buffer

A `Reader` takes bytes from the front of a buffer. It ends with a value or an error, and in either
case with the bytes that are left, so a failure shows how far reading went.
-/

namespace LedgerNet.Ledger

/-- Why reading stopped. -/
inductive ReadError where
  /-- Fewer bytes remain than were asked for. -/
  | short (wanted : Int) (remaining : Nat)
  /-- A number was written in more bytes than it needs. -/
  | nonCanonical (value mark least : Nat)
  /-- A field is longer than its limit. -/
  | oversized (field : String) (count : Nat) (limit : Int)
  /-- A block header is cut off. -/
  | shortHeader (size got : Nat)
  /-- A transaction announces more inputs than a message can hold. -/
  | tooManyInputs (count limit : Nat)
  /-- A transaction announces more outputs than a message can hold. -/
  | tooManyOutputs (count limit : Nat)
  /-- Bytes follow the end of a block. -/
  | unused (count : Nat)
  deriving DecidableEq, Repr

/-- The text of a reading error, if it can be written. -/
def ReadError.message? : ReadError → Option String
  | .short wanted remaining =>
    (Text.numeral? wanted).map fun wanted => s!"pop of {wanted} bytes from {remaining} remaining"
  | .nonCanonical value mark least =>
    some s!"readVarInt noncanon error: {value} - {mark} <= {least}"
  | .oversized field count limit =>
    (Text.numeral? limit).map fun limit =>
      s!"{field} is larger than the max allowed size [count {count}, max {limit}]"
  | .shortHeader size got => some s!"BlockHeader.btcDecode: expected {size} bytes, got {got}"
  | .tooManyInputs count limit =>
    some ("MsgTx.btcDecode: too many input transactions to fit into max message size "
      ++ s!"[count {count}, max {limit}]")
  | .tooManyOutputs count limit =>
    some ("MsgTx.btcDecode: too many output transactions to fit into max message size "
      ++ s!"[count {count}, max {limit}]")
  | .unused count => some s!"MsgBlock.deserialize: {count} unused bytes"

/-- A computation that takes bytes from the front of a buffer. -/
abbrev Reader := EStateM ReadError Octets

namespace Reader

/-- The next `n` bytes. -/
def take (n : Nat) : Reader Octets := fun b =>
  if n ≤ b.length then .ok (b.take n) (b.drop n) else .error (.short n b.length) b

/-- The next `n` bytes; a negative `n` leaves that many at the end. -/
def pop (n : Int) : Reader Octets := fun b =>
  if 0 ≤ n then take n.toNat b
  else .ok (b.take (b.length - n.natAbs)) (b.drop (b.length - n.natAbs))

/-- The next `w` bytes as a number, least significant byte first. -/
def number (w : Nat) : Reader Nat := Octets.natLE <$> take w

/-- A reader run `count` times. -/
def times {α : Type} (r : Reader α) : (count : Nat) → Reader (List α)
  | 0 => pure []
  | count + 1 => do
    let x ← r
    let xs ← times r count
    return x :: xs

/-- The value or the error, and the bytes left. -/
def outcome {α : Type} (r : Reader α) (b : Octets) : Except ReadError α × Octets :=
  match r b with
  | .ok x rest => (.ok x, rest)
  | .error e rest => (.error e, rest)

end Reader

end LedgerNet.Ledger
