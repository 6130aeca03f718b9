import LedgerNet.Digest.Suite
import LedgerNet.Ledger.VarInt

/-!
# Transactions

A transaction has a version, a time, inputs, outputs and a lock time. Fields are any integers and
hashes any byte strings; `encode` refuses what does not fit its field, the first in wire order, and
`decode` reads one transaction from the front of a buffer.
-/

namespace LedgerNet.Ledger

/-- The hash that a constructor keeps: one left out or empty stands for the zero hash. -/
def hashOrZero (h : Option Octets) : Octets :=
  match h with
  | some (x :: xs) => x :: xs
  | _ => zeroHash

/-! ## Outpoints -/

/-- The index of the outpoint that spends nothing. -/
def maxIndex : Int := 0xffffffff

/-- The sequence number of a final input. -/
def maxSequence : Int := 0xffffffff

/-- An output of an earlier transaction. -/
structure Outpoint where
  hash : Octets
  index : Int
  deriving DecidableEq, Repr, Inhabited

namespace Outpoint

/-- An outpoint, with the zero hash if the hash is left out or empty. -/
def make (hash : Option Octets) (index : Int) : Outpoint := ⟨hashOrZero hash, index⟩

/-- Whether the outpoint spends nothing, as that of a coinbase input. -/
def isNull (o : Outpoint) : Bool := Octets.isZero o.hash && o.index == maxIndex

end Outpoint

/-! ## Inputs and outputs -/

/-- An input: what it spends and the script that allows it. -/
structure Input where
  previous : Outpoint
  script : Octets := []
  sequence : Int := maxSequence
  deriving DecidableEq, Repr, Inhabited

/-- An output: an amount and the script that guards it. -/
structure Output where
  value : Int := 0
  script : Octets := []
  deriving DecidableEq, Repr, Inhabited

/-- The bytes of an input. -/
def Input.encode (i : Input) : Except Octets.FieldError Octets := do
  let hash ← Octets.pad hashSize i.previous.hash
  let index ← Octets.fieldLE 4 i.previous.index
  let script ← VarBytes.write i.script
  let sequence ← Octets.fieldLE 4 i.sequence
  return hash ++ index ++ script ++ sequence

/-- The next input. -/
def Input.decode : Reader Input := do
  let hash ← Reader.take hashSize
  let index ← Reader.number 4
  let script ← VarBytes.read maxPayload "transaction input signature script"
  let sequence ← Reader.number 4
  return { previous := ⟨hash, index⟩, script, sequence }

/-- The bytes of an output. -/
def Output.encode (o : Output) : Except Octets.FieldError Octets := do
  let value ← Octets.fieldLE 8 o.value
  let script ← VarBytes.write o.script
  return value ++ script

/-- The next output. -/
def Output.decode : Reader Output := do
  let value ← Reader.number 8
  let script ← VarBytes.read maxPayload "transaction output public key script"
  return { value, script }

/-! ## Transactions -/

/-- The fewest bytes of an input. -/
def minInputSize : Nat := 9 + hashSize

/-- The fewest bytes of an output. -/
def minOutputSize : Nat := 9

/-- More inputs than this cannot be in a message. -/
def maxInputs : Nat := maxPayload / minInputSize + 1

/-- More outputs than this cannot be in a message. -/
def maxOutputs : Nat := maxPayload / minOutputSize + 1

/-- A transaction. -/
structure Tx where
  version : Int := 1
  time : Int := 0
  inputs : List Input := []
  outputs : List Output := []
  lockTime : Int := 0
  deriving DecidableEq, Repr, Inhabited

namespace Tx

/-- Whether the only input spends nothing. -/
def isCoinbase (t : Tx) : Bool :=
  match t.inputs with
  | [i] => i.previous.isNull
  | _ => false

/-- The bytes of a transaction. -/
def encode (t : Tx) : Except Octets.FieldError Octets := do
  let version ← Octets.fieldLE 4 t.version
  let time ← Octets.fieldLE 4 t.time
  let inputCount ← VarInt.write t.inputs.length
  let inputs ← encodeAll Input.encode t.inputs
  let outputCount ← VarInt.write t.outputs.length
  let outputs ← encodeAll Output.encode t.outputs
  let lockTime ← Octets.fieldLE 4 t.lockTime
  return version ++ time ++ inputCount ++ inputs ++ outputCount ++ outputs ++ lockTime

/-- The next transaction. -/
def decode : Reader Tx := do
  let version ← Reader.number 4
  let time ← Reader.number 4
  let inputCount ← VarInt.read
  if maxInputs < inputCount then throw (.tooManyInputs inputCount maxInputs)
  let inputs ← Reader.times Input.decode inputCount
  let outputCount ← VarInt.read
  if maxOutputs < outputCount then throw (.tooManyOutputs outputCount maxOutputs)
  let outputs ← Reader.times Output.decode outputCount
  let lockTime ← Reader.number 4
  return { version, time, inputs, outputs, lockTime }

/-- The digest of the bytes of a transaction. -/
def hash (d : DigestSuite) (t : Tx) : Except Octets.FieldError Octets := d.content <$> t.encode

end Tx

end LedgerNet.Ledger
