import LedgerNet.Ledger.Draft
import LedgerNet.Log
import LedgerNet.Octets.Utf8
import LedgerNet.Script
import LedgerNet.Value.Equality
import LedgerNet.Value.Text

/-!
# Genesis blocks

The first block of a ledger holds one coinbase transaction, whose script carries a message. `build`
makes such a block and `check` compares a block with the hash and the merkle root that are pinned
for a network.
-/

namespace LedgerNet.Chain.Genesis

open Ledger

/-! ## Building -/

/-- What is particular to a genesis block. -/
structure Plan where
  message : String
  /-- The time of the transaction. -/
  txTime : Int
  /-- The time of the block. -/
  timestamp : Int
  bits : Int
  nonce : Int
  version : Int := 1
  deriving DecidableEq, Repr

/-- The script of the coinbase input, which pushes 0, 42 and the message. -/
def script (message : String) : Except Octets.FieldError Octets := do
  let zero ← Script.pushInt 0
  let number ← Script.pushInt 42
  let text ← Script.pushData (Octets.ofText message)
  return zero ++ number ++ text

/-- The coinbase transaction with some script: one input that spends nothing, and one empty
output. -/
def coinbaseOf (script : Octets) (time : Int) : Tx where
  version := 1
  time
  inputs := [{ previous := .make none maxIndex, script }]
  outputs := [{}]
  lockTime := 0

/-- The coinbase transaction with a message. -/
def coinbase (message : String) (time : Int) : Except Octets.FieldError Tx :=
  (coinbaseOf · time) <$> script message

/-- The block of a plan with its transaction, before its header commits to the transaction. -/
def draft (p : Plan) (tx : Tx) : Block where
  header := { version := p.version, timestamp := p.timestamp, bits := p.bits, nonce := p.nonce }
  transactions := [tx]

/-- The block of a plan. -/
def build (d : DigestSuite) (p : Plan) : Except Octets.FieldError Block := do
  let b := draft p (← coinbase p.message p.txTime)
  let root ← b.transactionRoot d
  return { b with header := { b.header with merkleRoot := root } }

/-! ## Checking -/

/-- How a genesis block differs from what is pinned for its network. -/
inductive Mismatch where
  /-- The block does not hold exactly one transaction, or one that is no coinbase. -/
  | transactions (network : String) (count : Nat)
  /-- The header commits to other transactions. -/
  | commitment (network : String) (committed root : Octets)
  /-- The merkle root is not the pinned one. -/
  | merkleRoot (network : String) (wanted : Value) (actual : Octets)
  /-- The hash is not the pinned one. -/
  | hash (network : String) (wanted : Value) (actual : Octets)

/-- The text of a mismatch, if what was pinned can be shown. -/
def Mismatch.message? : Mismatch → Option String
  | .transactions network count =>
    some (s!"{network} genesis block must hold exactly one coinbase transaction, "
      ++ s!"got {count} transactions")
  | .commitment network committed root =>
    some (s!"{network} genesis header commits to merkle root {committed.toDisplay}, "
      ++ s!"transactions give {root.toDisplay}")
  | .merkleRoot network wanted actual =>
    wanted.text?.map fun wanted =>
      s!"{network} genesis merkle root mismatch. wanted {wanted}, got {actual.toDisplay}"
  | .hash network wanted actual =>
    wanted.text?.map fun wanted =>
      s!"{network} genesis hash mismatch. wanted {wanted}, got {actual.toDisplay}"

/-- Why a check ended without success. -/
inductive CheckError where
  | mismatch (m : Mismatch)
  /-- The block has no serialized form. -/
  | field (e : Octets.FieldError)
  /-- A pinned value cannot be compared with text. -/
  | value (e : Value.Fault)

/-- Compares text with a pinned value. -/
def pinned (text : String) (wanted : Value) : Except CheckError Bool :=
  ((Value.text text).equal wanted).mapError .value

/-- The merkle root of the one coinbase transaction of a block. -/
def coinbaseRoot (d : DigestSuite) (network : String) (b : Block) : Except CheckError Octets := do
  match b.transactions with
  | [tx] =>
    if !tx.isCoinbase then throw (.mismatch (.transactions network 1))
    -- With one transaction the root is its hash.
    (b.transactionRoot d).mapError .field
  | txs => throw (.mismatch (.transactions network txs.length))

/-- Compares the merkle root of a block with what its header commits to and with what is pinned; a
root of `nothing` is not compared. -/
def checkRoot (d : DigestSuite) (network : String) (b : Block) (root : Value) :
    Except CheckError Unit := do
  let actual ← coinbaseRoot d network b
  if b.header.merkleRoot ≠ actual then
    throw (.mismatch (.commitment network b.header.merkleRoot actual))
  match root with
  | .nothing => return ()
  | wanted =>
    if !(← pinned actual.toDisplay wanted) then
      throw (.mismatch (.merkleRoot network wanted actual))

/-- The hash in display order, if it is the one that is pinned. -/
def checkHash (network : String) (actual : Octets) (wanted : Value) :
    Except CheckError String := do
  if !(← pinned actual.toDisplay wanted) then throw (.mismatch (.hash network wanted actual))
  return actual.toDisplay

/-- The hash of a block in display order, if the block matches what is pinned. -/
def check (d : DigestSuite) (network : String) (b : Block) (hash root : Value) :
    Except CheckError String := do
  checkRoot d network b root
  let actual ← (b.hash d).mapError .field
  checkHash network actual hash

/-- The check of a block in the making. Without its merkle root it has nothing to show for what it
commits to, and without the hash of the block before it there is nothing to digest. -/
def checkDraft (d : DigestSuite) (network : String) (b : Draft) (hash root : Value) :
    Except CheckError String := do
  match b.merkleRoot with
  | none =>
    let _ ← coinbaseRoot d network { transactions := b.transactions }
    throw (.value .noMember)
  | some merkleRoot =>
    checkRoot d network { header := { merkleRoot }, transactions := b.transactions } root
    match b.hash d with
    | .ok actual => checkHash network actual hash
    | .error (.field e) => throw (.field e)
    | .error .missing => throw (.value .unsuitable)

/-! ## Logging -/

/-- The logger of genesis checks. -/
def logger : String := "GENESIS"

/-- What a check has to say about its outcome; a mismatch that cannot be written is not logged. -/
def records (network : String) : Except CheckError String → List Log.Record
  | .ok hash => [⟨logger, Log.debug, s!"{network} genesis block {hash} verified"⟩]
  | .error (.mismatch m) => m.message?.toList.map fun message => ⟨logger, Log.error, message⟩
  | .error _ => []

end LedgerNet.Chain.Genesis
