import LedgerNet.Ledger.Block

/-!
# Blocks in the making

A draft is a block whose hashes and signature may still be missing. It is encoded like a block, and
what comes first on the wire decides why it cannot be: a field that does not fit or a part that is
missing.
-/

namespace LedgerNet.Ledger

/-- Why a draft has no serialized form. -/
inductive DraftError where
  | field (e : Octets.FieldError)
  /-- A part is missing. -/
  | missing
  deriving DecidableEq, Repr

/-- A block in the making. -/
structure Draft where
  version : Int := 1
  prevBlock : Option Octets := some zeroHash
  merkleRoot : Option Octets := some zeroHash
  timestamp : Int := 0
  bits : Int := 0
  nonce : Int := 0
  transactions : List Tx := []
  signature : Option Octets := some []
  deriving DecidableEq, Repr, Inhabited

namespace Draft

/-! ## Blocks -/

/-- A block as a draft. -/
def ofBlock (b : Block) : Draft where
  version := b.header.version
  prevBlock := some b.header.prevBlock
  merkleRoot := some b.header.merkleRoot
  timestamp := b.header.timestamp
  bits := b.header.bits
  nonce := b.header.nonce
  transactions := b.transactions
  signature := some b.signature

/-- The header of the draft, if no part of it is missing. -/
def header? (b : Draft) : Option Header := do
  let prevBlock ← b.prevBlock
  let merkleRoot ← b.merkleRoot
  return {
    version := b.version, prevBlock, merkleRoot
    timestamp := b.timestamp, bits := b.bits, nonce := b.nonce }

/-- The block that the draft is, if no part is missing. -/
def block? (b : Draft) : Option Block := do
  return { header := ← b.header?, transactions := b.transactions, signature := ← b.signature }

/-- A draft of a block is that block. -/
theorem block?_ofBlock (b : Block) : (ofBlock b).block? = some b := rfl

/-! ## Encoding -/

/-- A part that has to be there. -/
def require {α : Type} : Option α → Except DraftError α
  | some x => .ok x
  | none => .error .missing

/-- The bytes of the header. -/
def encodeHeader (b : Draft) : Except DraftError Octets := do
  let field (r : Except Octets.FieldError Octets) : Except DraftError Octets := r.mapError .field
  let _ ← field (Octets.fieldLE 4 b.version)
  let prevBlock ← require b.prevBlock
  let _ ← field (Octets.pad hashSize prevBlock)
  let header ← require b.header?
  field header.encode

/-- The bytes of the block. -/
def encode (b : Draft) : Except DraftError Octets := do
  let header ← b.encodeHeader
  let count ← (VarInt.write b.transactions.length).mapError .field
  let transactions ← (encodeAll Tx.encode b.transactions).mapError .field
  let signature ← (VarBytes.write (← require b.signature)).mapError .field
  return header ++ count ++ transactions ++ signature

/-- The hash that identifies the block. -/
def hash (d : DigestSuite) (b : Draft) : Except DraftError Octets := d.identity <$> b.encodeHeader

/-- The merkle root of the transactions. -/
def transactionRoot (d : DigestSuite) (b : Draft) : Except Octets.FieldError Octets :=
  ({ transactions := b.transactions } : Block).transactionRoot d

end Draft

end LedgerNet.Ledger
