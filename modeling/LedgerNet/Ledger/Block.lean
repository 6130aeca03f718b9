import LedgerNet.Ledger.Merkle
import LedgerNet.Ledger.Transaction

/-!
# Blocks

A header of 80 bytes, the transactions it commits to, and the signature of the staker, which is
empty for blocks that were mined. `Block.decode` reads a block from the front of a buffer and
`Block.ofOctets` a whole byte string.
-/

namespace LedgerNet.Ledger

/-! ## Headers -/

/-- The size of a serialized header. -/
def headerSize : Nat := 80

/-- The greatest size of a block signature. -/
def maxSignatureSize : Nat := 80

/-- A block header. -/
structure Header where
  version : Int := 1
  prevBlock : Octets := zeroHash
  merkleRoot : Octets := zeroHash
  timestamp : Int := 0
  bits : Int := 0
  nonce : Int := 0
  deriving DecidableEq, Repr, Inhabited

namespace Header

/-- The bytes of a header. -/
def encode (h : Header) : Except Octets.FieldError Octets := do
  let version ← Octets.fieldLE 4 h.version
  let prevBlock ← Octets.pad hashSize h.prevBlock
  let merkleRoot ← Octets.pad hashSize h.merkleRoot
  let timestamp ← Octets.fieldLE 4 h.timestamp
  let bits ← Octets.fieldLE 4 h.bits
  let nonce ← Octets.fieldLE 4 h.nonce
  return version ++ prevBlock ++ merkleRoot ++ timestamp ++ bits ++ nonce

/-- Refuses a buffer that holds less than a header, before anything is taken from it. -/
def available : Reader Unit := fun b =>
  if b.length < headerSize then .error (.shortHeader headerSize b.length) b else .ok () b

/-- The next header. -/
def decode : Reader Header := do
  available
  let version ← Reader.number 4
  let prevBlock ← Reader.take hashSize
  let merkleRoot ← Reader.take hashSize
  let timestamp ← Reader.number 4
  let bits ← Reader.number 4
  let nonce ← Reader.number 4
  return { version, prevBlock, merkleRoot, timestamp, bits, nonce }

/-- The hash that identifies the block of a header. -/
def hash (d : DigestSuite) (h : Header) : Except Octets.FieldError Octets := d.identity <$> h.encode

end Header

/-! ## Blocks -/

/-- A block. -/
structure Block where
  header : Header := {}
  transactions : List Tx := []
  signature : Octets := []
  deriving DecidableEq, Repr, Inhabited

namespace Block

/-- The bytes of a block. -/
def encode (b : Block) : Except Octets.FieldError Octets := do
  let header ← b.header.encode
  let count ← VarInt.write b.transactions.length
  let transactions ← encodeAll Tx.encode b.transactions
  let signature ← VarBytes.write b.signature
  return header ++ count ++ transactions ++ signature

/-- The next block. -/
def decode : Reader Block := do
  let header ← Header.decode
  let count ← VarInt.read
  let transactions ← Reader.times Tx.decode count
  let signature ← VarBytes.read maxSignatureSize "block signature"
  return { header, transactions, signature }

/-- The block that a byte string holds, with nothing after it. -/
def ofOctets (b : Octets) : Except ReadError Block :=
  match decode b with
  | .error e _ => .error e
  | .ok block [] => .ok block
  | .ok _ rest => .error (.unused rest.length)

/-- The merkle root of the transactions. -/
def transactionRoot (d : DigestSuite) (b : Block) : Except Octets.FieldError Octets :=
  Merkle.root d.content <$> b.transactions.mapM (Tx.hash d)

/-- The hash that identifies a block. -/
def hash (d : DigestSuite) (b : Block) : Except Octets.FieldError Octets := b.header.hash d

end Block

end LedgerNet.Ledger
