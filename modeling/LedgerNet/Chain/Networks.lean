import LedgerNet.Chain.Network
import LedgerNet.Octets.Hex

/-!
# The networks

The main network, the public test network and the regression test network, and how a network is
found by its name. The test networks are the main network with some values replaced.
-/

namespace LedgerNet.Chain.Networks

open Ledger

/-! ## What the networks share -/

/-- The bytes of hexadecimal text that is written in this module. -/
def hex (s : String) : Octets := (Octets.ofHex? s).getD []

/-- The message of the genesis blocks. -/
def message : String := "Jun 6, 2016 05:00:00 UTC: Inception"

/-- The time of the genesis transaction, the same in every network. -/
def txTime : Int := 1465189200

/-- The merkle root of the genesis blocks, in display order. -/
def rootText : String := "0f8fe152f58e52c9c4f2c3c8dca7860e8d26ad8ec7739749f4a8f30fff370f75"

/-- The greatest number of 256 bits. -/
def max256 : Nat := Nat.pow 2 256 - 1

/-- The genesis block of a network. -/
def genesisBlock (timestamp bits nonce : Int) : Except Octets.FieldError Block := do
  return {
    header := { merkleRoot := (hex rootText).reverse, timestamp, bits, nonce }
    transactions := [← Genesis.coinbase message txTime] }

/-- The serialized genesis block of a network. -/
def genesisBytes (timestamp bits nonce : Int) : Octets :=
  (genesisBlock timestamp bits nonce >>= Block.encode).toOption.getD []

/-! ## The main network -/

/-- The easiest target of the main network. -/
def mainLimit : Nat := max256 >>> 28

/-- The main network. -/
def main : Network where
  name := .main
  networkId := .text "main"
  dataDirSuffix := .text ""
  magicBytes := Octets.ofText "INCP"
  alertSigningKey := hex
    ("04aaffe2833752dcc3d98f335e9153237fa5aba5fa2d1d90090156c141535a3fc7"
      ++ "bc671f83a754e11ab96311b1eb036b56fa2be9e03a1fe17b5074f54e21800836")
  defaultP2PPort := .int 17000
  defaultRpcPort := .int 17001
  powLimit := .int mainLimit
  posLimit := .int mainLimit
  genesisBytes := genesisBytes 1465189200 (Compact.encode mainLimit) 2995750
  genesisHash := .text "0000000a2bfc4455a031e0188a1c3cc957ff2de5f2eff45936f72608dea7fd23"
  genesisMerkleRoot := .text rootText
  prefixes := {
    pubkey := [102]
    script := [112]
    secret := [202]
    extPublic := [0x04, 0x88, 0xb2, 0x1e]
    extSecret := [0x04, 0x88, 0xad, 0xe4] }
  dnsSeeds := []
  fixedSeedPeers := []
  targetSpacing := .int 60
  targetTimespan := .int 600
  lastProofOfWorkBlockHeight := .int 10080
  firstProofOfStakeBlockHeight := .int 9800
  proofOfWorkReward := .int 3333
  proofOfStakeRewardRateBps := .int 1000
  subsidyHalvingInterval := .int 1440
  modifierInterval := .int 600
  stakeMinAge := .int 28800
  stakeMaxAge := .int 86400
  coinbaseMaturity := .int 120
  requireRpcAuthentication := .flag true

/-! ## The public test network -/

/-- The easiest target of the test network. -/
def testLimit : Nat := max256 >>> 16

/-- The public test network, on which proof of work never ends. -/
def test : Network :=
  { main with
    name := .test
    networkId := .text "testnet"
    dataDirSuffix := .text "testnet"
    magicBytes := Octets.ofText "INCT"
    alertSigningKey := hex
      ("04e44761e96c9056be6b659c04b94fbfebeb5d5257fe028e80695c62f7c2f81f85"
        ++ "d131a669df3be611393f454852a2d08c6314aad5ca3cbe5616262db3d4a6efac")
    defaultP2PPort := .int 17100
    defaultRpcPort := .int 17101
    powLimit := .int testLimit
    posLimit := .int testLimit
    genesisBytes := genesisBytes 1465189200 (Compact.encode testLimit) 344590
    genesisHash := .text "0000324ada8e45c54131ee270b9b7e9ab509dfbe982ca7e13f7741b2c85dc056"
    prefixes := {
      pubkey := [128]
      script := [208]
      secret := [234]
      extPublic := [0x04, 0x35, 0x87, 0xcf]
      extSecret := [0x04, 0x35, 0x83, 0x94] }
    targetSpacing := .int 10
    lastProofOfWorkBlockHeight := .int 0x7fffffff
    firstProofOfStakeBlockHeight := .int 1080
    subsidyHalvingInterval := .int 360
    stakeMinAge := .int 3600
    stakeMaxAge := .int 28800
    coinbaseMaturity := .int 60 }

/-! ## The regression test network -/

/-- The easiest target of work of the regression test network. -/
def regtestLimit : Nat := max256 / 2

/-- The regression test network, on which blocks are trivial to mine. -/
def regtest : Network :=
  { test with
    name := .regtest
    networkId := .text "regtest"
    dataDirSuffix := .text "regtest"
    magicBytes := Octets.ofText "INCQ"
    defaultP2PPort := .int 17200
    defaultRpcPort := .int 17201
    powLimit := .int regtestLimit
    genesisBytes := genesisBytes 1462510800 (Compact.encode regtestLimit) 3248
    genesisHash := .text "00708596e746e3588fbe80d1b9cbd315fceddb26e2f43fcb774f51707382bec7"
    prefixes := {
      pubkey := [140]
      script := [19]
      secret := [239]
      extPublic := [0x04, 0x35, 0x87, 0xd0]
      extSecret := [0x04, 0x35, 0x83, 0x95] }
    requireRpcAuthentication := .flag false }

/-! ## Finding a network -/

/-- The networks in order. -/
def all : List Network := [main, test, regtest]

/-- The networks by the names that are accepted: their chain names and their identifiers. -/
def byName : List (String × Network) :=
  [("main", main), ("test", test), ("regtest", regtest), ("testnet", test)]

/-- The network that a value names. -/
def find? : Value → Option Network
  | .text s => byName.lookup s
  | _ => none

/-- The chain names of the networks. -/
def chainNames : List String := all.map fun p => p.name.label

/-- The names that are accepted, in order. -/
def acceptedNames : List String :=
  (byName.map Prod.fst).mergeSort fun a b => decide (a ≤ b)

/-! ## Distinctness -/

/-- What two networks may not share. -/
inductive Shared where
  | magicBytes
  | genesisHash
  | port
  /-- A value cannot be compared with those of other networks. -/
  | value (e : Value.Fault)
  deriving DecidableEq, Repr

/-- The text of what is shared, where it has one of its own. -/
def Shared.message? : Shared → Option String
  | .magicBytes => some "networks share a magicBytes"
  | .genesisHash => some "networks share a genesisHash"
  | .port => some "networks share a port"
  | .value _ => none

/-- Whether no value occurs twice, as the key of a table. -/
def distinct : List Value → Bool
  | [] => true
  | v :: vs => !vs.any v.sameKey && distinct vs

/-- Refuses values that are no keys, or of which one occurs twice. -/
def requireDistinctValues (vs : List Value) (shared : Shared) : Except Shared Unit :=
  if !vs.all Value.isKey then .error (.value .unsuitable)
  else if distinct vs then .ok ()
  else .error shared

/-- Refuses networks that share their magic bytes, their genesis hash or a port. -/
def requireDistinct (nets : List Network) : Except Shared Unit := do
  requireDistinctValues (nets.map fun p => .bytes p.magicBytes) .magicBytes
  requireDistinctValues (nets.map Network.genesisHash) .genesisHash
  requireDistinctValues (nets.map Network.defaultP2PPort ++ nets.map Network.defaultRpcPort) .port

end LedgerNet.Chain.Networks
