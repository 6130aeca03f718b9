/-!
# Names of chain parameters

The chain names of the networks, the kinds of base-58 data, and the fields that define a network,
each with the name under which it is given.
-/

namespace LedgerNet.Chain

/-! ## Networks -/

/-- The chain names. -/
inductive ChainName where
  | main
  | test
  | regtest
  deriving DecidableEq, Repr

namespace ChainName

/-- All chain names in order. -/
def all : List ChainName := [main, test, regtest]

/-- The name as text. -/
def label : ChainName → String
  | main => "main"
  | test => "test"
  | regtest => "regtest"

end ChainName

/-! ## Kinds of base-58 data -/

/-- The kinds of base-58 data that carry a network's prefix. -/
inductive PrefixKind where
  | pubkey
  | script
  | secret
  | extPublic
  | extSecret
  deriving DecidableEq, Repr

namespace PrefixKind

/-- All kinds in order of their numbers. -/
def all : List PrefixKind := [pubkey, script, secret, extPublic, extSecret]

/-- The number of a kind. -/
def number : PrefixKind → Nat
  | pubkey => 0
  | script => 1
  | secret => 2
  | extPublic => 3
  | extSecret => 4

/-- The name of a kind. -/
def label : PrefixKind → String
  | pubkey => "PubkeyAddress"
  | script => "ScriptAddress"
  | secret => "SecretKey"
  | extPublic => "ExtPublicKey"
  | extSecret => "ExtSecretKey"

end PrefixKind

/-! ## Fields -/

/-- The fields that define a network. -/
inductive Field where
  | name
  | networkId
  | dataDirSuffix
  | magicBytes
  | alertSigningKey
  | defaultP2PPort
  | defaultRpcPort
  | powLimit
  | posLimit
  | genesisBlock
  | genesisHash
  | genesisMerkleRoot
  | base58Prefixes
  | dnsSeeds
  | fixedSeedPeers
  | targetSpacing
  | targetTimespan
  | lastProofOfWorkBlockHeight
  | firstProofOfStakeBlockHeight
  | proofOfWorkReward
  | proofOfStakeRewardRateBps
  | subsidyHalvingInterval
  | modifierInterval
  | stakeMinAge
  | stakeMaxAge
  | coinbaseMaturity
  | requireRpcAuthentication
  deriving DecidableEq, Repr

namespace Field

/-- All fields in order. -/
def all : List Field :=
  [name, networkId, dataDirSuffix, magicBytes, alertSigningKey, defaultP2PPort, defaultRpcPort,
   powLimit, posLimit, genesisBlock, genesisHash, genesisMerkleRoot, base58Prefixes, dnsSeeds,
   fixedSeedPeers, targetSpacing, targetTimespan, lastProofOfWorkBlockHeight,
   firstProofOfStakeBlockHeight, proofOfWorkReward, proofOfStakeRewardRateBps,
   subsidyHalvingInterval, modifierInterval, stakeMinAge, stakeMaxAge, coinbaseMaturity,
   requireRpcAuthentication]

/-- The name of a field. -/
def label : Field → String
  | name => "name"
  | networkId => "networkId"
  | dataDirSuffix => "dataDirSuffix"
  | magicBytes => "magicBytes"
  | alertSigningKey => "alertSigningKey"
  | defaultP2PPort => "defaultP2PPort"
  | defaultRpcPort => "defaultRpcPort"
  | powLimit => "powLimit"
  | posLimit => "posLimit"
  | genesisBlock => "genesisBlock"
  | genesisHash => "genesisHash"
  | genesisMerkleRoot => "genesisMerkleRoot"
  | base58Prefixes => "base58Prefixes"
  | dnsSeeds => "dnsSeeds"
  | fixedSeedPeers => "fixedSeedPeers"
  | targetSpacing => "targetSpacing"
  | targetTimespan => "targetTimespan"
  | lastProofOfWorkBlockHeight => "lastProofOfWorkBlockHeight"
  | firstProofOfStakeBlockHeight => "firstProofOfStakeBlockHeight"
  | proofOfWorkReward => "proofOfWorkReward"
  | proofOfStakeRewardRateBps => "proofOfStakeRewardRateBps"
  | subsidyHalvingInterval => "subsidyHalvingInterval"
  | modifierInterval => "modifierInterval"
  | stakeMinAge => "stakeMinAge"
  | stakeMaxAge => "stakeMaxAge"
  | coinbaseMaturity => "coinbaseMaturity"
  | requireRpcAuthentication => "requireRpcAuthentication"

/-- The field of a name. -/
def ofLabel? (s : String) : Option Field := all.find? fun f => f.label == s

end Field

end LedgerNet.Chain
