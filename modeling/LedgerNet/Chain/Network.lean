import LedgerNet.Chain.Field
import LedgerNet.Chain.Genesis
import LedgerNet.Compact

/-!
# Networks

The constants that define a network. `build` turns a value for each field into a network, converting
some and checking all for consistency: the chain name, the size of the magic bytes, a prefix for
each kind of base-58 data and no other, different ports, and a genesis block that matches its pinned
hash and merkle root. `derive` builds a network that differs from another in a few fields. A number
that is given for bytes is read as that many zeros, so a build depends on the room in memory.
-/

namespace LedgerNet.Chain

/-! ## Prefixes -/

/-- The prefix of each kind of base-58 data. -/
structure Prefixes where
  pubkey : Octets
  script : Octets
  secret : Octets
  extPublic : Octets
  extSecret : Octets
  deriving DecidableEq, Repr

/-- The prefix of a kind. -/
def Prefixes.get (p : Prefixes) : PrefixKind → Octets
  | .pubkey => p.pubkey
  | .script => p.script
  | .secret => p.secret
  | .extPublic => p.extPublic
  | .extSecret => p.extSecret

/-- The kind that a value names. -/
def PrefixKind.ofValue? (v : Value) : Option PrefixKind :=
  PrefixKind.all.find? fun k => (Value.int k.number).sameKey v

/-! ## Errors -/

/-- Why values do not define a network. -/
inductive NetworkError where
  | missing (fields : List String)
  | unknown (fields : List String)
  /-- A value cannot be used for its field. -/
  | value (e : Value.Fault)
  /-- A number is no prefix of one byte. -/
  | prefixNumber (n : Int)
  /-- A value of this form is no prefix. -/
  | prefixForm (form : String)
  | chainName (name : Value)
  | magicSize (network : String) (size : Nat)
  | noPrefix (network : String) (kind : PrefixKind)
  | extraPrefix (network : String)
  | samePorts (network : String) (port : Value)
  /-- The genesis block cannot be read. -/
  | block (e : Ledger.ReadError)
  | genesis (e : Genesis.CheckError)
  /-- No kind of base-58 data is named by the value. -/
  | unknownKind (kind : Value)

/-- The size of the magic bytes in front of every message. -/
def magicSize : Nat := 4

/-- The text of an error, where it has one of its own and that can be written. -/
def NetworkError.message? : NetworkError → Option String
  | .missing fields => some ("missing chain parameters: " ++ String.intercalate ", " fields)
  | .unknown fields => some ("unknown chain parameters: " ++ String.intercalate ", " fields)
  | .value (.field e) => e.message?
  | .value _ => none
  | .prefixNumber n =>
    (Text.numeral? n).map fun n => s!"base-58 prefix {n} does not fit in a byte"
  | .prefixForm form => some s!"base-58 prefix must be bytes, got {form}"
  | .chainName name => name.text?.map fun name => s!"unknown chain name {name}"
  | .magicSize network size =>
    some s!"{network} magic bytes must be {Chain.magicSize} bytes, got {size}"
  | .noPrefix network kind => some s!"{network} has no {kind.label} prefix"
  | .extraPrefix network => some s!"{network} has unknown base-58 prefix kinds"
  | .samePorts network port =>
    port.text?.map fun port => s!"{network} P2P and RPC ports are both {port}"
  | .block e => e.message?
  | .genesis (.mismatch m) => m.message?
  | .genesis (.field e) => e.message?
  | .genesis (.value _) => none
  | .unknownKind kind => kind.text?.map fun kind => s!"unknown address kind {kind}"

/-! ## Networks -/

/-- A network, by the constants that define it. -/
structure Network where
  name : ChainName
  networkId : Value
  dataDirSuffix : Value
  /-- Stands in front of every message, so that other networks reject it. -/
  magicBytes : Octets
  /-- The key that signs alerts. -/
  alertSigningKey : Octets
  defaultP2PPort : Value
  defaultRpcPort : Value
  /-- The easiest target of work. -/
  powLimit : Value
  /-- The easiest target of stake. -/
  posLimit : Value
  /-- The serialized genesis block. -/
  genesisBytes : Octets
  genesisHash : Value
  genesisMerkleRoot : Value
  prefixes : Prefixes
  dnsSeeds : List (List Value)
  fixedSeedPeers : List Value
  targetSpacing : Value
  targetTimespan : Value
  lastProofOfWorkBlockHeight : Value
  firstProofOfStakeBlockHeight : Value
  proofOfWorkReward : Value
  proofOfStakeRewardRateBps : Value
  subsidyHalvingInterval : Value
  modifierInterval : Value
  stakeMinAge : Value
  stakeMaxAge : Value
  coinbaseMaturity : Value
  requireRpcAuthentication : Value

namespace Network

/-- The prefixes as a table. -/
def prefixTable (p : Prefixes) : Value :=
  .table (PrefixKind.all.map fun k => (.int k.number, .bytes (p.get k)))

/-- The value of a field, in a form from which it can be built again. -/
def value (p : Network) : Field → Value
  | .name => .text p.name.label
  | .networkId => p.networkId
  | .dataDirSuffix => p.dataDirSuffix
  | .magicBytes => .bytes p.magicBytes
  | .alertSigningKey => .bytes p.alertSigningKey
  | .defaultP2PPort => p.defaultP2PPort
  | .defaultRpcPort => p.defaultRpcPort
  | .powLimit => p.powLimit
  | .posLimit => p.posLimit
  | .genesisBlock => .bytes p.genesisBytes
  | .genesisHash => p.genesisHash
  | .genesisMerkleRoot => p.genesisMerkleRoot
  | .base58Prefixes => prefixTable p.prefixes
  | .dnsSeeds => .list (p.dnsSeeds.map .list)
  | .fixedSeedPeers => .list p.fixedSeedPeers
  | .targetSpacing => p.targetSpacing
  | .targetTimespan => p.targetTimespan
  | .lastProofOfWorkBlockHeight => p.lastProofOfWorkBlockHeight
  | .firstProofOfStakeBlockHeight => p.firstProofOfStakeBlockHeight
  | .proofOfWorkReward => p.proofOfWorkReward
  | .proofOfStakeRewardRateBps => p.proofOfStakeRewardRateBps
  | .subsidyHalvingInterval => p.subsidyHalvingInterval
  | .modifierInterval => p.modifierInterval
  | .stakeMinAge => p.stakeMinAge
  | .stakeMaxAge => p.stakeMaxAge
  | .coinbaseMaturity => p.coinbaseMaturity
  | .requireRpcAuthentication => p.requireRpcAuthentication

/-! ## Conversions -/

/-- A prefix as bytes; a number is a prefix of one byte. -/
def readPrefix (v : Value) : Except NetworkError Octets :=
  match v.int? with
  | some n =>
    if 0 ≤ n ∧ n ≤ 255 then .ok [UInt8.ofNat n.toNat] else .error (.prefixNumber n)
  | none =>
    match v with
    | .bytes b | .buffer b | .octets b => .ok b
    | v => .error (.prefixForm v.formName)

/-- The rows of a table of prefixes, as bytes. -/
def prefixRows : Value → Except NetworkError (List (Value × Octets))
  | .table rows => rows.mapM fun (kind, v) => do return (kind, ← readPrefix v)
  | _ => .error (.value .noMember)

/-- The elements of a value, as the values that they are. -/
def elements : Value → Except NetworkError (List Value)
  | .text s => .ok (s.toList.map fun c => .text (String.singleton c))
  | .bytes b | .buffer b | .octets b => .ok (b.map fun x => .int x.toNat)
  | .list xs => .ok xs
  -- A table is gone through by its keys.
  | .table rows => .ok (rows.map Prod.fst)
  | _ => .error (.value .unsuitable)

/-- The serialized form of a genesis block that is given as a block or as bytes. -/
def blockBytes (room : Nat) : Value → Except NetworkError Octets
  | .block b => b.encode.mapError fun e => .value (.field e)
  | v => (v.toRawOctets room).mapError .value

/-! ## Checks -/

/-- The chain name that a value is. -/
def chainName (v : Value) : Except NetworkError ChainName := do
  let isName (n : ChainName) : Except NetworkError Bool :=
    ((Value.text n.label).equal v).mapError .value
  if ← isName .main then return .main
  if ← isName .test then return .test
  if ← isName .regtest then return .regtest
  throw (.chainName v)

/-- The prefix that rows have for a kind, which may not be empty. -/
def prefixOf (network : String) (rows : List (Value × Octets)) (kind : PrefixKind) :
    Except NetworkError Octets :=
  match rows.find? fun row => row.1.sameKey (.int kind.number) with
  -- The first row of the kind counts, and an empty prefix is as good as none.
  | some (_, x :: xs) => .ok (x :: xs)
  | _ => .error (.noPrefix network kind)

/-- The prefixes that rows have, which may not have any other. -/
def prefixesOf (network : String) (rows : List (Value × Octets)) :
    Except NetworkError Prefixes := do
  let pubkey ← prefixOf network rows .pubkey
  let script ← prefixOf network rows .script
  let secret ← prefixOf network rows .secret
  let extPublic ← prefixOf network rows .extPublic
  let extSecret ← prefixOf network rows .extSecret
  if rows.length ≠ PrefixKind.all.length then throw (.extraPrefix network)
  return { pubkey, script, secret, extPublic, extSecret }

/-- Refuses two ports that are equal. -/
def checkPorts (network : String) (p2p rpc : Value) : Except NetworkError Unit := do
  if ← (p2p.equal rpc).mapError .value then throw (.samePorts network p2p)

/-- Refuses genesis bytes that do not match what is pinned. -/
def verifyGenesis (d : DigestSuite) (network : String) (bytes : Octets) (hash root : Value) :
    Except NetworkError Unit := do
  let block ← (Ledger.Block.ofOctets bytes).mapError .block
  let _ ← (Genesis.check d network block hash root).mapError .genesis

/-! ## Building -/

/-- The network that a value for each field defines. -/
def build (d : DigestSuite) (room : Nat) (v : Field → Value) : Except NetworkError Network := do
  -- The conversions come first: a value without the right form fails before anything is checked.
  let magicBytes ← ((v .magicBytes).toRawOctets room).mapError .value
  let alertSigningKey ← ((v .alertSigningKey).toRawOctets room).mapError .value
  let rows ← prefixRows (v .base58Prefixes)
  let dnsSeeds ← (← elements (v .dnsSeeds)).mapM elements
  let fixedSeedPeers ← elements (v .fixedSeedPeers)
  let genesisBytes ← blockBytes room (v .genesisBlock)
  -- The checks, in the order in which their failures are told.
  let name ← chainName (v .name)
  if magicBytes.length ≠ magicSize then throw (.magicSize name.label magicBytes.length)
  let prefixes ← prefixesOf name.label rows
  checkPorts name.label (v .defaultP2PPort) (v .defaultRpcPort)
  verifyGenesis d name.label genesisBytes (v .genesisHash) (v .genesisMerkleRoot)
  return {
    name, magicBytes, alertSigningKey, prefixes, dnsSeeds, fixedSeedPeers, genesisBytes
    networkId := v .networkId
    dataDirSuffix := v .dataDirSuffix
    defaultP2PPort := v .defaultP2PPort
    defaultRpcPort := v .defaultRpcPort
    powLimit := v .powLimit
    posLimit := v .posLimit
    genesisHash := v .genesisHash
    genesisMerkleRoot := v .genesisMerkleRoot
    targetSpacing := v .targetSpacing
    targetTimespan := v .targetTimespan
    lastProofOfWorkBlockHeight := v .lastProofOfWorkBlockHeight
    firstProofOfStakeBlockHeight := v .firstProofOfStakeBlockHeight
    proofOfWorkReward := v .proofOfWorkReward
    proofOfStakeRewardRateBps := v .proofOfStakeRewardRateBps
    subsidyHalvingInterval := v .subsidyHalvingInterval
    modifierInterval := v .modifierInterval
    stakeMinAge := v .stakeMinAge
    stakeMaxAge := v .stakeMaxAge
    coinbaseMaturity := v .coinbaseMaturity
    requireRpcAuthentication := v .requireRpcAuthentication }

/-- The name of the network itself, under which no value can be given. -/
def ownName : String := "self"

/-- Refuses a value that is given under the name of the network itself. -/
def checkOwnName (given : List (String × Value)) : Except NetworkError Unit :=
  if (given.lookup ownName).isSome then .error (.value .unsuitable) else .ok ()

/-- Refuses names that are those of no field. -/
def checkKnown (given : List (String × Value)) : Except NetworkError Unit :=
  let unknown := (given.map Prod.fst).filter fun s => (Field.ofLabel? s).isNone
  if unknown.isEmpty then .ok () else .error (.unknown unknown)

/-- The value given for a field, or else another. -/
def givenOr (given : List (String × Value)) (other : Field → Value) (f : Field) : Value :=
  (given.lookup f.label).getD (other f)

/-- The network that named values define; every field has to be among them. -/
def ofValues (d : DigestSuite) (room : Nat) (given : List (String × Value)) :
    Except NetworkError Network := do
  checkOwnName given
  let missing := (Field.all.map Field.label).filter fun s => (given.lookup s).isNone
  -- What is missing is told before what is unknown.
  if !missing.isEmpty then throw (.missing missing)
  checkKnown given
  build d room (givenOr given fun _ => .nothing)

/-- The network that differs from this one in the named values. -/
def derive (d : DigestSuite) (room : Nat) (p : Network) (overrides : List (String × Value)) :
    Except NetworkError Network := do
  checkOwnName overrides
  checkKnown overrides
  build d room (givenOr overrides p.value)

/-! ## Views -/

/-- The genesis block. -/
def genesisBlock (p : Network) : Except Ledger.ReadError Ledger.Block :=
  Ledger.Block.ofOctets p.genesisBytes

/-- The prefix of the kind that a value names. -/
def prefixFor (p : Network) (kind : Value) : Except NetworkError Octets :=
  if !kind.isKey then .error (.value .unsuitable)
  else match PrefixKind.ofValue? kind with
    | some k => .ok (p.prefixes.get k)
    | none => .error (.unknownKind kind)

/-- The compact form of a target; whatever equals zero has the form zero. -/
def compactTarget (v : Value) : Except Value.Fault Nat := do
  if ← v.equal (.int 0) then return 0
  match v, v.int? with
  | _, some n => return Compact.encode n
  | .real _, none => throw .noMember
  | _, none => throw .unsuitable

/-- The network as messages show it, if its identifier can be shown. -/
def shown? (p : Network) : Option String := p.networkId.text?.map fun id => s!"ChainParams({id})"

/-! ## Attempts to change -/

/-- An attempt to change a network. -/
inductive Change where
  | assign (name : String)
  | delete (name : String)
  /-- An entry of the prefixes is assigned to. -/
  | assignPrefix (kind : Value)

/-- Why an attempt to change a network was refused. -/
inductive Refusal where
  /-- Fields can neither be set nor deleted. -/
  | readOnly (verb name : String)
  /-- The prefixes have no assignment. -/
  | noAssignment
  deriving DecidableEq, Repr

/-- The text of a refusal, where it has one of its own. -/
def Refusal.message? : Refusal → Option String
  | .readOnly verb name => some s!"chain parameters are read-only. cannot {verb} {name}"
  | .noAssignment => none

/-- Networks are read-only: every attempt to change one is refused. -/
def attempt (_ : Network) : Change → Except Refusal Network
  | .assign name => .error (.readOnly "set" name)
  | .delete name => .error (.readOnly "delete" name)
  | .assignPrefix _ => .error .noAssignment

end Network

end LedgerNet.Chain
