import LedgerNet.Base58
import LedgerNet.Base58.Standard
import LedgerNet.Chain.Addresses
import LedgerNet.Chain.Field
import LedgerNet.Chain.Genesis
import LedgerNet.Chain.Network
import LedgerNet.Chain.Networks
import LedgerNet.Chain.Selection
import LedgerNet.Compact
import LedgerNet.Digest.Aes
import LedgerNet.Digest.Eleven
import LedgerNet.Digest.Eleven.Blake
import LedgerNet.Digest.Eleven.BlueMidnightWish
import LedgerNet.Digest.Eleven.CubeHash
import LedgerNet.Digest.Eleven.Echo
import LedgerNet.Digest.Eleven.Groestl
import LedgerNet.Digest.Eleven.Jh
import LedgerNet.Digest.Eleven.Keccak
import LedgerNet.Digest.Eleven.Luffa
import LedgerNet.Digest.Eleven.Shavite
import LedgerNet.Digest.Eleven.Simd
import LedgerNet.Digest.Eleven.Skein
import LedgerNet.Digest.Sha256
import LedgerNet.Digest.Suite
import LedgerNet.Digest.Word
import LedgerNet.FileTree
import LedgerNet.Ledger.Block
import LedgerNet.Ledger.Draft
import LedgerNet.Ledger.Merkle
import LedgerNet.Ledger.Reader
import LedgerNet.Ledger.Transaction
import LedgerNet.Ledger.VarInt
import LedgerNet.Log
import LedgerNet.Log.Loggers
import LedgerNet.Log.Record
import LedgerNet.Main
import LedgerNet.Memory
import LedgerNet.Octets
import LedgerNet.Octets.Hex
import LedgerNet.Octets.Slice
import LedgerNet.Octets.Utf8
import LedgerNet.Path
import LedgerNet.Peer.Address
import LedgerNet.Peer.IpText
import LedgerNet.Peer.Resolve
import LedgerNet.Peer.Seed
import LedgerNet.Proofs.Base58
import LedgerNet.Proofs.Base58.Laws
import LedgerNet.Proofs.Base58.Unique
import LedgerNet.Proofs.Chain.AddressMatching
import LedgerNet.Proofs.Chain.AddressReading
import LedgerNet.Proofs.Chain.Derivation
import LedgerNet.Proofs.Chain.FieldReading
import LedgerNet.Proofs.Chain.GenesisBinding
import LedgerNet.Proofs.Chain.GenesisCheck
import LedgerNet.Proofs.Chain.GenesisFounding
import LedgerNet.Proofs.Chain.GenesisMismatch
import LedgerNet.Proofs.Chain.NetworkBuilding
import LedgerNet.Proofs.Chain.NetworkConsistency
import LedgerNet.Proofs.Chain.NetworkHistory
import LedgerNet.Proofs.Chain.PrefixTable
import LedgerNet.Proofs.Chain.SelectionHistory
import LedgerNet.Proofs.Chain.SelectionSteps
import LedgerNet.Proofs.Chain.SettingsCheck
import LedgerNet.Proofs.Compact.Approximation
import LedgerNet.Proofs.Compact.Canonical
import LedgerNet.Proofs.Compact.Order
import LedgerNet.Proofs.Compact.Rounding
import LedgerNet.Proofs.Digest.Suite
import LedgerNet.Proofs.Entries
import LedgerNet.Proofs.FileTree
import LedgerNet.Proofs.Ledger.BlockFormat
import LedgerNet.Proofs.Ledger.Exactness
import LedgerNet.Proofs.Ledger.MerkleBinding
import LedgerNet.Proofs.Ledger.MerkleTree
import LedgerNet.Proofs.Ledger.ReadBound
import LedgerNet.Proofs.Ledger.ReadFailure
import LedgerNet.Proofs.Ledger.ReadRest
import LedgerNet.Proofs.Ledger.TransactionFormat
import LedgerNet.Proofs.Ledger.VarIntFormat
import LedgerNet.Proofs.Ledger.VarIntSize
import LedgerNet.Proofs.Ledger.WireFields
import LedgerNet.Proofs.Ledger.WrittenSize
import LedgerNet.Proofs.Log.History
import LedgerNet.Proofs.Memory.Effects
import LedgerNet.Proofs.Memory.Frames
import LedgerNet.Proofs.Memory.Integers
import LedgerNet.Proofs.Memory.Sharing
import LedgerNet.Proofs.Octets.Display
import LedgerNet.Proofs.Octets.Fields
import LedgerNet.Proofs.Octets.Integers
import LedgerNet.Proofs.Octets.LastByte
import LedgerNet.Proofs.Octets.Misfits
import LedgerNet.Proofs.Octets.Shortest
import LedgerNet.Proofs.Outcome
import LedgerNet.Proofs.Peer.AddressText
import LedgerNet.Proofs.Peer.IpGrammar
import LedgerNet.Proofs.Peer.IpReading
import LedgerNet.Proofs.Peer.PieceText
import LedgerNet.Proofs.Peer.SeedStamps
import LedgerNet.Proofs.Script.Numbers
import LedgerNet.Proofs.Script.Pushes
import LedgerNet.Proofs.Script.Reading
import LedgerNet.Proofs.Settings.Endings
import LedgerNet.Proofs.Settings.FlagNetwork
import LedgerNet.Proofs.Settings.GivenFlags
import LedgerNet.Proofs.Settings.Ini.Expansion
import LedgerNet.Proofs.Settings.Ini.LookUp
import LedgerNet.Proofs.Settings.Ini.Sections
import LedgerNet.Proofs.Settings.Ini.Statements
import LedgerNet.Proofs.Settings.LevelOption
import LedgerNet.Proofs.Settings.ProgramDirectory
import LedgerNet.Proofs.Settings.SessionHistory
import LedgerNet.Proofs.Settings.SessionLoading
import LedgerNet.Proofs.Settings.SessionRetry
import LedgerNet.Proofs.Settings.SessionSteps
import LedgerNet.Proofs.Settings.WantedFlags
import LedgerNet.Proofs.Text.Pieces
import LedgerNet.Script
import LedgerNet.Settings.CommandLine
import LedgerNet.Settings.Ini
import LedgerNet.Settings.Places
import LedgerNet.Settings.Session
import LedgerNet.Settings.Setup
import LedgerNet.Settings.Words
import LedgerNet.Text.Blank
import LedgerNet.Text.Case
import LedgerNet.Text.CaseTable
import LedgerNet.Text.Decimal
import LedgerNet.Text.Digit
import LedgerNet.Text.Numeral
import LedgerNet.Text.Pieces
import LedgerNet.Text.Printable
import LedgerNet.Text.Quoted
import LedgerNet.Value
import LedgerNet.Value.Equality
import LedgerNet.Value.Text
