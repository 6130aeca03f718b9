import LedgerNet.Chain.Selection
import LedgerNet.Settings.CommandLine
import LedgerNet.Settings.Ini
import LedgerNet.Settings.Places
import LedgerNet.Settings.Words

/-!
# The setup of a run

The settings of a run, from the command line and a configuration file. A test network is wanted if
its flag is given or the file sets it; the two test networks exclude each other. `Setup.read` checks
in this order: the options, the arguments that were not understood, the file, the truth values in
it, the network, and the log level.

Of the files only their contents matter here, so they are a function from paths, which has nothing
to say where there is no file.
-/

namespace LedgerNet.Settings

open Chain

/-! ## Errors -/

/-- Why the settings were refused. -/
inductive SetupError where
  | usage (e : UsageError)
  | unknownArguments (arguments : List String)
  /-- The file that was asked for is not there. -/
  | noFile (path : String)
  | file (e : Ini.Error)
  /-- A value in the file is no truth value. -/
  | badTruth (path word : String)
  | network (e : SelectionError)
  | badLevel (text : String)

/-- How the program ends: its exit code and what it has to say. A broken file has no such end. -/
def SetupError.exit? : SetupError → Option (Nat × String)
  | .usage .help => some (0, "")
  | .usage e => some (2, s!"{programName}: error: {e.message}")
  | .unknownArguments arguments =>
    some (1, "unknown arguments: " ++ Text.quotedList arguments)
  | .noFile path => some (1, s!"configuration file not found: {path}")
  | .file _ => none
  | .badTruth path word => some (1, s!"malformed boolean in {path}: " ++ Text.quoted word)
  | .network e => e.message?.map fun m => (1, s!"{programName}: error: {m}")
  | .badLevel text => some (1, s!"malformed loglevel specifier: {text}")

/-! ## Settings -/

/-- The settings of a run. -/
structure Setup where
  levels : Levels := {}
  /-- The directory for the data of all networks. -/
  dataDir : String
  /-- The path of the configuration file, whether it is there or not. -/
  configFile : String
  /-- Whether the public test network is wanted. -/
  testnet : Bool
  /-- Whether the regression test network is wanted. -/
  regtest : Bool
  network : Network

namespace Setup

/-- The name of the configuration file in the data directory. -/
def fileName : String := "inception.conf"

/-- A text that was given and is not empty. -/
def given? (s : Option String) : Option String := s.filter (!·.isEmpty)

/-- The directory for the data of all networks. -/
def dataDirOf (defaultDir : String) (c : CommandLine) : String := (given? c.dataDir).getD defaultDir

/-- The path of the configuration file. -/
def configFileOf (defaultDir : String) (c : CommandLine) : String :=
  (given? c.configFile).getD (Path.join (dataDirOf defaultDir c) fileName)

/-- The values that the configuration file has for the flags. -/
def readFile (contents? : String → Option Octets) (c : CommandLine) (path : String) :
    Except SetupError (List (String × String)) :=
  match contents? path, given? c.configFile with
  | some contents, _ => do
    let f ← (Ini.read contents).mapError .file
    (Ini.lookUp f ["testnet", "regtest"]).mapError .file
  | none, some asked => .error (.noFile asked)
  | none, none => .ok []

/-- Whether a flag is set on the command line or else in the file. -/
def isWanted (path : String) (values : List (String × String)) (flag : Bool) (key : String) :
    Except SetupError Bool :=
  if flag then .ok true
  else (readTruth ((values.lookup key).getD "0")).mapError (.badTruth path)

/-- The settings but for the log level, and what the choice of the network has to say. -/
def choose (defaultDir : String) (contents? : String → Option Octets) (c : CommandLine) :
    Except SetupError (Setup × List Log.Record) := do
  if !c.unknown.isEmpty then throw (.unknownArguments c.unknown)
  let dataDir := dataDirOf defaultDir c
  let configFile := configFileOf defaultDir c
  let values ← readFile contents? c configFile
  let testnet ← isWanted configFile values c.testnet "testnet"
  let regtest ← isWanted configFile values c.regtest "regtest"
  -- a selection of its own, so that nothing is published
  let selection : Selection := { current := Networks.main }
  let step := Selection.selectByFlags findNetwork testnet regtest
  let (network, records) ← (Selection.outcome step selection).mapError .network
  return ({ dataDir, configFile, testnet, regtest, network }, records)

/-- The settings with the levels of the log level option. -/
def withLevels (s : Setup) (c : CommandLine) : Except SetupError Setup :=
  match given? c.logLevel with
  | none => .ok s
  | some text =>
    match readLevels? text with
    | some levels => .ok { s with levels }
    | none => .error (.badLevel text)

/-- The settings of a run. -/
def read (defaultDir : String) (contents? : String → Option Octets) (arguments : List String) :
    Except SetupError Setup := do
  let c ← (CommandLine.read arguments).mapError .usage
  let (s, _) ← choose defaultDir contents? c
  s.withLevels c

/-- The data directory of the network. -/
def networkDataDir (s : Setup) (defaultDir : String) : Except Value.Fault String :=
  Settings.networkDataDir defaultDir s.network (some s.dataDir)

end Setup

end LedgerNet.Settings
