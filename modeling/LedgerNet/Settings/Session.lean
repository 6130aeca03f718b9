import LedgerNet.Settings.Setup

/-!
# Sessions

The state of a run: its files, its log, the active network and the settings. The first `load` that
succeeds reads the settings, makes the data directory, starts logging to it and fixes the network;
later ones answer the same settings and change nothing. A `load` that fails leaves the network and
the settings as they were.
-/

namespace LedgerNet.Settings

open Chain

/-- The state of a run. -/
structure Session where
  host : Log.Host := {}
  files : FileTree := {}
  logging : Logging := {}
  selection : Selection := { current := Networks.main }
  setup : Option Setup := none

/-- Why loading failed. -/
inductive LoadError where
  | setup (e : SetupError)
  /-- The data directory is a file. -/
  | blocked (path : String)
  | files (e : FileError)
  | select (e : SelectionError)
  | value (e : Value.Fault)
  /-- The level of a record has too many digits to be written. -/
  | unwritable (level : Int)

/-- How the program ends: its exit code and what it has to say. -/
def LoadError.exit? : LoadError → Option (Nat × String)
  | .setup e => e.exit?
  | .blocked path => some (1, s!"data directory {path} is a file")
  | .files _ | .select _ | .value _ | .unwritable _ => none

namespace Session

/-- The name of the log file in a network's data directory. -/
def logName : String := "inception.log"

/-- The logger of sessions. -/
def logger : String := "CONFIG"

/-- A session over some files, with the loggers that are there from the start. -/
def start (host : Log.Host) (files : FileTree) : Session where
  host
  files
  logging := [Genesis.logger, Selection.logger, logger].foldl Logging.get {}

/-! ## Parts -/

/-- A step of a session, which keeps what was done before it failed. -/
abbrev Run := EStateM LoadError Session

/-- A result as a step. -/
def lift {ε α : Type} (wrap : ε → LoadError) : Except ε α → Run α
  | .ok x => pure x
  | .error e => throw (wrap e)

/-- A record handed to the log. -/
def emitOne (r : Log.Record) : Run Unit := do
  let s ← get
  match s.logging.emit? s.host s.files r with
  | some files => set { s with files }
  | none => throw (.unwritable r.level)

/-- Records handed to the log, in order. -/
def emit (rs : List Log.Record) : Run Unit := rs.forM emitOne

/-- Makes sure of the data directory. -/
def makeDataDir (path : String) : Run Unit := do
  let s ← get
  let (files, outcome) := s.files.ensureDirectory path
  set { s with files }
  match outcome with
  | .present => return ()
  | .blocked => throw (.blocked path)
  | .failed e => throw (.files e)

/-- Starts logging to a file. -/
def startLog (path : String) (levels : Levels) : Run Unit := do
  let s ← get
  let (logging, outcome) :=
    s.logging.prepare s.host.hasConsole s.files (some path) levels.default levels.byName
  set { s with logging }
  let files ← lift .files outcome
  modify fun s => { s with files }

/-- A step of the selection. What it logs goes to the log, also if it fails. -/
def onSelection {α : Type} (r : Selection.Run α) : Run α := do
  let s ← get
  match r { selection := s.selection } with
  | .ok x j =>
    set { s with selection := j.selection }
    emit j.records
    return x
  | .error e j =>
    set { s with selection := j.selection }
    emit j.records
    throw (.select e)

/-- Selects a network by name. -/
def selectNamed (name : Value) : Run Network :=
  onSelection (Selection.selectNamed findNetwork name)

/-- Selects a network by flags. -/
def selectByFlags (testnet regtest : Bool) : Run Network :=
  onSelection (Selection.selectByFlags findNetwork testnet regtest)

/-- Forbids further selection. -/
def close : Run Unit := onSelection Selection.close

/-- A record from a logger of the name, which is made if it is not there. -/
def log (r : Log.Record) : Run Unit := do
  modify fun s => { s with logging := s.logging.get r.logger }
  emit [r]

/-! ## Loading -/

/-- Reads the settings. -/
def readSetup (defaultDir : String) (arguments : List String) : Run Setup := do
  let c ← lift (.setup ∘ .usage) (CommandLine.read arguments)
  let (setup, records) ← lift .setup (Setup.choose defaultDir (← get).files.contents? c)
  emit records
  lift .setup (setup.withLevels c)

/-- Starts a run with the settings. -/
def begin (defaultDir : String) (setup : Setup) : Run Unit := do
  let dir ← lift .value (setup.networkDataDir defaultDir)
  makeDataDir dir
  startLog (Path.join dir logName) setup.levels
  let _ ← selectByFlags setup.testnet setup.regtest
  close
  emit [⟨logger, Log.info, s!"using data directory {dir}"⟩]
  modify fun s => { s with setup := some setup }

/-- The settings: those that were loaded, or else those that the arguments and the files give. -/
def load (defaultDir : String) (arguments : List String) : Run Setup := do
  match (← get).setup with
  | some setup => return setup
  | none =>
    let setup ← readSetup defaultDir arguments
    begin defaultDir setup
    return setup

end Session

end LedgerNet.Settings
