import LedgerNet.Settings.Setup

/-!
# The command line program

Shows the setup that a command line and a configuration file give: the network, the directory for
its data, and the levels of loggers. A setup that is refused ends the program with the exit code and
the message of the refusal.
-/

namespace LedgerNet.Settings

/-- The lines that show a setup. -/
def Setup.lines (s : Setup) (defaultDir : String) : List String :=
  let dir := (s.networkDataDir defaultDir).toOption.getD s.dataDir
  [s!"network {s.network.networkId.toText}", s!"data directory {dir}",
   s!"log level {Log.levelName s.levels.default}"] ++
    s.levels.byName.map fun (name, level) => s!"log level of {name} {Log.levelName level}"

/-- The end of a program whose setup was refused. -/
def SetupError.exit (e : SetupError) : Nat × String :=
  e.exit?.getD (1, "the configuration file cannot be read")

/-- The contents of a file, if it can be read. -/
def readContents (path : String) : IO (Option Octets) := do
  try
    let b ← IO.FS.readBinFile path
    return some b.toList
  catch _ => return none

end LedgerNet.Settings

open LedgerNet.Settings in
/-- Shows the setup that the arguments give. -/
def main (arguments : List String) : IO UInt32 := do
  let home ← IO.getEnv "HOME"
  -- The system is taken as one that has no directory of its own for this.
  let defaultDir := programDir id programName "" "" home
  let path := (CommandLine.read arguments).toOption.map (Setup.configFileOf defaultDir)
  let contents ← readContents (path.getD "")
  let contentsAt (p : String) : Option LedgerNet.Octets := if path = some p then contents else none
  match Setup.read defaultDir contentsAt arguments with
  | .ok s =>
    (s.lines defaultDir).forM IO.println
    return 0
  | .error e =>
    let (code, message) := e.exit
    IO.eprintln message
    return code.toUInt32
