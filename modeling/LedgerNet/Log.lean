import LedgerNet.FileTree
import LedgerNet.Log.Loggers

/-!
# Logs

A record goes to every handler if its level reaches the effective level of its logger. `configure`
gives every logger the level that the settings have for its name, or else the default, so the levels
follow the settings however they change. A log file grows without end: older parts of it are not put
aside.
-/

namespace LedgerNet

namespace Log

/-! ## Handlers -/

/-- Where records go. -/
inductive Handler where
  | console
  | file (place : List String)
  deriving DecidableEq, Repr

/-- Whether two handlers serve the same purpose, so that one replaces the other. -/
def Handler.alike : Handler → Handler → Bool
  | console, console => true
  | file _, file _ => true
  | _, _ => false

/-- The name of a handler's purpose. -/
def Handler.purpose : Handler → String
  | console => "stdout"
  | file _ => "file"

/-- The handlers with one put in the place of those alike. -/
def replaceAlike (h : Handler) (hs : List Handler) : List Handler :=
  hs.filter (fun g => !g.alike h) ++ [h]

/-- The handlers with the console, if there is one, in the place of an earlier one. -/
def withConsole (hasConsole : Bool) (hs : List Handler) : List Handler :=
  if hasConsole then replaceAlike .console hs else hs

/-! ## The host -/

/-- What the log takes from the system that a program runs on. -/
structure Host where
  /-- Whether there is a console. A program that is started without one does not log to it. -/
  hasConsole : Bool := true
  /-- When and where the next record is made. It is told from the record and the files, to which
  every record adds that is written, so that equal records can have different origins. -/
  origin : FileTree → Record → Origin := fun _ _ => {}

end Log

/-! ## Settings -/

/-- Loggers with their levels, the levels set by name, and the handlers. -/
structure Logging where
  /-- The level of loggers without a level by name. -/
  defaultLevel : Int := Log.info
  /-- Levels by name, the latest first. -/
  levels : List (String × Int) := []
  loggers : Log.Loggers := {}
  handlers : List Log.Handler := []
  deriving DecidableEq, Repr

namespace Logging

/-- The level that the settings have for a name. -/
def levelFor (l : Logging) (name : String) : Int := (l.levels.lookup name).getD l.defaultLevel

/-- The settings with a logger of the name. -/
def get (l : Logging) (name : String) : Logging :=
  { l with loggers := (l.loggers.insert name).setLevel name (l.levelFor name) }

/-- The settings with a new default and more levels by name, which every logger follows. -/
def configure (l : Logging) (defaultLevel : Int) (levels : List (String × Int)) : Logging :=
  let l := { l with defaultLevel, levels := levels.reverse ++ l.levels }
  { l with loggers := l.loggers.setLevels l.levelFor }

/-- Whether a record reaches the handlers. -/
def admits (l : Logging) (r : Log.Record) : Bool :=
  0 < r.level && l.loggers.effectiveLevel r.logger ≤ r.level

/-- The files after a handler has served a line. -/
def serve (line : String) (files : FileTree) : Log.Handler → FileTree
  | .console => files
  | .file place => files.append place (line ++ "\n")

/-- The files after a record has gone to the handlers; `none` if it reaches them and its level
cannot be written. -/
def emit? (l : Logging) (host : Log.Host) (files : FileTree) (r : Log.Record) :
    Option FileTree :=
  if !l.admits r then some files
  else if r.isWritable then
    some (l.handlers.foldl (serve (r.line (host.origin files r))) files)
  else none

/-- Sets levels, and the handlers of records: a file if a path is given, and the console if there is
one. The levels are set even if the file cannot be opened. -/
def prepare (l : Logging) (hasConsole : Bool) (files : FileTree) (path : Option String)
    (defaultLevel : Int) (levels : List (String × Int)) : Logging × Except FileError FileTree :=
  let l := l.configure defaultLevel levels
  match path with
  | none | some "" => ({ l with handlers := Log.withConsole hasConsole l.handlers }, .ok files)
  | some path =>
    match files.openFile path with
    | .error e => (l, .error e)
    | .ok (place, files) =>
      let handlers := Log.replaceAlike (.file place) l.handlers
      ({ l with handlers := Log.withConsole hasConsole handlers }, .ok files)

/-- The purposes of the handlers, in order. -/
def purposes (l : Logging) : List String :=
  (l.handlers.map Log.Handler.purpose).mergeSort fun a b => decide (a ≤ b)

end Logging

end LedgerNet
