import LedgerNet.Text.Numeral

/-!
# Log records

What loggers have to say, with levels that tell how much it matters. `Record.line` is the line of a
log file, which also tells when and where the record was made.
-/

namespace LedgerNet.Log

/-! ## Levels -/

/-- A program cannot go on. -/
def critical : Int := 50

/-- Something failed. -/
def error : Int := 40

/-- Something unexpected happened. -/
def warning : Int := 30

/-- Things go as expected. -/
def info : Int := 20

/-- Of interest in finding a fault. -/
def debug : Int := 10

/-- No level of its own. -/
def notSet : Int := 0

/-- The name of a level. -/
def levelName (level : Int) : String :=
  if level = critical then "CRITICAL"
  else if level = error then "ERROR"
  else if level = warning then "WARNING"
  else if level = info then "INFO"
  else if level = debug then "DEBUG"
  else if level = notSet then "NOTSET"
  else s!"Level {level}"

/-! ## Records -/

/-- What a logger has to say. -/
structure Record where
  logger : String
  level : Int
  message : String
  deriving DecidableEq, Repr

/-- When a record was made, and by which line of the program. -/
structure Origin where
  time : String := ""
  moduleName : String := ""
  function : String := ""
  line : Nat := 0
  deriving DecidableEq, Repr

namespace Record

/-- Whether the name of the record's level can be written. -/
def isWritable (r : Record) : Bool := Text.isWritable r.level

/-- The line of a log file for a record. -/
def line (r : Record) (o : Origin) : String :=
  s!"{o.time} {o.moduleName} {levelName r.level} {o.function}({o.line}) {r.message}"

end Record

end LedgerNet.Log
