import LedgerNet.Log.Record

/-!
# Loggers

Loggers have names with dots between the parts, and stand below one another. A logger without a
level of its own has that of the nearest logger above it that is set.

A new logger is put below the nearest one above it that is there, and waits at the names on the way
that have no logger yet. Once such a name gets its logger, those that wait there are put below it,
unless the name of the logger they stand below starts with the new name. The root, which every
logger without another one above it stands below, takes part in that under its own name, so a
beginning of the word `root` never gets the loggers that waited for it.
-/

namespace LedgerNet.Log

/-! ## Names -/

/-- The reversed names above a name, nearest first; `skip` says that the next character cannot end
a name. -/
def outerNames (skip : Bool) : List Char → List (List Char)
  | [] => []
  | c :: rest =>
    if c = '.' && !skip then (if rest.isEmpty then [] else rest :: outerNames true rest)
    else outerNames false rest

/-- The names above a name, nearest first. -/
def above (name : String) : List String :=
  (outerNames false name.toList.reverse).map fun cs => String.ofList cs.reverse

/-! ## Trees of loggers -/

/-- A logger: its own level, and the name of the logger above it unless that is the root. -/
structure Logger where
  level : Int := notSet
  parent : Option String := none
  deriving DecidableEq, Repr

/-- The loggers by name, and for names without one the loggers that wait there. -/
structure Loggers where
  byName : List (String × Logger) := []
  /-- A name that has no logger, with the name of a logger that waits there. -/
  waiting : List (String × String) := []
  deriving DecidableEq, Repr

namespace Loggers

/-- The name of the root. -/
def rootName : String := "root"

/-- Whether there is a logger of the name. -/
def contains (ls : Loggers) (name : String) : Bool := (ls.byName.lookup name).isSome

/-- The nearest of some names that has a logger, and the names before it. -/
def nearest (ls : Loggers) : List String → Option String × List String
  | [] => (none, [])
  | outer :: rest =>
    if ls.contains outer then (some outer, [])
    else
      let (found, passed) := ls.nearest rest
      (found, outer :: passed)

/-- The loggers with those that wait at a name put below its logger. -/
def adopt (ls : Loggers) (name : String) : Loggers :=
  let waits (child : String) : Bool := ls.waiting.contains (name, child)
  { byName := ls.byName.map fun (child, l) =>
      if waits child && !(l.parent.getD rootName).startsWith name then
        (child, { l with parent := some name })
      else (child, l)
    waiting := ls.waiting.filter (·.1 != name) }

/-- The loggers with one of the name. -/
def insert (ls : Loggers) (name : String) : Loggers :=
  if ls.contains name then ls
  else
    let ls := ls.adopt name
    let (parent, passed) := ls.nearest (above name)
    { byName := ls.byName ++ [(name, { parent })]
      waiting := ls.waiting ++ passed.map fun outer => (outer, name) }

/-- The loggers, each with the level that a function has for its name. -/
def setLevels (ls : Loggers) (level : String → Int) : Loggers :=
  { ls with byName := ls.byName.map fun (name, l) => (name, { l with level := level name }) }

/-- The loggers with the level of one of them set. -/
def setLevel (ls : Loggers) (name : String) (level : Int) : Loggers :=
  { ls with
    byName := ls.byName.map fun (n, l) => (n, if n = name then { l with level } else l) }

/-- The first level that is set, of a logger and those above it, of which at most `fuel` are looked
at. -/
def levelWithin (ls : Loggers) : (fuel : Nat) → (name : String) → Int
  | 0, _ => notSet
  | fuel + 1, name =>
    match ls.byName.lookup name with
    | none => notSet
    | some l =>
      if l.level ≠ notSet then l.level
      else match l.parent with
        | none => notSet
        | some outer => ls.levelWithin fuel outer

/-- The first level that is set, of a logger and those above it. Every logger is named longer than
the one above it, so no more are looked at than its name has characters, and itself. -/
def effectiveLevel (ls : Loggers) (name : String) : Int := ls.levelWithin (name.length + 1) name

end Loggers

end LedgerNet.Log
