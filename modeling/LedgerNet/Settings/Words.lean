import LedgerNet.Log
import LedgerNet.Text.Blank
import LedgerNet.Text.Case
import LedgerNet.Text.Pieces

/-!
# Words in settings

The words for levels and for truth values, read without regard to letter case, and the text of the
log level option: one level, or pairs of a logger's name and a level.
-/

namespace LedgerNet.Settings

/-! ## Single words -/

/-- The words for levels. -/
def levelWords : List (String × Int) :=
  [("critical", Log.critical), ("error", Log.error), ("warning", Log.warning), ("info", Log.info),
   ("debug", Log.debug), ("notset", Log.notSet), ("0", Log.notSet)]

/-- The level of a word. -/
def readLevel? (s : String) : Option Int := levelWords.lookup (Text.lower s)

/-- The words for truth values. -/
def truthWords : List (String × Bool) :=
  [("1", true), ("true", true), ("yes", true), ("on", true),
   ("0", false), ("false", false), ("no", false), ("off", false)]

/-- A word without the blanks around it, in lower case. -/
def normalWord (s : String) : String := Text.lower (String.ofList (Text.trim s.toList))

/-- The truth value of a word; an unknown word is given back as it was looked up. -/
def readTruth (s : String) : Except String Bool :=
  match truthWords.lookup (normalWord s) with
  | some b => .ok b
  | none => .error (normalWord s)

/-! ## The log level option -/

/-- The default level and the levels by name that the option sets. -/
structure Levels where
  default : Int := Log.info
  byName : List (String × Int) := []
  deriving DecidableEq, Repr

/-- Entries with a key set to a value: in its old place, or at the end. -/
def setKey {α : Type} (key : String) (value : α) : List (String × α) → List (String × α)
  | [] => [(key, value)]
  | row :: rows => if row.1 = key then (key, value) :: rows else row :: setKey key value rows

/-- The name and the level of a pair. -/
def readPair? (cs : List Char) : Option (String × Int) :=
  match Text.pieces ':' cs with
  | [name, level] => do
    let n ← readLevel? (String.ofList level)
    return (String.ofList name, n)
  | _ => none

/-- The levels that the text of the option stands for. -/
def readLevels? (s : String) : Option Levels :=
  let cs := s.toList
  if cs.contains ',' || cs.contains ':' then do
    let pairs ← (Text.pieces ',' cs).mapM readPair?
    return { byName := pairs.foldl (fun rows (name, level) => setKey name level rows) [] }
  else do
    let n ← readLevel? s
    return { default := n }

end LedgerNet.Settings
