import LedgerNet.Chain.Network
import LedgerNet.Text.Case

/-!
# Places for data

Where a program keeps its data: a directory of the system for the program, and in it one for each
network but the main one.
-/

namespace LedgerNet.Settings

/-! ## The program's directory -/

/-- The place of something under a home directory. -/
def under (home : String) (names : List String) : String := names.foldl Path.join home

/-- The directory for a program's data, from the name of the system, the home directory, and the
home directory that the environment has instead of an empty one. On one system it is the directory
that the system itself has for the data of a program of some name, which `systemDir` tells. A name
of no letters or one dot stands for the current directory, which is also used where there is no
home; dots in front of any other name do not count. -/
def programDir (systemDir : String → String) (name system home : String)
    (envHome : Option String) : String :=
  if name = "" || name = "." then "."
  else
    let name := String.ofList (name.toList.dropWhile (· == '.'))
    let title := Text.capitalize name
    let homePath := if home.isEmpty then envHome.getD "" else home
    if system = "Windows" then systemDir title
    else if homePath.isEmpty then "."
    else if system = "Darwin" then under homePath ["Library", "Application Support", title]
    else under homePath ["." ++ Text.lower name]

/-- The name of this program. -/
def programName : String := "inception"

/-! ## A network's directory -/

/-- The directory for a network's data in a directory for all. -/
def networkDir (p : Chain.Network) (base : String) : Except Value.Fault String :=
  if !p.dataDirSuffix.isTrue then .ok base
  else match p.dataDirSuffix with
    | .text suffix => .ok (Path.join base suffix)
    | _ => .error .unsuitable

/-- The directory for a network's data, in the default directory if none is given. -/
def networkDataDir (defaultDir : String) (p : Chain.Network) (base : Option String) :
    Except Value.Fault String :=
  match base with
  | none | some "" => networkDir p defaultDir
  | some base => networkDir p base

end LedgerNet.Settings
