import LedgerNet.Octets.Utf8
import LedgerNet.Path

/-!
# File trees

A tree of directories and files with a working directory, as far as a program that keeps its data in
one directory needs it: looking up, making directories, and creating and extending files. The
program may do all of that everywhere, and there are no links.
-/

namespace LedgerNet

/-! ## Trees -/

/-- Why an operation on files failed. -/
inductive FileError where
  /-- There is nothing at the path. -/
  | notFound
  /-- A name along the path is that of a file. -/
  | notDirectory
  /-- The path is that of a directory. -/
  | isDirectory
  /-- There is something at the path. -/
  | alreadyExists
  /-- The path holds the zero character. -/
  | zeroCharacter
  /-- The path, or a name along it, is too long. -/
  | tooLong
  deriving DecidableEq, Repr

/-- What stands at a place. -/
inductive FileTree.Entry where
  | file (contents : Octets)
  | directory
  deriving DecidableEq, Repr

/-- Files and directories by their places. -/
structure FileTree where
  /-- The place of the working directory, from which relative paths lead. -/
  workingDir : List String := []
  entries : List (List String × FileTree.Entry) := []
  /-- The working directory is told by the names on the way down to it. -/
  workingDir_names : workingDir.all Path.isName := by decide +kernel
  deriving DecidableEq, Repr

namespace FileTree

/-- What stands at a place. The working directory and those that hold it are always there. -/
def get? (t : FileTree) (place : List String) : Option Entry :=
  if place.isPrefixOf t.workingDir then some .directory else t.entries.lookup place

/-- Refuses a place that is no directory. -/
def checkDirectory (t : FileTree) (place : List String) : Except FileError Unit :=
  match t.get? place with
  | some .directory => .ok ()
  | some (.file _) => .error .notDirectory
  | none => .error .notFound

/-- The place that names lead to from another place. Every place on the way has to be a directory;
at the last there may be nothing. -/
def walk (t : FileTree) : (here : List String) → (names : List String) →
    Except FileError (List String)
  | here, [] => .ok here
  | here, name :: names => do
    t.checkDirectory here
    if Path.nameLimit < name.utf8ByteSize then throw .tooLong
    t.walk (Path.next here name) names

/-- The place where a path starts. -/
def startOf (t : FileTree) (path : String) : List String :=
  if Path.isAbsolute path then [] else t.workingDir

/-- What stands at the end of a path. -/
def look (t : FileTree) (path : String) : Option Entry :=
  if path.isEmpty || Path.holdsZero path || Path.sizeLimit ≤ path.utf8ByteSize then none
  else
    match t.walk (t.startOf path) (Path.target path) with
    | .ok place => t.get? place
    | .error _ => none

/-- The contents of the file that a path leads to. -/
def contents? (t : FileTree) (path : String) : Option Octets :=
  match t.look path with
  | some (.file b) => some b
  | _ => none

/-- A place set to a file or a directory. -/
def set (t : FileTree) (place : List String) (e : Entry) : FileTree :=
  { t with entries := t.entries.filter (·.1 != place) ++ [(place, e)] }

/-! ## Directories -/

/-- A new directory at the end of a path of some size, by the names along the path and the place
where it starts; its parent has to be there. -/
def makeDirectory (t : FileTree) (start names : List String) (size : Nat) :
    Except FileError FileTree := do
  if names.any Path.holdsZero then throw .zeroCharacter
  if Path.sizeLimit ≤ size then throw .tooLong
  if names.isEmpty then throw .notFound
  let place ← t.walk start names
  match t.get? place with
  | some _ => throw .alreadyExists
  | none => return t.set place .directory

/-- Whether a path of some size leads to something. -/
def leads (t : FileTree) (start names : List String) (size : Nat) : Bool :=
  match t.walk start names with
  | .ok place => decide (size < Path.sizeLimit) && (t.get? place).isSome
  | .error _ => false

/-- A tree with a new directory, or as it was with the error. -/
def makeLast (t : FileTree) (start names : List String) (size : Nat) :
    FileTree × Option FileError :=
  match t.makeDirectory start names size with
  | .ok t => (t, none)
  | .error e => (t, some e)

/-- A new directory and those of its parents that are missing, by the names along a path with the
sizes up to them, the last one first. A parent that turns out to be there is no error. What was made
before an error stays. -/
def makeParents (t : FileTree) (start : List String) :
    (heads : List (String × Nat)) → FileTree × Option FileError
  | [] => (t, some .notFound)
  | (last, size) :: outer =>
    let names := (outer.map Prod.fst).reverse
    match outer with
    | [] => t.makeLast start (names ++ [last]) size
    | (_, outerSize) :: _ =>
      if t.leads start names outerSize then t.makeLast start (names ++ [last]) size
      else
        match t.makeParents start outer with
        | (t, none) | (t, some .alreadyExists) =>
          if last = "." then (t, none) else t.makeLast start (names ++ [last]) size
        | (t, some e) => (t, some e)

/-- A new directory at the end of a path, with its parents. -/
def makePath (t : FileTree) (path : String) : FileTree × Option FileError :=
  match (Path.heads path).reverse with
  | [] => t.makeParents (t.startOf path) []
  -- what follows the last name counts as part of the path
  | (last, _) :: outer => t.makeParents (t.startOf path) ((last, path.utf8ByteSize) :: outer)

/-- How making sure of a directory ended. -/
inductive Ensured where
  /-- The directory is there. -/
  | present
  /-- A file is in its place. -/
  | blocked
  | failed (e : FileError)
  deriving DecidableEq, Repr

/-- Makes sure that a directory is there, with its parents. -/
def ensureDirectory (t : FileTree) (path : String) : FileTree × Ensured :=
  match t.look path with
  | some .directory => (t, .present)
  | some (.file _) => (t, .blocked)
  | none =>
    match t.makePath path with
    | (t, none) => (t, .present)
    | (t, some e) => (t, .failed e)

/-! ## Files -/

/-- The place that a path comes to, with the dots in it resolved by name. -/
def placeOf (t : FileTree) (path : String) : List String :=
  Path.normal (t.startOf path) (Path.names path)

/-- The place of a file that is opened for adding to it, by a path of some size to a place, and the
tree in which it is there. -/
def openPlace (t : FileTree) (place : List String) (size : Nat) :
    Except FileError (List String × FileTree) := do
  if place.any Path.holdsZero then throw .zeroCharacter
  if Path.sizeLimit ≤ size then throw .tooLong
  let place ← t.walk [] place
  match t.get? place with
  | some .directory => throw .isDirectory
  | some (.file _) => return (place, t)
  | none => return (place, t.set place (.file []))

/-- The place of a file that is opened for adding to it, and the tree in which it is there. It is
looked up from the root. -/
def openFile (t : FileTree) (path : String) : Except FileError (List String × FileTree) :=
  t.openPlace (t.placeOf path) (Path.ofPlace path (t.placeOf path)).utf8ByteSize

/-- What stands at a place, with text put behind it if it is a file. -/
def Entry.append (text : String) : Entry → Entry
  | .file b => .file (b ++ Octets.ofText text)
  | .directory => .directory

/-- The tree with text put behind the contents of the file at a place, if there is one. -/
def append (t : FileTree) (place : List String) (text : String) : FileTree :=
  { t with entries := t.entries.map fun (p, e) => (p, if p = place then e.append text else e) }

end FileTree

end LedgerNet
