import LedgerNet.Text.Pieces

/-!
# Paths

A path is names with slashes between them. With a slash at its start it leads from the root of the
files, and else from the working directory. A place is the names that lead down to something from
the root, without any dots. `normal` has the place that a path names if every name before a pair of
dots is that of a directory.
-/

namespace LedgerNet.Path

/-- Whether a path leads from the root. -/
def isAbsolute (path : String) : Bool := path.toList.head? == some '/'

/-- Whether a path has a slash behind the last name. -/
def endsInSlash (path : String) : Bool := path.toList.getLast? == some '/'

/-- A path with a second one behind it; an absolute second one stands alone. -/
def join (a b : String) : String :=
  if isAbsolute b then b
  else if a.isEmpty || endsInSlash a then a ++ b
  else a ++ "/" ++ b

/-- The names along a path, without empty ones. -/
def names (path : String) : List String :=
  ((Text.pieces '/' path.toList).filter (!·.isEmpty)).map String.ofList

/-- The names along a path, each with the number of bytes up to its end. -/
def heads (path : String) : List (String × Nat) :=
  let step (s : Nat × List (String × Nat)) (piece : List Char) : Nat × List (String × Nat) :=
    let name := String.ofList piece
    let stop := s.1 + name.utf8ByteSize
    (stop + 1, if name.isEmpty then s.2 else s.2 ++ [(name, stop)])
  ((Text.pieces '/' path.toList).foldl step (0, [])).2

/-- The names along a path for looking it up: a slash at the end asks for a directory. -/
def target (path : String) : List String :=
  names path ++ (if endsInSlash path then ["."] else [])

/-- Whether a name leads down, as all do but a dot and a pair of dots. -/
abbrev LeadsDown (name : String) : Prop := name ≠ "." ∧ name ≠ ".."

/-- Whether a name or a path holds the zero character. -/
def holdsZero (name : String) : Bool := name.toList.contains (Char.ofNat 0)

/-- The greatest number of bytes in a name. -/
def nameLimit : Nat := 255

/-- Whether a file or a directory can have the name. -/
def isName (name : String) : Bool :=
  !name.isEmpty && decide (LeadsDown name) && !name.toList.contains '/' && !holdsZero name &&
    decide (name.utf8ByteSize ≤ nameLimit)

/-- The place that a name leads to from another place. Nothing is above the root, from where a pair
of dots leads back to it. -/
def next (place : List String) (name : String) : List String :=
  if name = "." then place else if name = ".." then place.dropLast else place ++ [name]

/-- The place that names lead to if single dots are dropped and each pair of dots takes back what
stands before it. -/
def normal (start names : List String) : List String := names.foldl next start

/-- The path to a place, as a path that names it starts: two slashes at its start stay two, and any
more are one. -/
def ofPlace (path : String) (place : List String) : String :=
  let slashes := path.toList.takeWhile (· == '/')
  (if slashes.length = 2 then "//" else "/") ++ String.intercalate "/" place

/-- The least number of bytes that are too many for a path. -/
def sizeLimit : Nat := 4096

end LedgerNet.Path
