import LedgerNet.Octets.Utf8
import LedgerNet.Text.Blank
import LedgerNet.Text.Case
import LedgerNet.Text.Pieces

/-!
# Configuration files

A configuration file has sections in square brackets and lines that give a key a value, with `=` or
`:` between them. A line that is indented deeper than the key's goes on with its value, a line that
starts with `#` or `;` is a comment, and lines before the first section belong to a section of their
own. Sections with one name are one section, and of two values for a key the later counts. The keys
of the section `DEFAULT` are seen in every section that lacks them. A value may refer to other keys
that its section sees as `%(key)s`; `%%` is a percent sign.

`read` reads a file, and `lookUp` finds keys in it: the last section that sees a key decides.
-/

namespace LedgerNet.Settings.Ini

/-! ## Errors -/

/-- Why a configuration file was refused. -/
inductive Error where
  /-- The file is not text. -/
  | notText
  /-- A line is neither a section nor a key with a value. -/
  | badLine
  /-- A percent sign starts no reference. -/
  | badReference
  /-- A reference names a key that the section does not see. -/
  | missingKey
  /-- References are nested too deeply. -/
  | tooDeep
  deriving DecidableEq, Repr

/-! ## Lines -/

/-- Text with every line break as a line feed. -/
def unifyBreaks : List Char → List Char
  | [] => []
  | '\r' :: '\n' :: rest => '\n' :: unifyBreaks rest
  | c :: rest => (if c = '\r' then '\n' else c) :: unifyBreaks rest

/-- The lines of a text; nothing stands behind a line break at its end. -/
def lines (cs : List Char) : List (List Char) :=
  let ps := Text.pieces '\n' cs
  if ps.getLast? = some [] then ps.dropLast else ps

/-- What a line says on its own. -/
inductive Line where
  /-- Nothing at all. -/
  | empty
  | comment
  /-- Something behind some blanks. -/
  | content (indent : Nat) (text : List Char)
  deriving DecidableEq, Repr

/-- What a line says. -/
def Line.ofChars (cs : List Char) : Line :=
  match Text.trim cs with
  | [] => .empty
  | c :: text =>
    if c = '#' || c = ';' then .comment
    else .content (cs.takeWhile Text.isBlank).length (c :: text)

/-- The name in the brackets of a section line: from the first bracket to the last one. -/
def sectionName? : List Char → Option (List Char)
  | '[' :: rest =>
    match (rest.reverse.dropWhile (· != ']')).drop 1 with
    | [] => none
    | c :: cs => some (c :: cs).reverse
  | _ => none

/-- Key and value of a line, cut at the first `=` or `:`; the key may not be empty. -/
def keyValue? (cs : List Char) : Option (String × List Char) :=
  let isKey (c : Char) : Bool := c != '=' && c != ':'
  match cs.dropWhile isKey with
  | [] => none
  | _ :: value =>
    match Text.trimRight (cs.takeWhile isKey) with
    | [] => none
    | key => some (Text.lower (String.ofList key), Text.trim value)

/-! ## Sections -/

/-- Keys with the lines of their values, in order of first appearance. -/
abbrev Entries := List (String × List (List Char))

/-- The name of the section whose keys every section sees. -/
def defaultName : String := "DEFAULT"

/-- The name of the section that precedes the first section line. -/
def firstName : String := "inception"

/-- Sections by name in order of first appearance, and the keys that every section sees. -/
structure File where
  sections : List (String × Entries) := []
  defaults : Entries := []
  deriving DecidableEq, Repr

/-- Entries with the lines of a key changed, or added at the end. -/
def updateKey (key : String) (change : List (List Char) → List (List Char)) : Entries → Entries
  | [] => [(key, change [])]
  | (k, v) :: rest =>
    if k = key then (k, change v) :: rest else (k, v) :: updateKey key change rest

/-- Sections with the entries of one changed, which is added at the end if it is not there. -/
def updateSection (name : String) (change : Entries → Entries) :
    List (String × Entries) → List (String × Entries)
  | [] => [(name, change [])]
  | (n, e) :: rest =>
    if n = name then (n, change e) :: rest else (n, e) :: updateSection name change rest

/-- The file with the entries of a section changed. -/
def File.update (f : File) (name : String) (change : Entries → Entries) : File :=
  if name = defaultName then { f with defaults := change f.defaults }
  else { f with sections := updateSection name change f.sections }

/-! ## Reading -/

/-- Where reading stands. -/
structure State where
  file : File
  /-- The current section. -/
  current : String
  /-- The key whose value may go on. -/
  key : Option String := none
  /-- The indent of the line of that key. -/
  indent : Nat := 0
  /-- Whether a line was refused. -/
  refused : Bool := false
  deriving DecidableEq, Repr

/-- The state with one more line of the current value. -/
def State.extend (s : State) (key : String) (text : List Char) : State :=
  { s with file := s.file.update s.current (updateKey key (· ++ [text])) }

/-- The state after a line that starts a section or a key. -/
def State.start (s : State) (indent : Nat) (text : List Char) : State :=
  let s := { s with indent }
  match sectionName? text with
  | some name =>
    let name := String.ofList name
    { s with file := s.file.update name id, current := name, key := none }
  | none =>
    match keyValue? text with
    | some (key, value) =>
      { s with file := s.file.update s.current (updateKey key fun _ => [value]), key := some key }
    | none => { s with refused := true }

/-- The state after a line. -/
def State.next (s : State) (line : Line) : State :=
  match line, s.key with
  | .comment, _ => s
  | .empty, none => s
  | .empty, some key => s.extend key []
  | .content indent text, none => s.start indent text
  | .content indent text, some key =>
    if s.indent < indent then s.extend key text else s.start indent text

/-- The sections of a text. -/
def readChars (cs : List Char) : Except Error File :=
  let s := ((lines (unifyBreaks cs)).map Line.ofChars).foldl State.next
    { file := ({} : File).update firstName id, current := firstName }
  if s.refused then .error .badLine else .ok s.file

/-- The sections of a file. -/
def read (contents : Octets) : Except Error File :=
  match contents.toText? with
  | none => .error .notText
  | some s => readChars s.toList

/-! ## Values -/

/-- The lines of a value as one text. -/
def joinLines (ls : List (List Char)) : List Char :=
  Text.trimRight (ls.intersperse ['\n']).flatten

/-- The value that a section sees for a key: its own, or else the default. -/
def rawValue? (f : File) (e : Entries) (key : String) : Option (List Char) :=
  ((e.lookup key).orElse fun _ => f.defaults.lookup key).map joinLines

/-- A piece of a value. -/
inductive Piece where
  | plain (c : Char)
  | reference (key : String)
  /-- A percent sign that starts no reference. -/
  | malformed
  deriving DecidableEq, Repr

/-- The pieces of a value. -/
def pieces (cs : List Char) : List Piece :=
  match cs with
  | [] => []
  | '%' :: '%' :: rest => .plain '%' :: pieces rest
  | '%' :: '(' :: rest =>
    let name := rest.takeWhile (· != ')')
    match rest.drop name.length with
    | ')' :: 's' :: after =>
      if name.isEmpty then [.malformed]
      else .reference (Text.lower (String.ofList name)) :: pieces (rest.drop (name.length + 2))
    | _ => [.malformed]
  | '%' :: _ => [.malformed]
  | c :: rest => .plain c :: pieces rest
termination_by cs.length
decreasing_by all_goals simp only [List.length_cons, List.length_drop]; omega

/-- How deeply references may be nested. -/
def maxDepth : Nat := 10

/-- A value with its references replaced, by values with theirs replaced. -/
def expand (value? : String → Option (List Char)) :
    (depth : Nat) → List Char → Except Error (List Char)
  | 0, _ => .error .tooDeep
  | depth + 1, cs => do
    let parts ← (pieces cs).mapM fun
      | .plain c => return [c]
      | .malformed => throw .badReference
      | .reference key =>
        match value? key with
        | none => throw .missingKey
        | some v => if v.contains '%' then expand value? depth v else return v
    return parts.flatten

/-! ## Looking up -/

/-- The keys that a section sees: its own, and then the defaults that it lacks. -/
def keysOf (f : File) (e : Entries) : List String :=
  let own := e.map Prod.fst
  own ++ (f.defaults.map Prod.fst).filter fun k => !own.contains k

/-- The value that a section sees for a key, with its references replaced. -/
def valueOf (f : File) (e : Entries) (key : String) : Except Error String := do
  let raw := (rawValue? f e key).getD []
  let cs ← expand (rawValue? f e) maxDepth raw
  return String.ofList cs

/-- The wanted keys that a section sees, with their values. -/
def found (f : File) (wanted : List String) (e : Entries) :
    Except Error (List (String × String)) :=
  ((keysOf f e).filter wanted.contains).mapM fun key => do return (key, ← valueOf f e key)

/-- The wanted keys that any section sees, each with the value that the last such section sees. -/
def lookUp (f : File) (wanted : List String) : Except Error (List (String × String)) := do
  let all ← f.sections.mapM fun (_, e) => found f wanted e
  let seen := all.flatten.reverse
  return wanted.eraseDups.filterMap fun key => (seen.lookup key).map fun v => (key, v)

end LedgerNet.Settings.Ini
