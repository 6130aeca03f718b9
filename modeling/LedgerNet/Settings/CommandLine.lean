import LedgerNet.Text.Digit
import LedgerNet.Text.Quoted

/-!
# The command line

Options start with a dash. A long option may be cut short as long as it stays the only one with that
start, and takes its value from behind an equals sign or from the next argument. Everything else is
collected, in order, as not understood. All arguments are classified before the first option takes
effect, so an ambiguous option is reported before anything else.

Two things differ among the releases of the option parser that reads the arguments, and are here as
in the first releases of its version 3.11. A value of two dashes alone, behind an equals sign,
stands for no value and takes back an earlier one; later patch releases keep the dashes. And letters
behind the short help option are reported from the first that is not the option itself.
-/

namespace LedgerNet.Settings

/-! ## Options -/

/-- The options. -/
inductive Flag where
  | help
  | logLevel
  | dataDir
  | configFile
  | testnet
  | regtest
  deriving DecidableEq, Repr

namespace Flag

/-- The spellings of the options, in order. -/
def spellings : List (String × Flag) :=
  [("-h", help), ("--help", help), ("--loglevel", logLevel), ("--datadir", dataDir),
   ("--conf", configFile), ("--testnet", testnet), ("--regtest", regtest)]

/-- The option as errors name it. -/
def label : Flag → String
  | help => "-h/--help"
  | logLevel => "--loglevel"
  | dataDir => "--datadir"
  | configFile => "--conf"
  | testnet => "--testnet"
  | regtest => "--regtest"

/-- Whether the option takes a value. -/
def takesValue : Flag → Bool
  | logLevel | dataDir | configFile => true
  | help | testnet | regtest => false

end Flag

/-! ## Errors -/

/-- Why a command line was refused. -/
inductive UsageError where
  /-- More than one option starts like this. -/
  | ambiguous (argument : String) (matching : List String)
  /-- The option lacks its value. -/
  | noValue (flag : Flag)
  /-- The option takes no value. -/
  | extraValue (flag : Flag) (value : String)
  /-- Help is wanted, and nothing else happens. -/
  | help
  deriving DecidableEq, Repr

/-- The text of a refusal. -/
def UsageError.message : UsageError → String
  | .ambiguous argument found =>
    s!"ambiguous option: {argument} could match " ++ String.intercalate ", " found
  | .noValue flag => s!"argument {flag.label}: expected one argument"
  | .extraValue flag value =>
    s!"argument {flag.label}: ignored explicit argument " ++ Text.quoted value
  | .help => ""

/-! ## Classifying -/

/-- What an argument is. -/
inductive Word where
  /-- A plain argument. -/
  | plain (text : String)
  /-- The mark behind which every argument is plain. -/
  | endMark
  /-- An option that is not known. -/
  | unknown (text : String)
  /-- An option, and the value that stands in the same argument. -/
  | long (flag : Flag) (value : Option String)
  /-- The short help option with letters behind it, or with what stands behind an equals sign. -/
  | short (letters : List Char)
  deriving DecidableEq, Repr

/-- Whether text reads as a negative number, which is no option. -/
def isNegativeNumber (cs : List Char) : Bool :=
  -- a line feed at the end does not count
  let cs := if cs.getLast? = some '\n' then cs.dropLast else cs
  match cs with
  | '-' :: rest =>
    let whole := rest.takeWhile Text.isDigit
    match rest.dropWhile Text.isDigit with
    | [] => !whole.isEmpty
    | '.' :: part => !part.isEmpty && part.all Text.isDigit
    | _ => false
  | _ => false

/-- Text before and after the first equals sign. -/
def splitValue (cs : List Char) : String × Option String :=
  let isName (c : Char) : Bool := c != '='
  let name := String.ofList (cs.takeWhile isName)
  match cs.dropWhile isName with
  | [] => (name, none)
  | _ :: value => (name, some (String.ofList value))

/-- What an argument with a dash is that spells no option in full. -/
def classifyOther (s : String) (cs : List Char) : Word :=
  if isNegativeNumber cs || cs.contains ' ' then .plain s else .unknown s

/-- What an argument is. -/
def classify (s : String) : Except UsageError Word :=
  let cs := s.toList
  let (name, value) := splitValue cs
  match cs with
  | '-' :: '-' :: _ =>
    match Flag.spellings.lookup s, Flag.spellings.lookup name with
    | some flag, _ => .ok (.long flag none)
    | none, some flag => .ok (.long flag value)
    | none, none =>
      match Flag.spellings.filter fun (spelling, _) => name.toList.isPrefixOf spelling.toList with
      | [] => .ok (classifyOther s cs)
      | [(_, flag)] => .ok (.long flag value)
      | found => .error (.ambiguous s (found.map Prod.fst))
  | ['-', 'h'] => .ok (.long .help none)
  | '-' :: 'h' :: '=' :: letters => .ok (.short letters)
  | '-' :: 'h' :: letters => .ok (.short letters)
  | ['-'] => .ok (.plain s)
  | '-' :: _ => .ok (classifyOther s cs)
  | _ => .ok (.plain s)

/-- What the arguments are; behind the end mark all are plain. -/
def classifyAll : List String → Except UsageError (List Word)
  | [] => .ok []
  | s :: rest =>
    if s = "--" then .ok (.endMark :: rest.map .plain)
    else do
      let word ← classify s
      let words ← classifyAll rest
      return word :: words

/-! ## Reading -/

/-- What a command line says. -/
structure CommandLine where
  logLevel : Option String := none
  dataDir : Option String := none
  configFile : Option String := none
  testnet : Bool := false
  regtest : Bool := false
  /-- The arguments that were not understood, in order. -/
  unknown : List String := []
  deriving DecidableEq, Repr

namespace CommandLine

/-- The value that text behind an equals sign stands for: two dashes alone are none, as they were
before the parser's later patch releases. -/
def attached? (value : String) : Option String := if value = "--" then none else some value

/-- The command line with the value of an option, or without one. -/
def setValue (c : CommandLine) : Flag → Option String → CommandLine
  | .logLevel, v => { c with logLevel := v }
  | .dataDir, v => { c with dataDir := v }
  | .configFile, v => { c with configFile := v }
  | _, _ => c

/-- The command line with an option that takes no value. -/
def setFlag (c : CommandLine) : Flag → CommandLine
  | .testnet => { c with testnet := true }
  | .regtest => { c with regtest := true }
  | _ => c

/-- The command line with one more argument that was not understood. -/
def addUnknown (c : CommandLine) (s : String) : CommandLine :=
  { c with unknown := c.unknown ++ [s] }

/-- How letters behind the short help option end. An `h` is the option once more; anything else, and
no letter at all behind an equals sign, is a value that it does not take. -/
def shortOutcome : List Char → UsageError
  | [] => .extraValue .help ""
  | letters =>
    match letters.dropWhile (· == 'h') with
    | [] => .help
    | value => .extraValue .help (String.ofList value)

/-- Reads classified arguments from left to right. -/
def readWords (c : CommandLine) : List Word → Except UsageError CommandLine
  | [] => .ok c
  | .plain s :: rest => readWords (c.addUnknown s) rest
  | .unknown s :: rest => readWords (c.addUnknown s) rest
  | .endMark :: rest => readWords (c.addUnknown "--") rest
  | .short letters :: _ => .error (shortOutcome letters)
  | .long flag (some v) :: rest =>
    if flag.takesValue then readWords (c.setValue flag (attached? v)) rest
    else .error (.extraValue flag v)
  | [.long flag none] =>
    if flag.takesValue then .error (.noValue flag)
    else if flag = .help then .error .help
    else .ok (c.setFlag flag)
  | .long flag none :: next :: rest =>
    if flag.takesValue then
      match next with
      | .plain v => readWords (c.setValue flag (some v)) rest
      | _ => .error (.noValue flag)
    else if flag = .help then .error .help
    else readWords (c.setFlag flag) (next :: rest)

/-- Reads the arguments of a command line. -/
def read (arguments : List String) : Except UsageError CommandLine := do
  let words ← classifyAll arguments
  readWords {} words

end CommandLine

end LedgerNet.Settings
