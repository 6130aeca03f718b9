import LedgerNet.Text.Decimal
import LedgerNet.Text.Quoted
import LedgerNet.Value

/-!
# Text of values

How messages show values. Text stands as it is where it is the whole value, and in quotes inside a
list or a table. A value that holds a number of too many digits cannot be shown.
-/

namespace LedgerNet.Value

/-- How a flag is shown. -/
def flagText (b : Bool) : String := if b then "True" else "False"

mutual

/-- The value as it is shown inside other values. -/
def shown : Value → String
  | nothing => "None"
  | flag b => flagText b
  | int n => toString n
  | real x => Text.decimal x
  | text s => Text.quoted s
  | bytes b => Text.quotedOctets b
  | buffer b => "bytearray(" ++ Text.quotedBuffer b ++ ")"
  | octets b => "ByteArray(" ++ b.toHex ++ ")"
  | list xs => "[" ++ String.intercalate ", " (shownList xs) ++ "]"
  | table rows => "\x7b" ++ String.intercalate ", " (shownRows rows) ++ "\x7d"
  | peer a => a.shown
  | block _ => "<MsgBlock>"

/-- The elements of a list as they are shown. -/
def shownList : List Value → List String
  | [] => []
  | v :: vs => shown v :: shownList vs

/-- The rows of a table as they are shown. -/
def shownRows : List (Value × Value) → List String
  | [] => []
  | (k, v) :: rows => (shown k ++ ": " ++ shown v) :: shownRows rows

end

/-! ## Numbers that cannot be shown -/

mutual

/-- Whether all numbers in the value have few enough digits to be shown. -/
def isWritable : Value → Bool
  | int n => Text.isWritable n
  | list xs => areWritable xs
  | table rows => rowsAreWritable rows
  | peer a => a.isWritable
  | nothing | flag _ | real _ | text _ | bytes _ | buffer _ | octets _ | block _ => true

/-- Whether all elements of a list can be shown. -/
def areWritable : List Value → Bool
  | [] => true
  | v :: vs => isWritable v && areWritable vs

/-- Whether all rows of a table can be shown. -/
def rowsAreWritable : List (Value × Value) → Bool
  | [] => true
  | (k, v) :: rows => isWritable k && isWritable v && rowsAreWritable rows

end

/-! ## Text in messages -/

/-- The value as a message shows it, whatever its numbers. -/
def toText : Value → String
  | text s => s
  | v => v.shown

/-- The value as a message shows it, if it can be shown. -/
def text? (v : Value) : Option String := if v.isWritable then some v.toText else none

end LedgerNet.Value
