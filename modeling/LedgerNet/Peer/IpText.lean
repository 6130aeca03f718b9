import LedgerNet.Octets.Hex
import LedgerNet.Text.Pieces

/-!
# Text of internet addresses

Four bytes are written as decimal numbers with dots between them. Sixteen bytes are eight groups of
hexadecimal digits with colons between them; reading allows two colons in place of one or more zero
groups and a dotted form of the last four bytes, and writing replaces the first longest run of at
least two zero groups.
-/

namespace LedgerNet.Peer

/-! ## Pieces -/

/-- What stands before and after the first pair of colons. -/
def splitAtGap : List Char → Option (List Char × List Char)
  | ':' :: ':' :: rest => some ([], rest)
  | [] => none
  | c :: rest => (splitAtGap rest).map fun (before, after) => (c :: before, after)

/-! ## Reading -/

/-- A decimal number below 256 without leading zeros. -/
def decimalByte? (cs : List Char) : Option UInt8 :=
  let n := cs.foldl (fun n c => 10 * n + (c.toNat - 48)) 0
  if cs.isEmpty || !cs.all (fun c => '0' ≤ c && c ≤ '9') || 3 < cs.length then none
  else if (cs.length ≠ 1 && cs.head? == some '0') || 255 < n then none
  else some (UInt8.ofNat n)

/-- The four bytes of a dotted text. -/
def dotted? (cs : List Char) : Option Octets := do
  let ps := Text.pieces '.' cs
  if ps.length ≠ 4 then none else ps.mapM decimalByte?

/-- The two bytes of one to four hexadecimal digits. -/
def group? (cs : List Char) : Option Octets :=
  if cs.isEmpty || 4 < cs.length then none
  else do
    let ds ← cs.mapM Octets.hexValue?
    return Octets.bigEndian 2 (ds.foldl (fun n d => 16 * n + d) 0)

/-- The bytes of groups with colons between them; the last may be dotted if `dottedEnd`. -/
def groups? (dottedEnd : Bool) : List (List Char) → Option Octets
  | [] => some []
  | [p] => if dottedEnd && p.contains '.' then dotted? p else group? p
  | p :: ps => do
    let g ← group? p
    let rest ← groups? dottedEnd ps
    return g ++ rest

/-- The bytes of groups, where an empty text has none. -/
def groupText? (dottedEnd : Bool) (cs : List Char) : Option Octets :=
  if cs.isEmpty then some [] else groups? dottedEnd (Text.pieces ':' cs)

/-- The sixteen bytes of a text with colons. -/
def colons? (cs : List Char) : Option Octets :=
  match splitAtGap cs with
  | none => do
    let b ← groupText? true cs
    if b.length = 16 then some b else none
  | some (before, after) => do
    let front ← groupText? false before
    let back ← groupText? true after
    if front.length + back.length ≤ 14 then
      some (front ++ Octets.zeros (16 - front.length - back.length) ++ back)
    else none

/-- Why the text of an address was refused. -/
inductive IpTextError where
  /-- The text holds the zero character. -/
  | zeroCharacter
  /-- The text is no address. -/
  | malformed (text : String)
  deriving DecidableEq, Repr

/-- The text of a refusal. -/
def IpTextError.message : IpTextError → String
  | .zeroCharacter => "an address holds the zero character"
  | .malformed text => "failed to decode IP " ++ text

/-- The four or sixteen bytes of an address text. -/
def readIp (s : String) : Except IpTextError Octets :=
  let cs := s.toList
  if cs.contains (Char.ofNat 0) then .error .zeroCharacter
  else match dotted? cs with
    | some b => .ok b
    | none => match colons? cs with
      | some b => .ok b
      | none => .error (.malformed s)

/-! ## Writing -/

/-- A number without leading zeros in a base of at most sixteen. -/
def numeral (base : Nat) (n : Nat) : List Char := Nat.toDigits base n

/-- Texts with a separator between them. -/
def joined (sep : Char) (ps : List (List Char)) : List Char := (ps.intersperse [sep]).flatten

/-- Four bytes as dotted text. -/
def writeDotted (b : Octets) : List Char := joined '.' (b.map fun x => numeral 10 x.toNat)

/-- The groups of two bytes as numbers. -/
def groupNumbers : Octets → List Nat
  | hi :: lo :: rest => (256 * hi.toNat + lo.toNat) :: groupNumbers rest
  | _ => []

/-- The length of the run of zeros at the front. -/
def zeroRun (ns : List Nat) : Nat := (ns.takeWhile (· == 0)).length

/-- Start and length of the first longest run of zeros. -/
def longestZeroRun : List Nat → Nat × Nat
  | [] => (0, 0)
  | n :: rest =>
    let (start, length) := longestZeroRun rest
    let here := zeroRun (n :: rest)
    if length ≤ here then (0, here) else (start + 1, length)

/-- Sixteen bytes as text with colons. -/
def writeColons (b : Octets) : List Char :=
  let ns := groupNumbers b
  let (start, length) := longestZeroRun ns
  let text (ns : List Nat) : List Char := joined ':' (ns.map (numeral 16))
  if length < 2 then text ns
  else text (ns.take start) ++ [':', ':'] ++ text (ns.drop (start + length))

end LedgerNet.Peer
