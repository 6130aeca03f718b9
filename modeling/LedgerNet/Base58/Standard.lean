import LedgerNet.Base58
import LedgerNet.Digest.Sha256
import LedgerNet.Text.Blank
import LedgerNet.Text.Quoted

/-!
# The scheme of the networks

Each zero byte at the front of a byte string is the digit `1`, and the rest is a number in 58
digits. The checksum is the first four bytes of the double SHA-256. Blanks at the end of text do not
count.
-/

namespace LedgerNet.Base58

/-! ## Digits -/

/-- The digits, without those that look alike. -/
def alphabet : List Char :=
  "123456789ABCDEFGHJKLMNPQRSTUVWXYZabcdefghijkmnopqrstuvwxyz".toList

/-- The digit of a value. -/
def digit (n : Nat) : Char := alphabet.getD n '1'

/-- The value of a digit. -/
def value? (c : Char) : Option Nat := alphabet.idxOf? c

/-- The digits of a number in some base, most significant first, at most `fuel` of them. -/
def digitsIn (base : Nat) : (fuel : Nat) → (n : Nat) → List Nat
  | 0, _ => []
  | fuel + 1, n => if n = 0 then [] else digitsIn base fuel (n / base) ++ [n % base]

/-- A byte string as text. -/
def encodeChars (b : Octets) : List Char :=
  let n := Octets.natBE b
  (b.takeWhile (· == 0)).map (fun _ => digit 0) ++ (digitsIn 58 (Octets.bitLength n) n).map digit

/-! ## Reading -/

/-- What is wrong with text. -/
inductive Flaw where
  /-- A character is no digit. -/
  | badDigit (c : Char)
  /-- Characters from the position on lie outside the ASCII range, `length` of them. -/
  | notAscii (position length : Nat) (first : Char)
  /-- The digest at the end does not fit. -/
  | badChecksum
  deriving DecidableEq, Repr

/-- The reason for which text with the flaw is refused. -/
def Flaw.reason : Flaw → String
  | .badDigit c => "Invalid character " ++ Text.quoted (String.singleton c)
  | .notAscii position length first =>
    if length = 1 then
      "'ascii' codec can't encode character '" ++ String.ofList (Text.codeEscape first.toNat)
        ++ s!"' in position {position}: ordinal not in range(128)"
    else
      "'ascii' codec can't encode characters in position "
        ++ s!"{position}-{position + length - 1}: ordinal not in range(128)"
  | .badChecksum => "Invalid checksum"

/-- Refuses text with characters outside the ASCII range. -/
def checkAscii (cs : List Char) : Except Flaw Unit :=
  let plain (c : Char) : Bool := c.toNat < 128
  match cs.dropWhile plain with
  | [] => .ok ()
  | c :: rest =>
    .error (.notAscii (cs.takeWhile plain).length (1 + (rest.takeWhile (!plain ·)).length) c)

/-- The number that digits stand for. -/
def readNumber (n : Nat) : List Char → Except Flaw Nat
  | [] => .ok n
  | c :: rest =>
    match value? c with
    | some v => readNumber (58 * n + v) rest
    | none => .error (.badDigit c)

/-- The byte string that text stands for; blanks at the end do not count. -/
def decodeChars (cs : List Char) : Except Flaw Octets := do
  let cs := Text.trimRight cs
  checkAscii cs
  let ones := (cs.takeWhile (· == digit 0)).length
  let n ← readNumber 0 (cs.drop ones)
  return Octets.zeros ones ++ Octets.ofNat n

/-! ## The checked form -/

/-- The size of the checksum. -/
def checksumSize : Nat := 4

/-- The checksum of a byte string. -/
def checksum (b : Octets) : Octets := (Digest.doubleSha256 b).take checksumSize

/-- The byte string in front of its checksum. -/
def checked (b : Octets) : Except Flaw Octets :=
  let body := b.take (b.length - checksumSize)
  if b.drop (b.length - checksumSize) = checksum body then .ok body else .error .badChecksum

/-- Base 58 with a checksum of four bytes. -/
def standard : Scheme where
  encode b := String.ofList (encodeChars (b ++ checksum b))
  decode text :=
    (do checked (← decodeChars text.toList) : Except Flaw Octets).mapError fun flaw =>
      .invalid flaw.reason

end LedgerNet.Base58
