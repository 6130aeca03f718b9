import LedgerNet.Octets

/-!
# Base 58 with a checksum

Byte strings as text over 58 letters and digits, with a checksum at the end. What writes and reads
such text is a `Scheme`, of which no more is known than its two functions; `Base58.standard` is the
scheme that the networks use. `split` takes text apart into a version and a payload.
-/

namespace LedgerNet.Base58

/-- Why a scheme reads no byte string. -/
inductive Failure where
  /-- The text is wrong, for a reason that can be told. -/
  | invalid (reason : String)
  /-- The scheme itself fails. -/
  | broken
  deriving DecidableEq, Repr

/-- What writes byte strings as text and reads text. -/
structure Scheme where
  encode : Octets → String
  decode : String → Except Failure Octets

/-- Why text was not taken apart. -/
inductive Error where
  /-- The scheme reads no byte string. -/
  | scheme (e : Failure)
  /-- Nothing is left after the version. -/
  | noPayload
  deriving DecidableEq, Repr

/-- The text of an error, where it has one of its own. -/
def Error.message? : Error → Option String
  | .scheme (.invalid reason) => some ("base-58 decode failed: " ++ reason)
  | .scheme .broken => none
  | .noPayload => some "decoded lacking version or payload"

namespace Scheme

/-- A payload behind a version, as text. -/
def join (s : Scheme) (version payload : Octets) : String := s.encode (version ++ payload)

/-- The payload and the version of text, the version being the first `size` bytes; a negative size
leaves that many bytes for the payload. -/
def split (s : Scheme) (text : String) (size : Int) : Except Error (Octets × Octets) := do
  let b ← (s.decode text).mapError .scheme
  if (b.length : Int) ≤ size then throw .noPayload
  let cut := if 0 ≤ size then size.toNat else b.length - size.natAbs
  return (b.drop cut, b.take cut)

end Scheme

end LedgerNet.Base58
