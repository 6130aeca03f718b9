import LedgerNet.Value

/-!
# Addresses from values

A peer's address may be given as text or as any form of a byte string of four or sixteen bytes.
-/

namespace LedgerNet.Peer

/-- Why a value is no address. -/
inductive AddressError where
  | text (e : IpTextError)
  | value (e : Value.Fault)
  /-- An address has four or sixteen bytes. -/
  | length (n : Nat)
  deriving DecidableEq, Repr

/-- The text of a refusal, where it has one of its own. -/
def AddressError.message? : AddressError → Option String
  | .text (.malformed s) => some (IpTextError.message (.malformed s))
  | .text .zeroCharacter => none
  | .value (.field e) => e.message?
  | .value _ => none
  | .length n => some s!"invalid IP address length {n}"

/-- The bytes of an address as it was given. -/
def hostBytes : Value → Except AddressError Octets
  | .text s => (readIp s).mapError .text
  | v => v.toOctets.mapError .value

/-- The address of a peer. -/
def Address.resolve (host : Value) (port services timestamp : Int) :
    Except AddressError Address := do
  let b ← hostBytes host
  match Address.widen? b with
  | some ip => return { ip, port, services, timestamp }
  | none => throw (.length b.length)

end LedgerNet.Peer
