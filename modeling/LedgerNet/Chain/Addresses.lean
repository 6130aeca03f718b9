import LedgerNet.Base58
import LedgerNet.Chain.Network

/-!
# Addresses

A payload behind a network's prefix for its kind, in the checked base-58 form. Reading tries the
kinds by the length of their prefixes, longest first, because a short prefix may begin a long one;
kinds whose prefixes have the same length are tried in order of their numbers.
-/

namespace LedgerNet.Chain

/-- Why an address was refused. -/
inductive AddressError where
  | network (e : NetworkError)
  | value (e : Value.Fault)
  /-- The text is no address of the network. -/
  | foreign (text : String) (networkId : Value)
  /-- The base-58 scheme itself fails. -/
  | broken

/-- The text of a refusal, where it has one of its own. -/
def AddressError.message? : AddressError → Option String
  | .network e => e.message?
  | .value (.field e) => e.message?
  | .value _ | .broken => none
  | .foreign text networkId => networkId.text?.map fun id => s!"{text} is not a {id} address"

/-- The address of a payload of the kind that a value names. -/
def writeAddress (s : Base58.Scheme) (room : Nat) (p : Network) (kind payload : Value) :
    Except AddressError String := do
  let version ← (p.prefixFor kind).mapError .network
  let payload ← (payload.toRawOctets room).mapError .value
  return s.join version payload

/-! ## Reading -/

/-- The kinds by the length of their prefixes, longest first. -/
def kindsByLength (p : Prefixes) : List PrefixKind :=
  PrefixKind.all.mergeSort fun j k => decide ((p.get k).length ≤ (p.get j).length)

/-- The payload behind the prefix of a kind. Text that is refused has none. -/
def payloadOf? (s : Base58.Scheme) (p : Prefixes) (text : String) (kind : PrefixKind) :
    Except AddressError (Option Octets) :=
  match s.split text (p.get kind).length with
  | .ok (payload, version) => .ok (if version = p.get kind then some payload else none)
  | .error (.scheme .broken) => .error .broken
  | .error _ => .ok none

/-- The kind and the payload of an address. -/
def readAddress (s : Base58.Scheme) (p : Network) (text : String) :
    Except AddressError (PrefixKind × Octets) := do
  let found ← (kindsByLength p.prefixes).findSomeM? fun kind => do
    return (← payloadOf? s p.prefixes text kind).map fun payload => (kind, payload)
  match found with
  | some r => return r
  | none => throw (.foreign text p.networkId)

end LedgerNet.Chain
