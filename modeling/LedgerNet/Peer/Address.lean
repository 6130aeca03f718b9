import LedgerNet.Peer.IpText
import LedgerNet.Text.Numeral

/-!
# Peer addresses

An address of a peer: sixteen bytes, a port, the services offered and the time the peer was last
seen. Four-byte addresses are held in their sixteen-byte form, behind a fixed prefix.
-/

namespace LedgerNet.Peer

/-- The prefix of a four-byte address in its sixteen-byte form. -/
def mappedPrefix : Octets := Octets.bigEndian 12 0xffff

/-- The service of a full node. -/
def fullNode : Int := 1

/-- A peer's address. -/
structure Address where
  ip : Octets
  port : Int
  services : Int := fullNode
  timestamp : Int
  deriving DecidableEq, Repr

namespace Address

/-- The sixteen-byte form of an address of four or sixteen bytes. -/
def widen? (ip : Octets) : Option Octets :=
  if ip.length = 4 then some (mappedPrefix ++ ip)
  else if ip.length = 16 then some ip
  else none

/-- Whether the address is the sixteen-byte form of a four-byte one. -/
def isMapped (a : Address) : Bool := a.ip.take 12 == mappedPrefix

/-- The address without its port as text. -/
def ipText (a : Address) : String :=
  String.ofList (if a.isMapped then writeDotted (a.ip.drop 12) else writeColons a.ip)

/-- Host and port as text; a host with colons stands in brackets. -/
def key (a : Address) : String :=
  if a.isMapped then s!"{a.ipText}:{a.port}" else s!"[{a.ipText}]:{a.port}"

/-- Host and port as text, if the port can be written. -/
def key? (a : Address) : Option String := if Text.isWritable a.port then some a.key else none

/-- The address as messages show it. -/
def shown (a : Address) : String :=
  s!"NetAddress({a.key}, services={a.services}, stamp={a.timestamp})"

/-- Whether all numbers of the address can be shown. -/
def isWritable (a : Address) : Bool := [a.port, a.services, a.timestamp].all Text.isWritable

end Address

end LedgerNet.Peer
