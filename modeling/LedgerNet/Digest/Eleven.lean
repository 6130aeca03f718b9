import LedgerNet.Digest.Eleven.Blake
import LedgerNet.Digest.Eleven.BlueMidnightWish
import LedgerNet.Digest.Eleven.Groestl
import LedgerNet.Digest.Eleven.Skein
import LedgerNet.Digest.Eleven.Jh
import LedgerNet.Digest.Eleven.Keccak
import LedgerNet.Digest.Eleven.Luffa
import LedgerNet.Digest.Eleven.CubeHash
import LedgerNet.Digest.Eleven.Shavite
import LedgerNet.Digest.Eleven.Simd
import LedgerNet.Digest.Eleven.Echo

/-!
# The eleven-stage digest

Eleven digests of 512 bits, each of the one before it; the first 32 bytes of the last are the
proof-of-work digest of a block header.
-/

namespace LedgerNet.Digest

/-- The stages in the order in which they are applied. -/
def stages : List (Octets → Octets) :=
  [blake512, bmw512, groestl512, skein512, jh512, keccak512, luffa512, cubehash512, shavite512,
   simd512, echo512]

/-- The first 32 bytes of the eleven-stage digest. -/
def eleven (b : Octets) : Octets := (stages.foldl (fun x stage => stage x) b).take 32

end LedgerNet.Digest
