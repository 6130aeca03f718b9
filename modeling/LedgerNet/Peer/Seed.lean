import LedgerNet.Peer.Resolve

/-!
# Seeds

A network may come with addresses of peers that are known from the start. They are stamped between
one and two weeks back, at random, so that a peer learnt of later is preferred.
-/

namespace LedgerNet.Peer

/-- The number of seconds in a week. -/
def week : Int := 7 * 24 * 60 * 60

/-- An address and a port. -/
structure Seed where
  host : Value
  port : Int

/-- Why a seed was refused. -/
inductive SeedError where
  | value (e : Value.Fault)
  /-- A seed's address has sixteen bytes or characters. -/
  | length (n : Nat)
  | address (e : AddressError)
  deriving DecidableEq, Repr

/-- The text of a refusal, where it has one of its own. -/
def SeedError.message? : SeedError → Option String
  | .value _ => none
  | .length n => some s!"seed address must be 16 bytes, got {n}"
  | .address e => e.message?

/-- Refuses an address that has not sixteen elements. -/
def checkSeed (host : Value) : Except SeedError Unit :=
  match host.size? with
  | none => .error (.value .unsuitable)
  | some n => if n = 16 then .ok () else .error (.length n)

/-- The time stamp of a seed: between two weeks and one week before `now`. -/
def seedStamp (now draw : Int) : Int := now - 2 * week + draw

/-- The addresses of seeds, in order, and the random source after the draws. `draw` answers a
number from zero up to below its first argument; it is asked once for each seed that has the right
size. -/
def stampSeeds {σ : Type} (draw : Int → σ → Int × σ) (now : Int) :
    (seeds : List Seed) → σ → Except SeedError (List Address) × σ
  | [], source => (.ok [], source)
  | seed :: seeds, source =>
    match checkSeed seed.host with
    | .error e => (.error e, source)
    | .ok () =>
      let (offset, source) := draw week source
      match Address.resolve seed.host seed.port fullNode (seedStamp now offset) with
      | .error e => (.error (.address e), source)
      | .ok address =>
        match stampSeeds draw now seeds source with
        | (.error e, source) => (.error e, source)
        | (.ok rest, source) => (.ok (address :: rest), source)

/-- A random source. -/
structure RandomSource (σ : Type) where
  /-- A number from zero up to below the one that is asked for. -/
  draw : Int → σ → Int × σ
  /-- Whether the source counts as true; one that does not is as good as none. -/
  isTrue : Bool := true

/-- What a program has of its own: a clock, and a random source. -/
structure Ambient (σ : Type) where
  clock : Int
  random : RandomSource σ

/-- The addresses of seeds, stamped back from the given time with the given random source, or with
what the program has of its own. -/
def convertSeeds {σ : Type} (ambient : Ambient σ) (seeds : List Seed) (now : Option Int)
    (given : Option (RandomSource σ)) : σ → Except SeedError (List Address) × σ :=
  let source := (given.filter RandomSource.isTrue).getD ambient.random
  stampSeeds source.draw (now.getD ambient.clock) seeds

end LedgerNet.Peer
