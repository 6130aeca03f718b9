import LedgerNet.Chain.Networks

/-!
# The active network

A program runs on one network. It is selected during the start, by name or by flags, and sealed
after that. A step of a selection has a state, which holds what was logged as well, and leaves what
it has done when it fails.

The networks that can be found have short identifiers, which the log can always tell. The network
that is active from the start may be any. Where its identifier cannot be written, a step that has to
tell it fails at that point: sealing has taken effect by then, and a second selection has not.
-/

namespace LedgerNet.Chain

/-! ## Errors -/

/-- Why a selection failed. -/
inductive SelectionError where
  /-- The selection is sealed on a network. -/
  | isSealed (networkId : Value)
  /-- No network has the name. -/
  | unknownName (name : Value)
  /-- Both test networks are wanted. -/
  | conflict
  /-- The identifier of a network cannot be told to the log. -/
  | untold (networkId : Value)

/-- The text of a failure, where it has one of its own and that can be written. -/
def SelectionError.message? : SelectionError → Option String
  | .isSealed networkId =>
    networkId.text?.map fun id => s!"network already fixed to {id}. cannot select after startup"
  | .unknownName name => name.text?.map fun name => s!"unrecognized network name {name}"
  | .conflict => some "invalid combination of testnet and regtest"
  | .untold _ => none

/-- The network that a value names. -/
def findNetwork (name : Value) : Except SelectionError Network :=
  match Networks.find? name with
  | some p => .ok p
  | none => .error (.unknownName name)

/-! ## Selection -/

/-- The active network, whether it was selected, and whether that can no longer be changed. -/
structure Selection where
  current : Network
  selected : Bool := false
  isSealed : Bool := false

namespace Selection

/-- The logger of selections. -/
def logger : String := "NETS"

/-- How networks are found by name. -/
abbrev Finder := Value → Except SelectionError Network

/-- A selection, and the records that were logged. -/
structure Journal where
  selection : Selection
  records : List Log.Record := []

/-- A step of a selection, which keeps what was done and logged before it failed. -/
abbrev Run := EStateM SelectionError Journal

/-- Logs a message. -/
def say (level : Int) (message : String) : Run Unit :=
  modify fun j => { j with records := j.records ++ [⟨logger, level, message⟩] }

/-- The identifier of a network as the log tells it. -/
def tell (p : Network) : Run String :=
  match p.networkId.text? with
  | some id => pure id
  | none => throw (.untold p.networkId)

/-- Refuses a sealed selection. -/
def checkOpen : Run Unit := do
  let s := (← get).selection
  if s.isSealed then throw (.isSealed s.current.networkId)

/-- Makes a network the active one. -/
def publish (p : Network) : Run Network := do
  let s := (← get).selection
  if s.selected then
    let old ← tell s.current
    let new ← tell p
    say Log.warning s!"network reselected from {old} to {new}"
  modify fun j => { j with selection := { j.selection with current := p, selected := true } }
  let id ← tell p
  say Log.info s!"selected network {id}"
  return p

/-- Selects the network of a name. -/
def selectNamed (find : Finder) (name : Value) : Run Network := do
  checkOpen
  let p ← MonadExcept.ofExcept (find name)
  publish p

/-- The name of the network that flags choose. -/
def flagName (testnet regtest : Bool) : String :=
  if regtest then "regtest" else if testnet then "test" else "main"

/-- Selects the network that flags choose: a test network, or the main network with neither flag. -/
def selectByFlags (find : Finder) (testnet regtest : Bool) : Run Network := do
  checkOpen
  -- A sealed selection has said so by now, whatever the flags are.
  if testnet && regtest then throw .conflict
  let p ← MonadExcept.ofExcept (find (.text (flagName testnet regtest)))
  publish p

/-- Forbids further selection. -/
def close : Run Unit := do
  modify fun j => { j with selection := { j.selection with isSealed := true } }
  let s := (← get).selection
  let id ← tell s.current
  say Log.debug s!"network selection sealed on {id}"

/-- What a step of a new selection comes to, with the records that it has logged. -/
def outcome {α : Type} (r : Run α) (s : Selection) : Except SelectionError (α × List Log.Record) :=
  match r { selection := s } with
  | .ok x j => .ok (x, j.records)
  | .error e _ => .error e

/-- Whether the public test network is active. -/
def isPublicTest (s : Selection) : Except Value.Fault Bool :=
  s.current.networkId.equal (.text "testnet")

end Selection

end LedgerNet.Chain
