import LedgerNet.Chain.Selection
import LedgerNet.Proofs.Outcome

/-!
# Steps of a selection

A program chooses a network, by name or by flags, or seals the selection. A choice has a target,
which does not depend on what was chosen before. What a step leads to is decided by whether the
selection is sealed, and if it is not by the target.

A step has a state, and could leave a part of what it does when it fails. That it does not is proved
here, for networks whose identifiers can be written; for others it is not so.

## Main statements

- `publish_of_writable`: what making a network active leads to.
- `select_eq`: a selection is refused when sealed, and then where its choice has no target.
- `perform_of_sealed`, `perform_of_target_error`, `perform_of_target_ok`: what a step leads to.
- `perform_fails_iff`: when a selection that is not sealed fails.
- `perform_eq_of_error`: a selection that fails changes nothing and logs nothing.
-/

namespace LedgerNet.Chain

open Outcome

/-! ## Choices -/

/-- A way to choose a network. -/
inductive Choice where
  | name (s : String)
  | flags (testnet regtest : Bool)
  deriving DecidableEq, Repr

namespace Choice

/-- Whether the choice wants two networks at once. -/
def isConflict : Choice → Bool
  | name _ => false
  | flags testnet regtest => testnet && regtest

/-- The name of the network that is chosen, where only one is wanted. -/
def wanted : Choice → String
  | name s => s
  | flags testnet regtest => Selection.flagName testnet regtest

/-- The network that is chosen. -/
def target (find : Selection.Finder) (c : Choice) : Except SelectionError Network :=
  if c.isConflict then .error .conflict else find (.text c.wanted)

theorem target_fails_iff {find : Selection.Finder} {c : Choice} :
    (∃ e, c.target find = .error e) ↔
      c.isConflict ∨ ∃ e, find (.text c.wanted) = .error e := by
  unfold target
  cases c.isConflict <;> simp

end Choice

/-- The error says that no network has the name, or that two are wanted at once. -/
def SelectionError.IsUnknown : SelectionError → Prop
  | unknownName _ | conflict => True
  | isSealed _ | untold _ => False

namespace Selection

variable {find : Finder} {j : Journal} {c : Choice} {p q default : Network}

/-- Names of no network are refused as such, and the identifiers of networks can be written. -/
structure Finder.Lawful (find : Finder) : Prop where
  unknown : ∀ {name e}, find (.text name) = .error e → e.IsUnknown
  writable : ∀ {name p}, find (.text name) = .ok p → p.networkId.isWritable

theorem isWritable_of_byName : ∀ row ∈ Networks.byName, row.2.networkId.isWritable := by
  intro row h
  simp only [Networks.byName, List.mem_cons, List.not_mem_nil, or_false] at h
  rcases h with rfl | rfl | rfl | rfl <;> rfl

/-- A network that is found is one of those that there are. -/
theorem mem_byName_of_findNetwork {v : Value} (h : findNetwork v = .ok p) :
    ∃ name, v = .text name ∧ (name, p) ∈ Networks.byName := by
  unfold findNetwork at h
  split at h
  · rename_i p' hfound
    injection h with h
    subst h
    cases v with
    | text name =>
      obtain ⟨l₁, l₂, hrows, -⟩ := List.lookup_eq_some_iff.mp hfound
      refine ⟨name, rfl, ?_⟩
      rw [hrows]
      exact List.mem_append_right l₁ List.mem_cons_self
    | _ => cases hfound
  · cases h

/-- The networks that there are, are found lawfully. -/
theorem findNetwork_lawful : Finder.Lawful findNetwork where
  unknown {name e} h := by
    unfold findNetwork at h
    split at h
    · cases h
    · injection h with h
      subst h
      trivial
  writable {name p} h := by
    obtain ⟨name', -, hrow⟩ := mem_byName_of_findNetwork h
    exact isWritable_of_byName (name', p) hrow

theorem Finder.Lawful.target_unknown (hfind : find.Lawful) {e : SelectionError}
    (h : c.target find = .error e) : e.IsUnknown := by
  unfold Choice.target at h
  split at h
  · injection h with h
    subst h
    trivial
  · exact hfind.unknown h

theorem Finder.Lawful.target_writable (hfind : find.Lawful) (h : c.target find = .ok p) :
    p.networkId.isWritable := by
  unfold Choice.target at h
  split at h
  · cases h
  · exact hfind.writable h

/-! ## Announcements -/

/-- The network is announced. -/
def selectedRecord (p : Network) : Log.Record :=
  ⟨"NETS", Log.info, s!"selected network {p.networkId.toText}"⟩

/-- The change from one network to another is announced. -/
def reselectedRecord (p q : Network) : Log.Record :=
  ⟨"NETS", Log.warning, s!"network reselected from {p.networkId.toText} to {q.networkId.toText}"⟩

/-- The sealing is announced. -/
def sealedRecord (p : Network) : Log.Record :=
  ⟨"NETS", Log.debug, s!"network selection sealed on {p.networkId.toText}"⟩

/-- What a selection says when a network becomes the active one. -/
def announcement (s : Selection) (p : Network) : List Log.Record :=
  (if s.selected then [reselectedRecord s.current p] else []) ++ [selectedRecord p]

/-- The selection with a network as the active one. -/
def activate (s : Selection) (p : Network) : Selection := { s with current := p, selected := true }

/-- The selection without further changes. -/
def sealed (s : Selection) : Selection := { s with isSealed := true }

theorem tell_of_writable (h : p.networkId.isWritable) : tell p = pure p.networkId.toText := by
  have htext : p.networkId.text? = some p.networkId.toText := if_pos h
  rw [tell, htext]

/-- A network becomes the active one and is announced, where the log can tell it and the one
before. -/
theorem publish_of_writable (hold : j.selection.current.networkId.isWritable)
    (hnew : p.networkId.isWritable) :
    publish p j =
      .ok p ⟨j.selection.activate p, j.records ++ announcement j.selection p⟩ := by
  obtain ⟨⟨current, selected, isSealed⟩, records⟩ := j
  have hget : publish p ⟨⟨current, selected, isSealed⟩, records⟩ =
      (do
        if selected then
          let old ← tell current
          let new ← tell p
          say Log.warning s!"network reselected from {old} to {new}"
        modify fun j => { j with selection := j.selection.activate p }
        let id ← tell p
        say Log.info s!"selected network {id}"
        return p : Run Network) ⟨⟨current, selected, isSealed⟩, records⟩ := rfl
  rw [hget, tell_of_writable hold, tell_of_writable hnew]
  cases selected with
  | false => rfl
  | true =>
    -- The change is announced before the network is.
    have happend : records ++ announcement ⟨current, true, isSealed⟩ p =
        records ++ [reselectedRecord current p] ++ [selectedRecord p] :=
      (List.append_assoc _ _ _).symm
    rw [happend]
    rfl

/-- The selection is sealed and that is announced, where the log can tell the network. -/
theorem close_of_writable (h : j.selection.current.networkId.isWritable) :
    close j =
      .ok () ⟨j.selection.sealed, j.records ++ [sealedRecord j.selection.current]⟩ := by
  have hget : close j =
      (do
        let id ← tell j.selection.current
        say Log.debug s!"network selection sealed on {id}" : Run Unit)
        ⟨j.selection.sealed, j.records⟩ := rfl
  rw [hget, tell_of_writable h]
  rfl

/-! ## Selecting -/

/-- A selection by a choice. -/
def select (find : Finder) : Choice → Run Network
  | .name name => selectNamed find (.text name)
  | .flags testnet regtest => selectByFlags find testnet regtest

/-- A selection of a network that was looked for. -/
def attempt (target : Except SelectionError Network) : Run Network := do
  checkOpen
  let p ← MonadExcept.ofExcept target
  publish p

/-- A selection is refused when it is sealed, and then where the choice has no target. -/
theorem select_eq (find : Finder) (c : Choice) : select find c = attempt (c.target find) := by
  cases c with
  | name name => rfl
  | flags testnet regtest =>
    -- With flags, a conflict is looked for before a name is, behind the same seal.
    unfold select selectByFlags Choice.target
    cases h : testnet && regtest <;> simp only [Choice.isConflict, Choice.wanted, h] <;> rfl

theorem checkOpen_eq (j : Journal) :
    checkOpen j =
      if j.selection.isSealed then .error (.isSealed j.selection.current.networkId) j
      else .ok () j := by
  obtain ⟨⟨current, selected, isSealed⟩, records⟩ := j
  cases isSealed <;> rfl

theorem attempt_of_sealed (h : j.selection.isSealed = true)
    (target : Except SelectionError Network) :
    attempt target j = .error (.isSealed j.selection.current.networkId) j := by
  refine bind_state_eq_error_iff.mpr (.inl ?_)
  rw [checkOpen_eq, if_pos h]

/-- An open selection tries its target. -/
theorem attempt_of_open (h : j.selection.isSealed = false)
    (target : Except SelectionError Network) :
    attempt target j = (MonadExcept.ofExcept target >>= publish : Run Network) j := by
  have hopen : checkOpen j = .ok () j := by
    rw [checkOpen_eq, h]
    rfl
  rw [attempt, bind_state_of_ok hopen]

theorem attempt_of_error (hopen : j.selection.isSealed = false) (e : SelectionError) :
    attempt (.error e) j = .error e j := by
  rw [attempt_of_open hopen]
  rfl

theorem attempt_of_ok (hopen : j.selection.isSealed = false)
    (hold : j.selection.current.networkId.isWritable) (hnew : p.networkId.isWritable) :
    attempt (.ok p) j =
      .ok p ⟨j.selection.activate p, j.records ++ announcement j.selection p⟩ := by
  rw [attempt_of_open hopen, ← publish_of_writable hold hnew]
  rfl

/-- A selection that is open and announced lawfully comes to its target. -/
theorem outcome_select (hfind : find.Lawful) {s : Selection} (hopen : s.isSealed = false)
    (hcurrent : s.current.networkId.isWritable) (c : Choice) :
    outcome (select find c) s = (fun p => (p, announcement s p)) <$> c.target find := by
  rw [outcome, select_eq]
  cases htarget : c.target find with
  | error e =>
    rw [attempt_of_error (j := { selection := s }) hopen]
    rfl
  | ok p =>
    rw [attempt_of_ok (j := { selection := s }) hopen hcurrent (hfind.target_writable htarget)]
    rfl

/-- A new selection by flags comes to the network that they choose. -/
theorem outcome_flags (testnet regtest : Bool) :
    outcome (selectByFlags findNetwork testnet regtest) { current := Networks.main } =
      (fun p => (p, [selectedRecord p])) <$> (Choice.flags testnet regtest).target findNetwork :=
  outcome_select findNetwork_lawful rfl rfl (.flags testnet regtest)

/-! ## Steps -/

/-- A step of a history. -/
inductive Step where
  | select (c : Choice)
  | close
  deriving DecidableEq, Repr

/-- What a step does; a selection answers its network. -/
def Step.act (find : Finder) : Step → Run (Option Network)
  | .select c => some <$> Selection.select find c
  | .close => (fun _ => none) <$> Selection.close

namespace Journal

/-- The journal after a step, whether it succeeded or failed, and the answer. -/
def perform (find : Finder) (j : Journal) (step : Step) :
    Journal × Except SelectionError (Option Network) :=
  match step.act find j with
  | .ok answer k => (k, .ok answer)
  | .error e k => (k, .error e)

/-- The journal after a history, and the answers. -/
def run (find : Finder) (j : Journal) :
    List Step → Journal × List (Except SelectionError (Option Network))
  | [] => (j, [])
  | step :: steps =>
    let now := j.perform find step
    let later := now.1.run find steps
    (later.1, now.2 :: later.2)

theorem run_concat (find : Finder) (j : Journal) (steps : List Step) (step : Step) :
    j.run find (steps ++ [step]) =
      (((j.run find steps).1.perform find step).1,
        (j.run find steps).2 ++ [((j.run find steps).1.perform find step).2]) := by
  -- The journal changes from step to step, so the history is for any start.
  induction steps generalizing j with
  | nil => rfl
  | cons first steps ih =>
    rw [List.cons_append]
    simp only [run, ih]
    rfl

theorem perform_select (find : Finder) (j : Journal) (c : Choice) :
    j.perform find (.select c) =
      match select find c j with
      | .ok p k => (k, .ok (some p))
      | .error e k => (k, .error e) := by
  rw [perform, Step.act, map_state_eq]
  cases select find c j <;> rfl

theorem perform_of_sealed (h : j.selection.isSealed = true) (c : Choice) :
    j.perform find (.select c) = (j, .error (.isSealed j.selection.current.networkId)) := by
  rw [perform_select, select_eq, attempt_of_sealed h]

theorem perform_of_target_error (hopen : j.selection.isSealed = false) {e : SelectionError}
    (h : c.target find = .error e) : j.perform find (.select c) = (j, .error e) := by
  rw [perform_select, select_eq, h, attempt_of_error hopen]

theorem perform_of_target_ok (hopen : j.selection.isSealed = false) (h : c.target find = .ok p)
    (hold : j.selection.current.networkId.isWritable) (hnew : p.networkId.isWritable) :
    j.perform find (.select c) =
      (⟨j.selection.activate p, j.records ++ announcement j.selection p⟩, .ok (some p)) := by
  rw [perform_select, select_eq, h, attempt_of_ok hopen hold hnew]

theorem perform_close (h : j.selection.current.networkId.isWritable) :
    j.perform find .close =
      (⟨j.selection.sealed, j.records ++ [sealedRecord j.selection.current]⟩, .ok none) := by
  have hact : Step.act find .close j =
      .ok none ⟨j.selection.sealed, j.records ++ [sealedRecord j.selection.current]⟩ := by
    rw [Step.act, map_state_eq, close_of_writable h]
  rw [perform, hact]

/-- Before it is sealed, a selection fails exactly if two networks are wanted or none has the
name. -/
theorem perform_fails_iff (hfind : find.Lawful)
    (hcurrent : j.selection.current.networkId.isWritable) (hopen : j.selection.isSealed = false) :
    (∃ e, (j.perform find (.select c)).2 = .error e) ↔
      c.isConflict ∨ ∃ e, find (.text c.wanted) = .error e := by
  rw [← Choice.target_fails_iff]
  cases htarget : c.target find with
  | error e =>
    rw [perform_of_target_error hopen htarget]
    exact ⟨fun _ => ⟨e, rfl⟩, fun _ => ⟨e, rfl⟩⟩
  | ok p =>
    rw [perform_of_target_ok hopen htarget hcurrent (hfind.target_writable htarget)]
    simp

/-- Before it is sealed, a selection fails because no network is known for the choice. -/
theorem perform_unknown (hfind : find.Lawful)
    (hcurrent : j.selection.current.networkId.isWritable) (hopen : j.selection.isSealed = false)
    {e : SelectionError} (h : (j.perform find (.select c)).2 = .error e) : e.IsUnknown := by
  cases htarget : c.target find with
  | error e' =>
    rw [perform_of_target_error hopen htarget] at h
    injection h with h
    exact h ▸ hfind.target_unknown htarget
  | ok p =>
    rw [perform_of_target_ok hopen htarget hcurrent (hfind.target_writable htarget)] at h
    cases h

/-- A selection that fails changes nothing and logs nothing. -/
theorem perform_eq_of_error (hfind : find.Lawful)
    (hcurrent : j.selection.current.networkId.isWritable) {e : SelectionError}
    (h : (j.perform find (.select c)).2 = .error e) : (j.perform find (.select c)).1 = j := by
  cases hsealed : j.selection.isSealed with
  | true => rw [perform_of_sealed hsealed]
  | false =>
    cases htarget : c.target find with
    | error e' => rw [perform_of_target_error hsealed htarget]
    | ok p =>
      rw [perform_of_target_ok hsealed htarget hcurrent (hfind.target_writable htarget)] at h
      cases h

end Journal

end Selection

end LedgerNet.Chain
