import LedgerNet.Proofs.Settings.SessionRetry

/-!
# Histories of a session

In a session settings are loaded or only read, networks are selected directly, and the selection is
sealed, in any order and any number of times, while others change the files and the log. What is
published stays coherent under every one of these steps: once there are settings, the selection is
sealed on their network. From then on nothing changes it any more.

## Main statements

- `Coherent.step`, `coherent_run`: what every step, and so every history, keeps coherent.
- `Coherent.published_step`, `Coherent.published_run`: what is published stays once there are
  settings.
- `load_fixes_network_once`: a load fixes the network once and for all, or changes nothing.
-/

namespace LedgerNet.Settings

open Chain Outcome

/-! ## Histories -/

/-- A step of a history. -/
inductive Move where
  | load (defaultDir : String) (arguments : List String)
  /-- The settings are read and not loaded. -/
  | read (defaultDir : String) (arguments : List String)
  | selectNamed (name : Value)
  | selectByFlags (testnet regtest : Bool)
  | close
  /-- The host, files and the log are changed by others. -/
  | outside (host : Log.Host) (files : FileTree) (logging : Logging)

namespace Session

variable {s t : Session} {setup : Setup} {α : Type} {r : Run α}

/-- Whether a step succeeds, and leads to what has a property, can be found by running it. -/
instance {p : Session → Prop} [DecidablePred p] : Decidable (∃ x t, r s = .ok x t ∧ p t) :=
  match r s with
  | .ok x t => decidable_of_iff (p t)
      ⟨fun h => ⟨x, t, rfl, h⟩, fun ⟨_, _, hok, h⟩ => by cases hok; exact h⟩
  | .error _ _ => isFalse fun ⟨_, _, hok, _⟩ => by cases hok

/-- The session after a step of a history, whether the step succeeded or failed. -/
def perform (s : Session) : Move → Session
  | .load defaultDir arguments => after (load defaultDir arguments) s
  | .read defaultDir arguments => after (readSetup defaultDir arguments) s
  | .selectNamed name => after (selectNamed name) s
  | .selectByFlags testnet regtest => after (selectByFlags testnet regtest) s
  | .close => after close s
  | .outside host files logging => { s with host, files, logging }

/-- The session after a history. -/
def run (s : Session) (moves : List Move) : Session := moves.foldl perform s

/-! ## Coherence -/

/-- The active network can be told, and once there are settings the selection is sealed on their
network. -/
structure Coherent (s : Session) : Prop where
  writable : s.selection.current.networkId.isWritable
  fixed : ∀ {setup}, s.setup = some setup →
    s.selection.isSealed = true ∧ s.selection.current = setup.network

theorem coherent_start (host : Log.Host) (files : FileTree) : Coherent (start host files) where
  writable := rfl
  fixed := nofun

/-- Coherence is of what is published alone. -/
theorem Coherent.of_published (hs : Coherent s) (h : t.published = s.published) : Coherent t := by
  have hselection : t.selection = s.selection := congrArg Prod.fst h
  have hsetup : t.setup = s.setup := congrArg Prod.snd h
  constructor
  case writable => rw [hselection]; exact hs.writable
  case fixed =>
    intro setup hloaded
    rw [hsetup] at hloaded
    rw [hselection]
    exact hs.fixed hloaded

/-- A direct selection fails and changes nothing, or makes a network active. -/
theorem Coherent.after_attempt (hs : Coherent s) {target : Except SelectionError Network}
    (hwritable : ∀ p, target = .ok p → p.networkId.isWritable) :
    Coherent (after (onSelection (Selection.attempt target)) s) := by
  cases hsealed : s.selection.isSealed with
  | true =>
    rw [after_of_error (attempt_of_sealed hsealed target)]
    exact hs
  | false =>
    cases target with
    | error e =>
      rw [after_of_error (attempt_of_error hsealed e)]
      exact hs
    | ok p =>
      obtain ⟨files, -, hattempt⟩ := attempt_of_ok hsealed hs.writable (hwritable p rfl)
      rw [after_of_ok hattempt]
      constructor
      case writable => exact hwritable p rfl
      case fixed =>
        -- An open session has no settings yet.
        intro setup hloaded
        rw [(hs.fixed hloaded).1] at hsealed
        cases hsealed

theorem Coherent.published_close (hs : Coherent s) :
    (after close s).published = (s.selection.sealed, s.setup) := by
  obtain ⟨files, -, hclose⟩ := close_of_writable hs.writable
  rw [after_of_ok hclose]
  rfl

theorem Coherent.after_load (hs : Coherent s) (defaultDir : String) (arguments : List String) :
    Coherent (after (load defaultDir arguments) s) := by
  cases h : load defaultDir arguments s with
  | error e t =>
    rw [after_of_error h]
    exact hs.of_published (published_of_load_error hs.writable h).2
  | ok setup t =>
    rw [after_of_ok h]
    cases hsetup : s.setup with
    | some loaded =>
      rw [load_of_loaded hsetup] at h
      cases h
      exact hs
    | none =>
      -- The first load that succeeds; the network is one that can be found, so it can be told.
      obtain ⟨htarget, hpublished⟩ := published_of_load hsetup hs.writable h
      have hselection : t.selection = (s.selection.activate setup.network).sealed :=
        congrArg Prod.fst hpublished
      have hkept : t.setup = some setup := congrArg Prod.snd hpublished
      constructor
      case writable =>
        rw [hselection]
        exact Selection.findNetwork_lawful.target_writable htarget
      case fixed =>
        intro setup' hloaded
        rw [hkept] at hloaded
        cases hloaded
        rw [hselection]
        exact ⟨rfl, rfl⟩

theorem Coherent.after_selectNamed (hs : Coherent s) (name : Value) :
    Coherent (after (selectNamed name) s) := by
  rw [selectNamed_eq]
  apply hs.after_attempt
  intro p hfound
  obtain ⟨name', -, hrow⟩ := Selection.mem_byName_of_findNetwork hfound
  exact Selection.isWritable_of_byName (name', p) hrow

theorem Coherent.after_selectByFlags (hs : Coherent s) (testnet regtest : Bool) :
    Coherent (after (selectByFlags testnet regtest) s) := by
  rw [selectByFlags_eq]
  apply hs.after_attempt
  intro p htarget
  exact Selection.findNetwork_lawful.target_writable htarget

theorem Coherent.after_close (hs : Coherent s) : Coherent (after close s) := by
  have hsealed : Coherent { s with selection := s.selection.sealed } :=
    ⟨hs.writable, fun hloaded => ⟨rfl, (hs.fixed hloaded).2⟩⟩
  exact hsealed.of_published hs.published_close

/-- Every step keeps a session coherent. -/
theorem Coherent.step (hs : Coherent s) (move : Move) : Coherent (s.perform move) := by
  cases move with
  | load defaultDir arguments => exact hs.after_load defaultDir arguments
  | read defaultDir arguments => exact hs.of_published (keeps_readSetup defaultDir arguments s)
  | selectNamed name => exact hs.after_selectNamed name
  | selectByFlags testnet regtest => exact hs.after_selectByFlags testnet regtest
  | close => exact hs.after_close
  | outside host files logging => exact hs.of_published rfl

theorem coherent_run (hs : Coherent s) (moves : List Move) : Coherent (s.run moves) := by
  induction moves generalizing s with
  | nil => exact hs
  | cons move moves ih => exact ih (hs.step move)

/-! ## What settings fix -/

/-- Once there are settings, no step changes what is published. -/
theorem Coherent.published_step (hs : Coherent s) (hloaded : s.setup = some setup)
    (move : Move) : (s.perform move).published = s.published := by
  obtain ⟨hsealed, -⟩ := hs.fixed hloaded
  cases move with
  | load defaultDir arguments =>
    rw [perform, after_of_ok (load_of_loaded hloaded defaultDir arguments)]
  | read defaultDir arguments => exact keeps_readSetup defaultDir arguments s
  | selectNamed name => rw [perform, after_of_error (selectNamed_of_sealed hsealed name)]
  | selectByFlags testnet regtest =>
    rw [perform, after_of_error (selectByFlags_of_sealed hsealed testnet regtest)]
  | close =>
    -- The selection is sealed already, and sealing it once more changes nothing.
    have hkept : s.selection.sealed = s.selection := by
      rw [Selection.sealed, ← hsealed]
    rw [perform, hs.published_close, hkept]
    rfl
  | outside host files logging => rfl

theorem Coherent.published_run (hs : Coherent s) (hloaded : s.setup = some setup)
    (moves : List Move) : (s.run moves).published = s.published := by
  induction moves generalizing s with
  | nil => rfl
  | cons move moves ih =>
    have hkept := hs.published_step hloaded move
    have hsetup : (s.perform move).setup = s.setup := congrArg Prod.snd hkept
    rw [← hkept]
    exact ih (hs.step move) (hsetup.trans hloaded)

/-- The settings are fixed, and the network with them: a load answers the settings and changes
nothing, and a direct selection is refused with the network in them. -/
structure IsFixed (s : Session) (setup : Setup) : Prop where
  loaded : s.setup = some setup
  isSealed : s.selection.isSealed = true
  current : s.selection.current = setup.network
  load : ∀ defaultDir arguments, load defaultDir arguments s = .ok setup s
  refusesName : ∀ name,
    selectNamed name s = .error (.select (.isSealed setup.network.networkId)) s
  refusesFlags : ∀ testnet regtest,
    selectByFlags testnet regtest s = .error (.select (.isSealed setup.network.networkId)) s
  message : ∃ id, setup.network.networkId.text? = some id ∧
    (SelectionError.isSealed setup.network.networkId).message? =
      some s!"network already fixed to {id}. cannot select after startup"

theorem Coherent.isFixed (hs : Coherent s) (hloaded : s.setup = some setup) :
    IsFixed s setup := by
  obtain ⟨hsealed, hcurrent⟩ := hs.fixed hloaded
  have hwritable := hs.writable
  rw [hcurrent] at hwritable
  have htext : setup.network.networkId.text? = some setup.network.networkId.toText :=
    if_pos hwritable
  constructor
  case loaded => exact hloaded
  case isSealed => exact hsealed
  case current => exact hcurrent
  case load => exact load_of_loaded hloaded
  case refusesName =>
    intro name
    rw [← hcurrent]
    exact selectNamed_of_sealed hsealed name
  case refusesFlags =>
    intro testnet regtest
    rw [← hcurrent]
    exact selectByFlags_of_sealed hsealed testnet regtest
  case message =>
    rw [SelectionError.message?, htext]
    exact ⟨_, rfl, rfl⟩

/-- **Loading fixes the network once, or not at all.** After any history of a new session:

- A load that succeeds fixes its settings for all histories that follow.
- A load that fails finds and leaves no settings and keeps the selection as it is. If the selection
  is open, the next load answers any settings with which a run can start over the files as they are
  by then.
- Where there are no settings, a load fails exactly for what stops it: refused arguments or a
  refused configuration file, a data directory that is a file or cannot be made, a log file that
  cannot be opened, or the seal. It succeeds exactly if a run can start and the selection is open;
  so with an open selection it succeeds with any free name for the data directory.
- Reading settings publishes nothing, whether it succeeds or fails. -/
theorem load_fixes_network_once (host : Log.Host) (files : FileTree) (before : List Move) :
    let s := (start host files).run before
    (∀ defaultDir arguments setup t, load defaultDir arguments s = .ok setup t →
      ∀ later, IsFixed (t.run later) setup) ∧
    (∀ defaultDir arguments e t, load defaultDir arguments s = .error e t →
      s.setup = none ∧ t.setup = none ∧ t.selection = s.selection ∧
        (s.selection.isSealed = false → ∀ defaultDir' arguments' setup dir,
          CanStart t.files defaultDir' arguments' setup dir →
            ∃ u, load defaultDir' arguments' t = .ok setup u)) ∧
    (s.setup = none → ∀ defaultDir,
      (∀ arguments e, (∃ t, load defaultDir arguments s = .error e t) ↔
        Obstacle s defaultDir arguments e) ∧
      (∀ arguments setup, (∃ t, load defaultDir arguments s = .ok setup t) ↔
        s.selection.isSealed = false ∧ ∃ dir, CanStart s.files defaultDir arguments setup dir) ∧
      (s.selection.isSealed = false → ∀ name, IsFree s.files name →
        ∃ setup t, load defaultDir ["--datadir", name] s = .ok setup t)) ∧
    (∀ defaultDir arguments,
      (after (readSetup defaultDir arguments) s).selection = s.selection ∧
        (after (readSetup defaultDir arguments) s).setup = s.setup) := by
  intro s
  have hs : Coherent s := coherent_run (coherent_start host files) before
  refine ⟨fun defaultDir arguments setup t h later => ?succeeds,
    fun defaultDir arguments e t h => ?fails,
    fun hnew defaultDir => ⟨fun arguments e => load_fails_iff hnew hs.writable,
      fun arguments setup => load_succeeds_iff hnew hs.writable, fun hopen name hfree => ?free⟩,
    fun defaultDir arguments => ?read⟩
  case succeeds =>
    have ht := hs.after_load defaultDir arguments
    rw [after_of_ok h] at ht
    -- The settings are there whether this load was the first one or not.
    have hloaded : t.setup = some setup := by
      cases hsetup : s.setup with
      | some loaded =>
        rw [load_of_loaded hsetup] at h
        cases h
        exact hsetup
      | none => exact congrArg Prod.snd (published_of_load hsetup hs.writable h).2
    have hlater : (t.run later).setup = t.setup :=
      congrArg Prod.snd (ht.published_run hloaded later)
    exact (coherent_run ht later).isFixed (hlater.trans hloaded)
  case fails =>
    obtain ⟨hnew, hpublished⟩ := published_of_load_error hs.writable h
    have hselection : t.selection = s.selection := congrArg Prod.fst hpublished
    have hsetup : t.setup = none := (congrArg Prod.snd hpublished).trans hnew
    refine ⟨hnew, hsetup, hselection, fun hopen defaultDir' arguments' setup dir hstart => ?_⟩
    rw [← hselection] at hopen
    exact (load_succeeds_iff hsetup (hs.of_published hpublished).writable).mpr
      ⟨hopen, dir, hstart⟩
  case free =>
    obtain ⟨t, hload⟩ := (load_succeeds_iff hnew hs.writable).mpr
      ⟨hopen, name, canStart_of_free hfree defaultDir⟩
    exact ⟨_, t, hload⟩
  case read =>
    have hpublished := keeps_readSetup defaultDir arguments s
    exact ⟨congrArg Prod.fst hpublished, congrArg Prod.snd hpublished⟩

/-- A load that a file blocks, and a direct selection after it, do not stop the next load: it can
fix the test network with a data directory by a path from the root, or have a free name for one. -/
theorem load_fixes_network_once_testnet :
    let files : FileTree :=
      { workingDir := ["srv", "node"], entries := [(["srv", "node", "blocked"], .file [])] }
    let s := (start {} files).run
      [.load "/srv/node/.inception" ["--datadir", "blocked"], .selectNamed (.text "regtest")]
    (∃ setup t, load "/srv/node/.inception" ["--testnet"] s = .ok setup t ∧
      t.files.look "/srv/node/.inception/testnet" = some .directory ∧
      IsFixed (t.run [.selectNamed (.text "main"), .load "/" ["--bogus"]]) setup) ∧
    ∃ setup t, load "/srv/node/.inception" ["--datadir", "data"] s = .ok setup t := by
  intro files s
  obtain ⟨hfixes, -, hfirst, -⟩ := load_fixes_network_once {} files
    [.load "/srv/node/.inception" ["--datadir", "blocked"], .selectNamed (.text "regtest")]
  -- The session is spelt as in the statement, so that nothing is evaluated to compare the two.
  rw [show (start {} files).run _ = s from rfl] at hfirst
  have hnew : s.setup = none := by decide +kernel
  have hopen : s.selection.isSealed = false := by decide +kernel
  have hloaded : ∃ setup t, load "/srv/node/.inception" ["--testnet"] s = .ok setup t ∧
      t.files.look "/srv/node/.inception/testnet" = some .directory := by
    decide +kernel
  have hfiles : s.files = files := by decide +kernel
  have hfree : IsFree s.files "data" := by
    rw [hfiles]
    exact {
      isName := by decide +kernel
      noDash := by decide +kernel
      isNew := fun below => by simp [files, FileTree.get?, List.lookup_cons]
      fits := by decide +kernel }
  obtain ⟨setup, t, hload, hmade⟩ := hloaded
  exact ⟨⟨setup, t, hload, hmade, hfixes _ _ setup t hload _⟩,
    (hfirst hnew "/srv/node/.inception").2.2 hopen "data" hfree⟩

end Session

end LedgerNet.Settings
