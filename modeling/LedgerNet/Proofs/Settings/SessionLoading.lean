import LedgerNet.Proofs.Settings.SessionSteps

/-!
# Loading the settings of a session

The settings name the network that their flags choose, from a selection of their own. The start that
follows makes the same choice on the active selection, so the network in the settings and the active
one agree. A start has two parts. The first one reads, makes directories and opens the log, and
publishes nothing; what it comes to depends on the arguments and the files alone. The second one
selects the network, seals the selection and keeps the settings; it is refused if the selection is
sealed, and otherwise every step of it succeeds.

## Main statements

- `writes_readSetup`: reading the settings in a session comes to what the files and arguments give.
- `prepare_eq`: what the first part of a start comes to.
- `publish_of_sealed`, `publish_of_open`: what the second part leads to.
- `load_fails_iff`, `load_succeeds_iff`: when the first settings are loaded, and what stops them.
- `published_of_load`, `published_of_load_error`: what a load publishes, and that one that fails
  publishes nothing.
-/

namespace LedgerNet.Settings

open Chain Outcome

/-! ## The network in the settings -/

namespace Setup

variable {defaultDir : String} {contents? : String → Option Octets} {c : CommandLine}
  {setup : Setup} {records : List Log.Record}

/-- The network that the flags of the settings choose. -/
def target (setup : Setup) : Except SelectionError Network :=
  (Choice.flags setup.testnet setup.regtest).target findNetwork

/-- The settings name the network that their flags choose, and announce it. -/
theorem target_of_choose (h : choose defaultDir contents? c = .ok (setup, records)) :
    setup.target = .ok setup.network ∧
      records = [Selection.selectedRecord setup.network] := by
  simp only [choose, Selection.outcome_flags, refuse_eq_ok_iff, bind_eq_ok_iff,
    mapError_eq_ok_iff, map_eq_ok_iff, pure_eq_ok_iff] at h
  obtain ⟨-, values, -, testnet, -, regtest, -, chosen, ⟨p, htarget, rfl⟩, hpair⟩ := h
  cases hpair
  exact ⟨htarget, rfl⟩

theorem target_of_withLevels {setup' : Setup} (h : setup.withLevels c = .ok setup') :
    setup'.target = setup.target ∧ setup'.network = setup.network := by
  unfold withLevels at h
  split at h
  · cases h
    exact ⟨rfl, rfl⟩
  · split at h
    · cases h
      exact ⟨rfl, rfl⟩
    · cases h

/-- The settings that are read name the network that their flags choose. -/
theorem target_of_read {arguments : List String}
    (h : Setup.read defaultDir contents? arguments = .ok setup) :
    setup.target = .ok setup.network := by
  simp only [Setup.read, bind_eq_ok_iff, mapError_eq_ok_iff] at h
  obtain ⟨c, -, ⟨chosen, records⟩, hchoose, hlevels⟩ := h
  obtain ⟨htarget, -⟩ := target_of_choose hchoose
  obtain ⟨hsame, hnetwork⟩ := target_of_withLevels hlevels
  rw [hsame, hnetwork, htarget]

end Setup

theorem dataDirSuffix_of_byName :
    ∀ row ∈ Networks.byName, ∃ suffix, row.2.dataDirSuffix = .text suffix := by
  intro row h
  simp only [Networks.byName, List.mem_cons, List.not_mem_nil, or_false] at h
  rcases h with rfl | rfl | rfl | rfl <;> exact ⟨_, rfl⟩

/-- A network that is found has a directory for its data. -/
theorem Setup.exists_networkDataDir {setup : Setup} (h : setup.target = .ok setup.network)
    (defaultDir : String) : ∃ dir, setup.networkDataDir defaultDir = .ok dir := by
  have hsuffix : ∃ suffix, setup.network.dataDirSuffix = .text suffix := by
    unfold Setup.target Choice.target at h
    split at h
    · cases h
    · obtain ⟨name, -, hrow⟩ := Selection.mem_byName_of_findNetwork h
      exact dataDirSuffix_of_byName (name, setup.network) hrow
  obtain ⟨suffix, hsuffix⟩ := hsuffix
  have hdir : ∀ base, ∃ dir, networkDir setup.network base = .ok dir := by
    intro base
    rw [networkDir, hsuffix]
    split <;> exact ⟨_, rfl⟩
  -- An empty directory stands for the default one.
  unfold Setup.networkDataDir Settings.networkDataDir
  split
  · exact hdir defaultDir
  · exact hdir defaultDir
  · exact hdir _

namespace Session

variable {s t : Session} {setup : Setup} {defaultDir dir : String} {arguments : List String}
  {p : Network}

/-! ## The first part of a start -/

/-- Reading the settings in a session comes to what the files and the arguments give. -/
theorem writes_readSetup (defaultDir : String) (arguments : List String) (s : Session) :
    Writes (readSetup defaultDir arguments) s
      ((Setup.read defaultDir s.files.contents? arguments).mapError .setup) := by
  cases hread : CommandLine.read arguments with
  | error e =>
    refine .refl ?_
    rw [readSetup, Setup.read, hread]
    rfl
  | ok c =>
    have hstart : readSetup defaultDir arguments s =
        (do
          let chosen ← lift .setup (Setup.choose defaultDir s.files.contents? c)
          emit chosen.2
          lift .setup (chosen.1.withLevels c) : Run Setup) s := by
      rw [readSetup, hread]
      rfl
    have hgiven : Setup.read defaultDir s.files.contents? arguments =
        (do
          let chosen ← Setup.choose defaultDir s.files.contents? c
          chosen.1.withLevels c) := by
      rw [Setup.read, hread]
      rfl
    unfold Writes
    rw [hstart, hgiven]
    cases hchoose : Setup.choose defaultDir s.files.contents? c with
    | error e => exact Writes.refl rfl
    | ok chosen =>
      -- The announcement of the network can be written, and then the levels decide.
      obtain ⟨setup, records⟩ := chosen
      obtain ⟨-, rfl⟩ := Setup.target_of_choose hchoose
      have hwritable : ∀ r ∈ [Selection.selectedRecord setup.network], r.isWritable :=
        List.forall_mem_singleton.mpr (isWritable_of_level (by decide) _ _)
      exact (writes_emit hwritable s).bind fun files _ => writes_lift .setup (setup.withLevels c) _

/-- The first part of a start: the settings are read, the data directory is made and the log is
opened. -/
def prepare (defaultDir : String) (arguments : List String) : Run (Setup × String) := do
  let setup ← readSetup defaultDir arguments
  let dir ← lift .value (setup.networkDataDir defaultDir)
  makeDataDir dir
  startLog (Path.join dir logName) setup.levels
  return (setup, dir)

theorem keeps_prepare (defaultDir : String) (arguments : List String) :
    Keeps (prepare defaultDir arguments) :=
  (keeps_readSetup defaultDir arguments).bind fun setup =>
    (keeps_lift _ _).bind fun dir =>
      (keeps_makeDataDir dir).bind fun _ =>
        (keeps_startLog (Path.join dir logName) setup.levels).bind fun _ _ => rfl

theorem logPath_ne_empty (dir : String) : Path.join dir logName ≠ "" := by
  have hname : Path.isAbsolute logName = false := by decide +kernel
  have hne : logName.toList ≠ [] := by decide +kernel
  rw [Path.join, hname, if_neg Bool.false_ne_true, ne_eq, ← String.toList_inj]
  split <;> simp [hne]

/-- What making a data directory and opening the log in it come to. -/
def opening (files : FileTree) (dir : String) : Except LoadError Unit := do
  ofEnsured dir (files.ensureDirectory dir).2
  ((fun _ => ()) <$> (files.ensureDirectory dir).1.openFile (Path.join dir logName)).mapError .files

theorem exists_opening (dir : String) (levels : Levels) (s : Session) :
    ∃ t, (makeDataDir dir >>= fun _ => startLog (Path.join dir logName) levels) s =
      ended (opening s.files dir) t := by
  have hmade := makeDataDir_eq dir s
  unfold opening
  cases hof : ofEnsured dir (s.files.ensureDirectory dir).2 with
  | error e =>
    rw [hof] at hmade
    exact ⟨_, bind_state_eq_error_iff.mpr (.inl hmade)⟩
  | ok u =>
    rw [hof] at hmade
    rw [bind_state_of_ok hmade]
    exact exists_startLog (logPath_ne_empty dir) levels _

/-- What files hold is no matter in that. -/
theorem opening_congr {files files' : FileTree} (h : files.shape = files'.shape) (dir : String) :
    opening files dir = opening files' dir := by
  obtain ⟨hmade, hshape⟩ := FileTree.ensureDirectory_congr h dir
  have hopened := congrArg (fun x => (fun _ => ()) <$> x)
    (FileTree.openFile_congr hshape (Path.join dir logName))
  simp only [← comp_map] at hopened
  rw [opening, opening, hmade]
  exact congrArg (fun x => ofEnsured dir _ >>= fun _ => Except.mapError .files x) hopened

/-- What the first part of a start comes to, by the files and the arguments: the settings with the
data directory, or why there is no start. -/
def preparation (files : FileTree) (defaultDir : String) (arguments : List String) :
    Except LoadError (Setup × String) := do
  let setup ← (Setup.read defaultDir files.contents? arguments).mapError .setup
  let dir ← (setup.networkDataDir defaultDir).mapError .value
  opening files dir
  return (setup, dir)

theorem preparation_of_read {files : FileTree}
    (hread : Setup.read defaultDir files.contents? arguments = .ok setup)
    (hdir : setup.networkDataDir defaultDir = .ok dir) :
    preparation files defaultDir arguments = (fun _ => (setup, dir)) <$> opening files dir := by
  simp only [preparation, hread, hdir, Except.mapError, ok_bind]
  cases opening files dir <;> rfl

/-- The first part of a start comes to the same in every session with the files. -/
theorem prepare_eq (defaultDir : String) (arguments : List String) (s : Session) :
    ∃ t, prepare defaultDir arguments s = ended (preparation s.files defaultDir arguments) t := by
  obtain ⟨files, hshape, hread⟩ := writes_readSetup defaultDir arguments s
  cases hsetup : Setup.read defaultDir s.files.contents? arguments with
  | error e =>
    rw [hsetup] at hread
    rw [preparation, hsetup]
    exact ⟨_, bind_state_eq_error_iff.mpr (.inl hread)⟩
  | ok setup =>
    rw [hsetup] at hread
    obtain ⟨dir, hdir⟩ := Setup.exists_networkDataDir (Setup.target_of_read hsetup) defaultDir
    -- Reading has only changed what files hold.
    obtain ⟨t, hopening⟩ := exists_opening dir setup.levels { s with files }
    rw [opening_congr hshape] at hopening
    have hrest : prepare defaultDir arguments s =
        ((makeDataDir dir >>= fun _ => startLog (Path.join dir logName) setup.levels) >>= fun _ =>
          (pure (setup, dir) : Run (Setup × String))) { s with files } := by
      rw [prepare, bind_state_of_ok hread, hdir, bind_assoc]
      rfl
    refine ⟨t, hrest.trans ?_⟩
    rw [preparation_of_read hsetup hdir]
    cases ho : opening s.files dir with
    | error e =>
      rw [ho] at hopening
      exact bind_state_eq_error_iff.mpr (.inl hopening)
    | ok u =>
      rw [ho] at hopening
      exact bind_state_of_ok hopening

theorem selection_of_prepare {start : Setup × String}
    (h : prepare defaultDir arguments s = .ok start t) : t.selection = s.selection :=
  congrArg Prod.fst ((keeps_prepare defaultDir arguments).of_ok h)

/-! ## The second part of a start -/

/-- The second part of a start: the network is selected and fixed, and the settings are kept. -/
def publish (setup : Setup) (dir : String) : Run Unit := do
  let _ ← selectByFlags setup.testnet setup.regtest
  close
  emit [⟨logger, Log.info, s!"using data directory {dir}"⟩]
  modify fun s => { s with setup := some setup }

theorem publish_of_sealed (h : s.selection.isSealed = true) :
    publish setup dir s = .error (.select (.isSealed s.selection.current.networkId)) s :=
  bind_state_eq_error_iff.mpr (.inl (selectByFlags_of_sealed h setup.testnet setup.regtest))

/-- Once the network is selected, everything that follows succeeds. -/
theorem publish_of_open (hopen : s.selection.isSealed = false)
    (hcurrent : s.selection.current.networkId.isWritable)
    (htarget : setup.target = .ok setup.network) :
    ∃ t, publish setup dir s = .ok () t ∧
      t.published = ((s.selection.activate setup.network).sealed, some setup) := by
  have hwritable : setup.network.networkId.isWritable :=
    Selection.findNetwork_lawful.target_writable htarget
  -- Each of the three steps writes to the log, and only that changes the files.
  obtain ⟨files₁, -, hselect⟩ := attempt_of_ok hopen hcurrent hwritable
  rw [← htarget, Setup.target, ← selectByFlags_eq] at hselect
  obtain ⟨files₂, -, hclose⟩ := @close_of_writable
    { s with files := files₁, selection := s.selection.activate setup.network } hwritable
  obtain ⟨files₃, -, hemit⟩ := @writes_emit
    [⟨logger, Log.info, s!"using data directory {dir}"⟩]
    (List.forall_mem_singleton.mpr (isWritable_of_level (by decide) _ _))
    { s with files := files₂, selection := (s.selection.activate setup.network).sealed }
  have hpublish : publish setup dir s =
      .ok () { s with
        files := files₃
        selection := (s.selection.activate setup.network).sealed
        setup := some setup } := by
    rw [publish, bind_state_of_ok hselect, bind_state_of_ok hclose, bind_state_of_ok hemit]
    rfl
  exact ⟨_, hpublish, rfl⟩

/-! ## What a start needs -/

/-- The arguments give settings and a data directory with which a run can start over the files. -/
structure CanStart (files : FileTree) (defaultDir : String) (arguments : List String)
    (setup : Setup) (dir : String) : Prop where
  /-- The arguments and the configuration file are understood. -/
  reads : Setup.read defaultDir files.contents? arguments = .ok setup
  names : setup.networkDataDir defaultDir = .ok dir
  /-- The data directory is there or can be made. -/
  makes : (files.ensureDirectory dir).2 = .present
  /-- The log file can be opened in it. -/
  opens : ∃ opened, (files.ensureDirectory dir).1.openFile (Path.join dir logName) = .ok opened

/-- What stops the first load of a session, with the error that it ends in. -/
inductive Obstacle (s : Session) (defaultDir : String) (arguments : List String) :
    LoadError → Prop
  /-- The arguments or the configuration file are refused. -/
  | settings {e : SetupError}
      (h : Setup.read defaultDir s.files.contents? arguments = .error e) :
      Obstacle s defaultDir arguments (.setup e)
  /-- The data directory is a file. -/
  | blocked {setup : Setup} {dir : String}
      (hread : Setup.read defaultDir s.files.contents? arguments = .ok setup)
      (hdir : setup.networkDataDir defaultDir = .ok dir)
      (h : (s.files.ensureDirectory dir).2 = .blocked) :
      Obstacle s defaultDir arguments (.blocked dir)
  /-- The data directory cannot be made. -/
  | unmade {setup : Setup} {dir : String} {e : FileError}
      (hread : Setup.read defaultDir s.files.contents? arguments = .ok setup)
      (hdir : setup.networkDataDir defaultDir = .ok dir)
      (h : (s.files.ensureDirectory dir).2 = .failed e) :
      Obstacle s defaultDir arguments (.files e)
  /-- The log file cannot be opened. -/
  | unopened {setup : Setup} {dir : String} {e : FileError}
      (hread : Setup.read defaultDir s.files.contents? arguments = .ok setup)
      (hdir : setup.networkDataDir defaultDir = .ok dir)
      (hmade : (s.files.ensureDirectory dir).2 = .present)
      (h : (s.files.ensureDirectory dir).1.openFile (Path.join dir logName) = .error e) :
      Obstacle s defaultDir arguments (.files e)
  /-- Nothing else is in the way, and the selection is sealed. -/
  | isSealed {setup : Setup} {dir : String}
      (hstart : CanStart s.files defaultDir arguments setup dir)
      (h : s.selection.isSealed = true) :
      Obstacle s defaultDir arguments (.select (.isSealed s.selection.current.networkId))

theorem opening_eq (files : FileTree) (dir : String) :
    opening files dir =
      match (files.ensureDirectory dir).2 with
      | .present => ((fun _ => ()) <$>
          (files.ensureDirectory dir).1.openFile (Path.join dir logName)).mapError .files
      | .blocked => .error (.blocked dir)
      | .failed e => .error (.files e) := by
  unfold opening
  cases (files.ensureDirectory dir).2 <;> rfl

theorem preparation_eq_ok_iff {files : FileTree} :
    preparation files defaultDir arguments = .ok (setup, dir) ↔
      CanStart files defaultDir arguments setup dir := by
  constructor
  · intro h
    simp only [preparation, bind_eq_ok_iff, mapError_eq_ok_iff] at h
    obtain ⟨setup', hread, dir', hdir, u, hopening, hpair⟩ := h
    cases hpair
    rw [opening_eq] at hopening
    split at hopening
    case h_1 hmade =>
      obtain ⟨opened, hopened, -⟩ := map_eq_ok_iff.mp (mapError_eq_ok_iff.mp hopening)
      exact ⟨hread, hdir, hmade, opened, hopened⟩
    case h_2 => cases hopening
    case h_3 => cases hopening
  · intro h
    obtain ⟨opened, hopened⟩ := h.opens
    rw [preparation_of_read h.reads h.names, opening_eq, h.makes, hopened]
    rfl

theorem Obstacle.of_preparation {e : LoadError}
    (h : preparation s.files defaultDir arguments = .error e) :
    Obstacle s defaultDir arguments e := by
  cases hread : Setup.read defaultDir s.files.contents? arguments with
  | error e' =>
    rw [preparation, hread] at h
    cases h
    exact .settings hread
  | ok setup =>
    obtain ⟨dir, hdir⟩ := Setup.exists_networkDataDir (Setup.target_of_read hread) defaultDir
    rw [preparation_of_read hread hdir, map_eq_error_iff, opening_eq] at h
    split at h
    case h_1 hmade =>
      obtain ⟨e', hopened, rfl⟩ := mapError_eq_error_iff.mp h
      exact .unopened hread hdir hmade (map_eq_error_iff.mp hopened)
    case h_2 hmade =>
      cases h
      exact .blocked hread hdir hmade
    case h_3 e' hmade =>
      cases h
      exact .unmade hread hdir hmade

/-- What stops a load either stops the first part of the start or is the seal. -/
theorem Obstacle.preparation_or_sealed {e : LoadError} (h : Obstacle s defaultDir arguments e) :
    preparation s.files defaultDir arguments = .error e ∨
      (∃ setup dir, preparation s.files defaultDir arguments = .ok (setup, dir)) ∧
        s.selection.isSealed = true ∧ e = .select (.isSealed s.selection.current.networkId) := by
  cases h with
  | settings h =>
    left
    rw [preparation, h]
    rfl
  | blocked hread hdir h =>
    left
    rw [preparation_of_read hread hdir, opening_eq, h]
    rfl
  | unmade hread hdir h =>
    left
    rw [preparation_of_read hread hdir, opening_eq, h]
    rfl
  | unopened hread hdir hmade h =>
    left
    rw [preparation_of_read hread hdir, opening_eq, hmade, h]
    rfl
  | isSealed hstart h => exact .inr ⟨⟨_, _, preparation_eq_ok_iff.mpr hstart⟩, h, rfl⟩

/-! ## Loading -/

theorem load_eq (defaultDir : String) (arguments : List String) (s : Session) :
    load defaultDir arguments s =
      (match s.setup with
        | some setup => (return setup : Run Setup)
        | none => do
          let setup ← readSetup defaultDir arguments
          begin defaultDir setup
          return setup) s := rfl

theorem load_of_loaded (h : s.setup = some setup) (defaultDir : String) (arguments : List String) :
    load defaultDir arguments s = .ok setup s := by
  rw [load_eq, h]
  rfl

/-- A first load prepares a start and publishes its settings. -/
theorem load_of_new (h : s.setup = none) (defaultDir : String) (arguments : List String) :
    load defaultDir arguments s =
      (do
        let (setup, dir) ← prepare defaultDir arguments
        publish setup dir
        return setup : Run Setup) s := by
  rw [load_eq, h]
  simp only [prepare, publish, Session.begin, bind_assoc, pure_bind]

section First

variable (hnew : s.setup = none)

include hnew

theorem load_of_preparation_error {e : LoadError}
    (h : preparation s.files defaultDir arguments = .error e) :
    ∃ t, load defaultDir arguments s = .error e t ∧ t.published = s.published := by
  obtain ⟨t, hprepare⟩ := prepare_eq defaultDir arguments s
  rw [h] at hprepare
  refine ⟨t, ?_, (keeps_prepare defaultDir arguments).of_error hprepare⟩
  rw [load_of_new hnew]
  exact bind_state_eq_error_iff.mpr (.inl hprepare)

theorem load_of_sealed (hsealed : s.selection.isSealed = true)
    (h : preparation s.files defaultDir arguments = .ok (setup, dir)) :
    ∃ t, load defaultDir arguments s =
        .error (.select (.isSealed s.selection.current.networkId)) t ∧
      t.published = s.published := by
  obtain ⟨t, hprepare⟩ := prepare_eq defaultDir arguments s
  rw [h] at hprepare
  have hselection := selection_of_prepare hprepare
  have hpublish := @publish_of_sealed t setup dir (hselection ▸ hsealed)
  rw [hselection] at hpublish
  refine ⟨t, ?_, (keeps_prepare defaultDir arguments).of_ok hprepare⟩
  rw [load_of_new hnew, bind_state_of_ok hprepare]
  exact bind_state_eq_error_iff.mpr (.inl hpublish)

theorem load_of_open (hopen : s.selection.isSealed = false)
    (hcurrent : s.selection.current.networkId.isWritable)
    (h : preparation s.files defaultDir arguments = .ok (setup, dir)) :
    ∃ t, load defaultDir arguments s = .ok setup t ∧
      t.published = ((s.selection.activate setup.network).sealed, some setup) := by
  obtain ⟨u, hprepare⟩ := prepare_eq defaultDir arguments s
  rw [h] at hprepare
  have hselection := selection_of_prepare hprepare
  have htarget := Setup.target_of_read (preparation_eq_ok_iff.mp h).reads
  rw [← hselection] at hopen hcurrent
  obtain ⟨t, hpublish, hpublished⟩ := @publish_of_open u setup dir hopen hcurrent htarget
  rw [hselection] at hpublished
  refine ⟨t, ?_, hpublished⟩
  rw [load_of_new hnew, bind_state_of_ok hprepare]
  exact bind_state_of_ok hpublish

/-- **When a load fails.** Before there are settings, a load fails exactly for what stops it. -/
theorem load_fails_iff (hcurrent : s.selection.current.networkId.isWritable) {e : LoadError} :
    (∃ t, load defaultDir arguments s = .error e t) ↔ Obstacle s defaultDir arguments e := by
  constructor
  · rintro ⟨t, h⟩
    -- A load ends in one way only, so it is compared with what it has to end in.
    cases hprepare : preparation s.files defaultDir arguments with
    | error e' =>
      obtain ⟨u, hload, -⟩ := load_of_preparation_error hnew hprepare
      rw [h] at hload
      cases hload
      exact .of_preparation hprepare
    | ok start =>
      obtain ⟨setup, dir⟩ := start
      cases hsealed : s.selection.isSealed with
      | true =>
        obtain ⟨u, hload, -⟩ := load_of_sealed hnew hsealed hprepare
        rw [h] at hload
        cases hload
        exact .isSealed (preparation_eq_ok_iff.mp hprepare) hsealed
      | false =>
        obtain ⟨u, hload, -⟩ := load_of_open hnew hsealed hcurrent hprepare
        rw [h] at hload
        cases hload
  · intro h
    rcases h.preparation_or_sealed with hprepare | ⟨⟨setup, dir, hprepare⟩, hsealed, rfl⟩
    · obtain ⟨t, hload, -⟩ := load_of_preparation_error hnew hprepare
      exact ⟨t, hload⟩
    · obtain ⟨t, hload, -⟩ := load_of_sealed hnew hsealed hprepare
      exact ⟨t, hload⟩

/-- **When a load succeeds.** Before there are settings, a load answers settings exactly if they can
start a run over the files and the selection is open. -/
theorem load_succeeds_iff (hcurrent : s.selection.current.networkId.isWritable) :
    (∃ t, load defaultDir arguments s = .ok setup t) ↔
      s.selection.isSealed = false ∧ ∃ dir, CanStart s.files defaultDir arguments setup dir := by
  constructor
  · rintro ⟨t, h⟩
    -- A load that cannot start, or finds the selection sealed, fails.
    cases hprepare : preparation s.files defaultDir arguments with
    | error e =>
      obtain ⟨u, hload, -⟩ := load_of_preparation_error hnew hprepare
      rw [h] at hload
      cases hload
    | ok start =>
      obtain ⟨setup', dir⟩ := start
      cases hsealed : s.selection.isSealed with
      | true =>
        obtain ⟨u, hload, -⟩ := load_of_sealed hnew hsealed hprepare
        rw [h] at hload
        cases hload
      | false =>
        obtain ⟨u, hload, -⟩ := load_of_open hnew hsealed hcurrent hprepare
        rw [h] at hload
        cases hload
        exact ⟨rfl, dir, preparation_eq_ok_iff.mp hprepare⟩
  · rintro ⟨hopen, dir, hstart⟩
    obtain ⟨t, hload, -⟩ :=
      load_of_open hnew hopen hcurrent (preparation_eq_ok_iff.mpr hstart)
    exact ⟨t, hload⟩

/-- A first load selects the network of its settings, seals the selection and keeps the settings. -/
theorem published_of_load (hcurrent : s.selection.current.networkId.isWritable)
    (h : load defaultDir arguments s = .ok setup t) :
    setup.target = .ok setup.network ∧
      t.published = ((s.selection.activate setup.network).sealed, some setup) := by
  obtain ⟨hopen, dir, hstart⟩ := (load_succeeds_iff hnew hcurrent).mp ⟨t, h⟩
  obtain ⟨u, hload, hpublished⟩ :=
    load_of_open hnew hopen hcurrent (preparation_eq_ok_iff.mpr hstart)
  rw [h] at hload
  cases hload
  exact ⟨Setup.target_of_read hstart.reads, hpublished⟩

end First

/-- A load that fails finds no settings and publishes nothing. -/
theorem published_of_load_error (hcurrent : s.selection.current.networkId.isWritable)
    {e : LoadError} (h : load defaultDir arguments s = .error e t) :
    s.setup = none ∧ t.published = s.published := by
  cases hsetup : s.setup with
  | some setup =>
    rw [load_of_loaded hsetup] at h
    cases h
  | none =>
    refine ⟨rfl, ?_⟩
    rcases ((load_fails_iff hsetup hcurrent).mp ⟨t, h⟩).preparation_or_sealed with
      hprepare | ⟨⟨setup, dir, hprepare⟩, hsealed, rfl⟩
    · obtain ⟨u, hload, hpublished⟩ := load_of_preparation_error hsetup hprepare
      rw [h] at hload
      cases hload
      exact hpublished
    · obtain ⟨u, hload, hpublished⟩ := load_of_sealed hsetup hsealed hprepare
      rw [h] at hload
      cases hload
      exact hpublished

end Session

end LedgerNet.Settings
