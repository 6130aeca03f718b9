import LedgerNet.Proofs.Chain.SelectionSteps
import LedgerNet.Proofs.FileTree
import LedgerNet.Settings.Session

/-!
# Steps of a session

Of a session, two things are published: the active network, with whether it was selected and sealed,
and the settings. Most steps of a session only touch files and the log, and keep what is published
whether they succeed or fail.

## Main statements

- `Keeps.bind`: steps that keep what is published can be chained.
- `writes_emit`: records whose levels can be written are logged, in files of the same shape.
- `attempt_of_sealed`, `attempt_of_error`, `attempt_of_ok`: what a direct selection leads to.
- `makeDataDir_eq`, `exists_startLog`: when a directory and a log file can be used.
- `keeps_readSetup`: reading the settings publishes nothing.
-/

namespace LedgerNet.Settings

open Chain Outcome

namespace Session

variable {α β : Type} {r : Run α} {f : α → Run β} {s t : Session}

/-- The session after a step, whether the step succeeded or failed. -/
def after (r : Run α) (s : Session) : Session :=
  match r s with
  | .ok _ t => t
  | .error _ t => t

theorem after_of_ok {x : α} (h : r s = .ok x t) : after r s = t := by
  rw [after, h]

theorem after_of_error {e : LoadError} (h : r s = .error e t) : after r s = t := by
  rw [after, h]

/-! ## What is published -/

/-- What the rest of a program sees of a session. -/
def published (s : Session) : Selection × Option Setup := (s.selection, s.setup)

/-- The step keeps what is published, whether it succeeds or fails. -/
def Keeps (r : Run α) : Prop := ∀ s, (after r s).published = s.published

theorem Keeps.of_ok (hr : Keeps r) {x : α} (h : r s = .ok x t) : t.published = s.published := by
  have hkept := hr s
  rwa [after_of_ok h] at hkept

theorem Keeps.of_error (hr : Keeps r) {e : LoadError} (h : r s = .error e t) :
    t.published = s.published := by
  have hkept := hr s
  rwa [after_of_error h] at hkept

theorem Keeps.bind (hr : Keeps r) (hf : ∀ x, Keeps (f x)) : Keeps (r >>= f) := by
  intro s
  cases h : (r >>= f) s with
  | ok y u =>
    obtain ⟨x, t, hx, hy⟩ := bind_state_eq_ok_iff.mp h
    rw [after_of_ok h, (hf x).of_ok hy, hr.of_ok hx]
  | error e u =>
    rw [after_of_error h]
    rcases bind_state_eq_error_iff.mp h with hx | ⟨x, t, hx, hy⟩
    · exact hr.of_error hx
    · rw [(hf x).of_error hy, hr.of_ok hx]

theorem keeps_get : Keeps (get : Run Session) := fun _ => rfl

/-- What follows a look at the session is run on that session. -/
theorem get_bind (f : Session → Run α) (s : Session) : (get >>= f) s = f s s := rfl

theorem keeps_lift {ε : Type} (wrap : ε → LoadError) (x : Except ε α) : Keeps (lift wrap x) := by
  intro s
  cases x <;> rfl

/-! ## The log -/

theorem emitOne_eq (r : Log.Record) (s : Session) :
    emitOne r s =
      match s.logging.emit? s.host s.files r with
      | some files => .ok () { s with files }
      | none => .error (.unwritable r.level) s := by
  rw [emitOne, get_bind]
  cases s.logging.emit? s.host s.files r <;> rfl

theorem keeps_emitOne (r : Log.Record) : Keeps (emitOne r) := by
  intro s
  rw [after, emitOne_eq]
  cases s.logging.emit? s.host s.files r <;> rfl

theorem keeps_emit (rs : List Log.Record) : Keeps (emit rs) := by
  induction rs with
  | nil => exact fun _ => rfl
  | cons r rs ih => exact (keeps_emitOne r).bind fun _ => ih

/-- A record that is written leaves the shape of the files. -/
theorem shape_of_emit? {l : Logging} {host : Log.Host} {files files' : FileTree}
    {record : Log.Record} (h : l.emit? host files record = some files') :
    files'.shape = files.shape := by
  have hserve (line : String) (handlers : List Log.Handler) :
      ∀ files, (handlers.foldl (Logging.serve line) files).shape = files.shape := by
    -- Every handler starts from the files that the one before it left.
    induction handlers with
    | nil => exact fun _ => rfl
    | cons handler handlers ih =>
      intro files
      rw [List.foldl_cons, ih]
      cases handler with
      | console => rfl
      | file place => exact FileTree.shape_append _ place _
  unfold Logging.emit? at h
  split at h
  · cases h
    rfl
  · split at h
    · cases h
      exact hserve _ _ files
    · cases h

/-! ## What is written -/

/-- A step that ended in a session, whether it succeeded or failed. -/
def ended (outcome : Except LoadError α) (s : Session) : EStateM.Result LoadError Session α :=
  match outcome with
  | .ok x => .ok x s
  | .error e => .error e s

/-- The step has an outcome, and does nothing but write to files. -/
def Writes (r : Run α) (s : Session) (outcome : Except LoadError α) : Prop :=
  ∃ files, files.shape = s.files.shape ∧ r s = ended outcome { s with files }

theorem Writes.refl {outcome : Except LoadError α} (h : r s = ended outcome s) :
    Writes r s outcome :=
  ⟨s.files, rfl, h⟩

theorem writes_lift {ε : Type} (wrap : ε → LoadError) (x : Except ε α) (s : Session) :
    Writes (lift wrap x) s (x.mapError wrap) :=
  .refl (by cases x <;> rfl)

theorem Writes.bind {x : α} {outcome : Except LoadError β} (hr : Writes r s (.ok x))
    (hf : ∀ files, files.shape = s.files.shape → Writes (f x) { s with files } outcome) :
    Writes (r >>= f) s outcome := by
  obtain ⟨files, hshape, hok⟩ := hr
  obtain ⟨files', hshape', hrest⟩ := hf files hshape
  exact ⟨files', hshape'.trans hshape, (bind_state_of_ok hok).trans hrest⟩

/-- Records whose levels can be written are logged, in files of the same shape. -/
theorem writes_emit {rs : List Log.Record} (h : ∀ r ∈ rs, r.isWritable) (s : Session) :
    Writes (emit rs) s (.ok ()) := by
  induction rs generalizing s with
  | nil => exact .refl rfl
  | cons r rs ih =>
    obtain ⟨hr, hrs⟩ := List.forall_mem_cons.mp h
    have hone : Writes (emitOne r) s (.ok ()) := by
      obtain ⟨files, hfiles⟩ : ∃ files, s.logging.emit? s.host s.files r = some files := by
        rw [Logging.emit?]
        cases s.logging.admits r
        · exact ⟨_, rfl⟩
        · rw [if_pos hr]
          exact ⟨_, rfl⟩
      refine ⟨files, shape_of_emit? hfiles, ?_⟩
      rw [emitOne_eq, hfiles]
      rfl
    exact hone.bind fun files _ => ih hrs { s with files }

/-! ## The selection -/

/-- The levels that have names can be written. -/
theorem isWritable_of_level {level : Int} (h : level.natAbs ≤ Log.critical.natAbs)
    (logger message : String) : Log.Record.isWritable ⟨logger, level, message⟩ := by
  have hbound : Log.critical.natAbs < Nat.pow 10 Text.digitLimit := by decide +kernel
  rw [Log.Record.isWritable, Text.isWritable, decide_eq_true_iff]
  exact Nat.lt_of_le_of_lt h hbound

/-- The announcement of a network can be written. -/
theorem announcement_writable (s : Selection) (p : Network) :
    ∀ r ∈ Selection.announcement s p, r.isWritable := by
  intro r hr
  rcases List.mem_append.mp hr with hr | hr
  · split at hr
    · rw [List.mem_singleton.mp hr]
      exact isWritable_of_level (by decide) _ _
    · cases hr
  · rw [List.mem_singleton.mp hr]
    exact isWritable_of_level (by decide) _ _

/-- What a step of the selection comes to that succeeds and has something to say. -/
theorem writes_onSelection {step : Selection.Run α} {x : α} {j : Selection.Journal}
    (h : step { selection := s.selection } = .ok x j) (hwritable : ∀ r ∈ j.records, r.isWritable) :
    ∃ files, files.shape = s.files.shape ∧
      onSelection step s = .ok x { s with files, selection := j.selection } := by
  have hstep : onSelection step s =
      (emit j.records >>= fun _ => (pure x : Run α)) { s with selection := j.selection } := by
    rw [onSelection, get_bind, h]
    rfl
  obtain ⟨files, hshape, hemit⟩ := writes_emit hwritable { s with selection := j.selection }
  exact ⟨files, hshape, hstep.trans (bind_state_of_ok hemit)⟩

/-- A step of the selection that fails and has nothing to say changes nothing. -/
theorem onSelection_of_error {step : Selection.Run α} {e : SelectionError}
    (h : step { selection := s.selection } = .error e { selection := s.selection }) :
    onSelection step s = .error (.select e) s := by
  rw [onSelection, get_bind, h]
  rfl

theorem selectNamed_eq (name : Value) :
    selectNamed name = onSelection (Selection.attempt (findNetwork name)) := rfl

theorem selectByFlags_eq (testnet regtest : Bool) :
    selectByFlags testnet regtest =
      onSelection (Selection.attempt ((Choice.flags testnet regtest).target findNetwork)) := by
  rw [← Selection.select_eq]
  rfl

/-- A sealed selection refuses any network. -/
theorem attempt_of_sealed (h : s.selection.isSealed = true)
    (target : Except SelectionError Network) :
    onSelection (Selection.attempt target) s =
      .error (.select (.isSealed s.selection.current.networkId)) s :=
  onSelection_of_error (Selection.attempt_of_sealed h target)

/-- An open selection refuses what is no network. -/
theorem attempt_of_error (hopen : s.selection.isSealed = false) (e : SelectionError) :
    onSelection (Selection.attempt (.error e)) s = .error (.select e) s :=
  onSelection_of_error (Selection.attempt_of_error hopen e)

/-- On an open selection a network becomes the active one. -/
theorem attempt_of_ok {p : Network} (hopen : s.selection.isSealed = false)
    (hold : s.selection.current.networkId.isWritable) (hnew : p.networkId.isWritable) :
    ∃ files, files.shape = s.files.shape ∧
      onSelection (Selection.attempt (.ok p)) s =
        .ok p { s with files, selection := s.selection.activate p } := by
  apply writes_onSelection (Selection.attempt_of_ok hopen hold hnew)
  exact announcement_writable s.selection p

theorem selectNamed_of_sealed (h : s.selection.isSealed = true) (name : Value) :
    selectNamed name s = .error (.select (.isSealed s.selection.current.networkId)) s := by
  rw [selectNamed_eq, attempt_of_sealed h]

theorem selectByFlags_of_sealed (h : s.selection.isSealed = true) (testnet regtest : Bool) :
    selectByFlags testnet regtest s =
      .error (.select (.isSealed s.selection.current.networkId)) s := by
  rw [selectByFlags_eq, attempt_of_sealed h]

/-- Sealing succeeds where the log can tell the active network. -/
theorem close_of_writable (h : s.selection.current.networkId.isWritable) :
    ∃ files, files.shape = s.files.shape ∧
      close s = .ok () { s with files, selection := s.selection.sealed } := by
  apply writes_onSelection (Selection.close_of_writable h)
  intro r hr
  rw [List.mem_singleton.mp hr]
  exact isWritable_of_level (by decide) _ _

/-! ## Files -/

/-- What making sure of a data directory comes to. -/
def ofEnsured (path : String) : FileTree.Ensured → Except LoadError Unit
  | .present => .ok ()
  | .blocked => .error (.blocked path)
  | .failed e => .error (.files e)

theorem makeDataDir_eq (path : String) (s : Session) :
    makeDataDir path s =
      ended (ofEnsured path (s.files.ensureDirectory path).2)
        { s with files := (s.files.ensureDirectory path).1 } := by
  rw [makeDataDir, get_bind]
  rcases s.files.ensureDirectory path with ⟨files, _ | _ | e⟩ <;> rfl

theorem keeps_makeDataDir (path : String) : Keeps (makeDataDir path) := by
  intro s
  rw [after, makeDataDir_eq]
  cases ofEnsured path (s.files.ensureDirectory path).2 <;> rfl

theorem startLog_eq (path : String) (levels : Levels) (s : Session) :
    startLog path levels s =
      match s.logging.prepare s.host.hasConsole s.files (some path) levels.default
          levels.byName with
      | (logging, .ok files) => .ok () { s with logging, files }
      | (logging, .error e) => .error (.files e) { s with logging } := by
  rw [startLog, get_bind]
  rcases s.logging.prepare s.host.hasConsole s.files (some path) levels.default
    levels.byName with ⟨logging, e | files⟩ <;> rfl

theorem keeps_startLog (path : String) (levels : Levels) : Keeps (startLog path levels) := by
  intro s
  rw [after, startLog_eq]
  rcases s.logging.prepare s.host.hasConsole s.files (some path) levels.default
    levels.byName with ⟨logging, e | files⟩ <;> rfl

/-- Logging to a file starts exactly if the file can be opened. -/
theorem exists_startLog {path : String} (hpath : path ≠ "") (levels : Levels) (s : Session) :
    ∃ t, startLog path levels s =
      ended (((fun _ => ()) <$> s.files.openFile path).mapError .files) t := by
  rw [startLog_eq, Logging.prepare]
  · cases s.files.openFile path with
    | error e => exact ⟨_, rfl⟩
    | ok opened => exact ⟨_, rfl⟩
  · -- Without a path no file would be opened.
    simpa using hpath

/-! ## Settings -/

/-- Reading the settings publishes nothing. The network in them is that of a selection of its
own. -/
theorem keeps_readSetup (defaultDir : String) (arguments : List String) :
    Keeps (readSetup defaultDir arguments) :=
  (keeps_lift _ _).bind fun _ =>
    keeps_get.bind fun _ =>
      (keeps_lift _ _).bind fun chosen =>
        (keeps_emit chosen.2).bind fun _ => keeps_lift _ _

end Session

end LedgerNet.Settings
