import LedgerNet.Proofs.Settings.SessionLoading
import LedgerNet.Proofs.Text.Pieces

/-!
# Loading again

A load that failed leaves files, directories and a changed log behind, and none of that is in the
way of a later one: as long as the selection is open, the next load succeeds whose data directory
has a name that is free in the working directory.

## Main statements

- `Path.names_join`: the names along two names with a slash between them.
- `FileTree.ensureDirectory_new`: a new directory is made in the working directory.
- `FileTree.openFile_new`: a file is opened in it.
- `canStart_of_free`: with a free name for the data directory, a run can start.
-/

namespace LedgerNet

/-! ## Names -/

namespace Path

variable {name a b : String}

theorem isName_iff :
    isName name ↔ name ≠ "" ∧ LeadsDown name ∧ '/' ∉ name.toList ∧ holdsZero name = false ∧
      name.utf8ByteSize ≤ nameLimit := by
  simp [isName, and_assoc]

theorem holdsZero_of_isName {place : List String} (h : place.all isName) :
    place.any holdsZero = false := by
  rw [List.any_eq_false]
  intro n hn
  obtain ⟨-, -, -, hzero, -⟩ := isName_iff.mp (List.all_eq_true.mp h n hn)
  rw [hzero]
  exact Bool.false_ne_true

theorem isAbsolute_of_notMem (h : '/' ∉ name.toList) : isAbsolute name = false := by
  rw [isAbsolute, beq_eq_false_iff_ne]
  exact fun hhead => h (List.mem_of_mem_head? hhead)

theorem endsInSlash_of_notMem (h : '/' ∉ name.toList) : endsInSlash name = false := by
  rw [endsInSlash, beq_eq_false_iff_ne]
  exact fun hlast => h (List.mem_of_getLast? hlast)

theorem names_of_isName (h : isName name) : names name = [name] := by
  obtain ⟨hne, -, hslash, -, -⟩ := isName_iff.mp h
  have hchars : name.toList.isEmpty = false := by simpa using hne
  rw [names, Text.pieces_of_notMem hslash, List.filter_singleton, hchars]
  simp

section Join

variable (ha : isName a) (hb : isName b)

include ha hb

/-- A name behind another one is behind a slash. -/
theorem toList_join : (join a b).toList = a.toList ++ '/' :: b.toList := by
  obtain ⟨hane, -, haslash, -, -⟩ := isName_iff.mp ha
  obtain ⟨-, -, hbslash, -, -⟩ := isName_iff.mp hb
  rw [join, isAbsolute_of_notMem hbslash, endsInSlash_of_notMem haslash]
  simp [hane]

theorem names_join : names (join a b) = [a, b] := by
  obtain ⟨hane, -, haslash, -, -⟩ := isName_iff.mp ha
  obtain ⟨hbne, -, hbslash, -, -⟩ := isName_iff.mp hb
  have hpieces : Text.pieces '/' (join a b).toList = [a.toList, b.toList] :=
    Text.pieces_eq_pair_iff.mpr ⟨toList_join ha hb, haslash, hbslash⟩
  rw [names, hpieces]
  simp [hane, hbne]

theorem isAbsolute_join : isAbsolute (join a b) = false := by
  obtain ⟨hane, -, haslash, -, -⟩ := isName_iff.mp ha
  have hhead : (join a b).toList.head? = a.toList.head? := by
    rw [toList_join ha hb, List.head?_append_of_ne_nil]
    simpa using hane
  rw [isAbsolute, hhead]
  exact isAbsolute_of_notMem haslash

theorem endsInSlash_join : endsInSlash (join a b) = false := by
  obtain ⟨hbne, -, hbslash, -, -⟩ := isName_iff.mp hb
  have hlast : (join a b).toList.getLast? = b.toList.getLast? := by
    have hchars : b.toList ≠ [] := by simpa using hbne
    rw [toList_join ha hb, List.getLast?_append_of_ne_nil _ (List.cons_ne_nil _ _),
      List.getLast?_cons_of_ne_nil hchars]
  rw [endsInSlash, hlast]
  exact endsInSlash_of_notMem hbslash

/-- Neither of the two paths starts with a slash. -/
theorem ofPlace_join (place : List String) : ofPlace (join a b) place = ofPlace a place := by
  obtain ⟨hane, -, haslash, -, -⟩ := isName_iff.mp ha
  rw [ofPlace, ofPlace, toList_join ha hb]
  cases hchars : a.toList with
  | nil => exact absurd (String.toList_eq_nil_iff.mp hchars) hane
  | cons c cs =>
    have hc : (c == '/') = false := by
      rw [beq_eq_false_iff_ne]
      rintro rfl
      exact haslash (hchars ▸ List.mem_cons_self)
    simp [hc]

end Join

end Path

/-! ## The working directory -/

namespace FileTree

variable {t : FileTree} {name : String}

theorem get?_of_above {place : List String} (h : place <+: t.workingDir) :
    t.get? place = some .directory := by
  rw [get?, if_pos (List.isPrefixOf_iff_prefix.mpr h)]

theorem get?_set {place : List String} (h : ¬place <+: t.workingDir) (e : Entry)
    (p : List String) :
    (t.set place e).get? p = if p = place then some e else t.get? p := by
  have hworking : (t.set place e).workingDir = t.workingDir := rfl
  by_cases hp : p <+: t.workingDir
  · have hne : p ≠ place := fun heq => h (heq ▸ hp)
    rw [get?_of_above (t := t.set place e) hp, get?_of_above hp, if_neg hne]
  · have hnot {q : List String} (hq : ¬q <+: t.workingDir) : ¬q.isPrefixOf t.workingDir = true :=
      fun hq' => hq (List.isPrefixOf_iff_prefix.mp hq')
    rw [get?, hworking, if_neg (hnot hp), get?, if_neg (hnot hp), set, List.lookup_append,
      Entries.lookup_filter_key (· != place), Entries.lookup_cons]
    by_cases hplace : p = place <;> simp [hplace]

theorem checkDirectory_of_get? {place : List String} (h : t.get? place = some .directory) :
    t.checkDirectory place = .ok () := by
  rw [checkDirectory, h]

/-- A walk goes down to what has the name. -/
theorem walk_cons {here names : List String} (hhere : t.get? here = some .directory)
    (hname : Path.isName name) : t.walk here (name :: names) = t.walk (here ++ [name]) names := by
  obtain ⟨-, ⟨hdot, hdots⟩, -, -, hshort⟩ := Path.isName_iff.mp hname
  rw [walk, checkDirectory_of_get? hhere, Path.next, if_neg hdot, if_neg hdots]
  simp only [Outcome.ok_bind, if_neg (Nat.not_lt.mpr hshort)]

/-- Walking down by names leads to their place, if all but the last are directories. -/
theorem walk_of_directories {here names : List String} (hnames : names.all Path.isName)
    (h : ∀ outer, outer <+: names → outer ≠ names → t.get? (here ++ outer) = some .directory) :
    t.walk here names = .ok (here ++ names) := by
  induction names generalizing here with
  | nil => rw [walk, List.append_nil]
  | cons name names ih =>
    rw [List.all_cons, Bool.and_eq_true] at hnames
    have hhere := h [] List.nil_prefix (List.cons_ne_nil _ _).symm
    rw [List.append_nil] at hhere
    have hrest : t.walk (here ++ [name]) names = .ok (here ++ [name] ++ names) := by
      refine ih hnames.2 fun outer houter hne => ?_
      rw [List.append_assoc]
      exact h (name :: outer) (List.cons_prefix_cons.mpr ⟨rfl, houter⟩) (by simpa using hne)
    rw [walk_cons hhere hnames.1, hrest, List.append_assoc]
    rfl

/-! ## A new directory -/

/-- Nothing stands at a name in the working directory, or below it. -/
def IsNew (t : FileTree) (name : String) : Prop :=
  ∀ below, t.get? (t.workingDir ++ name :: below) = none

theorem IsNew.not_prefix {t : FileTree} {name : String} (hnew : t.IsNew name)
    (below : List String) : ¬t.workingDir ++ name :: below <+: t.workingDir := by
  intro hprefix
  have hentry := hnew below
  rw [get?_of_above hprefix] at hentry
  cases hentry

section New

variable (hname : Path.isName name)

include hname

/-- A walk from the working directory to the name. -/
theorem walk_new (names : List String) :
    t.walk t.workingDir (name :: names) = t.walk (t.workingDir ++ [name]) names :=
  walk_cons (get?_of_above (List.prefix_refl _)) hname

theorem startOf_new : t.startOf name = t.workingDir := by
  obtain ⟨-, -, hslash, -, -⟩ := Path.isName_iff.mp hname
  rw [startOf, Path.isAbsolute_of_notMem hslash]
  rfl

variable (hnew : t.IsNew name)

include hnew

theorem look_new : t.look name = none := by
  obtain ⟨-, -, hslash, -, -⟩ := Path.isName_iff.mp hname
  have htarget : Path.target name = [name] := by
    rw [Path.target, Path.names_of_isName hname, Path.endsInSlash_of_notMem hslash]
    rfl
  rw [look, htarget, startOf_new hname, walk_new hname, walk]
  simp only [hnew []]
  split <;> rfl

/-- The directory is made. -/
theorem ensureDirectory_new :
    t.ensureDirectory name = (t.set (t.workingDir ++ [name]) .directory, .present) := by
  obtain ⟨hne, -, hslash, hzero, hshort⟩ := Path.isName_iff.mp hname
  have hheads : Path.heads name = [(name, name.utf8ByteSize)] := by
    rw [Path.heads, Text.pieces_of_notMem hslash]
    simp [hne]
  have hsize : ¬Path.sizeLimit ≤ name.utf8ByteSize :=
    Nat.not_le.mpr (Nat.lt_of_le_of_lt hshort (by decide))
  have hwalk : t.walk t.workingDir [name] = .ok (t.workingDir ++ [name]) := by
    rw [walk_new hname, walk]
  have hmake : t.makeDirectory t.workingDir [name] name.utf8ByteSize =
      .ok (t.set (t.workingDir ++ [name]) .directory) := by
    simp only [makeDirectory, List.any_cons, List.any_nil, hzero, Bool.or_self, hsize,
      List.isEmpty_cons, hwalk, Outcome.ok_bind, hnew []]
    rfl
  have hpath : t.makePath name = (t.set (t.workingDir ++ [name]) .directory, none) := by
    rw [makePath, hheads, startOf_new hname]
    show t.makeLast t.workingDir [name] name.utf8ByteSize = _
    rw [makeLast, hmake]
  rw [ensureDirectory, look_new hname hnew, hpath]

variable {file : String} (hfile : Path.isName file)

include hfile

omit hnew in
theorem startOf_join : t.startOf (Path.join name file) = t.workingDir := by
  rw [startOf, Path.isAbsolute_join hname hfile]
  rfl

omit hnew in
theorem placeOf_join : t.placeOf (Path.join name file) = t.workingDir ++ [name, file] := by
  rw [placeOf, startOf_join hname hfile, Path.names_join hname hfile, Path.normal]
  apply Path.foldl_next_of_down
  simp only [List.mem_cons, List.not_mem_nil, or_false]
  rintro n (rfl | rfl)
  · exact Path.leadsDown_of_isName hname
  · exact Path.leadsDown_of_isName hfile

/-- Nothing can be read below the name. -/
theorem contents?_new : t.contents? (Path.join name file) = none := by
  have htarget : Path.target (Path.join name file) = [name, file] := by
    rw [Path.target, Path.names_join hname hfile, Path.endsInSlash_join hname hfile]
    rfl
  -- The walk ends at the name, where no directory is.
  have hwalk : t.walk t.workingDir [name, file] = .error .notFound := by
    rw [walk_new hname, walk, checkDirectory, hnew []]
    rfl
  have hlook : t.look (Path.join name file) = none := by
    rw [look, htarget, startOf_join hname hfile, hwalk]
    split <;> rfl
  rw [contents?, hlook]

/-- In the tree with the new directory, a walk from the root leads to the file. -/
theorem walk_below_new :
    (t.set (t.workingDir ++ [name]) .directory).walk [] (t.workingDir ++ [name] ++ [file]) =
      .ok (t.workingDir ++ [name] ++ [file]) := by
  have hnames : (t.workingDir ++ [name] ++ [file]).all Path.isName := by
    simp [hname, hfile, t.workingDir_names]
  apply walk_of_directories hnames
  intro outer houter hne
  rw [List.nil_append, get?_set (hnew.not_prefix [])]
  split
  · rfl
  case isFalse hother =>
    -- What is not the new directory is on the way to the working directory.
    have hinner := (List.prefix_concat_iff.mp houter).resolve_left hne
    exact get?_of_above ((List.prefix_concat_iff.mp hinner).resolve_left hother)

/-- A file in the new directory is opened, if the path to it is not too long. -/
theorem openFile_new
    (hfits : (Path.ofPlace name (t.workingDir ++ [name, file])).utf8ByteSize < Path.sizeLimit) :
    ∃ opened, (t.set (t.workingDir ++ [name]) .directory).openFile (Path.join name file) =
      .ok opened := by
  let u := t.set (t.workingDir ++ [name]) .directory
  let place := t.workingDir ++ [name] ++ [file]
  have hplace : u.placeOf (Path.join name file) = place := by
    rw [placeOf_join hname hfile]
    simp [place, u, set]
  have hzero : place.any Path.holdsZero = false := by
    apply Path.holdsZero_of_isName
    simp [place, hname, hfile, t.workingDir_names]
  -- The file is not there yet, so it is made.
  have hnone : u.get? place = none := by
    have hnot : place ≠ t.workingDir ++ [name] := by simp [place]
    rw [get?_set (hnew.not_prefix []), if_neg hnot]
    simpa [place] using hnew [file]
  have hfits' : ¬Path.sizeLimit ≤ (Path.ofPlace (Path.join name file) place).utf8ByteSize := by
    rw [Path.ofPlace_join hname hfile]
    simpa [place] using hfits
  refine ⟨(place, u.set place (.file [])), ?_⟩
  show u.openFile (Path.join name file) = .ok (place, u.set place (.file []))
  rw [openFile, hplace, openPlace, hzero, if_neg hfits', walk_below_new hname hnew hfile]
  simp only [Outcome.ok_bind, place, hnone]
  rfl

end New

end FileTree

namespace Settings

open Chain Outcome

/-! ## A start -/

/-- Arguments that name a directory for the data. -/
def dataArguments (name : String) : List String := ["--datadir", name]

/-- The settings that they give where there is no configuration file. -/
def dataSetup (name : String) : Setup where
  dataDir := name
  configFile := Path.join name Setup.fileName
  testnet := false
  regtest := false
  network := Networks.main

theorem classify_plain {name : String} (h : name.toList.head? ≠ some '-') :
    classify name = .ok (.plain name) := by
  unfold classify
  cases hchars : name.toList with
  | nil => rfl
  | cons c cs =>
    have hc : c ≠ '-' := by
      rintro rfl
      rw [hchars] at h
      exact h rfl
    -- Every pattern but the last one starts with a dash.
    simp only
    split <;> first | rfl | (rename_i heq; cases heq; exact absurd rfl hc)

theorem read_dataArguments {name : String} (h : name.toList.head? ≠ some '-') :
    CommandLine.read (dataArguments name) = .ok { dataDir := some name } := by
  have hoption : classify "--datadir" = .ok (.long .dataDir none) := by decide +kernel
  have hend : name ≠ "--" := by
    rintro rfl
    exact h (by decide +kernel)
  have hwords : classifyAll (dataArguments name) = .ok [.long .dataDir none, .plain name] := by
    rw [dataArguments, classifyAll, if_neg (by decide +kernel), hoption, classifyAll, if_neg hend,
      classify_plain h]
    rfl
  rw [CommandLine.read, hwords]
  rfl

namespace Session

variable {s : Session} {name : String}

/-- A name for a data directory: an argument can hold it, nothing is there by it, and the path to
the log in it is not too long. -/
structure IsFree (files : FileTree) (name : String) : Prop where
  isName : Path.isName name
  noDash : name.toList.head? ≠ some '-'
  isNew : files.IsNew name
  fits : (Path.ofPlace name (files.workingDir ++ [name, logName])).utf8ByteSize < Path.sizeLimit

theorem read_of_free {files : FileTree} (h : IsFree files name) (defaultDir : String) :
    Setup.read defaultDir files.contents? (dataArguments name) = .ok (dataSetup name) := by
  obtain ⟨hne, -⟩ := Path.isName_iff.mp h.isName
  have hgiven : Setup.given? (some name) = some name := by simp [Setup.given?, hne]
  have hdir : Setup.dataDirOf defaultDir { dataDir := some name } = name := by
    rw [Setup.dataDirOf, hgiven]
    rfl
  have hfile : Setup.configFileOf defaultDir { dataDir := some name } =
      Path.join name Setup.fileName := by
    rw [Setup.configFileOf, hdir]
    rfl
  -- The configuration file would be in the new directory, so there is none.
  have hread : Setup.readFile files.contents? { dataDir := some name }
      (Path.join name Setup.fileName) = .ok [] := by
    rw [Setup.readFile, FileTree.contents?_new h.isName h.isNew (by decide +kernel)]
    rfl
  have hzero : readTruth "0" = .ok false := by decide +kernel
  have hunset (key : String) :
      Setup.isWanted (Path.join name Setup.fileName) [] false key = .ok false := by
    simp [Setup.isWanted, hzero, Except.mapError]
  have hchoose : Setup.choose defaultDir files.contents? { dataDir := some name } =
      .ok (dataSetup name, [Selection.selectedRecord Networks.main]) := by
    simp only [Setup.choose, hdir, hfile, hread, hunset, ok_bind, Selection.outcome_flags]
    rfl
  rw [Setup.read, read_dataArguments h.noDash]
  simp only [Except.mapError, ok_bind, hchoose]
  rfl

/-- With a free name for the data directory, a run can start. -/
theorem canStart_of_free {files : FileTree} (h : IsFree files name) (defaultDir : String) :
    CanStart files defaultDir (dataArguments name) (dataSetup name) name where
  reads := read_of_free h defaultDir
  names := by
    obtain ⟨hne, -⟩ := Path.isName_iff.mp h.isName
    have hmain : Networks.main.dataDirSuffix.isTrue = false := rfl
    have hdir : networkDir Networks.main name = .ok name := by
      rw [networkDir, hmain]
      rfl
    rw [Setup.networkDataDir, Settings.networkDataDir]
    · exact hdir
    · -- An empty name would stand for the default directory.
      exact hne
  makes := by rw [FileTree.ensureDirectory_new h.isName h.isNew]
  opens := by
    rw [FileTree.ensureDirectory_new h.isName h.isNew]
    exact FileTree.openFile_new h.isName h.isNew (by decide +kernel) h.fits

end Session

end Settings

end LedgerNet
