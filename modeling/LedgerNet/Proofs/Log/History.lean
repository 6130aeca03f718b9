import LedgerNet.Log
import LedgerNet.Proofs.Entries
import LedgerNet.Proofs.FileTree

/-!
# Logs over time

A program asks for loggers and prepares its log, in any order. The level of a logger that it asked
for at some time follows from the calls alone: the latest call that names the logger decides, or
else the latest one that prepares the log. Of the handlers there is at most one for the console and
at most one for a file, which is the last one that was given.

## Main statements

- `level?_get`, `level?_configure`: what one call does to the levels of the loggers.
- `prepare_eq_ok`: what preparing the log does to the levels and the handlers.
- `tracks_of_reaches`: what holds after any calls.
- `levels_and_handlers_track_calls`: the levels and the handlers after any calls.
-/

namespace LedgerNet

open Entries (lookup_cons lookup_map_value)

/-! ## The levels of loggers -/

namespace Log.Loggers

variable {ls : Loggers}

/-- The level of a logger that is there. -/
def level? (ls : Loggers) (name : String) : Option Int := (ls.byName.lookup name).map Logger.level

theorem level?_adopt (ls : Loggers) (name n : String) : (ls.adopt name).level? n = ls.level? n := by
  let put (child : String) (l : Logger) : Logger :=
    if ls.waiting.contains (name, child) && !(l.parent.getD rootName).startsWith name then
      { l with parent := some name }
    else l
  have hrows : (ls.adopt name).byName = ls.byName.map fun row => (row.1, put row.1 row.2) := by
    refine List.map_congr_left fun row _ => ?_
    simp only [put]
    split <;> rfl
  have hlevel (child : String) (l : Logger) : (put child l).level = l.level := by
    simp only [put]
    split <;> rfl
  rw [level?, level?, hrows, lookup_map_value, Option.map_map]
  congr 1
  funext l
  exact hlevel n l

/-- A new logger has no level of its own, and the others keep theirs. -/
theorem level?_insert (ls : Loggers) (name n : String) :
    (ls.insert name).level? n = (ls.level? n).or (if n = name then some notSet else none) := by
  unfold insert
  split
  · rename_i hthere
    by_cases hn : n = name
    · subst hn
      obtain ⟨l, hl⟩ := Option.isSome_iff_exists.mp hthere
      simp [level?, hl]
    · simp [hn]
  · rw [← level?_adopt ls name n, level?, level?, List.lookup_append, lookup_cons]
    cases (ls.adopt name).byName.lookup n <;> by_cases hn : n = name <;> simp [hn]

theorem level?_setLevel (ls : Loggers) (name : String) (level : Int) (n : String) :
    (ls.setLevel name level).level? n =
      (ls.level? n).map fun old => if n = name then level else old := by
  let put (child : String) (l : Logger) : Logger := if child = name then { l with level } else l
  have hrows : (ls.setLevel name level).byName =
      ls.byName.map fun row => (row.1, put row.1 row.2) :=
    rfl
  have hlevel (l : Logger) : (put n l).level = if n = name then level else l.level := by
    simp only [put]
    split <;> rfl
  rw [level?, level?, hrows, lookup_map_value, Option.map_map, Option.map_map]
  congr 1
  funext l
  exact hlevel l

theorem level?_setLevels (ls : Loggers) (level : String → Int) (n : String) :
    (ls.setLevels level).level? n = (ls.level? n).map fun _ => level n := by
  let put (child : String) (l : Logger) : Logger := { l with level := level child }
  have hrows : (ls.setLevels level).byName = ls.byName.map fun row => (row.1, put row.1 row.2) :=
    rfl
  rw [level?, level?, hrows, lookup_map_value, Option.map_map, Option.map_map]
  rfl

end Log.Loggers

/-! ## The handlers -/

namespace Log

/-- The place of a file that records go to. -/
def Handler.place? : Handler → Option (List String)
  | console => none
  | file place => some place

/-- The places of the files that records go to. -/
def places (handlers : List Handler) : List (List String) := handlers.filterMap Handler.place?

theorem count_replaceAlike_console (handlers : List Handler) :
    (replaceAlike .console handlers).count .console = 1 := by
  have hnone : (handlers.filter fun g => !g.alike .console).count .console = 0 := by
    rw [List.count_eq_zero, List.mem_filter]
    simp [Handler.alike]
  rw [replaceAlike, List.count_append, hnone]
  rfl

theorem count_replaceAlike_file (place : List String) (handlers : List Handler) :
    (replaceAlike (.file place) handlers).count .console = handlers.count .console := by
  have hkept : (handlers.filter fun g => !g.alike (.file place)).count .console =
      handlers.count .console := List.count_filter rfl
  rw [replaceAlike, List.count_append, hkept]
  simp

theorem places_replaceAlike_console (handlers : List Handler) :
    places (replaceAlike .console handlers) = places handlers := by
  have hkept : (fun g : Handler => if !g.alike .console then g.place? else none) =
      Handler.place? := by
    funext g
    cases g <;> rfl
  simp only [places, replaceAlike, List.filterMap_append, List.filterMap_filter, hkept]
  simp [Handler.place?]

theorem places_replaceAlike_file (place : List String) (handlers : List Handler) :
    places (replaceAlike (.file place) handlers) = [place] := by
  have hnone : (fun g : Handler => if !g.alike (.file place) then g.place? else none) =
      fun _ => none := by
    funext g
    cases g <;> rfl
  simp only [places, replaceAlike, List.filterMap_append, List.filterMap_filter, hnone]
  simp [Handler.place?]

theorem count_withConsole (hasConsole : Bool) {handlers : List Handler}
    (h : handlers.count .console ≤ 1) : (withConsole hasConsole handlers).count .console ≤ 1 := by
  cases hasConsole with
  | true => exact Nat.le_of_eq (count_replaceAlike_console handlers)
  | false => exact h

theorem places_withConsole (hasConsole : Bool) (handlers : List Handler) :
    places (withConsole hasConsole handlers) = places handlers := by
  cases hasConsole with
  | true => exact places_replaceAlike_console handlers
  | false => rfl

end Log

/-! ## One call -/

namespace Logging

variable {l l' : Logging} {hasConsole : Bool} {files files' : FileTree} {path : Option String}
  {level : Int} {levels : List (String × Int)}

/-- A logger that is asked for has the level that the settings have for it. -/
theorem level?_get (l : Logging) (name n : String) :
    (l.get name).loggers.level? n =
      if n = name then some (l.levelFor name) else l.loggers.level? n := by
  rw [get, Log.Loggers.level?_setLevel, Log.Loggers.level?_insert]
  by_cases hn : n = name
  · cases l.loggers.level? n <;> simp [hn]
  · simp [hn]

/-- New levels hide the old ones, of several for one name the last. -/
theorem lookup_configure (l : Logging) (level : Int) (levels : List (String × Int))
    (name : String) :
    (l.configure level levels).levels.lookup name =
      (levels.reverse.lookup name).or (l.levels.lookup name) :=
  List.lookup_append

/-- All loggers follow new levels. -/
theorem level?_configure (l : Logging) (level : Int) (levels : List (String × Int))
    (name : String) :
    (l.configure level levels).loggers.level? name =
      (l.loggers.level? name).map fun _ => (l.configure level levels).levelFor name :=
  Log.Loggers.level?_setLevels _ _ _

/-- The place for which a call gives a path, if it does: an empty path is none. -/
def givenPlace? (files : FileTree) (path : Option String) : Option (List String) :=
  (path.filter (!·.isEmpty)).map files.placeOf

/-- What preparing the log leads to, if it succeeds. -/
theorem prepare_eq_ok (h : l.prepare hasConsole files path level levels = (l', .ok files'))
    (hconsoles : l.handlers.count .console ≤ 1) :
    ∃ handlers, l' = { l.configure level levels with handlers } ∧ handlers.count .console ≤ 1 ∧
      Log.places handlers =
        (givenPlace? files path).elim (Log.places l.handlers) fun place => [place] := by
  unfold prepare at h
  split at h
  · cases h
    exact ⟨_, rfl, Log.count_withConsole hasConsole hconsoles, Log.places_withConsole hasConsole _⟩
  · cases h
    exact ⟨_, rfl, Log.count_withConsole hasConsole hconsoles, Log.places_withConsole hasConsole _⟩
  · rename_i path hne
    split at h
    · cases h
    · rename_i place t hopen
      cases h
      -- An earlier file gives way first, and then an earlier console.
      have hgiven : (!path.isEmpty) = true := by simpa using hne
      refine ⟨_, rfl, ?_, ?_⟩
      · refine Log.count_withConsole hasConsole ?_
        rw [Log.count_replaceAlike_file]
        exact hconsoles
      · rw [Log.places_withConsole, Log.places_replaceAlike_file,
          FileTree.place_of_openFile hopen, givenPlace?, Option.filter_some, if_pos hgiven]
        rfl

/-! ## Any calls -/

/-- A call to the log. -/
inductive Call where
  /-- A logger is asked for. -/
  | get (name : String)
  /-- The log is prepared over the files of that time, with or without a console, with a path or
  none, a default level and levels by name. -/
  | prepare (files : FileTree) (hasConsole : Bool) (path : Option String) (level : Int)
      (levels : List (String × Int))
  deriving DecidableEq

namespace Call

/-- The default level that a call sets. -/
def default? : Call → Option Int
  | get _ => none
  | prepare _ _ _ level _ => some level

/-- The level that a call gives a name; of several the last counts. -/
def level? (name : String) : Call → Option Int
  | get _ => none
  | prepare _ _ _ _ levels => levels.reverse.lookup name

/-- The place of the file that a call gives. -/
def place? : Call → Option (List String)
  | get _ => none
  | prepare files _ path _ _ => givenPlace? files path

end Call

/-- The level that a logger of the name has after calls, the latest one first: that of the latest
call that names it, or else the default of the latest one that sets it. -/
def levelAfter (calls : List Call) (name : String) : Int :=
  ((calls.findSome? (Call.level? name)).or (calls.findSome? Call.default?)).getD Log.info

/-- The state that calls lead to, the latest one first, if they all succeed. The files, and with
them the working directory, may be others at each call. -/
inductive Reaches : List Call → Logging → Prop
  | start : Reaches [] {}
  | get {calls : List Call} {l : Logging} (name : String) (h : Reaches calls l) :
      Reaches (.get name :: calls) (l.get name)
  | prepare {calls : List Call} {l l' : Logging} {files files' : FileTree} {hasConsole : Bool}
      {path : Option String} {level : Int} {levels : List (String × Int)} (h : Reaches calls l)
      (hprepare : l.prepare hasConsole files path level levels = (l', .ok files')) :
      Reaches (.prepare files hasConsole path level levels :: calls) l'

/-- The state is the one that the calls make it. -/
structure Tracks (calls : List Call) (l : Logging) : Prop where
  default : l.defaultLevel = (calls.findSome? Call.default?).getD Log.info
  byName : ∀ name, l.levels.lookup name = calls.findSome? (Call.level? name)
  loggers : ∀ name, l.loggers.level? name =
    if .get name ∈ calls then some (levelAfter calls name) else none
  consoles : l.handlers.count .console ≤ 1
  files : Log.places l.handlers = (calls.findSome? Call.place?).toList

variable {calls : List Call}

theorem levelFor_eq (hdefault : l.defaultLevel = (calls.findSome? Call.default?).getD Log.info)
    {name : String} (hbyName : l.levels.lookup name = calls.findSome? (Call.level? name)) :
    l.levelFor name = levelAfter calls name := by
  rw [levelFor, hbyName, hdefault, levelAfter]
  cases calls.findSome? (Call.level? name) <;> simp

theorem tracks_start : Tracks [] {} where
  default := rfl
  byName _ := rfl
  loggers _ := rfl
  consoles := by decide
  files := rfl

theorem levelAfter_get (name n : String) :
    levelAfter (.get name :: calls) n = levelAfter calls n := rfl

/-- Asking for a logger changes no other level. -/
theorem tracks_get (h : Tracks calls l) (name : String) :
    Tracks (.get name :: calls) (l.get name) where
  default := h.default
  byName := h.byName
  loggers n := by
    rw [level?_get, levelFor_eq h.default (h.byName name), h.loggers, levelAfter_get]
    by_cases hn : n = name <;> simp [hn]
  consoles := h.consoles
  files := h.files

/-- Preparing the log changes the levels of all loggers that there are. -/
theorem tracks_prepare (h : Tracks calls l)
    (hprepare : l.prepare hasConsole files path level levels = (l', .ok files')) :
    Tracks (.prepare files hasConsole path level levels :: calls) l' := by
  obtain ⟨handlers, rfl, hconsoles, hplaces⟩ := prepare_eq_ok hprepare h.consoles
  -- The levels are set whether or not a file is opened; only the handlers depend on the path.
  let now := Call.prepare files hasConsole path level levels :: calls
  have hdefault : (l.configure level levels).defaultLevel =
      (now.findSome? Call.default?).getD Log.info := rfl
  have hbyName (name : String) : (l.configure level levels).levels.lookup name =
      now.findSome? (Call.level? name) := by
    rw [lookup_configure, h.byName, List.findSome?_cons, Call.level?]
    cases levels.reverse.lookup name <;> rfl
  have hloggers (name : String) : (l.configure level levels).loggers.level? name =
      if .get name ∈ now then some (levelAfter now name) else none := by
    have hmem : .get name ∈ now ↔ .get name ∈ calls := by simp [now]
    rw [level?_configure, levelFor_eq hdefault (hbyName name), h.loggers]
    by_cases hasked : .get name ∈ calls <;> simp [hmem, hasked]
  have hfiles : Log.places handlers = (now.findSome? Call.place?).toList := by
    rw [hplaces, h.files, List.findSome?_cons, Call.place?]
    cases givenPlace? files path <;> rfl
  exact {
    default := hdefault
    byName := hbyName
    loggers := hloggers
    consoles := hconsoles
    files := hfiles }

theorem tracks_of_reaches (h : Reaches calls l) : Tracks calls l := by
  induction h with
  | start => exact tracks_start
  | get name _ ih => exact tracks_get ih name
  | prepare _ hprepare ih => exact tracks_prepare ih hprepare

/-- **Levels and handlers track the calls.** Whenever a logger was asked for, it has the level that
the calls give its name. Records go to the console at most once, and to one file if one was ever
given: the last one. -/
theorem levels_and_handlers_track_calls (h : Reaches calls l) :
    (∀ name, .get name ∈ calls → ∃ logger, l.loggers.byName.lookup name = some logger ∧
      logger.level = levelAfter calls name) ∧
    l.handlers.count .console ≤ 1 ∧
    Log.places l.handlers = (calls.findSome? Call.place?).toList := by
  have htracks := tracks_of_reaches h
  refine ⟨fun name hasked => ?_, htracks.consoles, htracks.files⟩
  have hlevel := htracks.loggers name
  rw [if_pos hasked] at hlevel
  obtain ⟨logger, hlogger, hlevel⟩ := Option.map_eq_some_iff.mp hlevel
  exact ⟨logger, hlogger, hlevel⟩

/-- A logger keeps the level by name that an earlier call gave it, and another one follows the later
call. The file by a path from the root is put in the place of one in the working directory, and
stays when the log is prepared without a path, and without a console. -/
theorem levels_and_handlers_track_calls_absolute :
    let files : FileTree :=
      { workingDir := ["home", "u"], entries := [(["var"], .directory)] }
    let calls : List Call :=
      [.prepare files false none Log.debug [("x", Log.error)], .get "x", .get "y", .get "net",
        .prepare files true (some "/var/a.log") Log.info [("net", Log.warning)],
        .prepare files true (some "b.log") Log.error []]
    ∃ l, Reaches calls l ∧
      (l.loggers.byName.lookup "net").map Log.Logger.level = some Log.warning ∧
      (l.loggers.byName.lookup "x").map Log.Logger.level = some Log.error ∧
      (l.loggers.byName.lookup "y").map Log.Logger.level = some Log.debug ∧
      Log.places l.handlers = [["var", "a.log"]] := by
  intro files calls
  let first := (({} : Logging).prepare true files (some "b.log") Log.error []).1
  have hfirst : ({} : Logging).prepare true files (some "b.log") Log.error [] =
      (first, .ok (files.set ["home", "u", "b.log"] (.file []))) := by
    decide +kernel
  -- The second file is opened in the tree that the first one was not made in.
  let second := (first.prepare true files (some "/var/a.log") Log.info [("net", Log.warning)]).1
  have hsecond : first.prepare true files (some "/var/a.log") Log.info [("net", Log.warning)] =
      (second, .ok (files.set ["var", "a.log"] (.file []))) := by
    decide +kernel
  let asked := ((second.get "net").get "y").get "x"
  let last := (asked.prepare false files none Log.debug [("x", Log.error)]).1
  have hlast : asked.prepare false files none Log.debug [("x", Log.error)] = (last, .ok files) :=
    rfl
  have hreaches : Reaches calls last :=
    (((((Reaches.start.prepare hfirst).prepare hsecond).get "net").get "y").get "x").prepare hlast
  obtain ⟨hlevels, -, hplaces⟩ := levels_and_handlers_track_calls hreaches
  have hlevel (name : String) (hasked : .get name ∈ calls) :
      (last.loggers.byName.lookup name).map Log.Logger.level = some (levelAfter calls name) := by
    obtain ⟨logger, hlogger, hlevel⟩ := hlevels name hasked
    rw [hlogger, Option.map_some, hlevel]
  exact ⟨last, hreaches, (hlevel "net" (by decide)).trans (by decide +kernel),
    (hlevel "x" (by decide)).trans (by decide +kernel),
    (hlevel "y" (by decide)).trans (by decide +kernel), hplaces.trans (by decide +kernel)⟩

end Logging

end LedgerNet
