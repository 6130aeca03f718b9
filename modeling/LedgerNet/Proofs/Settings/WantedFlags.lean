import LedgerNet.Proofs.Entries
import LedgerNet.Proofs.Settings.SessionLoading

/-!
# The flags that are wanted

A test network is wanted if its flag is given, or else if the configuration file says so. A flag
that is given hides what the file says for it, even where that is no truth value. The first flag
whose word in the file is none refuses the settings, and after that two flags that are wanted at
once do.

## Main statements

- `readTruth_eq`: what a word is read as.
- `isWanted_eq_ok_iff`, `isWanted_eq_error_iff`: when a flag is wanted, and when that is not known.
- `readFile_of_says`: what the file says for the flags.
- `choose_of_isWanted`: the settings from the flags that are wanted.
-/

namespace LedgerNet.Settings

open Chain Outcome
open LedgerNet.Entries (lookup_map_key)

variable {defaultDir path word : String} {contents? : String → Option Octets} {c : CommandLine}
  {values : List (String × String)}

/-! ## Truth values -/

/-- The words that say yes. -/
def trueWords : List String := ["1", "true", "yes", "on"]

/-- The words that say no. -/
def falseWords : List String := ["0", "false", "no", "off"]

/-- A value is there and says yes. -/
def SaysTrue (value : Option String) : Prop := ∃ w, value = some w ∧ normalWord w ∈ trueWords

/-- A value is there and says neither yes nor no, but another word. -/
def Misspells (value : Option String) (word : String) : Prop :=
  ∃ w, value = some w ∧ normalWord w = word ∧ word ∉ trueWords ∧ word ∉ falseWords

theorem readTruth_eq (w : String) :
    readTruth w =
      if normalWord w ∈ trueWords then .ok true
      else if normalWord w ∈ falseWords then .ok false
      else .error (normalWord w) := by
  have hwords : truthWords = trueWords.map (·, true) ++ falseWords.map (·, false) := rfl
  rw [readTruth, hwords, List.lookup_append, lookup_map_key, lookup_map_key]
  split_ifs <;> rfl

theorem Misspells.unique {value : Option String} {word word' : String} (h : Misspells value word)
    (h' : Misspells value word') : word = word' := by
  obtain ⟨w, rfl, rfl, -⟩ := h
  obtain ⟨w', hw', rfl, -⟩ := h'
  rw [Option.some.inj hw']

section Value

variable {value : Option String} {b : Bool}

/-- A missing value is read as the word that stands for it, and says no. -/
theorem readTruth_missing : readTruth "0" = .ok false := by decide +kernel

theorem readTruth_eq_error_iff :
    readTruth (value.getD "0") = .error word ↔ Misspells value word := by
  cases value with
  | none => simp [readTruth_missing, Misspells]
  | some w =>
    -- The word is looked for among those that say yes first, and both lists have different words.
    rw [Option.getD_some, readTruth_eq, Misspells]
    split_ifs <;> grind

theorem readTruth_eq_ok_iff :
    readTruth (value.getD "0") = .ok b ↔
      (b = true ↔ SaysTrue value) ∧ ¬∃ word, Misspells value word := by
  cases value with
  | none => simp [readTruth_missing, SaysTrue, Misspells, eq_comm]
  | some w =>
    have htrue : SaysTrue (some w) ↔ normalWord w ∈ trueWords := by simp [SaysTrue]
    have hnot : (∃ word, Misspells (some w) word) ↔
        normalWord w ∉ trueWords ∧ normalWord w ∉ falseWords := by
      simp [Misspells]
    rw [Option.getD_some, readTruth_eq, htrue, hnot]
    split_ifs <;> cases b <;> simp_all

end Value

/-! ## A flag that is wanted -/

namespace Setup

variable {flag b : Bool} {key : String} {e : SetupError}

/-- It is not known whether a flag is wanted if it is not given and not spelt right in the file. -/
theorem isWanted_eq_error_iff :
    isWanted path values flag key = .error e ↔
      ¬flag = true ∧ ∃ word, Misspells (values.lookup key) word ∧ .badTruth path word = e := by
  cases flag with
  | true => simp [isWanted]
  | false => simp [isWanted, mapError_eq_error_iff, readTruth_eq_error_iff]

/-- A flag is wanted if it is given, or else if the file says so. -/
theorem isWanted_eq_ok_iff :
    isWanted path values flag key = .ok b ↔
      (b = true ↔ flag = true ∨ SaysTrue (values.lookup key)) ∧
        ¬(¬flag = true ∧ ∃ word, Misspells (values.lookup key) word) := by
  cases flag with
  | true => simp [isWanted, eq_comm]
  | false => simp [isWanted, mapError_eq_ok_iff, readTruth_eq_ok_iff]

/-! ## The settings from the values of the file -/

/-- What the configuration file says for the flags: nothing if there is none, or else what is found
in it, where it can be read. -/
def FileSays (contents? : String → Option Octets) (path : String)
    (values : List (String × String)) : Prop :=
  match contents? path with
  | none => values = []
  | some contents =>
    ∃ f, Ini.read contents = .ok f ∧ Ini.lookUp f ["testnet", "regtest"] = .ok values

theorem configFileOf_of_given {asked : String} (h : given? c.configFile = some asked) :
    configFileOf defaultDir c = asked := by
  rw [configFileOf, h, Option.getD_some]

/-- A file that was asked for and is not there is missed. -/
theorem readFile_missing {asked : String} (hgiven : given? c.configFile = some asked)
    (hnone : contents? asked = none) : readFile contents? c asked = .error (.noFile asked) := by
  rw [readFile, hnone, hgiven]

/-- Any other file is read for what it says. -/
theorem readFile_of_says (hfile : FileSays contents? (configFileOf defaultDir c) values)
    (hthere : ∀ asked, given? c.configFile = some asked → contents? asked ≠ none) :
    readFile contents? c (configFileOf defaultDir c) = .ok values := by
  unfold FileSays at hfile
  unfold readFile
  cases hcontents : contents? (configFileOf defaultDir c) with
  | none =>
    rw [hcontents] at hfile
    cases hgiven : given? c.configFile with
    | none => rw [hfile]
    | some asked =>
      rw [configFileOf_of_given hgiven] at hcontents
      exact absurd hcontents (hthere asked hgiven)
  | some contents =>
    rw [hcontents] at hfile
    obtain ⟨f, hread, hlookUp⟩ := hfile
    simp only [hread, hlookUp, Except.mapError, ok_bind]

/-- The network that flags choose, if not both. -/
theorem target_flags (testnet regtest : Bool) :
    (Choice.flags testnet regtest).target findNetwork =
      if testnet && regtest then .error .conflict
      else .ok (if testnet then Networks.test else if regtest then Networks.regtest
        else Networks.main) := by
  cases testnet <;> cases regtest <;> rfl

/-- The settings with the flags, and with the network that they choose. -/
def ofFlags (defaultDir : String) (c : CommandLine) (testnet regtest : Bool) : Setup where
  dataDir := dataDirOf defaultDir c
  configFile := configFileOf defaultDir c
  testnet
  regtest
  network := if testnet then Networks.test else if regtest then Networks.regtest else Networks.main

theorem choose_of_unknown (h : c.unknown ≠ []) :
    choose defaultDir contents? c = .error (.unknownArguments c.unknown) := by
  have hsome : (!c.unknown.isEmpty) = true := by simpa using h
  rw [choose, if_pos hsome]
  rfl

section Known

variable (hknown : c.unknown = [])

include hknown

theorem choose_of_missing {asked : String} (hgiven : given? c.configFile = some asked)
    (hnone : contents? asked = none) :
    choose defaultDir contents? c = .error (.noFile asked) := by
  have hread := readFile_missing hgiven hnone
  simp [choose, hknown, configFileOf_of_given hgiven, hread, error_bind]

variable (hvalues : readFile contents? c (configFileOf defaultDir c) = .ok values)
  {testnet regtest : Bool} {e : SetupError}

include hvalues

theorem choose_of_testnet_error
    (h : isWanted (configFileOf defaultDir c) values c.testnet "testnet" = .error e) :
    choose defaultDir contents? c = .error e := by
  simp [choose, hknown, hvalues, h, ok_bind, error_bind]

theorem choose_of_regtest_error
    (htest : isWanted (configFileOf defaultDir c) values c.testnet "testnet" = .ok testnet)
    (h : isWanted (configFileOf defaultDir c) values c.regtest "regtest" = .error e) :
    choose defaultDir contents? c = .error e := by
  simp [choose, hknown, hvalues, htest, h, ok_bind, error_bind]

/-- Where it is known which flags are wanted, only both at once are refused. -/
theorem choose_of_isWanted
    (htest : isWanted (configFileOf defaultDir c) values c.testnet "testnet" = .ok testnet)
    (hreg : isWanted (configFileOf defaultDir c) values c.regtest "regtest" = .ok regtest) :
    Prod.fst <$> choose defaultDir contents? c =
      if testnet && regtest then .error (.network .conflict)
      else .ok (ofFlags defaultDir c testnet regtest) := by
  have hselect := Selection.outcome_flags testnet regtest
  rw [target_flags] at hselect
  simp only [choose, hknown, hvalues, htest, hreg, hselect, ok_bind]
  cases testnet <;> cases regtest <;> rfl

end Known

end Setup

end LedgerNet.Settings
