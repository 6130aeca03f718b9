import LedgerNet.Proofs.Settings.FlagNetwork
import LedgerNet.Proofs.Settings.Ini.Expansion

/-!
# How the settings end

What is wrong with a command line ends the program with an exit code and a message: a misused
option, arguments that are not known, a file that is not there, a value that is no truth value, two
flags at once, a level that is none. A configuration file that is there but cannot be read, or whose
values for the flags refer to nothing, has no such end, and nothing else has none. So settings or a
message come out exactly if no file is opened or the file is readable for the flags.

## Main statements

- `ends_of_values`: after the file, all that can be wrong ends with a message.
- `settings_end_iff_file_readable`: the command lines and files that end in settings or a message.
-/

namespace LedgerNet.Settings

open Chain Outcome

variable {defaultDir path : String} {contents? : String → Option Octets}
  {arguments : List String} {c : CommandLine} {values : List (String × String)} {contents : Octets}

/-- Settings come out, or the program ends with an exit code and a message. -/
def Ends (outcome : Except SetupError Setup) : Prop :=
  (∃ setup, outcome = .ok setup) ∨
    ∃ e code message, outcome = .error e ∧ e.exit? = some (code, message)

/-- The keys of the flags in a configuration file. -/
def flagKeys : List String := ["testnet", "regtest"]

theorem Ends.of_ok (setup : Setup) : Ends (.ok setup) := .inl ⟨setup, rfl⟩

theorem Ends.of_error {e : SetupError} {code : Nat} {message : String}
    (h : e.exit? = some (code, message)) : Ends (.error e) :=
  .inr ⟨e, code, message, rfl, h⟩

theorem not_ends_file (e : Ini.Error) : ¬Ends (.error (.file e)) := by
  rintro (⟨setup, h⟩ | ⟨e', code, message, h, hexit⟩)
  · cases h
  · cases h
    cases hexit

/-- Every misused option ends the program: help with success, anything else with a failure. -/
theorem Ends.of_usage (e : UsageError) : Ends (.error (.usage e)) := by
  cases e <;> exact .of_error rfl

namespace Setup

/-! ## The file -/

theorem readFile_of_contents (hcontents : contents? path = some contents) :
    readFile contents? c path =
      (Ini.read contents >>= fun f => Ini.lookUp f flagKeys).mapError .file := by
  rw [readFile, hcontents, mapError_bind]
  rfl

/-- A readable file has values for the flags. -/
theorem readFile_of_readable (hcontents : contents? path = some contents)
    (h : Ini.Readable contents flagKeys) : ∃ values, readFile contents? c path = .ok values := by
  obtain ⟨f, values, hread, hlookUp⟩ := Ini.exists_read_lookUp_iff.mpr h
  refine ⟨values, ?_⟩
  rw [readFile_of_contents hcontents, hread, ok_bind, hlookUp]
  rfl

/-- Any other file is refused, without a message. -/
theorem readFile_of_not_readable (hcontents : contents? path = some contents)
    (h : ¬Ini.Readable contents flagKeys) : ∃ e, readFile contents? c path = .error (.file e) := by
  rw [readFile_of_contents hcontents]
  cases hvalues : Ini.read contents >>= fun f => Ini.lookUp f flagKeys with
  | error e => exact ⟨e, rfl⟩
  | ok values =>
    obtain ⟨f, hread, hlookUp⟩ := bind_eq_ok_iff.mp hvalues
    exact absurd (Ini.exists_read_lookUp_iff.mp ⟨f, values, hread, hlookUp⟩) h

/-- A file that is not there is missed if it was asked for, and has no values otherwise. -/
theorem readFile_of_none (hnone : contents? path = none) :
    (∃ asked, readFile contents? c path = .error (.noFile asked)) ∨
      readFile contents? c path = .ok [] := by
  rw [readFile, hnone]
  cases hgiven : given? c.configFile with
  | none => exact .inr rfl
  | some asked => exact .inl ⟨asked, rfl⟩

theorem choose_of_readFile_error {e : SetupError} (hknown : c.unknown = [])
    (h : readFile contents? c (configFileOf defaultDir c) = .error e) :
    choose defaultDir contents? c = .error e := by
  simp [choose, hknown, h, error_bind]

/-! ## What comes after the file -/

theorem ends_withLevels (setup : Setup) (c : CommandLine) : Ends (setup.withLevels c) := by
  obtain ⟨text, -, -, hout⟩ | ⟨levels, hout⟩ := withLevels_cases setup c
  · rw [hout]
    exact .of_error rfl
  · rw [hout]
    exact .of_ok _

theorem ends_of_isWanted_error {flag : Bool} {key : String} {e : SetupError}
    (h : isWanted path values flag key = .error e) : Ends (.error e) := by
  obtain ⟨-, word, -, rfl⟩ := isWanted_eq_error_iff.mp h
  exact .of_error rfl

/-- Once the values of the file are known, settings come out or a message does. -/
theorem ends_of_values (hread : CommandLine.read arguments = .ok c) (hknown : c.unknown = [])
    (hvalues : readFile contents? c (configFileOf defaultDir c) = .ok values) :
    Ends (Setup.read defaultDir contents? arguments) := by
  cases htest : isWanted (configFileOf defaultDir c) values c.testnet "testnet" with
  | error e =>
    rw [read_of_choose_error hread (choose_of_testnet_error hknown hvalues htest)]
    exact ends_of_isWanted_error htest
  | ok testnet =>
    cases hreg : isWanted (configFileOf defaultDir c) values c.regtest "regtest" with
    | error e =>
      rw [read_of_choose_error hread (choose_of_regtest_error hknown hvalues htest hreg)]
      exact ends_of_isWanted_error hreg
    | ok regtest =>
      rw [read_eq hread, choose_of_isWanted hknown hvalues htest hreg]
      -- Of the refusals of a network only the conflict is met here, which has a message.
      split_ifs
      · exact .of_error rfl
      · exact ends_withLevels _ c

/-! ## The whole command line -/

/-- The file that a command line opens, if it opens one, is readable for the flags. No file is
opened where the options are misused, where arguments are not known, or where there is none. -/
def FileReadable (defaultDir : String) (contents? : String → Option Octets)
    (arguments : List String) : Prop :=
  ∀ c contents, CommandLine.read arguments = .ok c → c.unknown = [] →
    contents? (configFileOf defaultDir c) = some contents → Ini.Readable contents flagKeys

/-- A file that is not readable is what the settings are refused for. -/
theorem read_of_not_readable (hread : CommandLine.read arguments = .ok c) (hknown : c.unknown = [])
    (hcontents : contents? (configFileOf defaultDir c) = some contents)
    (h : ¬Ini.Readable contents flagKeys) :
    ∃ e, Setup.read defaultDir contents? arguments = .error (.file e) := by
  obtain ⟨e, he⟩ := readFile_of_not_readable (c := c) hcontents h
  exact ⟨e, read_of_choose_error hread (choose_of_readFile_error hknown he)⟩

theorem ends_of_fileReadable (h : FileReadable defaultDir contents? arguments) :
    Ends (Setup.read defaultDir contents? arguments) := by
  cases hread : CommandLine.read arguments with
  | error e =>
    have hout : Setup.read defaultDir contents? arguments = .error (.usage e) := by
      simp [Setup.read, hread, Except.mapError, error_bind]
    rw [hout]
    exact .of_usage e
  | ok c =>
    -- Arguments that are not known end the program before any file is opened.
    by_cases hknown : c.unknown = []
    case neg =>
      rw [read_of_choose_error hread (choose_of_unknown hknown)]
      exact .of_error rfl
    cases hcontents : contents? (configFileOf defaultDir c) with
    | some contents =>
      obtain ⟨values, hvalues⟩ :=
        readFile_of_readable (c := c) hcontents (h c contents hread hknown hcontents)
      exact ends_of_values hread hknown hvalues
    | none =>
      rcases readFile_of_none (c := c) hcontents with ⟨asked, hmissing⟩ | hvalues
      · rw [read_of_choose_error hread (choose_of_readFile_error hknown hmissing)]
        exact .of_error rfl
      · exact ends_of_values hread hknown hvalues

end Setup

/-- **Settings or a message come out exactly if the file is readable.** For every command line and
all files, the program goes on with settings or ends with an exit code and a message exactly if the
configuration file that it opens says something in which the values for the flags stand for a text,
or if it opens none. In all other cases the file itself is what the settings are refused for. -/
theorem settings_end_iff_file_readable (defaultDir : String) (contents? : String → Option Octets)
    (arguments : List String) :
    (Ends (Setup.read defaultDir contents? arguments) ↔
      Setup.FileReadable defaultDir contents? arguments) ∧
    (¬Setup.FileReadable defaultDir contents? arguments →
      ∃ e, Setup.read defaultDir contents? arguments = .error (.file e)) := by
  have hrefused (h : ¬Setup.FileReadable defaultDir contents? arguments) :
      ∃ e, Setup.read defaultDir contents? arguments = .error (.file e) := by
    simp only [Setup.FileReadable, not_forall] at h
    obtain ⟨c, contents, hread, hknown, hcontents, hnot⟩ := h
    exact Setup.read_of_not_readable hread hknown hcontents hnot
  refine ⟨⟨fun hends => ?_, Setup.ends_of_fileReadable⟩, hrefused⟩
  by_contra hnot
  obtain ⟨e, he⟩ := hrefused hnot
  rw [he] at hends
  exact not_ends_file e hends

/-- A file in which the value for a flag refers to a default. -/
theorem settings_end_iff_file_readable_reference :
    let contents? := fun path =>
      if path = "c" then some (Octets.ofText "[DEFAULT]\nnet: on\n[a]\ntestnet = %(NET)s\n")
      else none
    Setup.FileReadable "base" contents? ["--conf", "c"] ∧
      Ends (Setup.read "base" contents? ["--conf", "c"]) := by
  intro contents?
  have hreadable : Setup.FileReadable "base" contents? ["--conf", "c"] := by
    intro c contents hread _ hcontents
    have hline : CommandLine.read ["--conf", "c"] = .ok { configFile := some "c" } := by
      decide +kernel
    obtain rfl : { configFile := some "c" } = c := Except.ok.inj (hline.symm.trans hread)
    have htext : contents? (Setup.configFileOf "base" { configFile := some "c" }) =
        some (Octets.ofText "[DEFAULT]\nnet: on\n[a]\ntestnet = %(NET)s\n") := by
      decide +kernel
    obtain rfl := Option.some.inj (htext.symm.trans hcontents)
    let f : Ini.File :=
      { sections := [("inception", []), ("a", [("testnet", ["%(NET)s".toList])])]
        defaults := [("net", ["on".toList])] }
    exact Ini.exists_read_lookUp_iff.mp
      ⟨f, [("testnet", "on")], by decide +kernel, by decide +kernel⟩
  exact ⟨hreadable,
    (settings_end_iff_file_readable "base" contents? ["--conf", "c"]).1.mpr hreadable⟩

/-- A line that is neither a section nor a key with a value ends in no message. -/
theorem no_ending_of_bad_line :
    let contents? := fun path => if path = "c" then some (Octets.ofText "oops\n") else none
    Setup.read "base" contents? ["--conf", "c"] = .error (.file .badLine) ∧
      ¬Ends (Setup.read "base" contents? ["--conf", "c"]) := by
  intro contents?
  have hline : CommandLine.read ["--conf", "c"] = .ok { configFile := some "c" } := by
    decide +kernel
  have hcontents : contents? "c" = some (Octets.ofText "oops\n") := by decide +kernel
  have hbad : Ini.read (Octets.ofText "oops\n") = .error .badLine := by decide +kernel
  have hfile : Setup.readFile contents? { configFile := some "c" } "c" =
      .error (.file .badLine) := by
    rw [Setup.readFile_of_contents hcontents, hbad]
    rfl
  have hout : Setup.read "base" contents? ["--conf", "c"] = .error (.file .badLine) :=
    Setup.read_of_choose_error hline (Setup.choose_of_readFile_error rfl hfile)
  rw [hout]
  exact ⟨rfl, not_ends_file .badLine⟩

end LedgerNet.Settings
