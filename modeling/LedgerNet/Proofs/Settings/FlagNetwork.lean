import LedgerNet.Proofs.Settings.GivenFlags
import LedgerNet.Proofs.Settings.WantedFlags

/-!
# The network of the settings

The flags that are given and what the configuration file says for them decide together which network
the settings name. Of everything that can be wrong only the first thing is reported: an argument
that is not known, a file that is not there, a value that is no truth value, two flags at once, and
last the levels. All other settings have exactly the flags that are wanted, and a place for the data
of their network.

## Main statements

- `follows_ofFlags`: the settings of flags follow them, with any levels.
- `decision_of_values`: what the flags and the values of the file lead to.
- `network_follows_flags_and_file`: the same for a whole command line.
-/

namespace LedgerNet.Settings

open Chain Outcome

variable {defaultDir path word : String} {contents? : String → Option Octets}
  {arguments : List String} {c : CommandLine} {values : List (String × String)}

namespace Setup

/-! ## The levels and the place for data -/

/-- Only the levels are left to be read, if there are any. -/
theorem withLevels_cases (setup : Setup) (c : CommandLine) :
    (∃ text, given? c.logLevel = some text ∧ readLevels? text = none ∧
      setup.withLevels c = .error (.badLevel text)) ∨
    ∃ levels, setup.withLevels c = .ok { setup with levels } := by
  unfold withLevels
  cases hgiven : given? c.logLevel with
  | none => exact .inr ⟨setup.levels, rfl⟩
  | some text =>
    cases hlevels : readLevels? text with
    | none => exact .inl ⟨text, rfl, hlevels, by simp [hlevels]⟩
    | some levels => exact .inr ⟨levels, by simp [hlevels]⟩

/-- A command line that is read leads to what is chosen, with its levels. -/
theorem read_eq (hread : CommandLine.read arguments = .ok c) :
    Setup.read defaultDir contents? arguments =
      Prod.fst <$> choose defaultDir contents? c >>= fun setup => setup.withLevels c := by
  simp only [Setup.read, hread, Except.mapError, ok_bind]
  cases choose defaultDir contents? c <;> rfl

theorem read_of_choose_error {e : SetupError} (hread : CommandLine.read arguments = .ok c)
    (h : choose defaultDir contents? c = .error e) :
    Setup.read defaultDir contents? arguments = .error e := by
  rw [read_eq hread, h]
  rfl

/-- The directory of the command line is empty only if the default one is, which stands for it. -/
theorem networkDataDir_of_dataDirOf {setup : Setup} (h : setup.dataDir = dataDirOf defaultDir c) :
    setup.networkDataDir defaultDir = networkDir setup.network setup.dataDir := by
  have hempty : dataDirOf defaultDir c = "" → defaultDir = "" := by
    intro hdir
    unfold dataDirOf at hdir
    cases hgiven : given? c.dataDir with
    | none => rwa [hgiven, Option.getD_none] at hdir
    | some dir =>
      have hdir' : dir = "" := by rwa [hgiven, Option.getD_some] at hdir
      have hnot := (Option.filter_eq_some_iff.mp hgiven).2
      simp [hdir'] at hnot
  unfold networkDataDir Settings.networkDataDir
  split
  · rename_i hnone
    cases hnone
  · -- An empty directory stands for the default one, which is then empty too.
    rename_i hdir
    rw [h] at hdir ⊢
    rw [Option.some.inj hdir, hempty (Option.some.inj hdir)]
  · rename_i hdir
    rw [Option.some.inj hdir]

/-- The settings have exactly the flags that are wanted, which are not both, and name the network of
the flags: the main one with its data in the directory itself, any other one with its data in the
directory that its identifier names. -/
structure Follows (setup : Setup) (defaultDir : String) (c : CommandLine)
    (testnet regtest : Prop) : Prop where
  testnet_iff : setup.testnet = true ↔ testnet
  regtest_iff : setup.regtest = true ↔ regtest
  not_both : ¬(setup.testnet = true ∧ setup.regtest = true)
  network : setup.network =
    if setup.testnet then Networks.test else if setup.regtest then Networks.regtest
    else Networks.main
  dataDir : setup.dataDir = dataDirOf defaultDir c
  ofMain : setup.network = Networks.main → setup.networkDataDir defaultDir = .ok setup.dataDir
  ofTest : setup.network ≠ Networks.main → ∃ id, setup.network.networkId = .text id ∧
    setup.networkDataDir defaultDir = .ok (Path.join setup.dataDir id)

theorem follows_ofFlags {testnet regtest : Bool} {wantsTest wantsReg : Prop} (levels : Levels)
    (htest : testnet = true ↔ wantsTest) (hreg : regtest = true ↔ wantsReg)
    (hnot : ¬(testnet = true ∧ regtest = true)) :
    Follows { ofFlags defaultDir c testnet regtest with levels } defaultDir c wantsTest
      wantsReg where
  testnet_iff := htest
  regtest_iff := hreg
  not_both := hnot
  network := rfl
  dataDir := rfl
  ofMain h := by
    rw [networkDataDir_of_dataDirOf (c := c) rfl, h]
    rfl
  ofTest h := by
    rw [networkDataDir_of_dataDirOf (c := c) rfl]
    cases testnet with
    | true => exact ⟨"testnet", rfl, rfl⟩
    | false =>
      cases regtest with
      | true => exact ⟨"regtest", rfl, rfl⟩
      | false => exact absurd rfl h

/-! ## What the flags and the file lead to -/

/-- The settings are refused for a reason, and the program ends with a message. -/
def Refuses (outcome : Except SetupError Setup) (e : SetupError) (message : String) : Prop :=
  outcome = .error e ∧ e.exit? = some (1, message)

theorem refuses_iff {outcome : Except SetupError Setup} {e : SetupError} {message : String}
    (h : e.exit? = some (1, message)) : Refuses outcome e message ↔ outcome = .error e :=
  and_iff_left h

/-- What a value that is no truth value is reported with. -/
def malformedText (path word : String) : String :=
  "malformed boolean in " ++ path ++ ": " ++ Text.quoted word

/-- What two flags that are wanted at once are reported with. -/
def conflictText : String := "inception: error: invalid combination of testnet and regtest"

/-- How the flags that are given and the values of a file for them decide. The first value that
matters and is no truth value is reported, then two flags that are wanted at once, and then the
levels; everything else leads to settings that follow the flags. -/
structure Decision (defaultDir : String) (c : CommandLine) (outcome : Except SetupError Setup)
    (givesTest givesReg : Prop) (test reg : Option String) : Prop where
  malformed : ∀ word,
    Refuses outcome (.badTruth (configFileOf defaultDir c) word)
      (malformedText (configFileOf defaultDir c) word) ↔
    (¬givesTest ∧ Misspells test word) ∨
      ¬(¬givesTest ∧ ∃ w, Misspells test w) ∧ ¬givesReg ∧ Misspells reg word
  conflict : (∀ word, outcome ≠ .error (.badTruth (configFileOf defaultDir c) word)) →
    (Refuses outcome (.network .conflict) conflictText ↔
      (givesTest ∨ SaysTrue test) ∧ (givesReg ∨ SaysTrue reg))
  settings : (∀ word, outcome ≠ .error (.badTruth (configFileOf defaultDir c) word)) →
    outcome ≠ .error (.network .conflict) →
    (∃ text, given? c.logLevel = some text ∧ readLevels? text = none ∧
      outcome = .error (.badLevel text)) ∨
    ∃ setup, outcome = .ok setup ∧
      setup.Follows defaultDir c (givesTest ∨ SaysTrue test) (givesReg ∨ SaysTrue reg)

theorem refuses_malformed_iff {outcome : Except SetupError Setup} :
    Refuses outcome (.badTruth path word) (malformedText path word) ↔
      outcome = .error (.badTruth path word) :=
  refuses_iff rfl

theorem refuses_conflict_iff {outcome : Except SetupError Setup} :
    Refuses outcome (.network .conflict) conflictText ↔ outcome = .error (.network .conflict) :=
  refuses_iff rfl

variable {givesTest givesReg : Prop} {test reg : Option String} {outcome : Except SetupError Setup}

/-- Where the values that matter are truth values and not both flags are wanted, nothing but the
levels can be refused. -/
theorem Decision.settings_of_spelt (h : Decision defaultDir c outcome givesTest givesReg test reg)
    (htest : ¬(¬givesTest ∧ ∃ w, Misspells test w)) (hreg : ¬(¬givesReg ∧ ∃ w, Misspells reg w))
    (hone : ¬((givesTest ∨ SaysTrue test) ∧ (givesReg ∨ SaysTrue reg))) :
    (∃ text, given? c.logLevel = some text ∧ readLevels? text = none ∧
      outcome = .error (.badLevel text)) ∨
    ∃ setup, outcome = .ok setup ∧
      setup.Follows defaultDir c (givesTest ∨ SaysTrue test) (givesReg ∨ SaysTrue reg) := by
  have hwords : ∀ w, outcome ≠ .error (.badTruth (configFileOf defaultDir c) w) := by
    intro w hout
    rcases (h.malformed w).mp (refuses_malformed_iff.mpr hout) with ⟨hgives, hw⟩ | ⟨-, hgives, hw⟩
    · exact htest ⟨hgives, w, hw⟩
    · exact hreg ⟨hgives, w, hw⟩
  apply h.settings hwords
  intro hout
  exact hone ((h.conflict hwords).mp (refuses_conflict_iff.mpr hout))

/-- A value that is no truth value is reported, and nothing else is. -/
theorem decision_of_badTruth
    (h : ∀ w, w = word ↔ (¬givesTest ∧ Misspells test w) ∨
      ¬(¬givesTest ∧ ∃ w, Misspells test w) ∧ ¬givesReg ∧ Misspells reg w) :
    Decision defaultDir c (.error (.badTruth (configFileOf defaultDir c) word))
      givesTest givesReg test reg where
  malformed w := by
    rw [refuses_malformed_iff, ← h w]
    simp [eq_comm]
  conflict hnot := absurd rfl (hnot word)
  settings hnot := absurd rfl (hnot word)

/-- Where all values that matter are truth values, only two flags at once and the levels are
refused. -/
theorem decision_of_wanted {testnet regtest : Bool}
    (htest : (testnet = true ↔ givesTest ∨ SaysTrue test) ∧ ¬(¬givesTest ∧ ∃ w, Misspells test w))
    (hreg : (regtest = true ↔ givesReg ∨ SaysTrue reg) ∧ ¬(¬givesReg ∧ ∃ w, Misspells reg w)) :
    Decision defaultDir c
      ((if testnet && regtest then .error (.network .conflict)
        else .ok (ofFlags defaultDir c testnet regtest)) >>= fun setup => setup.withLevels c)
      givesTest givesReg test reg := by
  -- No word is reported in any of the cases, so only the conflict and the levels are told apart.
  have hspelt : ∀ w, ¬((¬givesTest ∧ Misspells test w) ∨
      ¬(¬givesTest ∧ ∃ w, Misspells test w) ∧ ¬givesReg ∧ Misspells reg w) := by
    rintro w (⟨hgives, hw⟩ | ⟨-, hgives, hw⟩)
    · exact htest.2 ⟨hgives, w, hw⟩
    · exact hreg.2 ⟨hgives, w, hw⟩
  by_cases hboth : testnet = true ∧ regtest = true
  · rw [if_pos (by simpa using hboth), error_bind]
    exact {
      malformed := fun w => by simpa [refuses_malformed_iff] using hspelt w
      conflict := fun _ => iff_of_true ⟨rfl, rfl⟩ ⟨htest.1.mp hboth.1, hreg.1.mp hboth.2⟩
      settings := fun _ hnot => absurd rfl hnot }
  · rw [if_neg (by simpa using hboth), ok_bind]
    have hnot : ¬((givesTest ∨ SaysTrue test) ∧ (givesReg ∨ SaysTrue reg)) := by
      rwa [← htest.1, ← hreg.1]
    obtain ⟨text, hgiven, hlevels, hout⟩ | ⟨levels, hout⟩ :=
      withLevels_cases (ofFlags defaultDir c testnet regtest) c
    · rw [hout]
      exact {
        malformed := fun w => by simpa [refuses_malformed_iff] using hspelt w
        conflict := fun _ => by simpa [refuses_conflict_iff] using hnot
        settings := fun _ _ => .inl ⟨text, hgiven, hlevels, rfl⟩ }
    · rw [hout]
      exact {
        malformed := fun w => by simpa [refuses_malformed_iff] using hspelt w
        conflict := fun _ => by simpa [refuses_conflict_iff] using hnot
        settings := fun _ _ => .inr ⟨_, rfl, follows_ofFlags levels htest.1 hreg.1 hboth⟩ }

/-- The flags that are given and what the file says for them decide. -/
theorem decision_of_values (hread : CommandLine.read arguments = .ok c) (hknown : c.unknown = [])
    (hvalues : readFile contents? c (configFileOf defaultDir c) = .ok values) :
    Decision defaultDir c (Setup.read defaultDir contents? arguments)
      (c.testnet = true) (c.regtest = true)
      (values.lookup "testnet") (values.lookup "regtest") := by
  cases htest : isWanted (configFileOf defaultDir c) values c.testnet "testnet" with
  | error e =>
    -- The public test network is asked for first, so nothing else matters here.
    rw [read_of_choose_error hread (choose_of_testnet_error hknown hvalues htest)]
    obtain ⟨hflag, word, hword, rfl⟩ := isWanted_eq_error_iff.mp htest
    refine decision_of_badTruth fun w => ⟨?_, ?_⟩
    · rintro rfl
      exact .inl ⟨hflag, hword⟩
    · rintro (⟨-, hw⟩ | ⟨hspelt, -⟩)
      · exact hw.unique hword
      · exact absurd ⟨hflag, word, hword⟩ hspelt
  | ok testnet =>
    have hwants := isWanted_eq_ok_iff.mp htest
    cases hreg : isWanted (configFileOf defaultDir c) values c.regtest "regtest" with
    | error e =>
      -- Here the value for the public test network is known to be a truth value or hidden.
      rw [read_of_choose_error hread (choose_of_regtest_error hknown hvalues htest hreg)]
      obtain ⟨hflag, word, hword, rfl⟩ := isWanted_eq_error_iff.mp hreg
      refine decision_of_badTruth fun w => ⟨?_, ?_⟩
      · rintro rfl
        exact .inr ⟨hwants.2, hflag, hword⟩
      · rintro (⟨hgives, hw⟩ | ⟨-, -, hw⟩)
        · exact absurd ⟨hgives, w, hw⟩ hwants.2
        · exact hw.unique hword
    | ok regtest =>
      rw [read_eq hread, choose_of_isWanted hknown hvalues htest hreg]
      exact decision_of_wanted hwants (isWanted_eq_ok_iff.mp hreg)

end Setup

/-- **The network follows the flags and the file together.** Of a command line that can be read,
arguments that are not known are reported first, and then a configuration file that was asked for
and is not there. After that the flags that are given and what the file says for them decide. -/
theorem network_follows_flags_and_file (hread : CommandLine.read arguments = .ok c)
    (hfile : Setup.FileSays contents? (Setup.configFileOf defaultDir c) values) :
    (c.unknown ≠ [] →
      Setup.Refuses (Setup.read defaultDir contents? arguments) (.unknownArguments c.unknown)
        ("unknown arguments: " ++ Text.quotedList c.unknown)) ∧
    (c.unknown = [] → ∀ asked, Setup.given? c.configFile = some asked → contents? asked = none →
      Setup.Refuses (Setup.read defaultDir contents? arguments) (.noFile asked)
        ("configuration file not found: " ++ asked)) ∧
    (c.unknown = [] →
      (∀ asked, Setup.given? c.configFile = some asked → contents? asked ≠ none) →
      Setup.Decision defaultDir c (Setup.read defaultDir contents? arguments)
        (Given .testnet arguments) (Given .regtest arguments)
        (values.lookup "testnet") (values.lookup "regtest")) := by
  refine ⟨fun hunknown => ?_, fun hknown asked hgiven hnone => ?_, fun hknown hthere => ?_⟩
  · exact ⟨Setup.read_of_choose_error hread (Setup.choose_of_unknown hunknown), rfl⟩
  · exact ⟨Setup.read_of_choose_error hread (Setup.choose_of_missing hknown hgiven hnone), rfl⟩
  · have htest : c.testnet = true ↔ Given .testnet arguments :=
      CommandLine.isSet_read_iff (.inl rfl) hread
    have hreg : c.regtest = true ↔ Given .regtest arguments :=
      CommandLine.isSet_read_iff (.inr rfl) hread
    rw [← htest, ← hreg]
    exact Setup.decision_of_values hread hknown (Setup.readFile_of_says hfile hthere)

/-- A flag that is given hides a word in the file that is no truth value, and the file does not want
the other one. -/
theorem network_follows_regtest :
    let contents? := fun path =>
      if path = "c" then some (Octets.ofText "testnet = No\nregtest = maybe\n") else none
    ∃ setup, Setup.read "base" contents? ["--conf", "c", "--reg"] = .ok setup ∧
      setup.network = Networks.regtest ∧ setup.networkDataDir "base" = .ok "base/regtest" := by
  intro contents?
  have hread : CommandLine.read ["--conf", "c", "--reg"] =
      .ok { configFile := some "c", regtest := true } := by
    decide +kernel
  let f : Ini.File :=
    { sections := [("inception", [("testnet", [['N', 'o']]), ("regtest", ["maybe".toList])])] }
  have hsays : Setup.FileSays contents? "c" [("testnet", "No"), ("regtest", "maybe")] :=
    ⟨f, by decide +kernel, by decide +kernel⟩
  have hthere : ∀ asked, Setup.given? (some "c") = some asked → contents? asked ≠ none := by
    intro asked hasked
    obtain rfl : "c" = asked := by simpa [Setup.given?, Option.filter] using hasked
    decide +kernel
  have htest : ¬Given .testnet ["--conf", "c", "--reg"] := by decide +kernel
  have hreg : Given .regtest ["--conf", "c", "--reg"] := by decide +kernel
  have hno : normalWord "No" = "no" := by decide +kernel
  have hspelt : ∀ w, ¬Misspells (some "No") w := by simp [Misspells, hno, falseWords]
  have hfalse : ¬SaysTrue (some "No") := by simp [SaysTrue, hno, trueWords]
  obtain ⟨-, -, hdecision⟩ := @network_follows_flags_and_file "base" contents? _ _ _ hread hsays
  obtain ⟨text, hlevel, -⟩ | ⟨setup, hsetup, hfollows⟩ := (hdecision rfl hthere).settings_of_spelt
    (fun h => h.2.elim hspelt) (fun h => h.1 hreg) (fun h => h.1.elim htest hfalse)
  · cases hlevel
  · have hunset : setup.testnet = false := by
      rw [← Bool.not_eq_true, hfollows.testnet_iff, not_or]
      exact ⟨htest, hfalse⟩
    have hset : setup.regtest = true := hfollows.regtest_iff.mpr (.inl hreg)
    have hnetwork : setup.network = Networks.regtest := by
      rw [hfollows.network, hunset, hset]
      rfl
    have hother : setup.network ≠ Networks.main := by
      rw [hnetwork]
      intro h
      have hname : Networks.regtest.name = Networks.main.name := congrArg Network.name h
      cases hname
    obtain ⟨id, hid, hdir⟩ := hfollows.ofTest hother
    rw [hnetwork] at hid
    obtain rfl : "regtest" = id := Value.text.inj hid
    have hjoin : Path.join (Setup.dataDirOf "base" { configFile := some "c", regtest := true })
        "regtest" = "base/regtest" := by
      decide +kernel
    rw [hfollows.dataDir, hjoin] at hdir
    exact ⟨setup, hsetup, hnetwork, hdir⟩

end LedgerNet.Settings
