import LedgerNet.Settings.Places

/-!
# Dots in front of a program's name

The directory for a program's data depends on the name without the dots in front, unless the name is
empty or one dot, which stands for the current directory. So one more dot in front changes nothing,
but for the name of one dot: with another dot in front it is a name of nothing but dots, which is
looked for in the home directory like any other one.

## Main statements

- `programDir_eq`: the directory from the name without the dots in front.
- `dirFor_empty_eq_iff`: where a name of nothing but dots leads to the current directory.
- `leading_dot_ignored_iff`: when one more dot in front makes no difference.
-/

namespace LedgerNet.Settings

variable {systemDir : String → String} {name system home : String} {envHome : Option String}

/-! ## Names without dots in front -/

/-- The name without the dots in front. -/
def undotted (name : String) : String := String.ofList (name.toList.dropWhile (· == '.'))

theorem undotted_dot (name : String) : undotted ("." ++ name) = undotted name := by
  rw [undotted, String.toList_append]
  rfl

/-- The home directory that is used, which is empty if there is none. -/
def homeOf (home : String) (envHome : Option String) : String :=
  if home.isEmpty then envHome.getD "" else home

/-- The directory for a program with a name without dots in front. -/
def dirFor (systemDir : String → String) (name system home : String) (envHome : Option String) :
    String :=
  if system = "Windows" then systemDir (Text.capitalize name)
  else if (homeOf home envHome).isEmpty then "."
  else if system = "Darwin" then
    under (homeOf home envHome) ["Library", "Application Support", Text.capitalize name]
  else under (homeOf home envHome) ["." ++ Text.lower name]

theorem programDir_eq (systemDir : String → String) (name system home : String)
    (envHome : Option String) :
    programDir systemDir name system home envHome =
      if name = "" ∨ name = "." then "."
      else dirFor systemDir (undotted name) system home envHome := by
  by_cases h : name = "" ∨ name = "."
  · rw [if_pos h, programDir, if_pos (by simpa using h)]
  · rw [if_neg h, programDir, if_neg (by simpa using h)]
    rfl

/-! ## The current directory -/

/-- A relative path behind another one makes it longer by its own length. -/
theorem length_le_join {a b : String} (h : Path.isAbsolute b = false) :
    a.length + b.length ≤ (Path.join a b).length := by
  rw [Path.join, h, if_neg Bool.false_ne_true]
  split
  · exact Nat.le_of_eq (String.length_append _ _).symm
  · rw [String.length_append, String.length_append]
    omega

/-- One more name below a home directory makes its path longer by its own length. -/
theorem length_le_under (home : String) (names : List String) {name : String}
    (h : Path.isAbsolute name = false) :
    (under home names).length + name.length ≤ (under home (names ++ [name])).length := by
  rw [under, under, List.foldl_append]
  exact length_le_join h

/-- Something that is longer than one character is not the current directory. -/
theorem ne_current_of_length {s : String} (h : 1 < s.length) : s ≠ "." := by
  rintro rfl
  exact absurd h (by decide)

/-- Without a name there is the current directory only where the system says so or there is no home
to look in. -/
theorem dirFor_empty_eq_iff :
    dirFor systemDir "" system home envHome = "." ↔
      if system = "Windows" then systemDir "" = "." else homeOf home envHome = "" := by
  have htitle : Text.capitalize "" = "" := by decide +kernel
  have hlower : "." ++ Text.lower "" = "." := by decide +kernel
  rw [dirFor, htitle, hlower]
  by_cases hwindows : system = "Windows"
  · rw [if_pos hwindows, if_pos hwindows]
  rw [if_neg hwindows, if_neg hwindows]
  by_cases hhome : homeOf home envHome = ""
  · rw [hhome, if_pos (by rfl)]
    exact iff_of_true rfl rfl
  have hempty : ¬(homeOf home envHome).isEmpty = true := by simpa using hhome
  rw [if_neg hempty]
  refine iff_of_false (ne_current_of_length ?_) hhome
  have hpos : 0 < (homeOf home envHome).length := by
    rw [Nat.pos_iff_ne_zero]
    simpa using hhome
  split
  · -- The names above the program's own are long enough.
    calc 1 < "Application Support".length := by decide
      _ ≤ (under (homeOf home envHome) ["Library"]).length + "Application Support".length :=
        Nat.le_add_left _ _
      _ ≤ (under (homeOf home envHome) ["Library", "Application Support"]).length :=
        length_le_under _ ["Library"] (by decide +kernel)
      _ ≤ (under (homeOf home envHome) ["Library", "Application Support", ""]).length :=
        Nat.le_of_add_right_le
          (length_le_under _ ["Library", "Application Support"] (by decide +kernel))
  · have hnone : under (homeOf home envHome) [] = homeOf home envHome := rfl
    calc 1 < (under (homeOf home envHome) []).length + ".".length := by
          rw [hnone]
          exact Nat.lt_add_of_pos_left hpos
      _ ≤ (under (homeOf home envHome) ["."]).length := length_le_under _ [] (by decide +kernel)

/-- With a dot in front, only the name of one dot stands for the current directory. -/
theorem programDir_dot (systemDir : String → String) (name system home : String)
    (envHome : Option String) :
    programDir systemDir ("." ++ name) system home envHome =
      if name = "" then "." else dirFor systemDir (undotted name) system home envHome := by
  have hne : "." ++ name ≠ "" := by
    rw [ne_eq, ← String.toList_inj]
    simp
  have hdot : "." ++ name = "." ↔ name = "" := by
    rw [← String.toList_inj, ← String.toList_inj]
    simp
  rw [programDir_eq, undotted_dot]
  simp only [hne, hdot, false_or]

/-- **A dot in front of a name makes no difference, unless the name is a dot itself.** Then it leads
away from the current directory to a place that programs have, wherever there is another one: the
place that the system has for a program of no name, or one under a home directory. -/
theorem leading_dot_ignored_iff (systemDir : String → String) (name system home : String)
    (envHome : Option String) :
    programDir systemDir ("." ++ name) system home envHome =
        programDir systemDir name system home envHome ↔
      name ≠ "." ∨
        if system = "Windows" then systemDir "" = "." else homeOf home envHome = "" := by
  rw [programDir_dot, programDir_eq]
  by_cases hempty : name = ""
  · subst hempty
    simp
  by_cases hdot : name = "."
  · subst hdot
    have hnothing : undotted "." = "" := by decide +kernel
    rw [if_neg hempty, if_pos (.inr rfl), hnothing, dirFor_empty_eq_iff]
    simp
  · simp [hempty, hdot]

/-- More dots in front of a name, and a dot in front of one where there is no home. -/
theorem leading_dot_ignored_iff_no_home :
    let localData : String → String := ("C:\\Users\\u\\AppData\\Local\\" ++ ·)
    let localShare : String → String := ("/.local/share/" ++ ·)
    programDir localData ("." ++ "..Wallet") "Windows" "C:\\Users\\u" none =
        programDir localData "..Wallet" "Windows" "C:\\Users\\u" none ∧
      programDir localShare ("." ++ ".") "Linux" "" none =
        programDir localShare "." "Linux" "" none :=
  ⟨(leading_dot_ignored_iff _ "..Wallet" "Windows" _ none).mpr (.inl (by decide)),
    (leading_dot_ignored_iff _ "." "Linux" "" none).mpr (.inr (by decide +kernel))⟩

/-- A name of two dots leads to the home directory itself, and one of a dot to the current one. -/
theorem two_dots_lead_home :
    let localShare : String → String := ("/home/u/.local/share/" ++ ·)
    programDir localShare ("." ++ ".") "Linux" "/home/u" none = "/home/u/." ∧
      programDir localShare "." "Linux" "/home/u" none = "." := by
  decide +kernel

end LedgerNet.Settings
