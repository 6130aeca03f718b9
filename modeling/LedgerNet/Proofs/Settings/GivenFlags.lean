import LedgerNet.Proofs.Outcome
import LedgerNet.Settings.CommandLine

/-!
# The flags that are given

A flag is given by any argument before the end mark that spells it, wherever it stands and however
often. The arguments between are options with their values, and a value that stands in an argument
of its own never looks like an option: so no flag is ever taken for a value, and reading the
arguments in order finds exactly the flags that stand among them.

## Main statements

- `mem_classifyAll_iff`: an option is classified as such exactly if an argument before the end mark
  spells it.
- `isSet_readWords`: reading sets the flags that stand among the classified arguments.
- `isSet_read_iff`: a command line that is read has the flags that are given.
-/

namespace LedgerNet.Settings

open Outcome

/-! ## Spelling a flag -/

/-- The text spells a flag: it is the name of the flag, or a start of it that goes beyond the
dashes. No other option starts with the same letter. -/
def Spells (s : String) (flag : Flag) : Prop :=
  s.toList <+: flag.label.toList ∧ 2 < s.toList.length

instance (s : String) (flag : Flag) : Decidable (Spells s flag) :=
  inferInstanceAs (Decidable (_ ∧ _))

/-- The flag is given: an argument before the end mark spells it. -/
def Given (flag : Flag) (arguments : List String) : Prop :=
  ∃ s ∈ arguments.takeWhile (· ≠ "--"), Spells s flag

instance (flag : Flag) (arguments : List String) : Decidable (Given flag arguments) :=
  inferInstanceAs (Decidable (∃ s ∈ arguments.takeWhile (· ≠ "--"), Spells s flag))

theorem splitValue_fst_of_none {cs : List Char} (h : (splitValue cs).2 = none) :
    (splitValue cs).1 = String.ofList cs := by
  have hkept := List.takeWhile_append_dropWhile (p := fun c => c != '=') (l := cs)
  simp only [splitValue] at h ⊢
  split at h
  · rename_i hrest
    rw [hrest, List.append_nil] at hkept
    simp only [hkept]
  · cases h

theorem classifyOther_ne_long (s : String) (cs : List Char) (flag : Flag) (value : Option String) :
    classifyOther s cs ≠ .long flag value := by
  unfold classifyOther
  split <;> simp

section Spelling

variable {s : String} {flag : Flag} (hflag : flag = .testnet ∨ flag = .regtest)

include hflag

theorem label_of_mem_spellings {row : String × Flag} (h : row ∈ Flag.spellings)
    (hrow : row.2 = flag) : row.1 = flag.label := by
  have hall : ∀ row ∈ Flag.spellings, row.2 = flag → row.1 = flag.label := by
    rcases hflag with rfl | rfl <;> decide
  exact hall row h hrow

theorem spells_of_lookup (h : Flag.spellings.lookup s = some flag) : Spells s flag := by
  obtain ⟨l₁, l₂, hrows, -⟩ := List.lookup_eq_some_iff.mp h
  have hmem : (s, flag) ∈ Flag.spellings := by
    rw [hrows]
    exact List.mem_append_right l₁ List.mem_cons_self
  have hs : s = flag.label := label_of_mem_spellings hflag hmem rfl
  rw [Spells, hs]
  refine ⟨List.prefix_rfl, ?_⟩
  rcases hflag with rfl | rfl <;> decide

/-- The two dashes are a start of more than one option. -/
theorem spells_of_filter {spelling : String}
    (h : Flag.spellings.filter (fun row => s.toList.isPrefixOf row.1.toList) = [(spelling, flag)])
    (hdashes : 2 ≤ s.toList.length) : Spells s flag := by
  have hmem : (spelling, flag) ∈
      Flag.spellings.filter fun row => s.toList.isPrefixOf row.1.toList := by
    rw [h]
    exact List.mem_cons_self
  obtain ⟨hrow, hstart⟩ := List.mem_filter.mp hmem
  have hlabel : spelling = flag.label := label_of_mem_spellings hflag hrow rfl
  rw [hlabel, List.isPrefixOf_iff_prefix] at hstart
  refine ⟨hstart, Nat.lt_of_le_of_ne hdashes fun hshort => ?_⟩
  have htwo : s.toList = ['-', '-'] := by
    rw [List.prefix_iff_eq_take.mp hstart, ← hshort]
    rcases hflag with rfl | rfl <;> rfl
  rw [htwo] at h
  have hcount := congrArg List.length h
  rw [List.length_singleton] at hcount
  exact absurd hcount (by decide)

theorem spells_of_classify (h : classify s = .ok (.long flag none)) : Spells s flag := by
  simp only [classify] at h
  split at h
  · rename_i rest hcs
    -- Without a value the whole argument is the name of the option.
    have hname (hnone : (splitValue s.toList).2 = none) : (splitValue s.toList).1 = s := by
      rw [splitValue_fst_of_none hnone, String.ofList_toList]
    split at h
    · rename_i found hfound
      obtain rfl : found = flag := by simpa using h
      exact spells_of_lookup hflag hfound
    · rename_i found _ hfound
      obtain ⟨rfl, hnone⟩ : found = flag ∧ (splitValue s.toList).2 = none := by simpa using h
      rw [hname hnone] at hfound
      exact spells_of_lookup hflag hfound
    · split at h
      · exact absurd (Except.ok.inj h) (classifyOther_ne_long _ _ _ _)
      · rename_i spelling found hone
        obtain ⟨rfl, hnone⟩ : found = flag ∧ (splitValue s.toList).2 = none := by simpa using h
        rw [hname hnone] at hone
        exact spells_of_filter hflag hone (by simp [hcs])
      · cases h
  · obtain rfl : Flag.help = flag := by simpa using h
    simp at hflag
  · cases h
  · cases h
  · cases h
  · exact absurd (Except.ok.inj h) (classifyOther_ne_long _ _ _ _)
  · cases h

theorem classify_of_spells (h : Spells s flag) : classify s = .ok (.long flag none) := by
  obtain ⟨hstart, hlong⟩ := h
  have hstarts : ∀ n ≤ flag.label.toList.length, 2 < n →
      classify (String.ofList (flag.label.toList.take n)) = .ok (.long flag none) := by
    rcases hflag with rfl | rfl <;> decide +kernel
  have hs := hstarts s.toList.length hstart.length_le hlong
  rwa [← List.prefix_iff_eq_take.mp hstart, String.ofList_toList] at hs

/-- The arguments that are a flag are those that spell it. -/
theorem classify_eq_flag_iff : classify s = .ok (.long flag none) ↔ Spells s flag :=
  ⟨spells_of_classify hflag, classify_of_spells hflag⟩

end Spelling

/-- An option without a value of its own is found exactly before the end mark. -/
theorem mem_classifyAll_iff {arguments : List String} {words : List Word} {flag : Flag}
    (hflag : flag = .testnet ∨ flag = .regtest) (h : classifyAll arguments = .ok words) :
    .long flag none ∈ words ↔ Given flag arguments := by
  induction arguments generalizing words with
  | nil =>
    cases h
    simp [Given]
  | cons s rest ih =>
    rw [classifyAll] at h
    by_cases hend : s = "--"
    · -- Behind the end mark all arguments are plain.
      rw [if_pos hend] at h
      cases h
      simp [Given, hend]
    · simp only [if_neg hend, bind_eq_ok_iff, pure_eq_ok_iff] at h
      obtain ⟨word, hword, more, hmore, rfl⟩ := h
      have hfirst : .long flag none = word ↔ Spells s flag := by
        rw [← classify_eq_flag_iff hflag, hword, Except.ok.injEq, eq_comm]
      have hkept : (s :: rest).takeWhile (· ≠ "--") = s :: rest.takeWhile (· ≠ "--") := by
        simp [hend]
      simp only [List.mem_cons, hfirst, ih hmore, Given, hkept, exists_eq_or_imp]

namespace CommandLine

variable {c c' : CommandLine} {words : List Word} {flag : Flag}

/-- Whether a flag is set; the other options are no flags. -/
def isSet (c : CommandLine) : Flag → Bool
  | .testnet => c.testnet
  | .regtest => c.regtest
  | _ => false

theorem isSet_setValue (c : CommandLine) (option : Flag) (v : Option String) (flag : Flag) :
    (c.setValue option v).isSet flag = c.isSet flag := by
  cases option <;> cases flag <;> rfl

theorem isSet_addUnknown (c : CommandLine) (s : String) (flag : Flag) :
    (c.addUnknown s).isSet flag = c.isSet flag := by
  cases flag <;> rfl

theorem isSet_setFlag (c : CommandLine) (option : Flag)
    (hflag : flag = .testnet ∨ flag = .regtest) :
    (c.setFlag option).isSet flag = true ↔ c.isSet flag = true ∨ option = flag := by
  rcases hflag with rfl | rfl <;> cases option <;> simp [setFlag, isSet]

/-- Reading sets the flags that stand among the classified arguments. -/
theorem isSet_readWords (hflag : flag = .testnet ∨ flag = .regtest)
    (h : readWords c words = .ok c') :
    c'.isSet flag = true ↔ c.isSet flag = true ∨ .long flag none ∈ words := by
  -- An option with a value is none of the flags, so what it takes away is no flag either.
  have hvalue : ∀ option : Flag, option.takesValue = true → flag ≠ option := by
    intro option htakes
    rcases hflag with rfl | rfl <;> cases option <;> simp_all [Flag.takesValue]
  -- The cases are those of reading; the ones without an own arm refuse the command line.
  fun_induction readWords c words with
  | case1 c =>
    cases h
    simp
  | case2 c s rest ih => simp [ih h, isSet_addUnknown]
  | case3 c s rest ih => simp [ih h, isSet_addUnknown]
  | case4 c rest ih => simp [ih h, isSet_addUnknown]
  | case6 c option v rest htakes ih => simp [ih h, isSet_setValue]
  | case10 c option htakes hhelp =>
    cases h
    simp [isSet_setFlag c option hflag, @eq_comm _ option]
  | case11 c option rest htakes v ih => simp [ih h, isSet_setValue, hvalue option htakes]
  | case14 c option next rest htakes hhelp ih =>
    simp only [ih h, isSet_setFlag c option hflag, List.mem_cons, Word.long.injEq, or_assoc,
      and_true, @eq_comm _ option]
  | _ => cases h

/-- **The flags of a command line are those that are given.** -/
theorem isSet_read_iff {arguments : List String} (hflag : flag = .testnet ∨ flag = .regtest)
    (h : CommandLine.read arguments = .ok c) : c.isSet flag = true ↔ Given flag arguments := by
  obtain ⟨words, hwords, hread⟩ := bind_eq_ok_iff.mp h
  have hstart : ({} : CommandLine).isSet flag = false := by
    rcases hflag with rfl | rfl <;> rfl
  rw [isSet_readWords hflag hread, hstart, ← mem_classifyAll_iff hflag hwords]
  simp

end CommandLine

end LedgerNet.Settings
