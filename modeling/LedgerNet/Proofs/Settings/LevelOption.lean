import LedgerNet.Proofs.Settings.FlagNetwork
import LedgerNet.Proofs.Text.Pieces

/-!
# The log level option

The text of the option is the word of a level, or else pairs with commas between them. A pair has
one colon, left of it a name, which may be empty, and right of it the word of a level. Of several
pairs with one name the last counts. No word of a level holds a comma or a colon, so what is written
as pairs is read back, in whatever order it was written.

## Main statements

- `readLevel?_eq_some_iff`, `readPair?_eq_some_iff`: the words of levels, and the pairs.
- `readLevels?_eq_some_iff`: the texts that are pairs, and what they stand for.
- `readLevels?_of_writes`: levels by name that are written as pairs are read back.
- `log_level_option`: what the option does to the settings.
-/

namespace LedgerNet.Settings

open Outcome
open LedgerNet.Entries (lookup_cons lookup_eq_of_perm lookup_eq_some_iff_mem lookup_putAll
  nodup_putAll putAll putAll_of_nodup upsert)

variable {s word name : String} {level : Int} {piece : List Char} {pieces : List (List Char)}
  {pairs entries : List (String × Int)}

/-! ## The words of levels -/

/-- The word names a level, whatever its letter case. -/
def IsLevel (word : String) (level : Int) : Prop := (Text.lower word, level) ∈ levelWords

theorem readLevel?_eq_some_iff : readLevel? word = some level ↔ IsLevel word level :=
  lookup_eq_some_iff_mem (by decide)

/-- A character below 128 that is no capital letter stays what it is. -/
theorem mem_lowerFrom {c : Char} (hsmall : c.toNat < 128) (hlower : c.toLower = c)
    {before cs : List Char} (h : c ∈ cs) : c ∈ Text.lowerFrom before cs := by
  induction cs generalizing before with
  | nil => cases h
  | cons d cs ih =>
    rw [Text.lowerFrom, List.mem_append]
    rcases List.mem_cons.mp h with rfl | hrest
    · have hsigma : c ≠ 'Σ' := fun h => absurd (h ▸ hsmall) (by decide)
      simp [hsigma, Text.lowerChar, hsmall, hlower]
    · exact .inr (ih hrest)

theorem notMem_of_isLevel {c : Char} (hsmall : c.toNat < 128) (hlower : c.toLower = c)
    (hwords : ∀ row ∈ levelWords, c ∉ row.1.toList) (h : IsLevel word level) : c ∉ word.toList := by
  intro hmem
  have hrow := hwords _ h
  rw [Text.lower, String.toList_ofList] at hrow
  exact hrow (mem_lowerFrom hsmall hlower hmem)

/-- A level's word holds no separator. -/
theorem IsLevel.separators (h : IsLevel word level) : ',' ∉ word.toList ∧ ':' ∉ word.toList :=
  ⟨notMem_of_isLevel (by decide) (by decide) (by decide) h,
    notMem_of_isLevel (by decide) (by decide) (by decide) h⟩

/-! ## Pairs -/

/-- The piece has one colon, left of it the name and right of it a word of the level. -/
def IsPair (piece : List Char) (name : String) (level : Int) : Prop :=
  ∃ word : String, piece = name.toList ++ ':' :: word.toList ∧
    ':' ∉ name.toList ∧ ':' ∉ word.toList ∧ IsLevel word level

theorem readPair?_eq_some_iff : readPair? piece = some (name, level) ↔ IsPair piece name level := by
  unfold readPair?
  constructor
  · intro h
    split at h
    · rename_i left right hpieces
      obtain ⟨hpiece, hleft, hright⟩ := Text.pieces_eq_pair_iff.mp hpieces
      simp only [Option.bind_eq_bind, Option.bind_eq_some_iff, Option.pure_def, Option.some.injEq,
        Prod.mk.injEq] at h
      obtain ⟨n, hn, rfl, rfl⟩ := h
      refine ⟨String.ofList right, ?_, ?_, ?_, readLevel?_eq_some_iff.mp hn⟩
      all_goals simpa
    · cases h
  · rintro ⟨word, hpiece, hname, hword, hlevel⟩
    rw [Text.pieces_eq_pair_iff.mpr ⟨hpiece, hname, hword⟩]
    simp [readLevel?_eq_some_iff.mpr hlevel]

/-- The pieces are pairs of these names and levels. -/
def ArePairs (pieces : List (List Char)) (pairs : List (String × Int)) : Prop :=
  List.Forall₂ (fun piece pair => IsPair piece pair.1 pair.2) pieces pairs

theorem mapM_readPair?_eq_some_iff :
    pieces.mapM readPair? = some pairs ↔ ArePairs pieces pairs := by
  simp only [mapM_eq_some_iff, ArePairs, ← readPair?_eq_some_iff]

/-- The last piece that is a pair of the name has the level. -/
def LastPair (pieces : List (List Char)) (name : String) (level : Int) : Prop :=
  ∃ front piece back, pieces = front ++ piece :: back ∧ IsPair piece name level ∧
    ∀ p ∈ back, ∀ l, ¬IsPair p name l

theorem setKey_eq (key : String) (value : Int) (rows : List (String × Int)) :
    setKey key value rows = upsert key (fun _ => value) value rows := by
  induction rows with
  | nil => rfl
  | cons row rows ih =>
    rw [setKey, upsert, ih]
    split
    · rename_i h
      rw [h]
    · rfl

theorem foldl_setKey_eq (pairs : List (String × Int)) :
    pairs.foldl (fun rows (name, level) => setKey name level rows) [] = putAll [] pairs := by
  simp only [setKey_eq, putAll]

theorem lastPair_cons_iff :
    LastPair (piece :: pieces) name level ↔
      LastPair pieces name level ∨
        IsPair piece name level ∧ ∀ p ∈ pieces, ∀ l, ¬IsPair p name l := by
  constructor
  · rintro ⟨front, p, back, heq, hpair, hback⟩
    cases front with
    | nil =>
      cases heq
      exact .inr ⟨hpair, hback⟩
    | cons q front =>
      cases heq
      exact .inl ⟨front, p, back, rfl, hpair, hback⟩
  · rintro (⟨front, p, back, rfl, hpair, hback⟩ | ⟨hpair, hback⟩)
    · exact ⟨piece :: front, p, back, rfl, hpair, hback⟩
    · exact ⟨[], piece, pieces, rfl, hpair, hback⟩

theorem isPair_iff_of_isPair {name' : String} {level' : Int} (h : IsPair piece name level) :
    IsPair piece name' level' ↔ name' = name ∧ level' = level := by
  rw [← readPair?_eq_some_iff] at h ⊢
  rw [h, Option.some.injEq, Prod.mk.injEq, eq_comm, @eq_comm _ level]

theorem lookup_reverse_eq_none_iff (h : ArePairs pieces pairs) :
    pairs.reverse.lookup name = none ↔ ∀ p ∈ pieces, ∀ l, ¬IsPair p name l := by
  induction pairs generalizing pieces with
  | nil =>
    cases h
    simp
  | cons pair pairs ih =>
    obtain ⟨piece, rest, hpair, hrest, rfl⟩ := List.forall₂_cons_right_iff.mp h
    rw [List.reverse_cons, List.lookup_append, Option.or_eq_none_iff, ih hrest, lookup_cons,
      List.forall_mem_cons, and_comm]
    refine and_congr_left fun _ => ?_
    simp only [isPair_iff_of_isPair hpair, List.lookup_nil]
    by_cases hname : name = pair.1 <;> simp [hname]

/-- Of the pairs that are read, the last one with a name is that of the last piece with it. -/
theorem lookup_reverse_eq_some_iff (h : ArePairs pieces pairs) :
    pairs.reverse.lookup name = some level ↔ LastPair pieces name level := by
  -- The first pair counts only where no later one has the name.
  induction pairs generalizing pieces with
  | nil =>
    cases h
    simp [LastPair]
  | cons pair pairs ih =>
    obtain ⟨piece, rest, hpair, hrest, rfl⟩ := List.forall₂_cons_right_iff.mp h
    rw [lastPair_cons_iff, ← ih hrest, ← lookup_reverse_eq_none_iff hrest,
      isPair_iff_of_isPair hpair, List.reverse_cons, List.lookup_append, lookup_cons]
    cases pairs.reverse.lookup name <;> simp [eq_comm]

/-! ## Levels -/

/-- The text is no list of pairs, as it has neither separator. -/
def IsSingle (s : String) : Prop := ',' ∉ s.toList ∧ ':' ∉ s.toList

theorem readLevels?_of_single (h : IsSingle s) :
    readLevels? s = (readLevel? s).map fun level => { default := level } := by
  have hbranch : (s.toList.contains ',' || s.toList.contains ':') = false := by
    simpa [IsSingle] using h
  rw [readLevels?, hbranch]
  cases hlevel : readLevel? s <;> simp

/-- Any other text has to be pairs, of which the last one with a name counts. -/
theorem readLevels?_eq_some_iff (h : ¬IsSingle s) {levels : Levels} :
    readLevels? s = some levels ↔
      ∃ pairs, ArePairs (s.toList.splitOn ',') pairs ∧ levels = { byName := putAll [] pairs } := by
  have hbranch : (s.toList.contains ',' || s.toList.contains ':') = true := by
    simp only [IsSingle, not_and_or, not_not] at h
    simpa using h
  simp only [readLevels?, hbranch, if_true, Text.pieces_eq_splitOn, foldl_setKey_eq,
    Option.bind_eq_bind, Option.bind_eq_some_iff, Option.pure_def, Option.some.injEq,
    mapM_readPair?_eq_some_iff, @eq_comm _ levels]

/-- Every piece is a pair, of whatever name and level, exactly if they are pairs together. -/
theorem forall_isPair_iff :
    (∀ piece ∈ pieces, ∃ name level, IsPair piece name level) ↔ ∃ pairs, ArePairs pieces pairs := by
  induction pieces with
  | nil => simp [ArePairs]
  | cons piece pieces ih =>
    rw [List.forall_mem_cons, ih]
    constructor
    · rintro ⟨⟨name, level, hpair⟩, pairs, hpairs⟩
      exact ⟨(name, level) :: pairs, .cons hpair hpairs⟩
    · rintro ⟨pairs, hpairs⟩
      obtain ⟨pair, rest, hpair, hrest, -⟩ := List.forall₂_cons_left_iff.mp hpairs
      exact ⟨⟨pair.1, pair.2, hpair⟩, rest, hrest⟩

/-! ## Levels that are written -/

/-- The text is a name and a word of its level with a colon between them. -/
def WritesPair (entry : String × Int) (text : String) : Prop :=
  ∃ word, IsLevel word entry.2 ∧ text = entry.1 ++ ":" ++ word

/-- The text is pairs of the names and levels, in this order, with commas between them. -/
def Writes (s : String) (entries : List (String × Int)) : Prop :=
  ∃ texts, List.Forall₂ WritesPair entries texts ∧ s = String.intercalate "," texts

theorem isPair_of_writesPair {entry : String × Int} {text : String} (h : WritesPair entry text)
    (hname : ':' ∉ entry.1.toList) : IsPair text.toList entry.1 entry.2 := by
  obtain ⟨word, hlevel, rfl⟩ := h
  exact ⟨word, by simp, hname, hlevel.separators.2, hlevel⟩

theorem notMem_of_writesPair {entry : String × Int} {text : String} (h : WritesPair entry text)
    (hname : ',' ∉ entry.1.toList) : ',' ∉ text.toList := by
  obtain ⟨word, hlevel, rfl⟩ := h
  simp [hname, hlevel.separators.1]

theorem pieces_of_writesPair {texts : List String}
    (hnames : ∀ entry ∈ entries, ',' ∉ entry.1.toList ∧ ':' ∉ entry.1.toList)
    (h : List.Forall₂ WritesPair entries texts) :
    ArePairs (texts.map String.toList) entries ∧
      ∀ piece ∈ texts.map String.toList, ',' ∉ piece := by
  induction h with
  | nil => simp [ArePairs]
  | cons hpair _ ih =>
    obtain ⟨hname, hrest⟩ := List.forall_mem_cons.mp hnames
    obtain ⟨hpairs, hfree⟩ := ih hrest
    refine ⟨.cons (isPair_of_writesPair hpair hname.2) hpairs, ?_⟩
    exact List.forall_mem_cons.mpr ⟨notMem_of_writesPair hpair hname.1, hfree⟩

/-- Names without separators that are written as pairs are the pairs of the text. -/
theorem arePairs_of_writes (hne : entries ≠ [])
    (hnames : ∀ entry ∈ entries, ',' ∉ entry.1.toList ∧ ':' ∉ entry.1.toList)
    (h : Writes s entries) : ArePairs (s.toList.splitOn ',') entries := by
  obtain ⟨texts, htexts, rfl⟩ := h
  obtain ⟨hpairs, hfree⟩ := pieces_of_writesPair hnames htexts
  have hsome : texts.map String.toList ≠ [] := by
    rintro hnil
    rw [hnil] at hpairs
    cases hpairs
    exact hne rfl
  have hcomma : ",".toList = [','] := rfl
  rwa [String.toList_intercalate, hcomma, List.splitOn_intercalate ',' hfree hsome]

/-- A text of pairs is no single word. -/
theorem not_isSingle_of_arePairs (h : ArePairs (s.toList.splitOn ',') entries) : ¬IsSingle s := by
  rintro ⟨hcomma, hcolon⟩
  rw [List.splitOn_eq_singleton hcomma] at h
  obtain ⟨entry, rest, ⟨word, htext, -⟩, -, -⟩ := List.forall₂_cons_left_iff.mp h
  rw [htext] at hcolon
  simp at hcolon

/-- **Levels by name that are written as pairs are read back.** -/
theorem readLevels?_of_writes (hne : entries ≠ []) (hkeys : (entries.map Prod.fst).Nodup)
    (hnames : ∀ entry ∈ entries, ',' ∉ entry.1.toList ∧ ':' ∉ entry.1.toList)
    (h : Writes s entries) : readLevels? s = some { byName := entries } := by
  have hpairs := arePairs_of_writes hne hnames h
  rw [readLevels?_eq_some_iff (not_isSingle_of_arePairs hpairs)]
  exact ⟨entries, hpairs, by rw [putAll_of_nodup (by simpa using hkeys), List.nil_append]⟩

/-! ## The option -/

section Option

variable {defaultDir : String} {contents? : String → Option Octets} {arguments : List String}
  {c : CommandLine} {chosen : Setup} {records : List Log.Record}

section Chosen

variable (hread : CommandLine.read arguments = .ok c)
  (hchoose : Setup.choose defaultDir contents? c = .ok (chosen, records))
  (hgiven : c.logLevel = some s) (hne : s ≠ "")

include hread hchoose hgiven hne

/-- Once everything else is chosen, the text of the option is read. -/
theorem Setup.read_of_choose :
    Setup.read defaultDir contents? arguments =
      match readLevels? s with
      | some levels => .ok { chosen with levels }
      | none => .error (.badLevel s) := by
  have htext : Setup.given? c.logLevel = some s := by
    rw [hgiven, Setup.given?, Option.filter_some]
    simp [hne]
  have hlevels : Setup.read defaultDir contents? arguments = chosen.withLevels c := by
    rw [Setup.read_eq hread, hchoose]
    rfl
  rw [hlevels]
  cases hread : readLevels? s <;> simp [Setup.withLevels, htext, hread]

theorem Setup.read_eq_ok_iff (setup : Setup) :
    Setup.read defaultDir contents? arguments = .ok setup ↔
      ∃ levels, readLevels? s = some levels ∧ setup = { chosen with levels } := by
  rw [Setup.read_of_choose hread hchoose hgiven hne]
  cases readLevels? s <;> simp [eq_comm]

theorem Setup.read_eq_badLevel_iff :
    Setup.read defaultDir contents? arguments = .error (.badLevel s) ↔ readLevels? s = none := by
  rw [Setup.read_of_choose hread hchoose hgiven hne]
  cases readLevels? s <;> simp

end Chosen

/-- **The log level option accepts exactly its grammar.** -/
theorem log_level_option (hread : CommandLine.read arguments = .ok c)
    (hchoose : Setup.choose defaultDir contents? c = .ok (chosen, records))
    (hgiven : c.logLevel = some s) (hne : s ≠ "") :
    (IsSingle s → ∀ setup, Setup.read defaultDir contents? arguments = .ok setup ↔
      ∃ level, IsLevel s level ∧
        setup = { chosen with levels := { default := level, byName := [] } }) ∧
    (¬IsSingle s →
      ((∃ setup, Setup.read defaultDir contents? arguments = .ok setup) ↔
        ∀ piece ∈ s.toList.splitOn ',', ∃ name level, IsPair piece name level) ∧
      ∀ setup, Setup.read defaultDir contents? arguments = .ok setup →
        ∃ byName, setup = { chosen with levels := { default := Log.info, byName } } ∧
          (byName.map Prod.fst).Nodup ∧
          ∀ name level,
            byName.lookup name = some level ↔ LastPair (s.toList.splitOn ',') name level) ∧
    ((∀ setup, Setup.read defaultDir contents? arguments ≠ .ok setup) →
      Setup.Refuses (Setup.read defaultDir contents? arguments) (.badLevel s)
        ("malformed loglevel specifier: " ++ s)) ∧
    ∀ entries, entries ≠ [] → (entries.map Prod.fst).Nodup →
      (∀ entry ∈ entries, ',' ∉ entry.1.toList ∧ ':' ∉ entry.1.toList) →
      ∀ order, order.Perm entries → Writes s order →
        ∃ byName, Setup.read defaultDir contents? arguments =
            .ok { chosen with levels := { default := Log.info, byName } } ∧
          ∀ name, byName.lookup name = entries.lookup name := by
  have hok := Setup.read_eq_ok_iff hread hchoose hgiven hne
  refine ⟨fun hsingle setup => ?_, fun hpairs => ⟨?_, fun setup hsetup => ?_⟩, fun hnot => ?_,
    fun entries hsome hkeys hnames order hperm hwrites => ?_⟩
  · rw [hok, readLevels?_of_single hsingle]
    simp [readLevel?_eq_some_iff]
  · simp only [hok, readLevels?_eq_some_iff hpairs, forall_isPair_iff]
    constructor
    · rintro ⟨setup, levels, ⟨pairs, harePairs, -⟩, -⟩
      exact ⟨pairs, harePairs⟩
    · rintro ⟨pairs, harePairs⟩
      exact ⟨_, _, ⟨pairs, harePairs, rfl⟩, rfl⟩
  · obtain ⟨levels, hlevels, rfl⟩ := (hok setup).mp hsetup
    obtain ⟨pairs, harePairs, rfl⟩ := (readLevels?_eq_some_iff hpairs).mp hlevels
    refine ⟨putAll [] pairs, rfl, nodup_putAll (by simp) pairs, fun name level => ?_⟩
    rw [lookup_putAll, List.lookup_nil, Option.or_none, lookup_reverse_eq_some_iff harePairs]
  · refine (Setup.refuses_iff rfl).mpr
      ((Setup.read_eq_badLevel_iff hread hchoose hgiven hne).mpr ?_)
    by_contra hsome
    obtain ⟨levels, hlevels⟩ := Option.ne_none_iff_exists'.mp hsome
    exact hnot _ ((hok _).mpr ⟨levels, hlevels, rfl⟩)
  · -- Names that are all different are found in any order.
    have hmap := hperm.map Prod.fst
    have horder : order ≠ [] := fun hnil => hsome (by simpa [hnil] using hperm)
    have hlevels := readLevels?_of_writes horder (hmap.nodup_iff.mpr hkeys)
      (fun entry hentry => hnames entry (hperm.mem_iff.mp hentry)) hwrites
    refine ⟨order, (hok _).mpr ⟨_, hlevels, rfl⟩, fun name => ?_⟩
    exact lookup_eq_of_perm hperm (hmap.nodup_iff.mpr hkeys) name

/-- Two levels by name, written in the other order and in any letter case. -/
theorem log_level_option_pairs :
    ∃ setup, Setup.read "base" (fun _ => none) ["--loglevel", "wallet:0,net:Debug"] = .ok setup ∧
      setup.levels.default = Log.info ∧
      ∀ name, setup.levels.byName.lookup name =
        [("net", Log.debug), ("wallet", Log.notSet)].lookup name := by
  have hread : CommandLine.read ["--loglevel", "wallet:0,net:Debug"] =
      .ok { logLevel := some "wallet:0,net:Debug" } := by
    decide +kernel
  have hunset (key : String) : Setup.isWanted (Path.join "base" Setup.fileName) [] false key =
      .ok false :=
    Setup.isWanted_eq_ok_iff.mpr ⟨by simp [SaysTrue], by simp [Misspells]⟩
  have hflags := @Setup.choose_of_isWanted "base" (fun _ => none)
    { logLevel := some "wallet:0,net:Debug" } [] rfl rfl false false (hunset _) (hunset _)
  obtain ⟨⟨chosen, records⟩, hchoose, -⟩ := map_eq_ok_iff.mp hflags
  obtain ⟨-, -, -, hwritten⟩ := log_level_option hread hchoose rfl (by decide)
  have hwrites : Writes "wallet:0,net:Debug" [("wallet", Log.notSet), ("net", Log.debug)] := by
    refine ⟨["wallet:0", "net:Debug"], .cons ⟨"0", ?_, rfl⟩ (.cons ⟨"Debug", ?_, rfl⟩ .nil), ?_⟩
    · unfold IsLevel
      decide +kernel
    · unfold IsLevel
      decide +kernel
    · rfl
  obtain ⟨byName, hsetup, hlookup⟩ := hwritten [("net", Log.debug), ("wallet", Log.notSet)]
    (by simp) (by decide) (by decide) _ (List.Perm.swap _ _ _) hwrites
  exact ⟨_, hsetup, rfl, hlookup⟩

end Option

end LedgerNet.Settings
